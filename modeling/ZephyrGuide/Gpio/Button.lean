import ZephyrGuide.Kernel.System
import ZephyrGuide.Kernel.Work
import ZephyrGuide.Libc.Printf

/-!
# The GPIO example: a button interrupt handing its work to the system work queue

`examples/part5/gpio/src/main.c`.  `main` checks both devices, makes the LED pin an output that
starts lit (`GPIO_OUTPUT_ACTIVE`) and the button pin an input with an edge interrupt, initialises
`button_work` and registers `button_pressed` as the button's callback.  It then prints three
lines, turns the LED off, and loops printing a status line.  Each press runs `button_pressed` in
the interrupt, which submits `button_work`; the system work queue's thread later runs
`button_work_handler`, which counts the press in `press_count`, prints the count and toggles the
LED.

Three parties interleave: `main`, one statement at a time after its set-up; the button's
interrupt (`Act.press`), which can fire at any moment; and the work queue's thread, which takes
the queued item (`Act.take`) and then runs its handler to the end (`Act.handle`).  The interrupt
may also fire while the handler runs.  The work queue is the kernel contract `KWorkQ`.

* **The handler never runs more often than the button is pressed** (`handler_runs_le_presses`),
  and `press_count` is the number of its runs.  Presses made while `button_work` is queued are
  merged into one run.
* **No press is left unserved** (`press_not_lost`): after a press that finds the callback
  registered, `button_work` stays queued until the work queue's thread takes it; and from every
  state with it queued, the thread's own steps, the running handler's return and a take, start
  a run of the handler.  So a run of the handler starts after every press.
* **The LED shows only the presses counted after `main` turns it off**
  (`led_follows_handled_presses`).  The callback is registered at line 90 and the LED is turned
  off at line 97, three `printk`s later: a press handled in between is counted and printed, but
  its toggle is overwritten, and from then on the LED is lit when `press_count` is even
  (`led_off_after_counted_press`).
* The handler only ever toggles a pin that is configured as an output
  (`handler_toggles_configured_led`): the callback is registered only once the LED is configured.

The devices' answers to `main`'s checks are the argument of its set-up step, and the board's pin
names are a parameter.  The five-second sleep of the status loop is not modelled.
-/

set_option autoImplicit false

namespace ZephyrGuide
namespace Gpio

open Libc

/-- The one work item of the program. -/
inductive Work
  | buttonWork
  deriving DecidableEq, Repr

/-- What the devicetree gives `led` and `button`: each pin's port name and number. -/
structure Board where
  ledPort : List Char
  ledPin : UInt8
  buttonPort : List Char
  buttonPin : UInt8

/-- What the GPIO driver answers `main`'s set-up calls. -/
structure Answers where
  /-- `gpio_is_ready_dt(&led)`. -/
  ledReady : Bool
  /-- `gpio_is_ready_dt(&button)`. -/
  buttonReady : Bool
  /-- `gpio_pin_configure_dt(&led, GPIO_OUTPUT_ACTIVE)`. -/
  ledConfigure : Int
  /-- `gpio_pin_configure_dt(&button, GPIO_INPUT)`. -/
  buttonConfigure : Int
  /-- `gpio_pin_interrupt_configure_dt(&button, GPIO_INT_EDGE_TO_ACTIVE)`. -/
  interruptConfigure : Int
  deriving DecidableEq, Repr

/-- Where `main` is: before its set-up, at one of the statements after it, in its loop, or
returned with a value. -/
inductive Pc
  | start
  | prompt
  | ledPin
  | buttonPin
  | initialLed
  | loop
  | returned (ret : Int)
  deriving DecidableEq, Repr

/-- The LED's level, the callback list, the work queue, `press_count`, `main` and the output. -/
structure State where
  /-- The LED pin's logical level; `none` until it is configured as an output. -/
  led : Option Bool
  /-- `button_cb_data` is on the button port's callback list. -/
  callbackAdded : Bool
  workq : KWorkQ Work
  /-- `static int press_count` of `button_work_handler`.  C leaves its overflow past `INT_MAX`,
  after 2³¹ − 1 handled presses, undefined; the model reads `press_count++` as two's-complement
  wrap. -/
  pressCount : BitVec 32
  main : Pc
  out : List (List Char)

/-- Before `main`: the pins unconfigured, nothing registered or queued. -/
def init : State := ⟨none, false, KWorkQ.empty, 0, .start, []⟩

/-- `printk` of a formatted line. -/
def State.print (s : State) (text : List Char) : State := { s with out := s.out ++ [text] }

/-- `main` returns `ret`. -/
def State.ret (s : State) (ret : Int) : State := { s with main := .returned ret }

/-- `printk(text "%d\n", ret); return -1;` on a failed configuration call. -/
def State.fail (s : State) (text : String) (ret : Int) : State :=
  (s.print (text.toList ++ fmtInt 0 ret ++ "\n".toList)).ret (-1)

/-! ## The program -/

/-- `main` from its start to `gpio_add_callback` (lines 52–90). -/
def mainSetup (s : State) (ans : Answers) : State :=
  let s := s.print "GPIO Example\n".toList
  if !ans.ledReady then (s.print "LED device not ready\n".toList).ret (-1)
  else if !ans.buttonReady then (s.print "Button device not ready\n".toList).ret (-1)
  else if ans.ledConfigure < 0 then s.fail "Failed to configure LED: " ans.ledConfigure
  else
    let s := { s with led := some true }
    if ans.buttonConfigure < 0 then s.fail "Failed to configure button: " ans.buttonConfigure
    else if ans.interruptConfigure < 0 then
      s.fail "Failed to configure button interrupt: " ans.interruptConfigure
    else { s with callbackAdded := true, main := .prompt }

/-- `main`'s next statement after its set-up: one of the three `printk`s, the
`gpio_pin_set_dt(&led, 0)`, or a round of its loop. -/
def mainNext (board : Board) (s : State) : Option State :=
  match s.main with
  | .prompt => some { s.print "Press the button to toggle LED\n".toList with main := .ledPin }
  | .ledPin => some { s.print ("LED pin: ".toList ++ board.ledPort ++ " ".toList ++
      fmtInt 0 board.ledPin.toNat ++ "\n".toList) with main := .buttonPin }
  | .buttonPin => some { s.print ("Button pin: ".toList ++ board.buttonPort ++ " ".toList ++
      fmtInt 0 board.buttonPin.toNat ++ "\n".toList) with main := .initialLed }
  | .initialLed => some { s with led := some false, main := .loop }
  | .loop => some (s.print "Still running... (press button to interact)\n".toList)
  | .start | .returned _ => none

/-- `button_pressed`: `k_work_submit(&button_work)`. -/
def buttonPressed (s : State) : State := { s with workq := (s.workq.submit .buttonWork).1 }

/-- `button_work_handler`. -/
def buttonWorkHandler (s : State) : State :=
  let pressCount := s.pressCount + 1
  { s.print ("Button pressed! Count: ".toList ++ fmtInt 0 pressCount.toInt ++ "\n".toList) with
    pressCount, led := s.led.map not }

/-- A step of one of the three parties. -/
inductive Act
  /-- `main`'s set-up, with what the driver answers. -/
  | setup (ans : Answers)
  /-- `main`'s next statement. -/
  | main
  /-- The button's edge interrupt. -/
  | press
  /-- The work queue's thread starts the first queued item. -/
  | take
  /-- It runs the item's handler, which returns. -/
  | handle
  deriving DecidableEq, Repr

/-- The example on a board whose pins are `board`.  A press before the callback is registered
reaches no callback. -/
def program (board : Board) : System State Act where
  init := init
  step s
    | .setup ans => if s.main = .start then some (mainSetup s ans) else none
    | .main => mainNext board s
    | .press => some (if s.callbackAdded then buttonPressed s else s)
    | .take => s.workq.take.map fun (q, _) => { s with workq := q }
    | .handle =>
      match s.workq.current with
      | some .buttonWork => some { buttonWorkHandler s with workq := s.workq.finish }
      | none => none

/-! ## What each step does -/

theorem step_setup {board : Board} {s t : State} {ans : Answers}
    (h : (program board).step s (.setup ans) = some t) : s.main = .start ∧ t = mainSetup s ans := by
  simp only [program] at h
  split at h <;> simp only [Option.some.injEq, reduceCtorEq] at h
  next hs => exact ⟨hs, h.symm⟩

theorem step_press {board : Board} {s t : State} (h : (program board).step s .press = some t) :
    t = if s.callbackAdded then buttonPressed s else s :=
  (Option.some.inj h).symm

theorem step_take {board : Board} {s t : State} (h : (program board).step s .take = some t) :
    ∃ q w, s.workq.take = some (q, w) ∧ t = { s with workq := q } := by
  simp only [program, Option.map_eq_some'] at h
  obtain ⟨⟨q, w⟩, hq, rfl⟩ := h
  exact ⟨q, w, hq, rfl⟩

theorem step_handle {board : Board} {s t : State} (h : (program board).step s .handle = some t) :
    s.workq.current = some .buttonWork ∧
      t = { buttonWorkHandler s with workq := s.workq.finish } := by
  simp only [program] at h
  split at h <;> simp only [Option.some.injEq, reduceCtorEq] at h
  next hc => exact ⟨hc, h.symm⟩

/-! ## What `main` leaves alone -/

/-- `main`'s set-up touches neither the work queue nor `press_count`.  It registers the
callback only together with lighting the LED; otherwise it leaves the callback list alone, and
the LED as it was or lit. -/
theorem mainSetup_frame (s : State) (ans : Answers) :
    (mainSetup s ans).workq = s.workq ∧ (mainSetup s ans).pressCount = s.pressCount ∧
      (((mainSetup s ans).callbackAdded = s.callbackAdded ∧
          ((mainSetup s ans).led = s.led ∨ (mainSetup s ans).led = some true)) ∨
        ((mainSetup s ans).callbackAdded = true ∧ (mainSetup s ans).led = some true)) := by
  unfold mainSetup State.fail State.ret State.print
  dsimp only
  repeat' split
  all_goals first
    | exact ⟨rfl, rfl, .inl ⟨rfl, .inl rfl⟩⟩
    | exact ⟨rfl, rfl, .inl ⟨rfl, .inr rfl⟩⟩
    | exact ⟨rfl, rfl, .inr ⟨rfl, rfl⟩⟩

/-- `main`'s later statements touch neither the work queue, `press_count` nor the callback
list, and at most turn the LED off. -/
theorem mainNext_frame {board : Board} {s t : State} (h : mainNext board s = some t) :
    t.workq = s.workq ∧ t.pressCount = s.pressCount ∧ t.callbackAdded = s.callbackAdded ∧
      (t.led = s.led ∨ t.led = some false) := by
  unfold mainNext at h
  split at h <;> simp only [Option.some.injEq, reduceCtorEq] at h <;> subst h
  all_goals first | exact ⟨rfl, rfl, rfl, .inl rfl⟩ | exact ⟨rfl, rfl, rfl, .inr rfl⟩

/-! ## Handler runs and presses -/

/-- The runs of the handler still owed: the item queued, and the item started but not handled. -/
def owed (s : State) : Nat := s.workq.pending.length + s.workq.current.toList.length

/-- One step: a handler run pays off one owed run, and only a press adds one. -/
theorem step_owed {board : Board} {s t : State} {a : Act} (h : (program board).step s a = some t) :
    (if a = .handle then 1 else 0) + owed t ≤ owed s + (if a = .press then 1 else 0) := by
  cases a with
  | setup ans =>
    obtain ⟨-, rfl⟩ := step_setup h
    simp only [owed, (mainSetup_frame s ans).1, reduceCtorEq, ↓reduceIte]
    omega
  | main =>
    simp only [owed, (mainNext_frame h).1, reduceCtorEq, ↓reduceIte]
    omega
  | press =>
    have := s.workq.length_submit_le .buttonWork
    rw [step_press h]
    by_cases hcb : s.callbackAdded = true <;>
      simp only [owed, hcb, buttonPressed, KWorkQ.current_submit, reduceCtorEq, ↓reduceIte,
        Bool.false_eq_true] <;> omega
  | take =>
    obtain ⟨q, w, hq, rfl⟩ := step_take h
    obtain ⟨hc, hp, hc'⟩ := KWorkQ.take_eq_some hq
    simp only [owed, hc, hp, hc', reduceCtorEq, ↓reduceIte, List.length_cons, Option.toList_some,
      Option.toList_none, List.length_singleton, List.length_nil]
    omega
  | handle =>
    obtain ⟨hc, rfl⟩ := step_handle h
    simp only [owed, hc, KWorkQ.pending_finish, KWorkQ.current_finish, ↓reduceIte,
      Option.toList_some, Option.toList_none, List.length_singleton, List.length_nil]
    omega

/-- One step: only a handler run moves `press_count`, by one. -/
theorem step_pressCount {board : Board} {s t : State} {a : Act}
    (h : (program board).step s a = some t) :
    t.pressCount = s.pressCount + if a = .handle then 1 else 0 := by
  cases a with
  | setup ans =>
    obtain ⟨-, rfl⟩ := step_setup h
    simp [(mainSetup_frame s ans).2.1]
  | main => simp [(mainNext_frame h).2.1]
  | press =>
    rw [step_press h]
    split <;> simp [buttonPressed]
  | take =>
    obtain ⟨_, _, -, rfl⟩ := step_take h
    simp
  | handle =>
    obtain ⟨-, rfl⟩ := step_handle h
    rfl

theorem run_owed {board : Board} {s t : State} {as : List Act}
    (h : (program board).run s as = some t) :
    as.count .handle + owed t ≤ owed s + as.count .press ∧
      t.pressCount = s.pressCount + BitVec.ofNat 32 (as.count .handle) := by
  induction as generalizing s with
  | nil => cases h; simp
  | cons a as ih =>
    obtain ⟨u, hu, h⟩ := Option.bind_eq_some.mp h
    have hstep := step_owed hu
    obtain ⟨ih₁, ih₂⟩ := ih h
    simp only [List.count_cons, beq_iff_eq]
    refine ⟨by split_ifs at hstep ⊢ <;> omega, ?_⟩
    rw [ih₂, step_pressCount hu, BitVec.add_assoc, BitVec.ofNat_add]
    split_ifs <;> simp [BitVec.add_comm]

/-- **The handler runs at most once per press.**  Along every run, `press_count` is the number
of times `button_work_handler` has run (modulo `2 ^ 32`), and it has run no more often than the
button was pressed. -/
theorem handler_runs_le_presses {board : Board} {as : List Act} {t : State}
    (h : (program board).run init as = some t) :
    t.pressCount = BitVec.ofNat 32 (as.count .handle) ∧ as.count .handle ≤ as.count .press := by
  obtain ⟨hle, hcount⟩ := run_owed h
  refine ⟨by rw [hcount]; exact BitVec.zero_add _, ?_⟩
  have : owed init = 0 := rfl
  omega

/-- Two presses before the work queue's thread gets to `button_work` make one run. -/
theorem presses_merged :
    ∃ t, (program ⟨[], 0, [], 0⟩).run init
      [.setup ⟨true, true, 0, 0, 0⟩, .press, .press, .take, .handle] = some t ∧ t.pressCount = 1 := by
  have h : (program ⟨[], 0, [], 0⟩).run init
      [.setup ⟨true, true, 0, 0, 0⟩, .press, .press, .take, .handle] = some _ := rfl
  exact ⟨_, h, (handler_runs_le_presses h).1⟩

/-! ## Every press is served -/

/-- A step other than the thread's taking it leaves `button_work` queued. -/
theorem step_keeps_queued {board : Board} {s t : State} {a : Act}
    (h : (program board).step s a = some t) (ha : a ≠ .take)
    (hq : Work.buttonWork ∈ s.workq.pending) : Work.buttonWork ∈ t.workq.pending := by
  cases a with
  | setup ans =>
    obtain ⟨-, rfl⟩ := step_setup h
    rwa [(mainSetup_frame s ans).1]
  | main => rwa [(mainNext_frame h).1]
  | press =>
    rw [step_press h]
    split
    · exact (KWorkQ.mem_submit _ _ _).2 (.inr hq)
    · exact hq
  | take => exact absurd rfl ha
  | handle =>
    obtain ⟨-, rfl⟩ := step_handle h
    exact hq

theorem run_keeps_queued {board : Board} {s t : State} {bs : List Act}
    (h : (program board).run s bs = some t) (hbs : Act.take ∉ bs)
    (hq : Work.buttonWork ∈ s.workq.pending) : Work.buttonWork ∈ t.workq.pending := by
  induction bs generalizing s with
  | nil => cases h; exact hq
  | cons a bs ih =>
    obtain ⟨u, hu, h⟩ := Option.bind_eq_some.mp h
    rw [List.mem_cons, not_or] at hbs
    exact ih h hbs.2 (step_keeps_queued hu (Ne.symm hbs.1) hq)

/-- An idle work queue thread with `button_work` queued takes it, which starts its handler. -/
theorem take_starts {board : Board} {s : State} (hc : s.workq.current = none)
    (hq : Work.buttonWork ∈ s.workq.pending) :
    ∃ t, (program board).step s .take = some t ∧ t.workq.current = some .buttonWork := by
  obtain ⟨w, rest, hp⟩ := List.exists_cons_of_ne_nil (List.ne_nil_of_mem hq)
  cases w
  obtain ⟨q, htake, -⟩ := KWorkQ.take_of_cons hc hp
  exact ⟨{ s with workq := q }, by simp only [program, htake, Option.map_some'],
    (KWorkQ.take_eq_some htake).2.2⟩

/-- From every state with `button_work` queued, the work queue's thread alone starts its
handler: the handler it runs, if any, returns, and it takes the item. -/
theorem queued_starts {board : Board} {s : State} (hq : Work.buttonWork ∈ s.workq.pending) :
    ∃ t, ((program board).run s [.take] = some t ∨ (program board).run s [.handle, .take] = some t) ∧
      t.workq.current = some .buttonWork := by
  cases hc : s.workq.current with
  | none =>
    obtain ⟨t, ht, htc⟩ := @take_starts board s hc hq
    exact ⟨t, .inl (by rw [System.run, ht]; rfl), htc⟩
  | some w =>
    cases w
    let u : State := { buttonWorkHandler s with workq := s.workq.finish }
    have hu : (program board).step s .handle = some u := by simp only [program, hc]
    obtain ⟨t, ht, htc⟩ := @take_starts board u rfl hq
    exact ⟨t, .inr (by rw [System.run, hu, Option.some_bind, System.run, ht]; rfl), htc⟩

/-- **No press is left unserved.**  After a press that finds the callback registered,
`button_work` stays queued for as long as the work queue's thread has not taken it: the press is
either merged into a run still to start, or starts one of its own.  And from every state with
`button_work` queued, the thread's own steps start that run: the handler it runs, if any,
returns, and the thread takes `button_work`. -/
theorem press_not_lost {board : Board} :
    (∀ s t bs, s.callbackAdded = true → (program board).run s (.press :: bs) = some t →
      Act.take ∉ bs → Work.buttonWork ∈ t.workq.pending) ∧
    (∀ s, Work.buttonWork ∈ s.workq.pending → ∃ t, ((program board).run s [.take] = some t ∨
      (program board).run s [.handle, .take] = some t) ∧ t.workq.current = some .buttonWork) := by
  refine ⟨fun s t bs hcb h hbs => ?_, fun _ => queued_starts⟩
  obtain ⟨u, hu, h⟩ := Option.bind_eq_some.mp h
  rw [step_press hu, if_pos hcb] at h
  exact run_keeps_queued h hbs ((KWorkQ.mem_submit _ _ _).2 (.inl rfl))

/-- A press while the handler runs queues `button_work` again, and the thread's next take starts
the handler's second run. -/
theorem press_while_handling_queued :
    ∃ s t, (program ⟨[], 0, [], 0⟩).run init [.setup ⟨true, true, 0, 0, 0⟩, .press, .take] = some s ∧
      (program ⟨[], 0, [], 0⟩).run s [.press, .handle] = some t ∧
      Work.buttonWork ∈ t.workq.pending ∧
      ∃ u, ((program ⟨[], 0, [], 0⟩).run t [.take] = some u ∨
        (program ⟨[], 0, [], 0⟩).run t [.handle, .take] = some u) ∧
        u.workq.current = some .buttonWork := by
  refine ⟨_, ?t, rfl, ?h, press_not_lost.1 _ _ _ rfl ?h (by decide),
    press_not_lost.2 _ (press_not_lost.1 _ _ _ rfl ?h (by decide))⟩
  case h => exact rfl

/-! ## The LED -/

/-- `main` is in its loop, and the LED is lit when `press_count` has moved by an odd number
since it was `c`. -/
def LedFollows (c : BitVec 32) (s : State) : Prop :=
  s.main = .loop ∧ s.led = some (decide ((s.pressCount - c).toNat % 2 = 1))

theorem toNat_add_one_sub_mod_two (x c : BitVec 32) :
    (x + 1 - c).toNat % 2 = 1 ↔ ¬ (x - c).toNat % 2 = 1 := by
  have h1 : (1 : BitVec 32).toNat = 1 := rfl
  simp only [BitVec.toNat_sub, BitVec.toNat_add, h1]
  have := c.isLt
  have := x.isLt
  omega

/-- Once `main` is in its loop, each step keeps the LED in step with `press_count`. -/
theorem LedFollows.step {board : Board} {c : BitVec 32} {s t : State} {a : Act}
    (hs : LedFollows c s) (h : (program board).step s a = some t) : LedFollows c t := by
  obtain ⟨hmain, hled⟩ := hs
  cases a with
  | setup ans => exact absurd (step_setup h).1 (by rw [hmain]; exact Pc.noConfusion)
  | main =>
    simp only [program, mainNext, hmain, Option.some.injEq] at h
    subst h
    exact ⟨hmain, hled⟩
  | press =>
    rw [step_press h]
    split <;> exact ⟨hmain, hled⟩
  | take =>
    obtain ⟨_, _, -, rfl⟩ := step_take h
    exact ⟨hmain, hled⟩
  | handle =>
    obtain ⟨-, rfl⟩ := step_handle h
    refine ⟨hmain, ?_⟩
    simp only [buttonWorkHandler, State.print, hled, Option.map_some', toNat_add_one_sub_mod_two,
      decide_not]

/-- **The LED shows only the presses counted after `main` turns it off.**  From
`gpio_pin_set_dt(&led, 0)` on, the LED is lit exactly when `press_count` has moved by an odd
number since that statement.  Presses the handler counted before it — the callback is registered
three `printk`s earlier — are not reflected: after an odd number of them, the LED is lit when
`press_count` is even. -/
theorem led_follows_handled_presses {board : Board} {s t : State} {bs : List Act}
    (hs : s.main = .initialLed) (h : (program board).run s (.main :: bs) = some t) :
    t.led = some (decide ((t.pressCount - s.pressCount).toNat % 2 = 1)) := by
  obtain ⟨u, hu, h⟩ := Option.bind_eq_some.mp h
  simp only [program, mainNext, hs, Option.some.injEq] at hu
  subst hu
  have hu : LedFollows s.pressCount { s with led := some false, main := .loop } :=
    ⟨rfl, by simp⟩
  exact (System.Reaches.closed (fun _ => LedFollows.step) (System.reaches_of_run h) hu).2

/-- A press handled while `main` prints its three lines leaves the LED off with
`press_count` at 1. -/
theorem led_off_after_counted_press :
    ∃ s t, (program ⟨[], 0, [], 0⟩).run init
        [.setup ⟨true, true, 0, 0, 0⟩, .main, .press, .take, .handle, .main, .main] = some s ∧
      s.main = .initialLed ∧ s.pressCount = 1 ∧
      (program ⟨[], 0, [], 0⟩).run s [.main] = some t ∧ t.led = some false := by
  refine ⟨_, ?t, rfl, rfl, rfl, ?h, (led_follows_handled_presses rfl ?h).trans ?e⟩
  case h => exact rfl
  case e => rfl

/-! ## The pin the handler toggles -/

/-- The callback is registered only with the LED configured, and before it is nothing is queued
or running. -/
structure Inv (s : State) : Prop where
  led_of_callback : s.callbackAdded = true → s.led.isSome
  idle_of_no_callback : s.callbackAdded = false → s.workq.pending = [] ∧ s.workq.current = none

/-- While the handler runs, the callback is registered. -/
theorem Inv.callback_of_running {s : State} {w : Work} (hs : Inv s)
    (hc : s.workq.current = some w) : s.callbackAdded = true := by
  cases hcb : s.callbackAdded
  · rw [(hs.idle_of_no_callback hcb).2] at hc
    cases hc
  · rfl

theorem inv_holds (board : Board) : (program board).Invariant Inv where
  init := ⟨fun h => absurd h Bool.false_ne_true, fun _ => ⟨rfl, rfl⟩⟩
  step {s t} a hs h := by
    obtain ⟨hled, hidle⟩ := hs
    cases a with
    | setup ans =>
      obtain ⟨-, rfl⟩ := step_setup h
      obtain ⟨hq, -, hcl⟩ := mainSetup_frame s ans
      rcases hcl with ⟨hc, hl | hl⟩ | ⟨hc, hl⟩
      · exact ⟨fun h => hl ▸ hled (hc ▸ h), fun h => hq ▸ hidle (hc ▸ h)⟩
      · exact ⟨fun _ => hl ▸ rfl, fun h => hq ▸ hidle (hc ▸ h)⟩
      · exact ⟨fun _ => hl ▸ rfl, fun h => nomatch hc.symm.trans h⟩
    | main =>
      obtain ⟨hq, -, hc, hl | hl⟩ := mainNext_frame h
      · exact ⟨fun h => hl ▸ hled (hc ▸ h), fun h => hq ▸ hidle (hc ▸ h)⟩
      · exact ⟨fun _ => hl ▸ rfl, fun h => hq ▸ hidle (hc ▸ h)⟩
    | press =>
      rw [step_press h]
      by_cases hcb : s.callbackAdded = true
      · simp only [hcb, ↓reduceIte, buttonPressed]
        exact ⟨fun _ => hled hcb, fun h => nomatch h⟩
      · simp only [hcb, ↓reduceIte, Bool.false_eq_true]
        exact ⟨hled, hidle⟩
    | take =>
      obtain ⟨q, w, hq, rfl⟩ := step_take h
      obtain ⟨-, hp, -⟩ := KWorkQ.take_eq_some hq
      refine ⟨hled, fun hcb => ?_⟩
      rw [(hidle hcb).1] at hp
      exact absurd hp List.noConfusion
    | handle =>
      obtain ⟨hcur, rfl⟩ := step_handle h
      have hcb := Inv.callback_of_running ⟨hled, hidle⟩ hcur
      refine ⟨fun _ => ?_, fun h => nomatch hcb.symm.trans h⟩
      simpa [buttonWorkHandler, State.print] using hled hcb

/-- **The handler only toggles a configured pin.**  Whenever the work queue's thread runs
`button_work_handler`, the LED pin is an output, and the handler inverts its level: `main`
registers the callback only after `gpio_pin_configure_dt` on the LED has succeeded. -/
theorem handler_toggles_configured_led {board : Board} {s t : State}
    (hs : (program board).Reachable s) (h : (program board).step s .handle = some t) :
    ∃ b, s.led = some b ∧ t.led = some !b := by
  have hinv := (inv_holds board).holds hs
  obtain ⟨hcur, rfl⟩ := step_handle h
  obtain ⟨b, hb⟩ := Option.isSome_iff_exists.1 (hinv.led_of_callback (hinv.callback_of_running hcur))
  exact ⟨b, hb, by simp [buttonWorkHandler, State.print, hb]⟩

/-- The handler can run while `main` is still printing, before it turns the LED off. -/
theorem handler_toggles_lit_led :
    ∃ s t, (program ⟨[], 0, [], 0⟩).Reachable s ∧ (program ⟨[], 0, [], 0⟩).step s .handle = some t ∧
      ∃ b, s.led = some b ∧ t.led = some !b := by
  have h₁ : (program ⟨[], 0, [], 0⟩).run init [.setup ⟨true, true, 0, 0, 0⟩, .press, .take] =
    some _ := rfl
  refine ⟨_, ?t, System.reachable_of_run h₁, ?h, handler_toggles_configured_led
    (System.reachable_of_run h₁) ?h⟩
  case h => exact rfl

end Gpio
end ZephyrGuide
