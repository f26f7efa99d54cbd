import ZephyrGuide.Uart.Model
import Mathlib.Data.Nat.Defs

/-!
# The line editor of `uart_thread_entry`

`cmd_buf[64]` and `cmd_pos` are statics of `uart_thread_entry`, so a line may be typed across any
number of wake-ups; only the body of the inner loop, `State.processByte`, touches them.  Read off
that body (`processByte_cmdBuf`, `processByte_cmdPos`), the editor keeps the line typed since
the last CR or LF as `cmd_buf[0 .. cmd_pos)`:

* `cmd_pos` never passes 63, so `cmd_buf[cmd_pos++] = c` writes inside the buffer, and the
  backspace branch decrements it only when it is positive (`Editor`, `editor_holds`);
* each byte that is not CR or LF changes that line as `editLine` says — the line editor in the
  words of its specification: a backspace deletes the last character kept, any other byte is
  kept while fewer than 63 are held (`processByte_line`);
* `handle_command(cmd, len)` looks at no more than `cmd[0 .. min len 5)`: its `strncmp`s compare
  4 or 5 bytes, and only once `len` is at least that (`handleCommand_of_take_eq`).
-/

set_option autoImplicit false

namespace ZephyrGuide
namespace Uart

/-! ## What the thread's output leaves alone -/

@[simp] theorem uartSend_cmdBuf (s : State) (str : List UInt8) :
    (s.uartSend str).cmdBuf = s.cmdBuf := rfl
@[simp] theorem uartSend_cmdPos (s : State) (str : List UInt8) :
    (s.uartSend str).cmdPos = s.cmdPos := rfl
@[simp] theorem uartSend_main (s : State) (str : List UInt8) :
    (s.uartSend str).main = s.main := rfl
@[simp] theorem uartPrintln_main (s : State) (str : List UInt8) :
    (s.uartPrintln str).main = s.main := rfl
@[simp] theorem uartPrintln_cmdBuf (s : State) (str : List UInt8) :
    (s.uartPrintln str).cmdBuf = s.cmdBuf := rfl
@[simp] theorem uartPrintln_cmdPos (s : State) (str : List UInt8) :
    (s.uartPrintln str).cmdPos = s.cmdPos := rfl
@[simp] theorem uartSend_commands (s : State) (str : List UInt8) :
    (s.uartSend str).commands = s.commands := rfl
@[simp] theorem uartPrintln_commands (s : State) (str : List UInt8) :
    (s.uartPrintln str).commands = s.commands := rfl

theorem handleCommand_cmdBuf (s : State) (cmd : List UInt8) (len : Nat) :
    (s.handleCommand cmd len).cmdBuf = s.cmdBuf := by
  unfold State.handleCommand
  split <;> (try split) <;> (try split) <;> (try split) <;> simp

theorem handleCommand_cmdPos (s : State) (cmd : List UInt8) (len : Nat) :
    (s.handleCommand cmd len).cmdPos = s.cmdPos := by
  unfold State.handleCommand
  split <;> (try split) <;> (try split) <;> (try split) <;> simp

theorem handleCommand_main (s : State) (cmd : List UInt8) (len : Nat) :
    (s.handleCommand cmd len).main = s.main := by
  unfold State.handleCommand
  split <;> (try split) <;> (try split) <;> (try split) <;> simp

theorem handleCommand_commands (s : State) (cmd : List UInt8) (len : Nat) :
    (s.handleCommand cmd len).commands = s.commands := by
  unfold State.handleCommand
  split <;> (try split) <;> (try split) <;> (try split) <;> simp

@[simp] theorem callHandleCommand_cmdBuf (s : State) (cmd : List UInt8) (len : Nat) :
    (s.callHandleCommand cmd len).cmdBuf = s.cmdBuf :=
  handleCommand_cmdBuf _ _ _
@[simp] theorem callHandleCommand_cmdPos (s : State) (cmd : List UInt8) (len : Nat) :
    (s.callHandleCommand cmd len).cmdPos = s.cmdPos :=
  handleCommand_cmdPos _ _ _
@[simp] theorem callHandleCommand_main (s : State) (cmd : List UInt8) (len : Nat) :
    (s.callHandleCommand cmd len).main = s.main :=
  handleCommand_main _ _ _
@[simp] theorem callHandleCommand_commands (s : State) (cmd : List UInt8) (len : Nat) :
    (s.callHandleCommand cmd len).commands = s.commands ++ [(cmd, len)] :=
  handleCommand_commands _ _ _

/-! ## One byte -/

/-- What a byte does to `cmd_buf`: a byte that is not CR, LF or a backspace is stored at
`cmd_pos` if `cmd_pos < 63`. -/
theorem processByte_cmdBuf (s : State) (c : UInt8) :
    (s.processByte c).cmdBuf =
      if ¬ (c = 13 ∨ c = 10) ∧ ¬ (c = 0x7F ∨ c = 0x08) ∧ s.cmdPos < 64 - 1 then
        s.cmdBuf.set s.cmdPos c
      else s.cmdBuf := by
  unfold State.processByte
  dsimp only
  by_cases h1 : c = 13 ∨ c = 10
  · simp only [h1, if_true, not_true_eq_false, false_and, if_false, uartSend_cmdBuf]
    split <;> simp
  by_cases h2 : c = 0x7F ∨ c = 0x08
  · simp only [h1, h2, if_true, if_false, not_true_eq_false, false_and, and_false]
    split <;> simp
  · simp only [h1, h2, if_false, not_false_eq_true, true_and]
    split <;> rfl

/-- What a byte does to `cmd_pos`: back to 0 at the end of a line, one down on a backspace if it
is positive, one up when a byte is stored. -/
theorem processByte_cmdPos (s : State) (c : UInt8) :
    (s.processByte c).cmdPos =
      if c = 13 ∨ c = 10 then 0
      else if c = 0x7F ∨ c = 0x08 then s.cmdPos - 1
      else if s.cmdPos < 64 - 1 then s.cmdPos + 1 else s.cmdPos := by
  unfold State.processByte
  dsimp only
  by_cases h1 : c = 13 ∨ c = 10
  · simp only [h1, if_true, uartSend_cmdPos]
    split
    · simp
    · dsimp only; omega
  by_cases h2 : c = 0x7F ∨ c = 0x08
  · simp only [h1, h2, if_true, if_false]
    split
    · simp
    · dsimp only; omega
  · simp only [h1, h2, if_false]
    split <;> rfl

theorem processByte_main (s : State) (c : UInt8) : (s.processByte c).main = s.main := by
  unfold State.processByte
  dsimp only
  split
  · split
    · exact handleCommand_main _ _ _
    · rfl
  split
  · split <;> rfl
  split <;> rfl

/-- What a byte adds to the calls of `handle_command`: at a CR or LF, with a line held, the call
with `cmd_buf` and `cmd_pos`. -/
theorem processByte_commands (s : State) (c : UInt8) :
    (s.processByte c).commands =
      s.commands ++ if (c = 13 ∨ c = 10) ∧ 0 < s.cmdPos then [(s.cmdBuf, s.cmdPos)] else [] := by
  unfold State.processByte
  dsimp only
  by_cases h1 : c = 13 ∨ c = 10
  · simp only [h1, if_true, true_and]
    split <;> simp [State.uartSend]
  · simp only [h1, if_false, false_and, List.append_nil]
    split
    · split <;> rfl
    · split <;> rfl

/-- `cmd_buf[0 .. cmd_pos)`: the line typed since the last CR or LF, as the editor holds it. -/
def State.line (s : State) : List UInt8 := s.cmdBuf.take s.cmdPos

/-! ## Steps -/

/-- The byte the thread takes from `rx_ring_buf` in the action `a`, if it takes one. -/
def readByte (s : State) : Act → Option UInt8
  | .thread => match s.thread with
    | .get => s.rxRingBuf.getByte.2
    | _ => none
  | _ => none

/-- **What a step does.**  A step either reads a byte and handles it (`processByte`), or leaves
`cmd_buf`, `cmd_pos` and the calls of `handle_command` alone; those also leave the output and
`main` alone, except `main`'s steps: its first, which enables the interrupt and prints the
prompt, and each later one, which prints a status line. -/
theorem step_cases {s t : State} {a : Act} (hs : program.step s a = some t) :
    (∃ c, readByte s a = some c ∧ t = { s with rxRingBuf := s.rxRingBuf.getByte.1 }.processByte c) ∨
    (readByte s a = none ∧ t.cmdBuf = s.cmdBuf ∧ t.cmdPos = s.cmdPos ∧ t.commands = s.commands ∧
      (a ≠ .main ∧ t.tx = s.tx ∧ t.main = s.main ∨
        a = .main ∧ s.main = .start ∧
          t = { s with rxEnabled := true, main := .loop }.uartSend (ascii "> ") ∨
        a = .main ∧ s.main = .loop ∧ t = s.printk (statusLine s.rxCount s.txCount))) := by
  cases a with
  | rx data =>
    have hs : uartCbRead s data = some t := hs
    unfold uartCbRead at hs
    split at hs <;> simp only [Option.some.injEq, reduceCtorEq] at hs
    subst hs
    exact .inr ⟨rfl, rfl, rfl, rfl, .inl ⟨nofun, rfl, rfl⟩⟩
  | isr =>
    have hs : uartCb s = some t := hs
    unfold uartCb at hs
    split at hs <;> simp only [Option.some.injEq, reduceCtorEq] at hs <;> subst hs
    · exact .inr ⟨rfl, rfl, rfl, rfl, .inl ⟨nofun, rfl, rfl⟩⟩
    · rcases s.rxSem.give.2 with _ | ⟨⟩ <;> exact .inr ⟨rfl, rfl, rfl, rfl, .inl ⟨nofun, rfl, rfl⟩⟩
  | thread =>
    have hs : uartThreadEntry s = some t := hs
    unfold uartThreadEntry at hs
    split at hs
    · simp only [Option.some.injEq] at hs
      subst hs
      exact .inr ⟨by simp [readByte, *], rfl, rfl, rfl, .inl ⟨nofun, rfl, rfl⟩⟩
    · split at hs <;> simp only [Option.some.injEq] at hs <;> subst hs
      · exact .inl ⟨_, by simp [readByte, *], rfl⟩
      · exact .inr ⟨by simp [readByte, *], rfl, rfl, rfl, .inl ⟨nofun, rfl, rfl⟩⟩
    · simp at hs
  | main =>
    have hs : mainStep s = some t := hs
    unfold mainStep at hs
    split at hs <;> simp only [Option.some.injEq] at hs <;> subst hs
    · exact .inr ⟨rfl, rfl, rfl, rfl, .inr (.inl ⟨rfl, ‹_›, rfl⟩)⟩
    · exact .inr ⟨rfl, rfl, rfl, rfl, .inr (.inr ⟨rfl, ‹_›, rfl⟩)⟩

/-! ## The invariant -/

/-- `cmd_pos` is an index into the line part of `cmd_buf`, which keeps its 64 bytes. -/
structure Editor (s : State) : Prop where
  pos_le : s.cmdPos ≤ 63
  length_eq : s.cmdBuf.length = 64

theorem Editor.processByte {s : State} (h : Editor s) (c : UInt8) : Editor (s.processByte c) := by
  refine ⟨?_, ?_⟩
  · have := h.pos_le
    rw [processByte_cmdPos]
    split_ifs <;> omega
  · rw [processByte_cmdBuf]
    split_ifs <;> simp [h.length_eq]

theorem editor_holds : program.Invariant Editor where
  init := ⟨Nat.zero_le _, rfl⟩
  step _ h hs := by
    rcases step_cases hs with ⟨c, -, rfl⟩ | ⟨-, hb, hp, -⟩
    · refine Editor.processByte ?_ c
      exact ⟨h.pos_le, h.length_eq⟩
    · exact ⟨hp ▸ h.pos_le, hb ▸ h.length_eq⟩

/-! ## The line -/

/-- The line editor as its specification describes it: a backspace (0x7F or 0x08) deletes the
last character kept, and any other byte is kept while fewer than 63 are held. -/
def editLine (line : List UInt8) (c : UInt8) : List UInt8 :=
  if c = 0x7F ∨ c = 0x08 then line.dropLast
  else if line.length < 63 then line ++ [c] else line

/-- A CR or LF starts a new line; any other byte edits the current one. -/
def lineStep (line : List UInt8) (c : UInt8) : List UInt8 :=
  if c = 13 ∨ c = 10 then [] else editLine line c

/-- The line since the last CR or LF of `bs`, edited. -/
def lineAfter (bs : List UInt8) : List UInt8 := bs.foldl lineStep []

example : lineAfter (ascii "x\rab\x08\x08\x08c") = ascii "c" := by decide

/-- Writing at index `i` and taking `i + 1` gives the old prefix and the new byte. -/
theorem take_set_succ (l : List UInt8) {i : Nat} (c : UInt8) (hi : i < l.length) :
    (l.set i c).take (i + 1) = l.take i ++ [c] := by
  induction l generalizing i with
  | nil => exact absurd hi (Nat.not_lt_zero _)
  | cons x xs ih =>
    cases i with
    | zero => rfl
    | succ i =>
      simp only [List.set_cons_succ, List.take_succ_cons, ih (Nat.lt_of_succ_lt_succ hi),
        List.cons_append]

/-- **One byte of the editor.**  Each byte changes `cmd_buf[0 .. cmd_pos)` as `lineStep` says. -/
theorem processByte_line {s : State} (h : Editor s) (c : UInt8) :
    (s.processByte c).line = lineStep s.line c := by
  have hp := h.pos_le
  have hl := h.length_eq
  unfold State.line
  have hlen : (s.cmdBuf.take s.cmdPos).length = s.cmdPos := List.length_take_of_le (by omega)
  rw [processByte_cmdBuf, processByte_cmdPos, lineStep, editLine]
  by_cases hn : c = 13 ∨ c = 10
  · simp only [hn, if_true, List.take_zero]
  rw [hlen]
  simp only [hn, not_false_eq_true, true_and, if_false]
  by_cases hb : c = 0x7F ∨ c = 0x08
  · simp only [hb, not_true_eq_false, false_and, if_false, if_true]
    rw [List.dropLast_eq_take, hlen, List.take_take, Nat.min_eq_left (Nat.sub_le _ _)]
  · simp only [hb, not_false_eq_true, true_and, if_false]
    split
    · exact take_set_succ _ c (by omega)
    · rfl

/-- The bytes the thread reads along the run `as` from `s`. -/
def bytesRead (s : State) : List Act → List UInt8
  | [] => []
  | a :: as => match program.step s a with
    | some t => (readByte s a).toList ++ bytesRead t as
    | none => []

/-- A step changes the line by the byte it reads, if any. -/
theorem Editor.step_line {s t : State} (h : Editor s) {a : Act} (hs : program.step s a = some t) :
    t.line = (readByte s a).toList.foldl lineStep s.line := by
  rcases step_cases hs with ⟨c, hr, rfl⟩ | ⟨hr, hb, hp, -⟩
  · rw [hr, Option.toList_some, List.foldl_cons, List.foldl_nil]
    exact processByte_line (s := { s with rxRingBuf := s.rxRingBuf.getByte.1 })
      ⟨h.pos_le, h.length_eq⟩ c
  · simp only [State.line, hr, hb, hp, Option.toList_none, List.foldl_nil]

/-- **The line over a run.**  Along any run, split across any number of wake-ups, the line is the
old one edited by every byte the thread reads. -/
theorem Editor.run_line {s t : State} (h : Editor s) {as : List Act}
    (hr : program.run s as = some t) : t.line = (bytesRead s as).foldl lineStep s.line := by
  induction as generalizing s with
  | nil => cases hr; rfl
  | cons a as ih =>
    simp only [System.run, Option.bind_eq_some] at hr
    obtain ⟨u, hu, hr⟩ := hr
    rw [bytesRead, hu, List.foldl_append, ← h.step_line hu]
    exact ih (editor_holds.step a h hu) hr

/-! ## `handle_command` -/

/-- `strncmp(a, b, n) == 0` reads no more than the first `n` bytes of `a`. -/
theorem strncmpEq_take (a b : List UInt8) (n : Nat) : strncmpEq a b n = strncmpEq (a.take n) b n := by
  induction n generalizing a b with
  | zero => rfl
  | succ n ih =>
    cases a with
    | nil => rfl
    | cons x xs => simp only [strncmpEq, List.take_succ_cons, List.headD_cons, List.tail_cons, ih xs]

theorem strncmpEq_of_take_eq {a a' : List UInt8} (b : List UInt8) {n m : Nat} (hn : n ≤ m)
    (h : a.take m = a'.take m) : strncmpEq a b n = strncmpEq a' b n := by
  have h' : a.take n = a'.take n := by
    rw [← Nat.min_eq_left hn, ← List.take_take, h, List.take_take]
  rw [strncmpEq_take, h', ← strncmpEq_take]

/-- `handle_command(cmd, len)` depends on `cmd` only through `cmd[0 .. min len 5)`. -/
theorem handleCommand_of_take_eq (s : State) {cmd cmd' : List UInt8} (len : Nat)
    (h : cmd.take (min len 5) = cmd'.take (min len 5)) :
    s.handleCommand cmd len = s.handleCommand cmd' len := by
  have e4 : 4 ≤ len → strncmpEq cmd (ascii "help") 4 = strncmpEq cmd' (ascii "help") 4 :=
    fun hl => strncmpEq_of_take_eq _ (by omega) h
  have e5 : ∀ w, 5 ≤ len → strncmpEq cmd w 5 = strncmpEq cmd' w 5 :=
    fun w hl => strncmpEq_of_take_eq _ (by omega) h
  unfold State.handleCommand
  by_cases h4 : 4 ≤ len
  · by_cases h5 : 5 ≤ len
    · simp only [e4 h4, e5 _ h5]
    · have : ¬ 5 ≤ len := h5
      simp only [e4 h4, this, false_and, if_false]
  · have : ¬ 5 ≤ len := by omega
    simp only [h4, this, false_and, if_false]

/-! ## The calls of `handle_command` -/

/-- The lines the editor hands to `handle_command` along the bytes `bs`, from the line `line`:
one at each CR or LF that ends a line that is not empty, as `lineStep` has edited it. -/
def handledLines (line : List UInt8) : List UInt8 → List (List UInt8)
  | [] => []
  | c :: cs =>
    (if (c = 13 ∨ c = 10) ∧ line ≠ [] then [line] else []) ++ handledLines (lineStep line c) cs

example : handledLines [] (ascii "ab\r\r\x7Fx\ny") = [ascii "ab", ascii "x"] := by decide

theorem handledLines_append (xs ys : List UInt8) (line : List UInt8) :
    handledLines line (xs ++ ys) = handledLines line xs ++ handledLines (xs.foldl lineStep line) ys := by
  induction xs generalizing line with
  | nil => rfl
  | cons c cs ih =>
    rw [List.cons_append, handledLines, handledLines, ih, List.foldl_cons, List.append_assoc]

/-- Every call of `handle_command` so far was made with `cmd_buf`, its 64 bytes, and a length in
`1 … 63`. -/
def CallsOk (s : State) : Prop := ∀ c ∈ s.commands, 1 ≤ c.2 ∧ c.2 ≤ 63 ∧ c.1.length = 64

/-- A step adds to the calls of `handle_command` the line it ends, if it reads a CR or LF with a
line held. -/
theorem Editor.step_commands {s t : State} (h : Editor s) {a : Act} (hs : program.step s a = some t) :
    t.commands.map (fun c => c.1.take c.2) =
      s.commands.map (fun c => c.1.take c.2) ++ handledLines s.line (readByte s a).toList ∧
    (CallsOk s → CallsOk t) := by
  have hlen : s.line.length = s.cmdPos :=
    List.length_take_of_le (by rw [h.length_eq]; exact Nat.le_trans h.pos_le (by decide))
  rcases step_cases hs with ⟨c, hr, rfl⟩ | ⟨hr, -, -, hc, -⟩
  · have hpos : 0 < s.cmdPos ↔ s.line ≠ [] := by
      rw [Ne, ← List.length_eq_zero, hlen]; omega
    refine ⟨?_, fun hok x hx => ?_⟩
    · simp only [processByte_commands, hr, Option.toList_some, handledLines, List.append_nil,
        List.map_append]
      split_ifs with h1 h2 h2
      · rfl
      · exact absurd ⟨h1.1, hpos.1 h1.2⟩ h2
      · exact absurd ⟨h2.1, hpos.2 h2.2⟩ h1
      · rfl
    · rw [processByte_commands, List.mem_append] at hx
      rcases hx with hx | hx
      · exact hok x hx
      · split at hx
        · next hn =>
          rw [List.mem_singleton] at hx
          subst hx
          exact ⟨hn.2, h.pos_le, h.length_eq⟩
        · exact absurd hx (List.not_mem_nil _)
  · rw [hr, hc]
    exact ⟨(List.append_nil _).symm, fun hok x hx => hok x (hc ▸ hx)⟩

theorem callsOk_holds : program.Invariant (fun s => Editor s ∧ CallsOk s) where
  init := ⟨editor_holds.init, nofun⟩
  step a h hs := ⟨editor_holds.step a h.1 hs, (h.1.step_commands hs).2 h.2⟩

/-- **The calls over a run.**  Along any run, the lines handed to `handle_command` are those that
the bytes the thread reads end, each edited as `lineStep` says. -/
theorem Editor.run_commands {s t : State} (h : Editor s) {as : List Act}
    (hr : program.run s as = some t) :
    t.commands.map (fun c => c.1.take c.2) =
      s.commands.map (fun c => c.1.take c.2) ++ handledLines s.line (bytesRead s as) := by
  induction as generalizing s with
  | nil => cases hr; exact (List.append_nil _).symm
  | cons a as ih =>
    simp only [System.run, Option.bind_eq_some] at hr
    obtain ⟨u, hu, hr⟩ := hr
    rw [ih (editor_holds.step a h hu) hr, (h.step_commands hu).1, bytesRead, hu,
      handledLines_append, List.append_assoc, h.step_line hu]

/-! ## The line editor -/

/-- **The line editor.**  In every reachable state `cmd_pos ≤ 63 = sizeof(cmd_buf) - 1` and
`cmd_buf` keeps its 64 bytes, so `cmd_buf[cmd_pos++]` writes inside it, and every call of
`handle_command` so far got `cmd_buf` and a length in `1 … 63`; `handle_command(cmd, len)` reads
no more than `cmd[0 .. min len 5)`; and after every run the bytes `cmd_buf[0 .. cmd_pos)` are the
line since the last CR or LF among the bytes the thread has read, and the calls of
`handle_command` got, in order, the lines ended by those bytes' CRs and LFs, each edited as
`editLine` says. -/
theorem line_editor_correct :
    (∀ s, program.Reachable s → s.cmdPos ≤ 63 ∧ s.cmdBuf.length = 64 ∧
      ∀ c ∈ s.commands, 1 ≤ c.2 ∧ c.2 ≤ 63 ∧ c.1.length = 64) ∧
    (∀ (s : State) (cmd cmd' : List UInt8) (len : Nat), cmd.take (min len 5) = cmd'.take (min len 5) →
      s.handleCommand cmd len = s.handleCommand cmd' len) ∧
    (∀ as s, program.run program.init as = some s →
      s.cmdBuf.take s.cmdPos = lineAfter (bytesRead program.init as) ∧
        s.commands.map (fun c => c.1.take c.2) = handledLines [] (bytesRead program.init as)) := by
  refine ⟨fun s hs => ?_, fun s _ _ len h => handleCommand_of_take_eq s len h,
    fun _ _ hr => ⟨editor_holds.init.run_line hr, editor_holds.init.run_commands hr⟩⟩
  have h := callsOk_holds.holds hs
  exact ⟨h.1.pos_le, h.1.length_eq, h.2⟩

end Uart
end ZephyrGuide
