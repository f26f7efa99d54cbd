import ZephyrGuide.Workqueue.Model
import Mathlib.Data.List.Infix

/-!
# The workqueue example: what the handlers print, in every interleaving

* **The sensor handler prints 42** (`sensor_handler_prints_42`): `simulate_isr` sets
  `sensor_value` before it submits `sensor_ctx.work`, so whenever the work queue's thread runs
  `sensor_work_handler` the value is already there; every `[Sensor]` line printed, in every
  interleaving, is `[Sensor] Processing sensor value: 42`.
* **Every run ends with each item handled** (`workqueue_runs_end`): no interleaving is infinite,
  and when nothing can move any more `main` has returned, the sensor and delayed handlers have
  each printed their line exactly once, and `simple_work_handler` has run to its end between one
  and three times, once for each of its three submissions that did not find it still queued.

The proofs count, for each item, its submissions that are still to be handled: an item is
queued, running, or has printed its line, and `main`'s position says how many submissions it
has made (`MainPc.simpleSubmits` and its like).
-/

set_option autoImplicit false

namespace ZephyrGuide
namespace Workqueue

open Libc

/-! ## What `main` has done at each of its positions -/

/-- The next position of `main`. -/
def MainPc.next : MainPc → MainPc
  | .start => .schedule
  | .schedule => .isr
  | .isr => .isrValue
  | .isrValue => .isrSensor
  | .isrSensor => .checkDelayed
  | .checkDelayed => .submitLast
  | .submitLast => .checkSimple
  | .checkSimple => .finish
  | .finish => .done
  | .done => .done

/-- The item `main` submits at a position. -/
def MainPc.submits : MainPc → Option Work
  | .start | .isr | .submitLast => some .simpleWork
  | .isrSensor => some .sensorWork
  | _ => none

/-- How many times `main` has submitted `simple_work` before a position. -/
def MainPc.simpleSubmits : MainPc → Nat
  | .start => 0
  | .schedule | .isr => 1
  | .isrValue | .isrSensor | .checkDelayed | .submitLast => 2
  | .checkSimple | .finish | .done => 3

/-- Whether `main` has scheduled `delayed_work` before a position. -/
def MainPc.scheduled : MainPc → Nat
  | .start | .schedule => 0
  | _ => 1

/-- Whether `main` has set `sensor_value` before a position. -/
def MainPc.valueSet : MainPc → Bool
  | .start | .schedule | .isr | .isrValue => false
  | _ => true

/-- Whether `main` has submitted `sensor_ctx.work` before a position. -/
def MainPc.sensorSubmitted : MainPc → Nat
  | .start | .schedule | .isr | .isrValue | .isrSensor => 0
  | _ => 1

/-- The steps `main` has left. -/
def MainPc.rank : MainPc → Nat
  | .start => 9
  | .schedule => 8
  | .isr => 7
  | .isrValue => 6
  | .isrSensor => 5
  | .checkDelayed => 4
  | .submitLast => 3
  | .checkSimple => 2
  | .finish => 1
  | .done => 0

/-- Every line `main` prints. -/
def mainLines : List (List Char) :=
  ["Workqueue Example\n".toList, "Submitting simple work\n".toList,
    "Scheduling delayed work (2s)\n".toList, "[ISR] Submitting work from ISR context\n".toList,
    "Delayed work still pending, letting it run\n".toList, "Work is pending\n".toList,
    "Example complete\n".toList]

/-- The text every line of `sensor_work_handler` starts with. -/
def sensorPrefix : List Char := "[Sensor] Processing sensor value: ".toList

/-- Whether an item is queued, as a number. -/
def State.queued (s : State) (w : Work) : Nat := if w ∈ s.workq.pending then 1 else 0

/-- Whether an item is running, as a number. -/
def State.running (s : State) (w : Work) : Nat := if s.workq.current = some w then 1 else 0

theorem MainPc.valueSet_of_sensorSubmitted {pc : MainPc} (h : 0 < pc.sensorSubmitted) :
    pc.valueSet = true := by
  cases pc <;> first | rfl | exact absurd h (Nat.lt_irrefl 0)

theorem MainPc.scheduled_le_one (pc : MainPc) : pc.scheduled ≤ 1 := by
  cases pc <;> decide

theorem mainLines_untracked :
    ∀ x ∈ mainLines, ¬ sensorPrefix <+: x ∧ x ≠ delayedLine ∧ x ≠ executedLine ∧
      x ≠ completeLine := by
  decide

theorem sensorPrefix_sensorLine (v : Int) : sensorPrefix <+: sensorLine v :=
  ⟨_, (List.append_assoc _ _ _).symm⟩

/-- The handlers' lines are four different lines, and only the sensor's is a `[Sensor]` line. -/
theorem handlerLines_ne :
    sensorLine 42 ≠ delayedLine ∧ sensorLine 42 ≠ executedLine ∧ sensorLine 42 ≠ completeLine ∧
      delayedLine ≠ executedLine ∧ delayedLine ≠ completeLine ∧ executedLine ≠ completeLine ∧
      ¬ sensorPrefix <+: delayedLine ∧ ¬ sensorPrefix <+: executedLine ∧
      ¬ sensorPrefix <+: completeLine := by
  decide

theorem count_append_ne (out : List (List Char)) {x l : List Char} (h : x ≠ l) :
    (out ++ [x]).count l = out.count l := by
  simp [List.count_singleton, h]

theorem count_append_self (out : List (List Char)) (x : List Char) :
    (out ++ [x]).count x = out.count x + 1 := by
  simp [List.count_singleton]

/-! ## What each step does -/

/-- **A step of `main`** prints some of its own lines, makes at most one submission or the
scheduling, and moves on; it leaves the running item alone. -/
theorem mainStep_spec {s t : State} (h : mainStep s = some t) :
    t.main = s.main.next ∧ s.main ≠ .done ∧
      (∃ lines, t.out = s.out ++ lines ∧ ∀ x ∈ lines, x ∈ mainLines) ∧
      t.slept = s.slept ∧ t.workq.current = s.workq.current ∧
      t.sensorValue = (if s.main = .isrValue then 42 else s.sensorValue) ∧
      t.delayedTimer = (if s.main = .schedule then (s.workq.schedule s.delayedTimer .delayedWork).1
        else s.delayedTimer) ∧
      ∀ w, w ∈ t.workq.pending ↔ w ∈ s.workq.pending ∨ some w = s.main.submits := by
  cases hpc : s.main
  case done => simp only [mainStep, hpc] at h; exact absurd h nofun
  all_goals
    simp only [mainStep, hpc, Option.some.injEq] at h
    subst h
    refine ⟨rfl, nofun, ?_, rfl, ?_, rfl, rfl, fun w => ?_⟩
  all_goals first
    | exact ⟨[], (List.append_nil _).symm, fun _ h => nomatch h⟩
    | exact ⟨_, rfl, by decide⟩
    | exact ⟨_, rfl, by split <;> decide⟩
    | exact KWorkQ.current_submit _ _
    | rfl
    | exact ⟨Or.inl, fun h => h.resolve_right nofun⟩
    | exact (KWorkQ.mem_submit _ _ _).trans (or_comm.trans (or_congr_right Option.some_inj.symm))

/-- **A part of a handler**: the first half of `simple_work_handler`, its second half, or the
whole of one of the other two, for the item running; nothing else changes but the queue's
running item and the sleep. -/
theorem runHandler_spec {s t : State} (h : runHandler s = some t) :
    t.main = s.main ∧ t.sensorValue = s.sensorValue ∧ t.delayedTimer = s.delayedTimer ∧
      t.workq.pending = s.workq.pending ∧
      ((s.workq.current = some .simpleWork ∧ s.slept = false ∧ t.slept = true ∧
          t.workq.current = s.workq.current ∧ t.out = s.out ++ [executedLine]) ∨
        (s.workq.current = some .simpleWork ∧ s.slept = true ∧ t.slept = false ∧
          t.workq.current = none ∧ t.out = s.out ++ [completeLine]) ∨
        (s.workq.current = some .delayedWork ∧ t.slept = s.slept ∧ t.workq.current = none ∧
          t.out = s.out ++ [delayedLine]) ∨
        (s.workq.current = some .sensorWork ∧ t.slept = s.slept ∧ t.workq.current = none ∧
          t.out = s.out ++ [sensorLine s.sensorValue])) := by
  unfold runHandler at h
  split at h
  · next hc =>
    cases hs : s.slept
    · simp only [hs, Bool.false_eq_true, ↓reduceIte, Option.some.injEq] at h
      subst h
      exact ⟨rfl, rfl, rfl, rfl, .inl ⟨hc, rfl, rfl, rfl, rfl⟩⟩
    · simp only [hs, ↓reduceIte, Option.some.injEq] at h
      subst h
      exact ⟨rfl, rfl, rfl, rfl, .inr (.inl ⟨hc, rfl, rfl, rfl, rfl⟩)⟩
  · next hc =>
    obtain rfl := Option.some.inj h
    exact ⟨rfl, rfl, rfl, rfl, .inr (.inr (.inl ⟨hc, rfl, rfl, rfl⟩))⟩
  · next hc =>
    obtain rfl := Option.some.inj h
    exact ⟨rfl, rfl, rfl, rfl, .inr (.inr (.inr ⟨hc, rfl, rfl, rfl⟩))⟩
  · exact nomatch h

/-- The work queue's thread starts the first queued item. -/
theorem take_spec {s t : State} (h : program.step s .take = some t) :
    ∃ q w, s.workq.take = some (q, w) ∧ t = { s with workq := q } := by
  simp only [program, Option.map_eq_some'] at h
  obtain ⟨⟨q, w⟩, hq, rfl⟩ := h
  exact ⟨q, w, hq, rfl⟩

/-- The items that are queued once the thread has taken `w`, and the one running. -/
theorem take_counts {s : State} {q : KWorkQ Work} {w : Work} (h : s.workq.take = some (q, w))
    (x : Work) : s.running x = 0 ∧
      ({ s with workq := q } : State).running x = (if x = w then 1 else 0) ∧
      ({ s with workq := q } : State).queued x + (if x = w then 1 else 0) = s.queued x := by
  obtain ⟨hc, hp, hq⟩ := KWorkQ.take_eq_some h
  have hnd : w ∉ q.pending := (List.nodup_cons.1 (hp ▸ s.workq.nodup)).1
  simp only [State.running, State.queued, hc, hq, hp, List.mem_cons, Option.some.injEq,
    reduceCtorEq, ↓reduceIte, true_and]
  by_cases hx : x = w
  · subst hx; simp [hnd]
  · simp [hx, Ne.symm hx]

/-- The timeout of `delayed_work` expires, and submits it. -/
theorem expire_spec {s t : State} (h : program.step s .expire = some t) :
    s.delayedTimer = true ∧ t = { s.submit .delayedWork with delayedTimer := false } := by
  simp only [program] at h
  split at h
  · next ht => exact ⟨ht, (Option.some.inj h).symm⟩
  · exact nomatch h

/-- Once the timeout has submitted `delayed_work`, it is queued; no other item is queued or
started. -/
theorem expire_counts (s : State) (x : Work) :
    ({ s.submit .delayedWork with delayedTimer := false } : State).queued x =
        (if x = .delayedWork then 1 else s.queued x) ∧
      ({ s.submit .delayedWork with delayedTimer := false } : State).running x = s.running x := by
  by_cases hx : x = .delayedWork <;> simp [State.queued, State.running, KWorkQ.mem_submit, hx]

/-! ## The accounting -/

/-- What each item's submissions have come to, and what `main` has set: for `sensor_ctx.work`
and `delayed_work`, every submission is queued, running, or printed, exactly; for
`simple_work`, the runs started and the one queued are at most the submissions, every run
started that is not in its sleep has finished, and once submitted it is queued, running or has
finished at least once. -/
structure Inv (s : State) : Prop where
  slept : s.slept = true → s.workq.current = some .simpleWork
  value : s.main.valueSet = true → s.sensorValue = 42
  sensorLines : ∀ l ∈ s.out, sensorPrefix <+: l → l = sensorLine 42
  sensor : s.out.count (sensorLine 42) + s.queued .sensorWork + s.running .sensorWork =
    s.main.sensorSubmitted
  delayed : s.out.count delayedLine + s.delayedTimer.toNat + s.queued .delayedWork +
    s.running .delayedWork = s.main.scheduled
  simpleUpper : s.out.count executedLine + s.queued .simpleWork +
    (if s.slept then 0 else s.running .simpleWork) ≤ s.main.simpleSubmits
  simpleDone : s.out.count executedLine = s.out.count completeLine + s.slept.toNat
  simpleLower : 0 < s.main.simpleSubmits →
    0 < s.out.count completeLine + s.queued .simpleWork + s.running .simpleWork

theorem inv_init : Inv init :=
  ⟨(fun h => nomatch h), (fun h => nomatch h), (fun _ h => nomatch h), rfl, rfl, Nat.le_refl _,
    rfl, fun h => nomatch h⟩

/-- A line of `main` is none of the lines counted. -/
theorem count_append_mainLines {lines : List (List Char)} (h : ∀ x ∈ lines, x ∈ mainLines)
    (out : List (List Char)) {l : List Char} (hl : l ∉ mainLines) :
    (out ++ lines).count l = out.count l := by
  rw [List.count_append, List.count_eq_zero_of_not_mem fun hx => hl (h _ hx), Nat.add_zero]

theorem sensorLine_not_mem_mainLines : sensorLine 42 ∉ mainLines := fun h =>
  (mainLines_untracked _ h).1 (sensorPrefix_sensorLine 42)

theorem Inv.mainStep {s t : State} (hi : Inv s) (h : mainStep s = some t) : Inv t := by
  obtain ⟨hm, hnd, ⟨lines, hout, hlines⟩, hsl, hcur, hval, htimer, hpend⟩ := mainStep_spec h
  have hq (w : Work) : t.queued w = if some w = s.main.submits then 1 else s.queued w := by
    unfold State.queued
    by_cases hw : some w = s.main.submits <;> simp [hw, hpend]
  have hr (w : Work) : t.running w = s.running w := by simp only [State.running, hcur]
  have cs := count_append_mainLines hlines s.out sensorLine_not_mem_mainLines
  have cd := count_append_mainLines hlines s.out fun h => (mainLines_untracked _ h).2.1 rfl
  have ce := count_append_mainLines hlines s.out fun h => (mainLines_untracked _ h).2.2.1 rfl
  have cc := count_append_mainLines hlines s.out fun h => (mainLines_untracked _ h).2.2.2 rfl
  rw [← hout] at cs cd ce cc
  obtain ⟨isl, ival, isls, isen, idel, iup, idone, ilow⟩ := hi
  have hsch (hpc : s.main = .schedule) : t.delayedTimer = true := by
    rw [hpc, MainPc.scheduled] at idel
    have ht : s.delayedTimer = false := Bool.toNat_eq_zero.1 (by omega)
    have hn : Work.delayedWork ∉ s.workq.pending := fun hm => by
      rw [State.queued, if_pos hm] at idel; omega
    rw [htimer, if_pos hpc, ht, KWorkQ.schedule_of_idle hn]
  refine ⟨hsl ▸ hcur ▸ isl, fun hv => ?_, fun l hl hp => ?_, ?_, ?_, ?_, ?_, fun hp => ?_⟩
  · rw [hval]
    rw [hm] at hv
    cases hpc : s.main <;> simp only [hpc, MainPc.next, MainPc.valueSet, reduceCtorEq,
      ↓reduceIte, Bool.false_eq_true] at hv ival ⊢ <;> first | rfl | exact ival trivial
  · rw [hout, List.mem_append] at hl
    exact hl.elim (isls l · hp) fun hl => absurd hp (mainLines_untracked _ (hlines _ hl)).1
  · rw [cs, hq, hr, hm]
    cases hpc : s.main <;> simp only [hpc, MainPc.submits, MainPc.next, MainPc.sensorSubmitted,
      Option.some.injEq, reduceCtorEq, ↓reduceIte] at isen ⊢ <;> omega
  · rw [cd, hq, hr, hm]
    cases hpc : s.main
    case schedule =>
      rw [hsch hpc]
      simp only [hpc, MainPc.submits, MainPc.next, MainPc.scheduled, reduceCtorEq, ↓reduceIte,
        Bool.toNat_true] at idel ⊢
      omega
    all_goals (simp only [htimer, hpc, MainPc.submits, MainPc.next, MainPc.scheduled,
      Option.some.injEq, reduceCtorEq, ↓reduceIte] at idel ⊢; omega)
  · rw [ce, hq, hr, hm, hsl]
    cases hpc : s.main <;> simp only [hpc, MainPc.submits, MainPc.next, MainPc.simpleSubmits,
      Option.some.injEq, reduceCtorEq, ↓reduceIte] at iup ⊢ <;> omega
  · rw [ce, cc, hsl]; exact idone
  · rw [cc, hq, hr]
    rw [hm] at hp
    cases hpc : s.main <;> simp only [hpc, MainPc.submits, MainPc.next, MainPc.simpleSubmits,
      Option.some.injEq, reduceCtorEq, ↓reduceIte] at ilow hp ⊢ <;> omega

/-- Taking an item moves it from the queue to the thread: for every item, queued plus running
stays the same. -/
theorem Inv.take {s : State} {q : KWorkQ Work} {w : Work} (hi : Inv s)
    (h : s.workq.take = some (q, w)) : Inv { s with workq := q } := by
  have hc := (KWorkQ.take_eq_some h).1
  have hsl : s.slept = false := Bool.eq_false_iff.2 fun hs => by simp [hi.slept hs] at hc
  have hsum (x : Work) : ({ s with workq := q } : State).queued x +
      ({ s with workq := q } : State).running x = s.queued x + s.running x := by
    obtain ⟨h1, h2, h3⟩ := take_counts h x
    omega
  generalize ht : ({ s with workq := q } : State) = t at hsum ⊢
  obtain ⟨isl, ival, isls, isen, idel, iup, idone, ilow⟩ := hi
  have := hsum .sensorWork
  have := hsum .delayedWork
  have := hsum .simpleWork
  obtain ⟨ho, hm, hsl', hv, htim⟩ : t.out = s.out ∧ t.main = s.main ∧ t.slept = s.slept ∧
      t.sensorValue = s.sensorValue ∧ t.delayedTimer = s.delayedTimer := by
    subst ht; exact ⟨rfl, rfl, rfl, rfl, rfl⟩
  rw [hsl] at hsl' iup
  refine ⟨fun h => absurd (hsl'.symm.trans h) Bool.false_ne_true, hm ▸ hv ▸ ival, ho ▸ isls,
    by rw [ho, hm]; omega, by rw [ho, hm, htim]; omega, ?_, ho ▸ hsl' ▸ hsl ▸ idone,
    fun hpos => by have := ilow (hm ▸ hpos); rw [ho]; omega⟩
  simp only [ho, hm, hsl', Bool.false_eq_true, ↓reduceIte] at iup ⊢
  omega

/-- The expiry of `delayed_work`'s timeout turns the timeout into a queued submission. -/
theorem Inv.expire {s : State} (hi : Inv s) (ht : s.delayedTimer = true) :
    Inv { s.submit .delayedWork with delayedTimer := false } := by
  have hq (x : Work) := (expire_counts s x).1
  have hr (x : Work) := (expire_counts s x).2
  generalize htd : ({ s.submit .delayedWork with delayedTimer := false } : State) = t at hq hr ⊢
  obtain ⟨ho, hm, hsl, hv, htim, hcur⟩ : t.out = s.out ∧ t.main = s.main ∧ t.slept = s.slept ∧
      t.sensorValue = s.sensorValue ∧ t.delayedTimer = false ∧ t.workq.current = s.workq.current := by
    subst htd; exact ⟨rfl, rfl, rfl, rfl, rfl, KWorkQ.current_submit _ _⟩
  obtain ⟨isl, ival, isls, isen, idel, iup, idone, ilow⟩ := hi
  have := s.main.scheduled_le_one
  rw [ht] at idel
  simp only [Bool.toNat_true] at idel
  refine ⟨hsl ▸ hcur ▸ isl, hm ▸ hv ▸ ival, ho ▸ isls, ?_, ?_, ?_, ho ▸ hsl ▸ idone,
    fun hpos => ?_⟩
  · simp only [ho, hm, hq, hr, reduceCtorEq, ↓reduceIte]; omega
  · simp only [ho, hm, htim, hq, hr, Bool.toNat_false, ↓reduceIte]; omega
  · simp only [ho, hm, hsl, hq, hr, reduceCtorEq, ↓reduceIte]; omega
  · have := ilow (hm ▸ hpos)
    simp only [ho, hq, hr, reduceCtorEq, ↓reduceIte]; omega

/-- A part of a handler turns a running item into a printed line, or `simple_work_handler`'s
first half into its sleep. -/
theorem Inv.run {s t : State} (hi : Inv s) (h : runHandler s = some t) : Inv t := by
  obtain ⟨hm, hv, htim, hpend, hcase⟩ := runHandler_spec h
  have hq (x : Work) : t.queued x = s.queued x := by simp only [State.queued, hpend]
  obtain ⟨n1, n2, n3, n4, n5, n6, p1, p2, p3⟩ := handlerLines_ne
  obtain ⟨isl, ival, isls, isen, idel, iup, idone, ilow⟩ := hi
  have lines (x : List Char) (ho : t.out = s.out ++ [x]) (hx : sensorPrefix <+: x → x = sensorLine 42) :
      ∀ l ∈ t.out, sensorPrefix <+: l → l = sensorLine 42 := fun l hl hp => by
    rw [ho, List.mem_append, List.mem_singleton] at hl
    exact hl.elim (isls l · hp) fun e => e ▸ hx (e ▸ hp)
  rcases hcase with ⟨hc, hs, hts, htc, ho⟩ | ⟨hc, hs, hts, htc, ho⟩ | ⟨hc, hts, htc, ho⟩ |
    ⟨hc, hts, htc, ho⟩
  · -- the first half of `simple_work_handler`: it prints, and sleeps
    have hr (x : Work) : t.running x = s.running x := by simp only [State.running, htc]
    have h1 : s.running .simpleWork = 1 := by simp [State.running, hc]
    refine ⟨fun _ => htc.trans hc, hm ▸ hv ▸ ival, lines _ ho (absurd · p2), ?_, ?_, ?_, ?_,
      fun hpos => ?_⟩
    · rw [ho, count_append_ne _ n2.symm, hq, hr, hm]; exact isen
    · rw [ho, count_append_ne _ n4.symm, htim, hq, hr, hm]; exact idel
    · rw [ho, count_append_self, hq, hts, hm]
      simp only [hs, h1, Bool.false_eq_true, ↓reduceIte] at iup
      simp only [↓reduceIte]; omega
    · rw [ho, count_append_self, count_append_ne _ n6, hts]
      simp only [hs, Bool.toNat_false, Bool.toNat_true] at idone ⊢; omega
    · rw [ho, count_append_ne _ n6, hq, hr]; exact ilow (hm ▸ hpos)
  · -- the second half of `simple_work_handler`: it prints and returns
    have hr (x : Work) : t.running x = 0 := by simp [State.running, htc]
    have hsr : s.running .sensorWork = 0 := by simp [State.running, hc]
    have hdr : s.running .delayedWork = 0 := by simp [State.running, hc]
    refine ⟨fun h => absurd (hts.symm.trans h) Bool.false_ne_true, hm ▸ hv ▸ ival,
      lines _ ho (absurd · p3), ?_, ?_, ?_, ?_, fun _ => ?_⟩
    · rw [ho, count_append_ne _ n3.symm, hq, hr, hm]; omega
    · rw [ho, count_append_ne _ n5.symm, htim, hq, hr, hm]; omega
    · rw [ho, count_append_ne _ n6.symm, hq, hts, hm]
      simp only [hs, hr, ↓reduceIte, Bool.false_eq_true] at iup ⊢; omega
    · rw [ho, count_append_ne _ n6.symm, count_append_self, hts]
      simp only [hs, Bool.toNat_false, Bool.toNat_true] at idone ⊢; omega
    · rw [ho, count_append_self]; omega
  · -- `delayed_work_handler`
    have hs : s.slept = false := Bool.eq_false_iff.2 fun h => by simp [isl h] at hc
    have hr (x : Work) : t.running x = 0 := by simp [State.running, htc]
    have hsr : s.running .sensorWork = 0 := by simp [State.running, hc]
    have hdr : s.running .delayedWork = 1 := by simp [State.running, hc]
    have hpr : s.running .simpleWork = 0 := by simp [State.running, hc]
    refine ⟨fun h => absurd (hts.symm.trans h) (by simp [hs]), hm ▸ hv ▸ ival,
      lines _ ho (absurd · p1), ?_, ?_, ?_, ?_, fun hpos => ?_⟩
    · rw [ho, count_append_ne _ n1.symm, hq, hr, hm]; omega
    · rw [ho, count_append_self, htim, hq, hr, hm]; omega
    · rw [ho, count_append_ne _ n4, hq, hts, hm, hr]
      simp only [hs, hpr, ↓reduceIte, Bool.false_eq_true] at iup ⊢; omega
    · rw [ho, count_append_ne _ n4, count_append_ne _ n5, hts]; exact idone
    · have := ilow (hm ▸ hpos)
      rw [ho, count_append_ne _ n5, hq, hr]; omega
  · -- `sensor_work_handler`: the value is set, since the item was submitted
    have hs : s.slept = false := Bool.eq_false_iff.2 fun h => by simp [isl h] at hc
    have hr (x : Work) : t.running x = 0 := by simp [State.running, htc]
    have hsr : s.running .sensorWork = 1 := by simp [State.running, hc]
    have hdr : s.running .delayedWork = 0 := by simp [State.running, hc]
    have hpr : s.running .simpleWork = 0 := by simp [State.running, hc]
    rw [ival (MainPc.valueSet_of_sensorSubmitted (by omega))] at ho
    refine ⟨fun h => absurd (hts.symm.trans h) (by simp [hs]), hm ▸ hv ▸ ival,
      lines _ ho fun _ => rfl, ?_, ?_, ?_, ?_, fun hpos => ?_⟩
    · rw [ho, count_append_self, hq, hr, hm]; omega
    · rw [ho, count_append_ne _ n1, htim, hq, hr, hm]; omega
    · rw [ho, count_append_ne _ n2, hq, hts, hm, hr]
      simp only [hs, hpr, ↓reduceIte, Bool.false_eq_true] at iup ⊢; omega
    · rw [ho, count_append_ne _ n2, count_append_ne _ n3, hts]; exact idone
    · have := ilow (hm ▸ hpos)
      rw [ho, count_append_ne _ n3, hq, hr]; omega

/-- **The accounting holds in every interleaving.** -/
theorem inv_holds : program.Invariant Inv where
  init := inv_init
  step a hi h := by
    cases a with
    | main => exact hi.mainStep h
    | take =>
      obtain ⟨q, w, hq, rfl⟩ := take_spec h
      exact hi.take hq
    | run => exact hi.run h
    | expire =>
      obtain ⟨ht, rfl⟩ := expire_spec h
      exact hi.expire ht

theorem MainPc.sensorSubmitted_le_one (pc : MainPc) : pc.sensorSubmitted ≤ 1 := by
  cases pc <;> decide

/-- **The sensor handler prints 42**, in every interleaving, and at most once. -/
theorem sensor_handler_prints_42 {s : State} (hs : program.Reachable s) :
    (∀ l ∈ s.out, sensorPrefix <+: l → l = sensorLine 42) ∧ s.out.count (sensorLine 42) ≤ 1 := by
  have hi := inv_holds.holds hs
  have := hi.sensor
  have := s.main.sensorSubmitted_le_one
  exact ⟨hi.sensorLines, by omega⟩

/-- `main` up to its submission of `sensor_ctx.work`, then the thread running `simple_work` and
`sensor_ctx.work`: the sensor handler has printed its line. -/
theorem sensor_line_printed :
    ∃ s, program.Reachable s ∧ sensorLine 42 ∈ s.out ∧
      (∀ l ∈ s.out, sensorPrefix <+: l → l = sensorLine 42) ∧ s.out.count (sensorLine 42) ≤ 1 := by
  have h : program.run init [.main, .main, .main, .main, .main, .take, .run, .run, .take, .run] =
      some _ := rfl
  exact ⟨_, System.reachable_of_run h, by decide, sensor_handler_prints_42 (System.reachable_of_run h)⟩

/-! ## Every run ends -/

/-- What is left to do: `main`'s steps, each worth more than all it can queue and schedule; the
timeout; each queued item's handler parts, one more than once it runs; and the parts left to the
running handler. -/
def State.measure (s : State) : Nat :=
  16 * s.main.rank + 3 * s.delayedTimer.toNat + 3 * s.queued .simpleWork +
    2 * s.queued .delayedWork + 2 * s.queued .sensorWork +
    (2 * s.running .simpleWork - s.slept.toNat) + s.running .delayedWork + s.running .sensorWork

theorem MainPc.rank_next {pc : MainPc} (h : pc ≠ .done) : pc.next.rank + 1 = pc.rank := by
  cases pc <;> first | rfl | exact absurd rfl h

theorem State.queued_le_one (s : State) (w : Work) : s.queued w ≤ 1 := by
  unfold State.queued; split <;> omega

theorem measure_mainStep {s t : State} (h : mainStep s = some t) : t.measure < s.measure := by
  obtain ⟨hm, hnd, -, hsl, hcur, -⟩ := mainStep_spec h
  have hr : t.running = s.running := funext fun w => by simp only [State.running, hcur]
  have := MainPc.rank_next hnd
  have := t.queued_le_one .simpleWork
  have := t.queued_le_one .delayedWork
  have := t.queued_le_one .sensorWork
  have := Bool.toNat_le t.delayedTimer
  simp only [State.measure, hm, hsl, hr]
  omega

theorem measure_take {s : State} {q : KWorkQ Work} {w : Work} (h : s.workq.take = some (q, w)) :
    ({ s with workq := q } : State).measure < s.measure := by
  obtain ⟨s1, r1, q1⟩ := take_counts h .simpleWork
  obtain ⟨s2, r2, q2⟩ := take_counts h .delayedWork
  obtain ⟨s3, r3, q3⟩ := take_counts h .sensorWork
  simp only [State.measure]
  cases w <;> simp only [reduceCtorEq, ↓reduceIte] at r1 r2 r3 q1 q2 q3 <;> omega

theorem measure_expire {s : State} (ht : s.delayedTimer = true) :
    ({ s.submit .delayedWork with delayedTimer := false } : State).measure < s.measure := by
  have hq (x : Work) := (expire_counts s x).1
  have hr (x : Work) := (expire_counts s x).2
  generalize htd : ({ s.submit .delayedWork with delayedTimer := false } : State) = t at hq hr ⊢
  obtain ⟨hm, hsl, htim⟩ : t.main = s.main ∧ t.slept = s.slept ∧ t.delayedTimer = false := by
    subst htd; exact ⟨rfl, rfl, rfl⟩
  simp only [State.measure, hq, hr, hm, hsl, htim, ht, reduceCtorEq, ↓reduceIte, Bool.toNat_true,
    Bool.toNat_false]
  omega

theorem measure_run {s t : State} (h : runHandler s = some t) : t.measure < s.measure := by
  obtain ⟨hm, -, htim, hpend, hcase⟩ := runHandler_spec h
  have hq : t.queued = s.queued := funext fun x => by simp only [State.queued, hpend]
  simp only [State.measure, hm, htim, hq]
  rcases hcase with ⟨hc, hs, hts, htc, -⟩ | ⟨hc, hs, hts, htc, -⟩ | ⟨hc, hts, htc, -⟩ |
    ⟨hc, hts, htc, -⟩
  iterate 2 simp [State.running, hc, htc, hts, hs]
  all_goals simp [State.running, hc, htc, hts]

theorem measure_step {s t : State} (a : Act) (h : program.step s a = some t) :
    t.measure < s.measure := by
  cases a with
  | main => exact measure_mainStep h
  | take =>
    obtain ⟨q, w, hq, rfl⟩ := take_spec h
    exact measure_take hq
  | run => exact measure_run h
  | expire =>
    obtain ⟨ht, rfl⟩ := expire_spec h
    exact measure_expire ht

/-- Where no step is enabled, `main` has returned, nothing is queued or running, and the timeout
is off. -/
theorem terminal_spec {s : State} (ht : program.Terminal s) :
    s.main = .done ∧ s.workq.current = none ∧ s.workq.pending = [] ∧ s.delayedTimer = false := by
  have hm : mainStep s = none := ht .main
  have hr : runHandler s = none := ht .run
  have hc : s.workq.current = none := by
    unfold runHandler at hr
    split at hr <;> first | assumption | (split at hr <;> exact nomatch hr) | exact nomatch hr
  refine ⟨?_, hc, ?_, ?_⟩
  · unfold mainStep at hm
    split at hm <;> first | assumption | exact nomatch hm
  · cases hp : s.workq.pending with
    | nil => rfl
    | cons w rest =>
      obtain ⟨q, hq, -⟩ := KWorkQ.take_of_cons hc hp
      have hk : program.step s .take = none := ht .take
      simp [program, hq] at hk
  · have hx : program.step s .expire = none := ht .expire
    cases hd : s.delayedTimer
    · rfl
    · simp [program, hd] at hx

/-- **Every run ends with each item handled.**  No interleaving is infinite, every one can be
finished, and where one ends `main` has returned, the sensor and delayed handlers have each
printed their line once, and `simple_work_handler` has run to its end between one and three
times, as many times as it started. -/
theorem workqueue_runs_end :
    (∀ f, ¬ program.InfiniteRun f) ∧
    ∀ s, program.Reachable s → (∃ t, program.Reaches s t ∧ program.Terminal t) ∧
      (program.Terminal s → s.main = .done ∧ s.out.count (sensorLine 42) = 1 ∧
        s.out.count delayedLine = 1 ∧ s.out.count executedLine = s.out.count completeLine ∧
        1 ≤ s.out.count completeLine ∧ s.out.count completeLine ≤ 3) := by
  refine ⟨program.not_infiniteRun_of_measure State.measure measure_step, fun s hs =>
    ⟨program.exists_terminal_of_measure State.measure measure_step s, fun ht => ?_⟩⟩
  obtain ⟨hm, hc, hp, htim⟩ := terminal_spec ht
  obtain ⟨isl, -, -, isen, idel, iup, idone, ilow⟩ := inv_holds.holds hs
  have hsl : s.slept = false := Bool.eq_false_iff.2 fun h => by simp [isl h] at hc
  simp only [State.queued, State.running, hm, hc, hp, htim, hsl, List.not_mem_nil, reduceCtorEq,
    ↓reduceIte, MainPc.sensorSubmitted, MainPc.scheduled, MainPc.simpleSubmits, Bool.toNat_false,
    Bool.false_eq_true] at isen idel iup idone ilow
  have := ilow (by decide)
  exact ⟨hm, by omega, by omega, by omega, by omega, by omega⟩

/-- `main` to its end, then the timeout, then the thread handling the three items in the order
queued: the run ends. -/
theorem submitted_in_order_ends :
    ∃ s, program.Reachable s ∧ program.Terminal s ∧ s.main = .done ∧
      s.out.count (sensorLine 42) = 1 ∧ s.out.count delayedLine = 1 ∧
      s.out.count executedLine = s.out.count completeLine ∧
      1 ≤ s.out.count completeLine ∧ s.out.count completeLine ≤ 3 := by
  have h : program.run init [.main, .main, .main, .main, .main, .main, .main, .main, .main,
      .expire, .take, .run, .run, .take, .run, .take, .run] = some _ := rfl
  refine ⟨_, System.reachable_of_run h, ?term,
    (workqueue_runs_end.2 _ (System.reachable_of_run h)).2 ?term⟩
  case term => intro a; cases a <;> rfl

end Workqueue
end ZephyrGuide
