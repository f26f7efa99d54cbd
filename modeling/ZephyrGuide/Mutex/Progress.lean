import ZephyrGuide.Mutex.Counter

/-!
# The mutex example finishes with 20

In every interleaving:

* **no deadlock** — while a thread has not returned, one of the two can move: a thread can only
  be stuck waiting for the mutex, and the mutex is then held by the other, which can move;
* **no infinite run** — every step lowers `measure`, the statements the three threads have
  left;
* so every run ends, and ends with both threads returned, `main` past its final printk, twenty
  transitions `0 -> 1, …, 19 -> 20` printed and `Final counter: 20`.
-/

set_option autoImplicit false

namespace ZephyrGuide
namespace Mutex

/-! ## Blocked threads -/

theorem incrementThread_eq_none {s : State} {t : Tid} (h : incrementThread s t = none) :
    (s.pc t).info.waitsLock ∨ s.pc t = .done := by
  unfold incrementThread at h
  split at h <;> simp_all

theorem Pc.inCs_of_blocked {pc : Pc} (h : pc.info.waitsLock ∨ pc = .done) :
    pc.info.inCs = false := by
  cases pc <;> simp_all

/-- With both threads stuck, nobody holds the mutex, so nobody waits for it: both returned. -/
theorem MutexInv.done_of_blocked {s : State} (hs : MutexInv s)
    (h : ∀ t, incrementThread s t = none) (t : Tid) : s.pc t = .done := by
  have hb := fun u => incrementThread_eq_none (h u)
  have hfree : s.counterMutex.owner = none := by
    cases ho : s.counterMutex.owner with
    | none => rfl
    | some o => simpa [Pc.inCs_of_blocked (hb o)] using (hs.owner o).1 ho
  rcases hb t with e | e
  · simpa [s.counterMutex.waitq_of_free hfree] using (hs.waitq t).2 e
  · exact e

/-- **No deadlock.**  While either thread has not returned, one of the two can move. -/
theorem thread_enabled {s : State} (hs : program.Reachable s)
    (hrun : s.pc .inc1 ≠ .done ∨ s.pc .inc2 ≠ .done) :
    (incrementThread s .inc1).isSome ∨ (incrementThread s .inc2).isSome := by
  by_contra hn
  simp only [not_or, Option.not_isSome_iff_eq_none] at hn
  have hd := (inv_holds.holds hs).mutex.done_of_blocked (by intro t; cases t <;> simp [hn])
  exact hrun.elim (· (hd .inc1)) (· (hd .inc2))

/-- A run can only end with both threads and `main` done, having printed twenty transitions
`k -> k + 1` and a final count of 20. -/
theorem terminal_done {s : State} (hs : program.Reachable s) (ht : program.Terminal s) :
    s.pc .inc1 = .done ∧ s.pc .inc2 = .done ∧ s.main = .done ∧
      s.log.map Prod.snd = (List.range 20).map (fun k : Nat => ((k : Int), (k : Int) + 1)) ∧
      s.finalCounter = some 20 := by
  have hi := inv_holds.holds hs
  have hd := hi.mutex.done_of_blocked fun t => ht (.thread t)
  have hm : s.main = .done := by
    have h : mainStep s = none := ht .main
    unfold mainStep at h
    split at h <;> simp_all
  have hc := hi.count.counter_eq
  have hn := hi.count.log_len
  simp only [State.total, hd, Pc.stores, Pc.info_done, ite_true, Bool.toNat_false] at hc hn
  have hl : s.log.length = 20 := by omega
  refine ⟨hd _, hd _, hm, by rw [hi.count.log_eq, hl], ?_⟩
  rw [(hi.main.2 hm).2.2, hc]
  rfl

/-! ## A decreasing measure -/

/-- Statements left to a thread. -/
def Pc.rank : Pc → Nat
  | .lock i => 6 * (9 - i) + 6
  | .waitLock i => 6 * (9 - i) + 5
  | .load i => 6 * (9 - i) + 4
  | .store i _ => 6 * (9 - i) + 3
  | .print i _ => 6 * (9 - i) + 2
  | .unlock i => 6 * (9 - i) + 1
  | .done => 0

/-- Joins left to `main`. -/
def MainPc.rank : MainPc → Nat
  | .join1 => 2
  | .join2 => 1
  | .done => 0

/-- What the three threads have left to do. -/
def measure (s : State) : Nat := s.total Pc.rank + s.main.rank

theorem Pc.rank_wake_le (pc : Pc) : pc.wake.rank ≤ pc.rank := by
  cases pc <;> simp [Pc.wake, Pc.rank]

theorem rank_wake_pc_le (s : State) (w : Option Tid) (u : Tid) :
    ((s.wake w).pc u).rank ≤ (s.pc u).rank := by
  rcases wake_pc s w u with e | e
  · exact Nat.le_of_eq (congrArg Pc.rank e)
  · exact Nat.le_trans (Nat.le_of_eq (congrArg Pc.rank e)) (Pc.rank_wake_le _)

theorem rank_next_lt (i : Nat) : (Pc.next i).rank < (Pc.unlock i).rank := by
  unfold Pc.next; split <;> simp only [Pc.rank] <;> omega

/-- A step of `t` shortens what `t` has left and does not lengthen the other thread's. -/
theorem rank_incrementThread {s s' : State} {t : Tid} (hs : incrementThread s t = some s') :
    (s'.pc t).rank < (s.pc t).rank ∧ (s'.pc t.other).rank ≤ (s.pc t.other).rank := by
  unfold incrementThread at hs
  cases hpc : s.pc t <;> simp only [hpc, Option.some.injEq, reduceCtorEq] at hs <;> subst hs
  case unlock i =>
    exact ⟨Nat.lt_of_le_of_lt (rank_wake_pc_le _ _ t) (by simpa using rank_next_lt i),
      Nat.le_trans (rank_wake_pc_le _ _ t.other) (by simp)⟩
  case lock i => split <;> simp [Pc.rank]
  all_goals simp [Pc.rank]

theorem measure_step {s t : State} (a : Act) (h : program.step s a = some t) :
    measure t < measure s := by
  cases a with
  | thread u =>
    have hm := (incrementThread_frame h).2.1
    have hr := rank_incrementThread h
    unfold measure
    rw [State.total_eq u, State.total_eq u, hm]
    omega
  | main =>
    have h : mainStep s = some t := h
    unfold mainStep at h
    split at h <;> (try split at h) <;> simp only [Option.some.injEq, reduceCtorEq] at h <;>
      subst h <;> simp_all [measure, State.total, MainPc.rank]

/-! ## Every maximal interleaving prints 20 -/

/-- Only a thread at its write changes `shared_counter`. -/
theorem sharedCounter_incrementThread {s s' : State} {u : Tid}
    (hs : incrementThread s u = some s') (hu : ∀ i v, s.pc u ≠ .store i v) :
    s'.sharedCounter = s.sharedCounter := by
  unfold incrementThread at hs
  cases hpc : s.pc u <;> simp only [hpc, Option.some.injEq, reduceCtorEq] at hs <;> subst hs
  case store i v => exact absurd hpc (hu i v)
  all_goals simp

/-- **The mutex example counts to 20.**  Between a thread's read of `shared_counter` into
`local` and its write of `local + 1`, the counter keeps the value read and no step of the other
thread writes it; the printed transitions are `0 -> 1, 1 -> 2, …` in order, at most twenty; no
interleaving deadlocks or runs forever; and every run ends with both threads returned, the
twenty transitions `0 -> 1, …, 19 -> 20` printed and `main` printing 20. -/
theorem mutex_counter_twenty :
    (∀ s, program.Reachable s → ∀ t i v, s.pc t = .store i v →
      s.sharedCounter = v ∧
        ∀ s', incrementThread s t.other = some s' → s'.sharedCounter = s.sharedCounter) ∧
    (∀ s, program.Reachable s →
      s.log.map Prod.snd = (List.range s.log.length).map (fun k : Nat => ((k : Int), (k : Int) + 1)) ∧
        s.log.length ≤ 20) ∧
    (∀ s, program.Reachable s → (s.pc .inc1 ≠ .done ∨ s.pc .inc2 ≠ .done) →
      (incrementThread s .inc1).isSome ∨ (incrementThread s .inc2).isSome) ∧
    (∀ s, program.Reachable s → program.Terminal s →
      s.pc .inc1 = .done ∧ s.pc .inc2 = .done ∧ s.main = .done ∧
        s.log.map Prod.snd = (List.range 20).map (fun k : Nat => ((k : Int), (k : Int) + 1)) ∧
        s.finalCounter = some 20) ∧
    (∀ f : Nat → State, ¬ program.InfiniteRun f) := by
  refine ⟨fun s hs t i v hpc => ⟨?_, fun s' h' => ?_⟩, fun s hs => ⟨?_, ?_⟩,
    fun _ hs h => thread_enabled hs h, fun _ hs ht => terminal_done hs ht,
    program.not_infiniteRun_of_measure measure measure_step⟩
  all_goals have hi := inv_holds.holds hs
  · simpa [hpc] using hi.count.val_eq t v (by simp [hpc])
  · exact sharedCounter_incrementThread h' fun i v e => hi.mutex.not_both_inCs t (by simp [hpc, e])
  · exact hi.count.log_eq
  · have hn := hi.count.log_len
    have h1 := Pc.stores_le (hi.count.loop .inc1)
    have h2 := Pc.stores_le (hi.count.loop .inc2)
    simp only [State.total] at hn
    omega

end Mutex
end ZephyrGuide
