import ZephyrGuide.Semaphore.Buffer

/-!
# The semaphore example always finishes

Two facts, each for every interleaving:

* **no deadlock** — in a reachable state where one of the two threads has not returned, one of
  them can move.  The only way both could be stuck is on the kernel objects, and the accounting
  of `ZephyrGuide.Semaphore.Inv` rules out every pair of blocking points: the thread waiting on
  the mutex has it held by the other, which is then not stuck; and the two semaphores cannot
  both be empty, nor one empty while the thread that would give it has returned, because their
  units add up to the five slots;
* **no infinite run** — every step lowers `measure`, the number of statements the three threads
  have left.

Together: every maximal interleaving is finite and ends with both threads past their fifteenth
iteration and `main` past both of its `k_thread_join` calls.
-/

set_option autoImplicit false

namespace ZephyrGuide
namespace Semaphore

/-! ## Blocked threads -/

theorem producerEntry_eq_none {s : State} (h : producerEntry s = none) :
    s.producer.info.waitsTake ∨ s.producer.info.waitsLock ∨ s.producer = .done := by
  unfold producerEntry at h
  split at h <;> simp_all

theorem consumerEntry_eq_none {s : State} (h : consumerEntry s = none) :
    s.consumer.info.waitsTake ∨ s.consumer.info.waitsLock ∨ s.consumer = .done := by
  unfold consumerEntry at h
  split at h <;> simp_all

theorem Pc.inCs_of_blocked {pc : Pc} (h : pc.info.waitsTake ∨ pc.info.waitsLock ∨ pc = .done) :
    pc.info.inCs = false := by
  cases pc <;> simp_all

/-- A thread blocked on `buffer_mutex` is waiting for the other thread, which holds it. -/
theorem inCs_of_waitsLock {s : State} (hs : Inv s)
    (h : s.producer.info.waitsLock ∨ s.consumer.info.waitsLock) :
    s.producer.info.inCs ∨ s.consumer.info.inCs := by
  by_contra hn
  simp only [not_or, Bool.not_eq_true] at hn
  have hq := s.bufferMutex.waitq_of_free (by simp [hs.owner_eq, hn.1, hn.2])
  rw [hs.mutex_waitq] at hq
  rcases h with h | h <;> simp [h] at hq

/-- **No deadlock.**  While either thread has not returned, one of the two can move. -/
theorem producer_or_consumer_enabled {s : State} (hs : program.Reachable s)
    (hrun : s.producer ≠ .done ∨ s.consumer ≠ .done) :
    (producerEntry s).isSome ∨ (consumerEntry s).isSome := by
  have hi := inv_holds.holds hs
  by_contra hn
  simp only [not_or, Option.not_isSome_iff_eq_none] at hn
  have hp := producerEntry_eq_none hn.1
  have hc := consumerEntry_eq_none hn.2
  have hlock : ¬ (s.producer.info.waitsLock ∨ s.consumer.info.waitsLock) := fun h => by
    have := inCs_of_waitsLock hi h
    simp [Pc.inCs_of_blocked hp, Pc.inCs_of_blocked hc] at this
  have hE := hi.empty_units
  have hF := hi.full_units
  have hPa := hi.producer_accesses
  have hCa := hi.consumer_accesses
  have hPl := hi.producer_loop
  have hCl := hi.consumer_loop
  rcases hp with hp | hp | hp <;> rcases hc with hc | hc | hc
  all_goals first | exact absurd (Or.inl hp) hlock | exact absurd (Or.inr hc) hlock | skip
  · obtain ⟨i, hi'⟩ := Pc.waitsTake_iff.1 hp
    obtain ⟨j, hj'⟩ := Pc.waitsTake_iff.1 hc
    have e : s.emptySlots.count = 0 :=
      KSem.count_eq_zero_of_mem (t := Tid.producer) (by simp [hi.empty_waitq, hp])
    have f : s.fullSlots.count = 0 :=
      KSem.count_eq_zero_of_mem (t := Tid.consumer) (by simp [hi.full_waitq, hc])
    simp only [hi', hj', Pc.info_waitTake, Bool.toNat_false, BUFFER_SIZE] at *
    omega
  · obtain ⟨i, hi'⟩ := Pc.waitsTake_iff.1 hp
    have e : s.emptySlots.count = 0 :=
      KSem.count_eq_zero_of_mem (t := Tid.producer) (by simp [hi.empty_waitq, hp])
    simp only [hi', hc, Pc.info_waitTake, Pc.info_done, Pc.accesses, Pc.InLoop,
      Bool.toNat_false, BUFFER_SIZE, Bool.false_eq_true, ite_false, ite_true, false_or] at *
    omega
  · obtain ⟨j, hj'⟩ := Pc.waitsTake_iff.1 hc
    have f : s.fullSlots.count = 0 :=
      KSem.count_eq_zero_of_mem (t := Tid.consumer) (by simp [hi.full_waitq, hc])
    simp only [hj', hp, Pc.info_waitTake, Pc.info_done, Pc.accesses, Pc.InLoop,
      Bool.toNat_false, BUFFER_SIZE, Bool.false_eq_true, ite_false, ite_true, false_or] at *
    omega
  · exact hrun.elim (· hp) (· hc)

/-- A run can only end with both threads and `main` done, all fifteen items consumed. -/
theorem terminal_done {s : State} (hs : program.Reachable s) (ht : program.Terminal s) :
    s.producer = .done ∧ s.consumer = .done ∧ s.main = .done ∧ s.consumed.length = 15 := by
  have hp : s.producer = .done ∧ s.consumer = .done := by
    by_contra hn
    rcases producer_or_consumer_enabled hs (not_and_or.mp hn) with h | h
    · simp [show producerEntry s = none from ht .producer] at h
    · simp [show consumerEntry s = none from ht .consumer] at h
  have hm : mainStep s = none := ht .main
  have hc := (inv_holds.holds hs).consumer_accesses
  refine ⟨hp.1, hp.2, ?_, by simpa [hp.2, Pc.accesses] using hc.symm⟩
  unfold mainStep at hm
  split at hm <;> simp_all

/-! ## A decreasing measure -/

/-- Statements left before a thread whose last iteration is `last` returns. -/
def Pc.rank (last : Nat) : Pc → Nat
  | .take i => 7 * (last - i) + 7
  | .waitTake i => 7 * (last - i) + 6
  | .lock i => 7 * (last - i) + 5
  | .waitLock i => 7 * (last - i) + 4
  | .access i => 7 * (last - i) + 3
  | .unlock i => 7 * (last - i) + 2
  | .give i => 7 * (last - i) + 1
  | .done => 0

/-- Joins left to `main`. -/
def MainPc.rank : MainPc → Nat
  | .joinProducer => 2
  | .joinConsumer => 1
  | .done => 0

/-- What the three threads have left to do. -/
def measure (s : State) : Nat := s.producer.rank 15 + s.consumer.rank 14 + s.main.rank

theorem Pc.rank_wake_le (last : Nat) (pc : Pc) : pc.wake.rank last ≤ pc.rank last := by
  cases pc <;> simp [Pc.wake, Pc.rank]

/-- Waking a thread never adds to what is left. -/
theorem measure_wake_le (s : State) (w : Option Tid) : measure (s.wake w) ≤ measure s := by
  rcases w with _ | _ | _ <;> simp only [State.wake, measure, le_refl] <;>
    have := Pc.rank_wake_le 15 s.producer <;> have := Pc.rank_wake_le 14 s.consumer <;> omega

theorem measure_lt_of_producer {s t : State} (hp : t.producer.rank 15 < s.producer.rank 15)
    (hc : t.consumer = s.consumer) (hm : t.main = s.main) : measure t < measure s := by
  unfold measure; rw [hc, hm]; omega

theorem measure_lt_of_consumer {s t : State} (hc : t.consumer.rank 14 < s.consumer.rank 14)
    (hp : t.producer = s.producer) (hm : t.main = s.main) : measure t < measure s := by
  unfold measure; rw [hp, hm]; omega

theorem measure_producerEntry {s t : State} (h : producerEntry s = some t) :
    measure t < measure s := by
  unfold producerEntry at h
  cases hp : s.producer <;> simp only [hp, Option.some.injEq, reduceCtorEq] at h <;> subst h
  case' unlock | give => refine Nat.lt_of_le_of_lt (measure_wake_le _ _) ?_
  all_goals refine measure_lt_of_producer ?_ rfl rfl
  all_goals simp only [hp, apply_ite (Pc.rank 15)]
  all_goals simp only [Pc.rank]
  all_goals (try split) <;> omega

theorem measure_consumerEntry {s t : State} (h : consumerEntry s = some t) :
    measure t < measure s := by
  unfold consumerEntry at h
  cases hc : s.consumer <;> simp only [hc, Option.some.injEq, reduceCtorEq] at h <;> subst h
  case' unlock | give => refine Nat.lt_of_le_of_lt (measure_wake_le _ _) ?_
  all_goals refine measure_lt_of_consumer ?_ rfl rfl
  all_goals simp only [hc, apply_ite (Pc.rank 14)]
  all_goals simp only [Pc.rank]
  all_goals (try split) <;> omega

theorem measure_mainStep {s t : State} (h : mainStep s = some t) : measure t < measure s := by
  unfold mainStep at h
  split at h <;> (try split at h) <;> simp only [Option.some.injEq, reduceCtorEq] at h <;>
    subst h <;> simp_all [measure, MainPc.rank]

theorem measure_step {s t : State} (a : Act) (h : program.step s a = some t) :
    measure t < measure s := by
  cases a
  · exact measure_producerEntry h
  · exact measure_consumerEntry h
  · exact measure_mainStep h

/-! ## Every maximal interleaving finishes -/

/-- **The semaphore example always finishes.**  In every reachable state where a thread has not
returned, the producer or the consumer can move; every run that cannot be extended ends with
both threads done, all fifteen items consumed and `main` past both joins; and there is no
infinite run. -/
theorem producer_consumer_finish :
    (∀ s, program.Reachable s → (s.producer ≠ .done ∨ s.consumer ≠ .done) →
      (producerEntry s).isSome ∨ (consumerEntry s).isSome) ∧
    (∀ s, program.Reachable s → program.Terminal s →
      s.producer = .done ∧ s.consumer = .done ∧ s.main = .done ∧ s.consumed.length = 15) ∧
    (∀ f : Nat → State, ¬ program.InfiniteRun f) :=
  ⟨fun _ hs h => producer_or_consumer_enabled hs h, fun _ hs ht => terminal_done hs ht,
    program.not_infiniteRun_of_measure measure measure_step⟩

end Semaphore
end ZephyrGuide
