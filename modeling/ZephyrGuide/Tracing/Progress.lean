import ZephyrGuide.Tracing.Handoff

/-!
# How the tracing example ends

No interleaving runs forever (`measure` drops at every step), and the producer always finishes:
it only ever waits for `data_mutex`, whose owner can then move.  The consumer is another matter.
A run ends either with the consumer done, all twenty values printed and `main` past both joins,
or with the consumer blocked in `k_sem_take(&data_ready, K_FOREVER)` with no unit left and
`main` blocked in `k_thread_join(&consumer_data, K_FOREVER)` behind it — for good.

The second end is reachable: let the producer run its twenty iterations before the consumer's
first take.  Its first give makes the unit, the other nineteen are absorbed by the limit of 1;
the consumer reads `190`, prints it, and waits for a give that never comes.
-/

set_option autoImplicit false

namespace ZephyrGuide
namespace Tracing

/-! ## Blocked threads -/

theorem producerEntry_eq_none {s : State} (h : producerEntry s = none) :
    s.producer.info.waitsLock ∨ s.producer = .done := by
  unfold producerEntry at h
  split at h <;> simp_all

theorem consumerEntry_eq_none {s : State} (h : consumerEntry s = none) :
    s.consumer.info.waitsTake ∨ s.consumer.info.waitsLock ∨ s.consumer = .done := by
  unfold consumerEntry at h
  split at h <;> simp_all

/-- With neither thread able to move, nobody holds `data_mutex`, so nobody waits for it: the
producer has returned, and the consumer has returned or waits on `data_ready`. -/
theorem LockInv.blocked {s : State} (hs : LockInv s) (hp : producerEntry s = none)
    (hc : consumerEntry s = none) :
    s.producer = .done ∧ (s.consumer = .done ∨ ∃ i, s.consumer = .waitTake i) := by
  have hp := producerEntry_eq_none hp
  have hc := consumerEntry_eq_none hc
  have hpi : s.producer.info.inCs = false := by rcases hp with e | e <;> cases h : s.producer <;> simp_all
  have hci : s.consumer.info.inCs = false := by
    rcases hc with e | e | e <;> cases h : s.consumer <;> simp_all
  have hfree : s.dataMutex.owner = none := by simpa [hpi, hci] using hs.owner
  have hq := hs.mutex_waitq
  rw [s.dataMutex.waitq_of_free hfree] at hq
  refine ⟨hp.resolve_left fun e => by simp [e] at hq, ?_⟩
  rcases hc with e | e | e
  · exact .inr (ConsumerPc.waitsTake_iff.1 e)
  · cases hpw : s.producer.info.waitsLock <;> simp [hpw, e] at hq
  · exact .inl e

/-- A run can only end with the producer done and the consumer either done, with twenty values
printed and `main` past both joins, or waiting on an empty `data_ready` with fewer than twenty
printed and `main` waiting for it. -/
theorem terminal_cases {s : State} (hs : program.Reachable s) (ht : program.Terminal s) :
    s.producer = .done ∧
      (s.consumer = .done ∧ s.main = .done ∧ s.consumed.length = 20 ∨
        (∃ i, s.consumer = .waitTake i) ∧ s.dataReady.count = 0 ∧ s.main = .joinConsumer ∧
          s.consumed.length < 20) := by
  have hi := inv_holds.holds hs
  obtain ⟨hp, hc⟩ := hi.locks.blocked (ht .producer) (ht .consumer)
  have hm : mainStep s = none := ht .main
  have hlen := hi.values.consumed_len
  unfold mainStep at hm
  refine ⟨hp, ?_⟩
  rcases hc with hc | ⟨i, hc⟩
  · refine .inl ⟨hc, ?_, by simp [hlen, hc, ConsumerPc.reads]⟩
    split at hm <;> simp_all
  · have hl := hi.values.consumer_loop
    have hq := hi.locks.ready_waitq
    have hmi := hi.main
    simp only [hc, ConsumerPc.info_waitTake, ite_true] at hq
    refine .inr ⟨⟨i, hc⟩, KSem.count_eq_zero_of_mem (t := Tid.consumer) (by simp [hq]), ?_,
      by simpa [hlen, hc, ConsumerPc.reads, ConsumerPc.InLoop] using hl⟩
    split at hm <;> simp_all [MainInv]

/-! ## A decreasing measure -/

/-- Statements left to the producer. -/
def ProducerPc.rank : ProducerPc → Nat
  | .lock i => 5 * (19 - i) + 5
  | .waitLock i => 5 * (19 - i) + 4
  | .write i => 5 * (19 - i) + 3
  | .unlock i => 5 * (19 - i) + 2
  | .give i => 5 * (19 - i) + 1
  | .done => 0

/-- Statements left to the consumer. -/
def ConsumerPc.rank : ConsumerPc → Nat
  | .take i => 7 * (19 - i) + 7
  | .waitTake i => 7 * (19 - i) + 6
  | .lock i => 7 * (19 - i) + 5
  | .waitLock i => 7 * (19 - i) + 4
  | .read i => 7 * (19 - i) + 3
  | .unlock i _ => 7 * (19 - i) + 2
  | .print i _ => 7 * (19 - i) + 1
  | .done => 0

/-- Joins left to `main`. -/
def MainPc.rank : MainPc → Nat
  | .joinProducer => 2
  | .joinConsumer => 1
  | .done => 0

/-- What the three threads have left to do. -/
def measure (s : State) : Nat := s.producer.rank + s.consumer.rank + s.main.rank

/-- Waking a thread never adds to what is left. -/
theorem measure_wake_le (s : State) (w : Option Tid) : measure (s.wake w) ≤ measure s := by
  rcases w with _ | _ | _
  · exact Nat.le_refl _
  · cases e : s.producer <;> simp [State.wake, measure, ProducerPc.wake, ProducerPc.rank, e]
  · cases e : s.consumer <;> simp [State.wake, measure, ConsumerPc.wake, ConsumerPc.rank, e]

theorem measure_producerEntry {s t : State} (h : producerEntry s = some t) :
    measure t < measure s := by
  unfold producerEntry at h
  cases hp : s.producer <;> simp only [hp, Option.some.injEq, reduceCtorEq] at h <;> subst h
  case' unlock | give => refine Nat.lt_of_le_of_lt (measure_wake_le _ _) ?_
  all_goals simp only [measure, hp, apply_ite ProducerPc.rank]
  all_goals simp only [ProducerPc.rank]
  all_goals (try split) <;> omega

theorem measure_consumerEntry {s t : State} (h : consumerEntry s = some t) :
    measure t < measure s := by
  unfold consumerEntry at h
  cases hc : s.consumer <;> simp only [hc, Option.some.injEq, reduceCtorEq] at h <;> subst h
  case' unlock => refine Nat.lt_of_le_of_lt (measure_wake_le _ _) ?_
  all_goals simp only [measure, hc, apply_ite ConsumerPc.rank]
  all_goals simp only [ConsumerPc.rank]
  all_goals (try split) <;> omega

theorem measure_step {s t : State} (a : Act) (h : program.step s a = some t) :
    measure t < measure s := by
  cases a
  · exact measure_producerEntry h
  · exact measure_consumerEntry h
  · have h : mainStep s = some t := h
    unfold mainStep at h
    split at h <;> (try split at h) <;> simp only [Option.some.injEq, reduceCtorEq] at h <;>
      subst h <;> simp_all [measure, MainPc.rank]

/-! ## What every run prints, and how it ends -/

/-- **What the consumer prints.**  In every interleaving the values the consumer prints are
multiples of 10 below 200, in non-decreasing order; no run is infinite; and a run ends with the
producer done and either the consumer done with twenty values printed and `main` past both
joins, or the consumer blocked for good in `k_sem_take` on an empty `data_ready`, fewer than
twenty values printed, and `main` blocked joining it. -/
theorem consumer_values_nondecreasing :
    (∀ s, program.Reachable s →
      s.consumed.Pairwise (· ≤ ·) ∧ ∀ v ∈ s.consumed, ∃ k < 20, v = (k : Int) * 10) ∧
    (∀ s, program.Reachable s → program.Terminal s →
      s.producer = .done ∧
        (s.consumer = .done ∧ s.main = .done ∧ s.consumed.length = 20 ∨
          (∃ i, s.consumer = .waitTake i) ∧ s.dataReady.count = 0 ∧ s.main = .joinConsumer ∧
            s.consumed.length < 20)) ∧
    (∀ f : Nat → State, ¬ program.InfiniteRun f) :=
  ⟨fun _ hs => ⟨(inv_holds.holds hs).values.sorted, (inv_holds.holds hs).values.consumed_mul⟩,
    fun _ hs ht => terminal_cases hs ht, program.not_infiniteRun_of_measure measure measure_step⟩

/-- **The consumer can be left waiting.**  The producer runs its twenty iterations first; the
consumer then reads and prints `190` — not `0` — and blocks in its second `k_sem_take` in a state
where no thread can move. -/
theorem consumer_stuck_after_190 :
    ∃ s, program.Reachable s ∧ program.Terminal s ∧ s.consumer = .waitTake 1 ∧
      s.consumed = [190] := by
  obtain ⟨s, hs, h⟩ := program.exists_reachable_of_run
    (List.replicate 80 .producer ++ List.replicate 6 .consumer ++ [.main])
    (fun s => (producerEntry s).isNone && (consumerEntry s).isNone && (mainStep s).isNone &&
      s.consumer == .waitTake 1 && s.consumed == [190]) (by decide)
  simp only [Bool.and_eq_true, Option.isNone_iff_eq_none, beq_iff_eq] at h
  obtain ⟨⟨⟨⟨hp, hc⟩, hm⟩, h1⟩, h2⟩ := h
  exact ⟨s, hs, fun a => by cases a <;> assumption, h1, h2⟩

end Tracing
end ZephyrGuide
