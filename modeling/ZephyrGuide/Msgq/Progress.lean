import ZephyrGuide.Msgq.Delivery

/-!
# How the message-queue example ends

Every run is finite — `measure` drops at every step, timeouts included — and every run that
cannot be extended has all three threads returned.  With `Inv.fifo`, that makes the messages
accepted and never printed exactly those left in the ring.  The run in which the consumer's
first wait times out leaves ten of them.
-/

set_option autoImplicit false

namespace ZephyrGuide
namespace Msgq

/-- A run can only end with the producer, the consumer and `main` returned. -/
theorem terminal_done {s : State} (hs : program.Reachable s) (ht : program.Terminal s) :
    s.producer = .done ∧ s.consumer = .done ∧ s.main = .done := by
  have hi := inv_holds.holds hs
  have hp : s.producer = .done := by
    have h : producerEntry s = none := ht .producer
    unfold producerEntry at h
    split at h <;> simp_all
  have hc : s.consumer = .done := by
    have h : consumerEntry s = none := ht .consumer
    have h' : timeoutStep s = none := ht .timeout
    unfold consumerEntry at h
    unfold timeoutStep at h'
    split at h <;> simp_all
  have hm : mainStep s = none := ht .main
  unfold mainStep at hm
  refine ⟨hp, hc, ?_⟩
  split at hm <;> simp_all

/-! ## A decreasing measure -/

/-- Puts left to the producer, and its return. -/
def ProducerPc.rank : ProducerPc → Nat
  | .put i => 20 - i + 1
  | .done => 0

/-- What the consumer has left to do beyond reading the messages still to come: a wait or a
timeout test counts more while there is a message to read, since it leads back to a read. -/
def ConsumerPc.rank (nonempty : Bool) : ConsumerPc → Nat
  | .get => 3
  | .waitGet => 2 + 3 * nonempty.toNat
  | .print _ => 4
  | .check => 1 + 3 * nonempty.toNat
  | .done => 0

/-- Joins left to `main`. -/
def MainPc.rank : MainPc → Nat
  | .joinProducer => 2
  | .joinConsumer => 1
  | .done => 0

/-- Puts left, messages in the ring, and what the threads have left. -/
def measure (s : State) : Nat :=
  9 * s.producer.rank + 5 * s.sensorMsgq.buffer.length +
    s.consumer.rank (!s.sensorMsgq.buffer.isEmpty) + s.main.rank

/-- A message arriving in the ring adds at most 3 to what the consumer has left. -/
theorem ConsumerPc.rank_le_add (b b' : Bool) (pc : ConsumerPc) : pc.rank b' ≤ pc.rank b + 3 := by
  cases pc <;> cases b <;> cases b' <;> simp [rank]

/-- A message handed to the waiting consumer adds at most 2 to what it has left. -/
theorem ConsumerPc.rank_wake_le (b : Bool) (m : Nat) (pc : ConsumerPc) :
    (pc.wake m).rank b ≤ pc.rank b + 2 := by
  cases pc <;> cases b <;> simp [rank, wake]

theorem measure_producerEntry {s t : State} (h : producerEntry s = some t) :
    measure t < measure s := by
  unfold producerEntry at h
  cases hp : s.producer with
  | done => simp [hp] at h
  | put i =>
    simp only [hp, Option.some.injEq] at h
    subst h
    have hr : (if i + 1 < 20 then ProducerPc.put (i + 1) else .done).rank < (ProducerPc.put i).rank := by
      split <;> simp only [ProducerPc.rank] <;> omega
    cases hw : s.sensorMsgq.waitq with
    | cons w rest =>
      obtain ⟨h1, -, h3⟩ := KMsgq.put_of_waitq_cons i hw
      rw [h3]
      have hc := ConsumerPc.rank_wake_le (!s.sensorMsgq.buffer.isEmpty) i s.consumer
      cases w <;> simp only [measure, State.handTo, h1, hp] <;> omega
    | nil =>
      by_cases hl : s.sensorMsgq.buffer.length < s.sensorMsgq.maxMsgs
      · obtain ⟨h1, -, h3⟩ := KMsgq.put_of_room i hw hl
        rw [h3]
        have hc := ConsumerPc.rank_le_add (!s.sensorMsgq.buffer.isEmpty)
          (!(s.sensorMsgq.buffer ++ [i]).isEmpty) s.consumer
        simp only [measure, handTo_none, h1, hp, List.length_append, List.length_singleton]
        omega
      · rw [KMsgq.put_of_full i hw (by omega)]
        simp only [measure, handTo_none, hp]
        omega

theorem measure_consumerEntry {s t : State} (h : consumerEntry s = some t) :
    measure t < measure s := by
  unfold consumerEntry at h
  cases hc : s.consumer with
  | waitGet | done => simp [hc] at h
  | print m =>
    simp only [hc, Option.some.injEq] at h
    subst h
    simp [measure, hc, ConsumerPc.rank]
  | check =>
    simp only [hc, Option.some.injEq] at h
    subst h
    simp only [measure, hc, KMsgq.numUsed]
    split <;> cases hb : s.sensorMsgq.buffer <;> simp_all [ConsumerPc.rank]
  | get =>
    simp only [hc, Option.some.injEq] at h
    subst h
    cases hb : s.sensorMsgq.buffer with
    | nil =>
      obtain ⟨h1, -, h3⟩ := KMsgq.get_of_nil (t := Tid.consumer) hb
      simp [measure, hc, hb, h1, h3, ConsumerPc.rank]
    | cons x xs =>
      obtain ⟨h1, -, h3⟩ := KMsgq.get_of_cons (t := Tid.consumer) hb
      have := ConsumerPc.rank_le_add false (!xs.isEmpty) .get
      simp only [measure, hc, hb, h1, h3, ConsumerPc.rank, List.length_cons]
      omega

theorem measure_step {s t : State} (a : Act) (h : program.step s a = some t) :
    measure t < measure s := by
  cases a
  · exact measure_producerEntry h
  · exact measure_consumerEntry h
  · have h : timeoutStep s = some t := h
    unfold timeoutStep at h
    split at h
    · simp only [Option.some.injEq] at h
      subst h
      simp [measure, ConsumerPc.rank, *]
    · simp at h
  · have h : mainStep s = some t := h
    unfold mainStep at h
    split at h <;> (try split at h) <;> simp only [Option.some.injEq, reduceCtorEq] at h <;>
      subst h <;> simp_all [measure, MainPc.rank]

/-! ## What every run delivers -/

/-- **The queue loses nothing and keeps the order.**  In every interleaving the messages the
producer printed as sent are, in order, those the consumer printed, the one it holds, and those in
the ring, and the consumer prints them in increasing order; no run is infinite; and a run ends
with all three threads returned and every accepted message either printed by the consumer or left
in the ring. -/
theorem msgq_delivers_in_order :
    (∀ s, program.Reachable s →
      s.sent = s.received ++ s.consumer.inHand ++ s.sensorMsgq.buffer ∧
        s.received.Pairwise (· < ·)) ∧
    (∀ s, program.Reachable s → program.Terminal s →
      s.producer = .done ∧ s.consumer = .done ∧ s.main = .done ∧
        s.sent = s.received ++ s.sensorMsgq.buffer) ∧
    (∀ f : Nat → State, ¬ program.InfiniteRun f) := by
  refine ⟨fun s hs => ?_, fun s hs ht => ?_,
    program.not_infiniteRun_of_measure measure measure_step⟩
  · have h := inv_holds.holds hs
    refine ⟨h.fifo, List.Pairwise.sublist ?_ h.sent_sorted⟩
    rw [h.fifo, List.append_assoc]
    exact List.sublist_append_left _ _
  · obtain ⟨hp, hc, hm⟩ := terminal_done hs ht
    simpa [hc, ConsumerPc.inHand] using And.intro hp (And.intro hc (And.intro hm
      (inv_holds.holds hs).fifo))

/-- **The consumer can return before the producer's first put.**  Its first wait times out on
the empty ring and the exit test passes; the producer then has ten messages accepted and ten
dropped, and `main` joins both threads with none of the ten printed by the consumer. -/
theorem consumer_returns_before_first_put :
    ∃ s, program.Reachable s ∧ program.Terminal s ∧ s.main = .done ∧ s.sent = List.range 10 ∧
      s.received = [] := by
  obtain ⟨s, hs, h⟩ := program.exists_reachable_of_run
    ([.consumer, .timeout, .consumer] ++ List.replicate 20 .producer ++ [.main, .main])
    (fun s => (producerEntry s).isNone && (consumerEntry s).isNone && (timeoutStep s).isNone &&
      (mainStep s).isNone && s.main == .done && s.sent == List.range 10 && s.received == [])
    (by decide)
  simp only [Bool.and_eq_true, Option.isNone_iff_eq_none, beq_iff_eq] at h
  obtain ⟨⟨⟨⟨⟨⟨hp, hc⟩, ht⟩, hm⟩, h1⟩, h2⟩, h3⟩ := h
  exact ⟨s, hs, fun a => by cases a <;> assumption, h1, h2, h3⟩

end Msgq
end ZephyrGuide
