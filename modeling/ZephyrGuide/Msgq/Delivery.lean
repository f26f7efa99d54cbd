import ZephyrGuide.Msgq.Model

/-!
# Where the accepted messages go

The queue itself loses nothing and keeps the order: at every point, the messages the producer
was told were sent are, in order, those the consumer has printed, the one it holds between its
`k_msgq_get` and its printk, and those still in the ring (`Inv.fifo`).  Every run is finite and
ends with all three threads returned, so a message accepted and never printed is exactly one
left in the ring when the consumer returned.

That can happen.  The consumer's exit test — a timeout, then `k_msgq_num_used_get == 0` — holds
whenever the ring is momentarily empty, and "Check if producer is done", as the comment above it
says, is not what it checks: in the run where the consumer's very first wait times out, the
consumer returns before the producer's first put, the producer then fills the ring with ten
messages and drops ten, and `main` joins both threads with none of the ten read.
-/

set_option autoImplicit false

namespace ZephyrGuide
namespace Msgq

/-- The message the consumer holds between its `k_msgq_get` and its printk. -/
def ConsumerPc.inHand : ConsumerPc → List Nat
  | .print m => [m]
  | _ => []

/-- Puts made so far. -/
def ProducerPc.puts : ProducerPc → Nat
  | .put i => i
  | .done => 20

@[simp] theorem handTo_none (s : State) (msg : Nat) : s.handTo msg none = s := rfl

/-- What holds in every reachable state. -/
structure Inv (s : State) : Prop where
  fifo : s.sent = s.received ++ s.consumer.inHand ++ s.sensorMsgq.buffer
  waitq : s.sensorMsgq.waitq = if s.consumer = .waitGet then [.consumer] else []
  producer_lt : ∀ i, s.producer = .put i → i < 20
  sent_lt : ∀ m ∈ s.sent, m < s.producer.puts
  sent_sorted : s.sent.Pairwise (· < ·)
  main_joined : s.main ≠ .joinProducer → s.producer = .done
  main_done : s.main = .done → s.consumer = .done

theorem inv_init : Inv init :=
  ⟨rfl, rfl, fun i h => by cases h; decide, by simp [init], List.Pairwise.nil,
    fun h => absurd rfl h, fun h => by cases h⟩

/-- A reader waits only on an empty ring. -/
theorem Inv.buffer_of_waitGet {s : State} (h : Inv s) (hc : s.consumer = .waitGet) :
    s.sensorMsgq.buffer = [] := by
  by_contra hb
  simpa [h.waitq, hc] using s.sensorMsgq.waitq_of_ne_nil hb

theorem inv_producerEntry {s s' : State} (h : Inv s) (hs : producerEntry s = some s') : Inv s' := by
  unfold producerEntry at hs
  cases hp : s.producer with
  | done => simp [hp] at hs
  | put i =>
    simp only [hp, Option.some.injEq] at hs
    subst hs
    have hi := h.producer_lt i hp
    have hm : s.main = .joinProducer := by by_contra hm; simp [h.main_joined hm] at hp
    have hlt : ∀ m ∈ s.sent, m < i := by simpa [hp, ProducerPc.puts] using h.sent_lt
    have hnext : ∀ j, (if i + 1 < 20 then ProducerPc.put (i + 1) else .done) = .put j → j < 20 := by
      intro j; split <;> simp; omega
    have hputs : (if i + 1 < 20 then ProducerPc.put (i + 1) else .done).puts = i + 1 := by
      split <;> simp [ProducerPc.puts]; omega
    have hsent : ∀ m ∈ s.sent ++ [i], m < i + 1 := by
      intro m hm'
      rcases List.mem_append.1 hm' with hm' | hm'
      · exact Nat.lt_succ_of_lt (hlt m hm')
      · rw [List.mem_singleton.1 hm']; exact Nat.lt_succ_self i
    have hsorted : (s.sent ++ [i]).Pairwise (· < ·) :=
      List.pairwise_append.2 ⟨h.sent_sorted, List.pairwise_singleton _ _,
        fun a ha b hb => (List.mem_singleton.1 hb) ▸ hlt a ha⟩
    have hf := h.fifo
    by_cases hw : s.consumer = .waitGet
    · have hq := h.waitq
      rw [if_pos hw] at hq
      obtain ⟨h1, h2, h3⟩ := KMsgq.put_of_waitq_cons i hq
      have hb := h.buffer_of_waitGet hw
      rw [hw, hb] at hf
      rw [h3]
      refine ⟨?_, ?_, hnext, ?_, ?_, by simp [State.handTo, hm], by simp [State.handTo, hm]⟩ <;>
        simp only [State.handTo, h1, h2, hb, hw, hputs, ConsumerPc.wake, ConsumerPc.inHand,
          if_true, reduceCtorEq, if_false, List.append_nil]
      · simp [hf, ConsumerPc.inHand]
      · exact hsent
      · exact hsorted
    · have hq := h.waitq
      rw [if_neg hw] at hq
      by_cases hl : s.sensorMsgq.buffer.length < s.sensorMsgq.maxMsgs
      · obtain ⟨h1, h2, h3⟩ := KMsgq.put_of_room i hq hl
        rw [h3]
        refine ⟨?_, ?_, hnext, ?_, ?_, by simp [hm], by simp [hm]⟩ <;>
          simp only [handTo_none, h1, h2, hw, hputs, if_true, if_false]
        · rw [hf, List.append_assoc]
        · exact hsent
        · exact hsorted
      · rw [KMsgq.put_of_full i hq (by omega)]
        refine ⟨h.fifo, h.waitq, hnext, fun m hm' => ?_, h.sent_sorted, by simp [hm], by simp [hm]⟩
        simp only [handTo_none, hputs]
        exact Nat.lt_succ_of_lt (hlt m hm')

theorem inv_consumerEntry {s s' : State} (h : Inv s) (hs : consumerEntry s = some s') :
    Inv s' := by
  obtain ⟨hf, hw, hpl, hsl, hss, hmj, hmd⟩ := h
  have hm : s.main ≠ .done := fun e => by simp [consumerEntry, hmd e] at hs
  unfold consumerEntry at hs
  cases hc : s.consumer with
  | waitGet | done => simp [hc] at hs
  | print m =>
    simp only [hc, Option.some.injEq] at hs
    subst hs
    exact ⟨by simpa [hc, ConsumerPc.inHand] using hf, by simpa [hc] using hw, hpl, hsl, hss, hmj,
      fun e => absurd e hm⟩
  | check =>
    simp only [hc, Option.some.injEq] at hs
    subst hs
    refine ⟨?_, ?_, hpl, hsl, hss, hmj, fun e => absurd e hm⟩ <;> split <;>
      simp_all [ConsumerPc.inHand]
  | get =>
    simp only [hc, Option.some.injEq] at hs
    subst hs
    simp only [hc, reduceCtorEq, ite_false, ConsumerPc.inHand, List.append_nil] at hw hf
    cases hb : s.sensorMsgq.buffer with
    | nil =>
      obtain ⟨h1, h2, h3⟩ := KMsgq.get_of_nil (t := Tid.consumer) hb
      refine ⟨?_, ?_, hpl, hsl, hss, hmj, fun e => absurd e hm⟩ <;> simp_all [ConsumerPc.inHand]
    | cons x xs =>
      obtain ⟨h1, h2, h3⟩ := KMsgq.get_of_cons (t := Tid.consumer) hb
      refine ⟨?_, ?_, hpl, hsl, hss, hmj, fun e => absurd e hm⟩ <;> simp_all [ConsumerPc.inHand]

theorem inv_timeoutStep {s s' : State} (h : Inv s) (hs : timeoutStep s = some s') : Inv s' := by
  obtain ⟨hf, hw, hpl, hsl, hss, hmj, hmd⟩ := h
  unfold timeoutStep at hs
  split at hs
  case h_2 => simp at hs
  case h_1 hc =>
    simp only [Option.some.injEq] at hs
    subst hs
    simp only [hc, ite_true] at hw
    exact ⟨by simpa [hc, ConsumerPc.inHand] using hf, by simp [hw], hpl, hsl, hss, hmj,
      fun e => by simp [hmd e] at hc⟩

theorem inv_mainStep {s s' : State} (h : Inv s) (hs : mainStep s = some s') : Inv s' := by
  obtain ⟨hf, hw, hpl, hsl, hss, hmj, hmd⟩ := h
  unfold mainStep at hs
  split at hs <;> (try split at hs) <;> simp only [Option.some.injEq, reduceCtorEq] at hs <;>
    subst hs <;> simp_all [Inv.mk]

theorem inv_holds : program.Invariant Inv where
  init := inv_init
  step a h hs := by
    cases a
    · exact inv_producerEntry h hs
    · exact inv_consumerEntry h hs
    · exact inv_timeoutStep h hs
    · exact inv_mainStep h hs

end Msgq
end ZephyrGuide
