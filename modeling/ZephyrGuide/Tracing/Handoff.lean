import ZephyrGuide.Tracing.Model

/-!
# What the tracing example does hand over

The claim the demo suggests — the consumer reads `0, 10, …, 190`, once each — needs every give
of `data_ready` to be taken before the next one, and nothing in the code enforces that.  What
does hold in every interleaving is weaker, and is what this file proves:

* **the kernel objects** — `data_mutex` is owned by the thread between its lock and unlock, and
  queues the thread blocked on it; `data_ready` queues the consumer when it is blocked in its take
  (`LockInv`);
* **the values** — `shared_value` is `(w - 1) * 10` after `w` writes, so it only grows; the
  consumer's `val` is the value of `shared_value` at its read; hence the values printed are
  multiples of 10 below 200, in non-decreasing order (`ValueInv`).

Values can be skipped (the producer writes twice between two reads) or printed twice (the producer
writes after the consumer's take and before its read); `ZephyrGuide.Tracing.Progress` shows the
consumer can even be left waiting for good.
-/

set_option autoImplicit false

namespace ZephyrGuide
namespace Tracing

/-! ## What a thread's position says -/

/-- What the invariants read off the producer's position. -/
structure ProducerInfo where
  /-- Owns `data_mutex`. -/
  inCs : Bool
  /-- Blocked in `k_mutex_lock`. -/
  waitsLock : Bool
  /-- Has returned. -/
  done : Bool
  /-- The loop variable (`0` once returned). -/
  iter : Nat
  /-- Has made this iteration's write. -/
  written : Bool

/-- What the invariants read off the consumer's position. -/
structure ConsumerInfo where
  /-- Owns `data_mutex`. -/
  inCs : Bool
  /-- Blocked in `k_mutex_lock`. -/
  waitsLock : Bool
  /-- Blocked in `k_sem_take`. -/
  waitsTake : Bool
  /-- Has returned. -/
  done : Bool
  /-- The loop variable (`0` once returned). -/
  iter : Nat
  /-- `val`, from the read to the printk. -/
  val : Option Int

namespace ProducerPc

/-- The facts about a position the invariants use. -/
def info : ProducerPc → ProducerInfo
  | .lock i => ⟨false, false, false, i, false⟩
  | .waitLock i => ⟨false, true, false, i, false⟩
  | .write i => ⟨true, false, false, i, false⟩
  | .unlock i => ⟨true, false, false, i, true⟩
  | .give i => ⟨false, false, false, i, true⟩
  | .done => ⟨false, false, true, 0, false⟩

@[simp] theorem info_lock (i : Nat) : (lock i).info = ⟨false, false, false, i, false⟩ := rfl
@[simp] theorem info_waitLock (i : Nat) : (waitLock i).info = ⟨false, true, false, i, false⟩ := rfl
@[simp] theorem info_write (i : Nat) : (write i).info = ⟨true, false, false, i, false⟩ := rfl
@[simp] theorem info_unlock (i : Nat) : (unlock i).info = ⟨true, false, false, i, true⟩ := rfl
@[simp] theorem info_give (i : Nat) : (give i).info = ⟨false, false, false, i, true⟩ := rfl
@[simp] theorem info_done : done.info = ⟨false, false, true, 0, false⟩ := rfl

/-- Writes of `shared_value` made so far. -/
def writes (pc : ProducerPc) : Nat :=
  if pc.info.done then 20 else pc.info.iter + pc.info.written.toNat

/-- The loop variable is in range. -/
def InLoop (pc : ProducerPc) : Prop := pc.info.done ∨ pc.info.iter < 20

theorem not_waitsLock_of_inCs {pc : ProducerPc} (h : pc.info.inCs) :
    pc.info.waitsLock = false := by
  cases pc <;> simp_all

theorem writes_le {pc : ProducerPc} (h : pc.InLoop) : pc.writes ≤ 20 := by
  unfold writes InLoop at *
  cases pc <;> simp_all <;> omega

end ProducerPc

namespace ConsumerPc

/-- The facts about a position the invariants use. -/
def info : ConsumerPc → ConsumerInfo
  | .take i => ⟨false, false, false, false, i, none⟩
  | .waitTake i => ⟨false, false, true, false, i, none⟩
  | .lock i => ⟨false, false, false, false, i, none⟩
  | .waitLock i => ⟨false, true, false, false, i, none⟩
  | .read i => ⟨true, false, false, false, i, none⟩
  | .unlock i v => ⟨true, false, false, false, i, some v⟩
  | .print i v => ⟨false, false, false, false, i, some v⟩
  | .done => ⟨false, false, false, true, 0, none⟩

@[simp] theorem info_take (i : Nat) : (take i).info = ⟨false, false, false, false, i, none⟩ := rfl
@[simp] theorem info_waitTake (i : Nat) :
    (waitTake i).info = ⟨false, false, true, false, i, none⟩ := rfl
@[simp] theorem info_lock (i : Nat) : (lock i).info = ⟨false, false, false, false, i, none⟩ := rfl
@[simp] theorem info_waitLock (i : Nat) :
    (waitLock i).info = ⟨false, true, false, false, i, none⟩ := rfl
@[simp] theorem info_read (i : Nat) : (read i).info = ⟨true, false, false, false, i, none⟩ := rfl
@[simp] theorem info_unlock (i : Nat) (v : Int) :
    (unlock i v).info = ⟨true, false, false, false, i, some v⟩ := rfl
@[simp] theorem info_print (i : Nat) (v : Int) :
    (print i v).info = ⟨false, false, false, false, i, some v⟩ := rfl
@[simp] theorem info_done : done.info = ⟨false, false, false, true, 0, none⟩ := rfl

/-- Values printed so far. -/
def reads (pc : ConsumerPc) : Nat := if pc.info.done then 20 else pc.info.iter

/-- The loop variable is in range. -/
def InLoop (pc : ConsumerPc) : Prop := pc.info.done ∨ pc.info.iter < 20

theorem not_waitsLock_of_inCs {pc : ConsumerPc} (h : pc.info.inCs) :
    pc.info.waitsLock = false := by
  cases pc <;> simp_all

theorem waitsLock_iff {pc : ConsumerPc} : pc.info.waitsLock ↔ ∃ i, pc = waitLock i := by
  cases pc <;> simp

theorem waitsTake_iff {pc : ConsumerPc} : pc.info.waitsTake ↔ ∃ i, pc = waitTake i := by
  cases pc <;> simp

end ConsumerPc

theorem ProducerPc.waitsLock_iff {pc : ProducerPc} : pc.info.waitsLock ↔ ∃ i, pc = waitLock i := by
  cases pc <;> simp

/-! ## The kernel objects -/

/-- Who owns and who waits on `data_mutex`, and who waits on `data_ready`. -/
structure LockInv (s : State) : Prop where
  owner : s.dataMutex.owner =
    if s.producer.info.inCs then some .producer
    else if s.consumer.info.inCs then some .consumer else none
  not_both : ¬ (s.producer.info.inCs ∧ s.consumer.info.inCs)
  lockCount_le : s.dataMutex.lockCount ≤ 1
  mutex_waitq : s.dataMutex.waitq =
    if s.producer.info.waitsLock then [.producer]
    else if s.consumer.info.waitsLock then [.consumer] else []
  ready_waitq : s.dataReady.waitq = if s.consumer.info.waitsTake then [.consumer] else []

theorem lockInv_init : LockInv init :=
  ⟨rfl, by simp [init], by simp [init, KMutex.define], rfl, rfl⟩

theorem lockInv_producerEntry {s s' : State} (h : LockInv s) (hs : producerEntry s = some s') :
    LockInv s' := by
  obtain ⟨v, R, M, p, c, m, prod, cons⟩ := s
  cases p <;> simp only [producerEntry, Option.some.injEq, reduceCtorEq] at hs <;> subst hs
  case lock i =>
    cases hc : c.info.inCs
    · -- the mutex is free
      have hO : M.owner = none := by simpa [hc] using h.owner
      obtain ⟨h1, h2, h3, h4⟩ := KMutex.lock_of_free (t := Tid.producer) hO
      simp only [h4, ite_true]
      exact { h with
        owner := h1
        not_both := by simp [hc]
        lockCount_le := Nat.le_of_eq h2
        mutex_waitq := h3.trans ((M.waitq_of_free hO).symm.trans h.mutex_waitq) }
    · -- the consumer holds it: the producer joins the mutex's queue
      have hO : M.owner = some .consumer := by simpa [hc] using h.owner
      obtain ⟨h1, h2, h3, h4⟩ := KMutex.lock_of_other hO (t := Tid.producer) (by decide)
      simp only [h4, Bool.false_eq_true, ite_false]
      exact { h with
        owner := (h1.trans hO.symm).trans h.owner
        lockCount_le := h2.trans_le h.lockCount_le
        mutex_waitq := h3.trans (by rw [h.mutex_waitq, ConsumerPc.not_waitsLock_of_inCs hc]; rfl) }
  case write i => exact { h with }
  case unlock i =>
    have hO : M.owner = some .producer := h.owner
    have hL : M.lockCount ≤ 1 := h.lockCount_le
    have hc1 : M.lockCount = 1 := by have := KMutex.lockCount_of_owner hO; omega
    cases hw : c.info.waitsLock
    · -- nobody waits for the mutex
      have hMw : M.waitq = [] := by simpa [hw] using h.mutex_waitq
      have hcin : c.info.inCs = false := by simpa using h.not_both
      obtain ⟨h1, h2, h3, h4⟩ := KMutex.unlock_of_nil hO hc1 hMw
      simp only [h4, State.wake]
      exact { h with
        owner := h1.trans (by simp [hcin])
        not_both := by simp
        lockCount_le := h2.trans_le (Nat.zero_le 1)
        mutex_waitq := h3.trans (by simp [hw]) }
    · -- the consumer waits for it, and gets it
      obtain ⟨j, rfl⟩ := ConsumerPc.waitsLock_iff.1 hw
      obtain ⟨h1, h2, h3, h4⟩ := KMutex.unlock_of_cons hO hc1 (h.mutex_waitq : M.waitq = [.consumer])
      simp only [h3, State.wake, ConsumerPc.wake]
      exact { h with
        owner := h1
        not_both := by simp
        lockCount_le := Nat.le_of_eq h4
        mutex_waitq := h2 }
  case give i =>
    have hnext : (if i + 1 < 20 then ProducerPc.lock (i + 1) else .done).info.inCs = false ∧
        (if i + 1 < 20 then ProducerPc.lock (i + 1) else .done).info.waitsLock = false := by
      split <;> simp
    generalize (if i + 1 < 20 then ProducerPc.lock (i + 1) else .done) = q at hnext ⊢
    obtain ⟨n1, n2⟩ := hnext
    cases hw : c.info.waitsTake
    · -- nobody waits on `data_ready`
      obtain ⟨h1, h2, h3⟩ := KSem.give_of_waitq_nil (by simpa [hw] using h.ready_waitq)
      simp only [h3, State.wake]
      exact { h with
        owner := by simp only [n1]; exact h.owner
        not_both := by simp only [n1]; exact h.not_both
        mutex_waitq := by simp only [n2]; exact h.mutex_waitq
        ready_waitq := h2.trans (by simp [hw]) }
    · -- the consumer waits, and takes the unit
      obtain ⟨j, rfl⟩ := ConsumerPc.waitsTake_iff.1 hw
      obtain ⟨h1, h2, h3⟩ := KSem.give_of_waitq_cons (h.ready_waitq : R.waitq = [.consumer])
      simp only [h3, State.wake, ConsumerPc.wake]
      exact { h with
        owner := by simp only [n1]; exact h.owner
        not_both := by simp only [n1]; exact h.not_both
        mutex_waitq := by simp only [n2]; exact h.mutex_waitq
        ready_waitq := h2 }

theorem lockInv_consumerEntry {s s' : State} (h : LockInv s) (hs : consumerEntry s = some s') :
    LockInv s' := by
  obtain ⟨v, R, M, p, c, m, prod, cons⟩ := s
  cases c <;> simp only [consumerEntry, Option.some.injEq, reduceCtorEq] at hs <;> subst hs
  case take i =>
    rcases Nat.eq_zero_or_pos R.count with hc | hc
    · -- `data_ready` is zero: the consumer joins its queue
      obtain ⟨-, hq, h2⟩ := KSem.take_of_zero (t := Tid.consumer) hc
      simp only [h2, Bool.false_eq_true, ite_false]
      exact { h with ready_waitq := by rw [hq, h.ready_waitq]; rfl }
    · obtain ⟨-, hq, h2⟩ := KSem.take_of_pos (t := Tid.consumer) hc
      simp only [h2, ite_true]
      exact { h with ready_waitq := hq.trans h.ready_waitq }
  case lock i =>
    cases hp : p.info.inCs
    · -- the mutex is free
      have hO : M.owner = none := by simpa [hp] using h.owner
      obtain ⟨h1, h2, h3, h4⟩ := KMutex.lock_of_free (t := Tid.consumer) hO
      simp only [h4, ite_true]
      exact { h with
        owner := h1.trans (by simp [hp])
        not_both := by simp [hp]
        lockCount_le := Nat.le_of_eq h2
        mutex_waitq := h3.trans ((M.waitq_of_free hO).symm.trans h.mutex_waitq) }
    · -- the producer holds it: the consumer joins the mutex's queue
      have hO : M.owner = some .producer := by simpa [hp] using h.owner
      obtain ⟨h1, h2, h3, h4⟩ := KMutex.lock_of_other hO (t := Tid.consumer) (by decide)
      simp only [h4, Bool.false_eq_true, ite_false]
      exact { h with
        owner := (h1.trans hO.symm).trans h.owner
        lockCount_le := h2.trans_le h.lockCount_le
        mutex_waitq := h3.trans (by rw [h.mutex_waitq, ProducerPc.not_waitsLock_of_inCs hp]; rfl) }
  case read i => exact { h with }
  case unlock i val =>
    have hp : p.info.inCs = false := by simpa using h.not_both
    have hO : M.owner = some .consumer := by simpa [hp] using h.owner
    have hL : M.lockCount ≤ 1 := h.lockCount_le
    have hc1 : M.lockCount = 1 := by have := KMutex.lockCount_of_owner hO; omega
    cases hw : p.info.waitsLock
    · -- nobody waits for the mutex
      have hMw : M.waitq = [] := by simpa [hw] using h.mutex_waitq
      obtain ⟨h1, h2, h3, h4⟩ := KMutex.unlock_of_nil hO hc1 hMw
      simp only [h4, State.wake]
      exact { h with
        owner := h1.trans (by simp [hp])
        not_both := by simp
        lockCount_le := h2.trans_le (Nat.zero_le 1)
        mutex_waitq := h3.trans (by simp [hw]) }
    · -- the producer waits for it, and gets it
      obtain ⟨j, rfl⟩ := ProducerPc.waitsLock_iff.1 hw
      obtain ⟨h1, h2, h3, h4⟩ := KMutex.unlock_of_cons hO hc1 (h.mutex_waitq : M.waitq = [.producer])
      simp only [h3, State.wake, ProducerPc.wake]
      exact { h with
        owner := h1
        not_both := by simp
        lockCount_le := Nat.le_of_eq h4
        mutex_waitq := h2 }
  case print i val =>
    have hnext : (if i + 1 < 20 then ConsumerPc.take (i + 1) else .done).info.inCs = false ∧
        (if i + 1 < 20 then ConsumerPc.take (i + 1) else .done).info.waitsLock = false ∧
        (if i + 1 < 20 then ConsumerPc.take (i + 1) else .done).info.waitsTake = false := by
      split <;> simp
    generalize (if i + 1 < 20 then ConsumerPc.take (i + 1) else .done) = q at hnext ⊢
    obtain ⟨n1, n2, n3⟩ := hnext
    exact { h with
      owner := by simp only [n1]; exact h.owner
      not_both := by simp only [n1]; exact h.not_both
      mutex_waitq := by simp only [n2]; exact h.mutex_waitq
      ready_waitq := by simp only [n3]; exact h.ready_waitq }


/-! ## The values -/

/-- `shared_value` is the last value written, and what the consumer holds and has printed are
earlier values of it, in order. -/
structure ValueInv (s : State) : Prop where
  producer_loop : s.producer.InLoop
  consumer_loop : s.consumer.InLoop
  shared_eq : s.sharedValue = ((s.producer.writes - 1 : Nat) : Int) * 10
  consumed_len : s.consumed.length = s.consumer.reads
  sorted : s.consumed.Pairwise (· ≤ ·)
  consumed_le : ∀ v ∈ s.consumed, v ≤ s.sharedValue
  consumed_mul : ∀ v ∈ s.consumed, ∃ k < 20, v = (k : Int) * 10
  val_inv : ∀ v, s.consumer.info.val = some v →
    (∀ u ∈ s.consumed, u ≤ v) ∧ v ≤ s.sharedValue ∧ ∃ k < 20, v = (k : Int) * 10

theorem valueInv_init : ValueInv init :=
  ⟨by simp [init, ProducerPc.InLoop], by simp [init, ConsumerPc.InLoop],
    by simp [init, ProducerPc.writes], by simp [init, ConsumerPc.reads], List.Pairwise.nil,
    by simp [init], by simp [init], by simp [init]⟩

namespace ValueInv

variable {s : State} (h : ValueInv s)
include h

/-- `shared_value` is one of the values the producer writes. -/
theorem shared_mul : ∃ k < 20, s.sharedValue = (k : Int) * 10 :=
  ⟨_, by have := ProducerPc.writes_le h.producer_loop; omega, h.shared_eq⟩

/-- The values part reads only the value, the log, and what the positions count. -/
theorem congr {s' : State} (hv : s'.sharedValue = s.sharedValue) (hc : s'.consumed = s.consumed)
    (hpw : s'.producer.writes = s.producer.writes) (hpl : s'.producer.InLoop ↔ s.producer.InLoop)
    (hcr : s'.consumer.reads = s.consumer.reads) (hcl : s'.consumer.InLoop ↔ s.consumer.InLoop)
    (hcv : s'.consumer.info.val = s.consumer.info.val) : ValueInv s' :=
  ⟨hpl.2 h.1, hcl.2 h.2, by rw [hv, hpw]; exact h.3, by rw [hc, hcr]; exact h.4, hc ▸ h.5,
    by rw [hc, hv]; exact h.6, hc ▸ h.7, by rw [hcv, hc, hv]; exact h.8⟩

/-- Waking a thread does not change what it counts. -/
theorem wake (w : Option Tid) : ValueInv (s.wake w) := by
  rcases w with _ | _ | _
  · exact h
  · refine h.congr rfl rfl ?_ ?_ rfl Iff.rfl rfl <;>
      cases e : s.producer <;> simp [State.wake, ProducerPc.wake, ProducerPc.writes,
        ProducerPc.InLoop, e]
  · refine h.congr rfl rfl rfl Iff.rfl ?_ ?_ ?_ <;>
      cases e : s.consumer <;> simp [State.wake, ConsumerPc.wake, ConsumerPc.reads,
        ConsumerPc.InLoop, e]

end ValueInv

theorem valueInv_producerEntry {s s' : State} (h : ValueInv s) (hs : producerEntry s = some s') :
    ValueInv s' := by
  unfold producerEntry at hs
  have hl := h.producer_loop
  cases hpc : s.producer with
  | waitLock | done => simp [hpc] at hs
  | lock i =>
    simp only [hpc, Option.some.injEq] at hs
    subst hs
    refine h.congr rfl rfl ?_ ?_ rfl Iff.rfl rfl <;> split <;>
      simp [hpc, ProducerPc.writes, ProducerPc.InLoop]
  | write i =>
    simp only [hpc, Option.some.injEq] at hs
    subst hs
    have hle : s.sharedValue ≤ (i : Int) * 10 := by
      rw [h.shared_eq]
      simp only [hpc, ProducerPc.writes, ProducerPc.info_write, Bool.false_eq_true, ite_false,
        Bool.toNat_false, Nat.add_zero]
      omega
    exact ⟨by simpa [ProducerPc.InLoop, hpc] using hl, h.consumer_loop,
      by simp [ProducerPc.writes], h.consumed_len, h.sorted,
      fun v hv => Int.le_trans (h.consumed_le v hv) hle, h.consumed_mul,
      fun v hv => (h.val_inv v hv).imp_right (And.imp_left (Int.le_trans · hle))⟩
  | unlock i =>
    simp only [hpc, Option.some.injEq] at hs
    subst hs
    refine ValueInv.wake (h.congr ?_ ?_ ?_ ?_ ?_ ?_ ?_) _ <;>
      simp [hpc, ProducerPc.writes, ProducerPc.InLoop]
  | give i =>
    simp only [hpc, Option.some.injEq] at hs
    subst hs
    have hi : i < 20 := by simpa [ProducerPc.InLoop, hpc] using hl
    refine ValueInv.wake (h.congr ?_ ?_ ?_ ?_ ?_ ?_ ?_) _ <;> (try split) <;>
      simp [hpc, ProducerPc.writes, ProducerPc.InLoop] <;> omega

theorem valueInv_consumerEntry {s s' : State} (h : ValueInv s) (hs : consumerEntry s = some s') :
    ValueInv s' := by
  unfold consumerEntry at hs
  have hl := h.consumer_loop
  cases hpc : s.consumer with
  | waitTake | waitLock | done => simp [hpc] at hs
  | take i | lock i =>
    simp only [hpc, Option.some.injEq] at hs
    subst hs
    refine h.congr rfl rfl rfl Iff.rfl ?_ ?_ ?_ <;> split <;>
      simp [hpc, ConsumerPc.reads, ConsumerPc.InLoop]
  | read i =>
    simp only [hpc, Option.some.injEq] at hs
    subst hs
    exact ⟨h.producer_loop, by simpa [ConsumerPc.InLoop, hpc] using hl, h.shared_eq,
      by simp [h.consumed_len, hpc, ConsumerPc.reads], h.sorted, h.consumed_le, h.consumed_mul,
      fun v hv => by
        obtain rfl : s.sharedValue = v := by simpa using hv
        exact ⟨h.consumed_le, Int.le_refl _, h.shared_mul⟩⟩
  | unlock i v =>
    simp only [hpc, Option.some.injEq] at hs
    subst hs
    refine ValueInv.wake (h.congr ?_ ?_ ?_ ?_ ?_ ?_ ?_) _ <;>
      simp [hpc, ConsumerPc.reads, ConsumerPc.InLoop]
  | print i v =>
    simp only [hpc, Option.some.injEq] at hs
    subst hs
    have hi : i < 20 := by simpa [ConsumerPc.InLoop, hpc] using hl
    obtain ⟨hv1, hv2, hv3⟩ := h.val_inv v (by simp [hpc])
    have hnext : (if i + 1 < 20 then ConsumerPc.take (i + 1) else .done).InLoop ∧
        (if i + 1 < 20 then ConsumerPc.take (i + 1) else .done).reads = i + 1 ∧
        (if i + 1 < 20 then ConsumerPc.take (i + 1) else .done).info.val = none := by
      split <;> simp [ConsumerPc.reads, ConsumerPc.InLoop] <;> omega
    refine ⟨h.producer_loop, hnext.1, h.shared_eq, ?_, ?_, ?_, ?_, ?_⟩
    · rw [hnext.2.1]; simp [h.consumed_len, hpc, ConsumerPc.reads]
    · exact List.pairwise_append.2 ⟨h.sorted, List.pairwise_singleton _ _,
        fun a ha b hb => (List.mem_singleton.1 hb) ▸ hv1 a ha⟩
    · simpa [or_imp, forall_and] using ⟨h.consumed_le, hv2⟩
    · simpa [or_imp, forall_and] using ⟨h.consumed_mul, hv3⟩
    · simp [hnext.2.2]

/-! ## `main` -/

/-- What `main` knows once past a join. -/
def MainInv (s : State) : Prop :=
  (s.main ≠ .joinProducer → s.producer = .done) ∧ (s.main = .done → s.consumer = .done)

theorem mainInv_producerEntry {s s' : State} (h : MainInv s) (hs : producerEntry s = some s') :
    MainInv s' := by
  have hm : s.main = .joinProducer := by
    by_contra hm
    simp [producerEntry, h.1 hm] at hs
  have hm' : s'.main = s.main := by
    unfold producerEntry at hs
    split at hs <;> simp only [Option.some.injEq, reduceCtorEq] at hs <;> subst hs <;> simp
  simp [MainInv, hm', hm]

theorem mainInv_consumerEntry {s s' : State} (h : MainInv s) (hs : consumerEntry s = some s') :
    MainInv s' := by
  have hm : s.main ≠ .done := fun hm => by simp [consumerEntry, h.2 hm] at hs
  have hf : s'.main = s.main ∧ (s.producer = .done → s'.producer = .done) := by
    unfold consumerEntry at hs
    split at hs <;> simp only [Option.some.injEq, reduceCtorEq] at hs <;> subst hs
    case h_4 => exact ⟨by simp, fun e => wake_producer_done _ e⟩
    all_goals simp
  exact ⟨fun e => hf.2 (h.1 (hf.1 ▸ e)), fun e => absurd (hf.1 ▸ e) hm⟩

theorem mainInv_mainStep {s s' : State} (h : MainInv s) (hs : mainStep s = some s') :
    MainInv s' := by
  unfold mainStep at hs
  split at hs <;> (try split at hs) <;> simp only [Option.some.injEq, reduceCtorEq] at hs <;>
    subst hs <;> simp_all [MainInv]

/-! ## The invariant -/

/-- What holds in every reachable state. -/
structure Inv (s : State) : Prop where
  locks : LockInv s
  values : ValueInv s
  main : MainInv s

theorem inv_mainStep {s s' : State} (h : Inv s) (hs : mainStep s = some s') : Inv s' := by
  obtain ⟨⟨l1, l2, l3, l4, l5⟩, ⟨v1, v2, v3, v4, v5, v6, v7, v8⟩, hm⟩ := h
  refine ⟨?_, ?_, mainInv_mainStep hm hs⟩ <;> unfold mainStep at hs <;>
    split at hs <;> (try split at hs) <;> simp only [Option.some.injEq, reduceCtorEq] at hs <;>
    subst hs
  exacts [⟨l1, l2, l3, l4, l5⟩, ⟨l1, l2, l3, l4, l5⟩, ⟨v1, v2, v3, v4, v5, v6, v7, v8⟩,
    ⟨v1, v2, v3, v4, v5, v6, v7, v8⟩]

theorem inv_holds : program.Invariant Inv where
  init := ⟨lockInv_init, valueInv_init, by simp [MainInv, program, init]⟩
  step a h hs := by
    cases a with
    | producer =>
      exact ⟨lockInv_producerEntry h.locks hs, valueInv_producerEntry h.values hs,
        mainInv_producerEntry h.main hs⟩
    | consumer =>
      exact ⟨lockInv_consumerEntry h.locks hs, valueInv_consumerEntry h.values hs,
        mainInv_consumerEntry h.main hs⟩
    | main => exact inv_mainStep h hs

end Tracing
end ZephyrGuide
