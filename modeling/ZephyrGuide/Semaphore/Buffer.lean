import ZephyrGuide.Semaphore.Model

/-!
# The bounded buffer never overflows, and hands the items over in order

The argument is the usual one for a semaphore-guarded ring, made exact.  Write `P` for the
number of items produced and `C` for the number consumed (the lengths of the two printk logs),
so that `P - C` items sit in the buffer.  Every one of the five slots is accounted for exactly
once:

* as a unit of `empty_slots`, or held by a thread between taking it and using it (the producer
  after `k_sem_take(&empty_slots)`, before its write), or between using it and giving it on (the
  consumer after its read, before `k_sem_give(&empty_slots)`), or as an item in the buffer;
* symmetrically for the `P - C` items and `full_slots`.

That is `Inv.empty_units` and `Inv.full_units`.  The rest of `Inv` pins down the kernel objects
(who waits where, who owns the mutex) and the buffer's contents (item `k + 1` is in slot
`k % BUFFER_SIZE` until it is read).  From it:

* the `k`-th item the consumer prints is `k`, at index `(k - 1) % BUFFER_SIZE`;
* `write_idx = P % 5`, `read_idx = C % 5` and `0 ≤ P - C ≤ 5`, and when the producer writes, the
  slot it writes holds no item the consumer has not read;
* no `k_sem_give` is made on a semaphore whose count is at its limit: no unit is ever absorbed.
-/

set_option autoImplicit false

namespace ZephyrGuide
namespace Semaphore

/-! ## What a thread's position says about the units it holds -/

/-- What the invariant reads off a thread's position. -/
structure PcInfo where
  /-- Has taken a unit of the semaphore it waits on, and not used it yet. -/
  holdsTaken : Bool
  /-- Has made this iteration's buffer access, and not yet given the unit on. -/
  accessed : Bool
  /-- Owns `buffer_mutex`. -/
  inCs : Bool
  /-- Blocked in `k_sem_take`. -/
  waitsTake : Bool
  /-- Blocked in `k_mutex_lock`. -/
  waitsLock : Bool
  /-- Has returned. -/
  done : Bool
  /-- The loop variable (`0` once returned). -/
  iter : Nat

namespace Pc

/-- The facts about a position the invariant uses. -/
def info : Pc → PcInfo
  | .take i => ⟨false, false, false, false, false, false, i⟩
  | .waitTake i => ⟨false, false, false, true, false, false, i⟩
  | .lock i => ⟨true, false, false, false, false, false, i⟩
  | .waitLock i => ⟨true, false, false, false, true, false, i⟩
  | .access i => ⟨true, false, true, false, false, false, i⟩
  | .unlock i => ⟨false, true, true, false, false, false, i⟩
  | .give i => ⟨false, true, false, false, false, false, i⟩
  | .done => ⟨false, false, false, false, false, true, 0⟩

@[simp] theorem info_take (i : Nat) : (take i).info = ⟨false, false, false, false, false, false, i⟩ := rfl
@[simp] theorem info_waitTake (i : Nat) :
    (waitTake i).info = ⟨false, false, false, true, false, false, i⟩ := rfl
@[simp] theorem info_lock (i : Nat) : (lock i).info = ⟨true, false, false, false, false, false, i⟩ := rfl
@[simp] theorem info_waitLock (i : Nat) :
    (waitLock i).info = ⟨true, false, false, false, true, false, i⟩ := rfl
@[simp] theorem info_access (i : Nat) : (access i).info = ⟨true, false, true, false, false, false, i⟩ := rfl
@[simp] theorem info_unlock (i : Nat) : (unlock i).info = ⟨false, true, true, false, false, false, i⟩ := rfl
@[simp] theorem info_give (i : Nat) : (give i).info = ⟨false, true, false, false, false, false, i⟩ := rfl
@[simp] theorem info_done : done.info = ⟨false, false, false, false, false, true, 0⟩ := rfl

/-- How many buffer accesses a thread whose loop starts at `first` has made. -/
def accesses (first : Nat) (pc : Pc) : Nat :=
  if pc.info.done then 15 else pc.info.iter - first + pc.info.accessed.toNat

/-- The loop variable is in the range `for (i = first; i < first + 15; i++)` runs it over. -/
def InLoop (first : Nat) (pc : Pc) : Prop :=
  pc.info.done ∨ first ≤ pc.info.iter ∧ pc.info.iter < first + 15

theorem waitsTake_iff {pc : Pc} : pc.info.waitsTake ↔ ∃ i, pc = waitTake i := by
  cases pc <;> simp

theorem waitsLock_iff {pc : Pc} : pc.info.waitsLock ↔ ∃ i, pc = waitLock i := by
  cases pc <;> simp

theorem not_waitsLock_of_inCs {pc : Pc} (h : pc.info.inCs) : pc.info.waitsLock = false := by
  cases pc <;> simp_all

theorem accesses_le {first : Nat} {pc : Pc} (h : pc.InLoop first) : pc.accesses first ≤ 15 := by
  unfold accesses InLoop at *
  split <;> simp_all
  cases pc.info.accessed <;> simp <;> omega

end Pc

/-! ## The invariant -/

/-- Everything that holds in every reachable state.  `P` and `C` are `s.produced.length` and
`s.consumed.length`. -/
structure Inv (s : State) : Prop where
  produced_eq : s.produced = (List.range s.produced.length).map fun k => (k + 1, k % BUFFER_SIZE)
  consumed_eq : s.consumed = (List.range s.consumed.length).map fun k => (k + 1, k % BUFFER_SIZE)
  writeIdx_eq : s.writeIdx = s.produced.length % BUFFER_SIZE
  readIdx_eq : s.readIdx = s.consumed.length % BUFFER_SIZE
  /-- Item `k + 1` sits in slot `k % BUFFER_SIZE` until the consumer reads it. -/
  buffer_eq : ∀ k, s.consumed.length ≤ k → k < s.produced.length →
    s.buffer (k % BUFFER_SIZE) = k + 1
  producer_accesses : s.producer.accesses 1 = s.produced.length
  consumer_accesses : s.consumer.accesses 0 = s.consumed.length
  producer_loop : s.producer.InLoop 1
  consumer_loop : s.consumer.InLoop 0
  consumed_le : s.consumed.length ≤ s.produced.length
  empty_units : s.emptySlots.count + s.producer.info.holdsTaken.toNat +
    s.consumer.info.accessed.toNat + (s.produced.length - s.consumed.length) = BUFFER_SIZE
  full_units : s.fullSlots.count + s.producer.info.accessed.toNat +
    s.consumer.info.holdsTaken.toNat = s.produced.length - s.consumed.length
  empty_limit : s.emptySlots.limit = BUFFER_SIZE
  full_limit : s.fullSlots.limit = BUFFER_SIZE
  empty_waitq : s.emptySlots.waitq = if s.producer.info.waitsTake then [.producer] else []
  full_waitq : s.fullSlots.waitq = if s.consumer.info.waitsTake then [.consumer] else []
  owner_eq : s.bufferMutex.owner =
    if s.producer.info.inCs then some .producer
    else if s.consumer.info.inCs then some .consumer else none
  not_both_inCs : ¬ (s.producer.info.inCs ∧ s.consumer.info.inCs)
  lockCount_le : s.bufferMutex.lockCount ≤ 1
  mutex_waitq : s.bufferMutex.waitq =
    (if s.producer.info.waitsLock then [.producer] else []) ++
      (if s.consumer.info.waitsLock then [.consumer] else [])

theorem inv_init : Inv init := by
  refine ⟨rfl, rfl, rfl, rfl, fun k h h' => by simp [init] at h', rfl, rfl, ?_, ?_, Nat.le_refl _,
    rfl, rfl, rfl, rfl, rfl, rfl, rfl, by simp [init], by simp [init, KMutex.define], rfl⟩
  all_goals simp [init, Pc.InLoop]


/-! ## Every step keeps the invariant

One lemma per thread.  Each case is one statement of the thread's loop.  The state is taken apart
so that both positions are constructors, and the new invariant is `{ hs with … }`: a field the
statement cannot affect is carried over as it is, and only the fields it changes are
re-established, by `omega` from the old ones.  A `give` or an `unlock` that wakes the other
thread is split on whether it is waiting, which the invariant reads off its position. -/

/-- The position after a `give`: back at the top of the loop, or returned.  It holds nothing. -/
theorem Pc.next_info (b : Prop) [Decidable b] (j : Nat) :
    (if b then take j else done).info.holdsTaken = false ∧
    (if b then take j else done).info.accessed = false ∧
    (if b then take j else done).info.inCs = false ∧
    (if b then take j else done).info.waitsTake = false ∧
    (if b then take j else done).info.waitsLock = false := by
  split <;> simp

theorem inv_producerEntry {s t : State} (hs : Inv s) (h : producerEntry s = some t) : Inv t := by
  obtain ⟨buf, wI, rI, E, F, M, p, c, m, prod, cons⟩ := s
  cases p <;> simp only [producerEntry, Option.some.injEq, reduceCtorEq] at h <;> subst h
  case take i =>
    rcases Nat.eq_zero_or_pos E.count with hc | hc
    · -- `empty_slots` is zero: the producer joins its queue
      obtain ⟨h1, hq, h2⟩ := KSem.take_of_zero (t := Tid.producer) hc
      simp only [h2, Bool.false_eq_true, ite_false]
      exact { hs with
        empty_units := h1.trans hc.symm ▸ hs.empty_units
        empty_limit := (KSem.take_limit _ _).trans hs.empty_limit
        empty_waitq := by rw [hq, hs.empty_waitq]; rfl }
    · have hE : E.count + 0 + c.info.accessed.toNat + (prod.length - cons.length) = BUFFER_SIZE :=
        hs.empty_units
      obtain ⟨h1, hq, h2⟩ := KSem.take_of_pos (t := Tid.producer) hc
      simp only [h2, ite_true]
      exact { hs with
        empty_units := by simp only [h1, Pc.info_lock, Bool.toNat_true]; omega
        empty_limit := (KSem.take_limit _ _).trans hs.empty_limit
        empty_waitq := hq.trans hs.empty_waitq }
  case lock i =>
    cases hci : c.info.inCs
    · -- the mutex is free
      have hO : M.owner = none := by simpa [hci] using hs.owner_eq
      obtain ⟨h1, h2, h3, h4⟩ := KMutex.lock_of_free (t := Tid.producer) hO
      simp only [h4, ite_true]
      exact { hs with
        owner_eq := h1
        not_both_inCs := by simp [hci]
        lockCount_le := Nat.le_of_eq h2
        mutex_waitq := h3.trans ((M.waitq_of_free hO).symm.trans hs.mutex_waitq) }
    · -- the consumer holds it: the producer joins the mutex's queue
      have hO : M.owner = some .consumer := by simpa [hci] using hs.owner_eq
      obtain ⟨h1, h2, h3, h4⟩ := KMutex.lock_of_other (t := Tid.producer) hO (by decide)
      simp only [h4, Bool.false_eq_true, ite_false]
      exact { hs with
        owner_eq := (h1.trans hO.symm).trans hs.owner_eq
        lockCount_le := h2.trans_le hs.lockCount_le
        mutex_waitq := h3.trans (by rw [hs.mutex_waitq, Pc.not_waitsLock_of_inCs hci]; rfl) }
  case access i =>
    have hPa := hs.producer_accesses
    have hPl := hs.producer_loop
    have hE := hs.empty_units
    have hF := hs.full_units
    have hle := hs.consumed_le
    have hP := hs.produced_eq
    have hW := hs.writeIdx_eq
    have hB := hs.buffer_eq
    simp only [Pc.accesses, Pc.InLoop, Pc.info_access, Bool.false_eq_true, false_or, ite_false,
      Bool.toNat_true, Bool.toNat_false] at hPa hPl hE hF hle hP hW hB
    obtain rfl : i = prod.length + 1 := by omega
    exact { hs with
      produced_eq := by
        simp only [List.length_append, List.length_singleton, List.range_succ, List.map_append]
        rw [← hP, hW]; rfl
      writeIdx_eq := by simp only [List.length_append, List.length_singleton, hW, BUFFER_SIZE]; omega
      buffer_eq := by
        intro k hk hk'
        simp only [List.length_append, List.length_singleton] at hk hk' ⊢
        by_cases hkp : k = prod.length
        · rw [hkp, hW, Function.update_same]
        · have hne : k % BUFFER_SIZE ≠ wI := by simp only [hW, BUFFER_SIZE] at hE ⊢; omega
          rw [Function.update_noteq hne]
          exact hB k hk (by omega)
      producer_accesses := by simp [Pc.accesses]
      consumed_le := by simp only [List.length_append, List.length_singleton]; omega
      empty_units := by simp only [List.length_append, List.length_singleton, Pc.info_unlock,
        Bool.toNat_false, BUFFER_SIZE] at hE ⊢; omega
      full_units := by simp only [List.length_append, List.length_singleton, Pc.info_unlock,
        Bool.toNat_true]; omega }
  case unlock i =>
    have hO : M.owner = some .producer := hs.owner_eq
    have hL : M.lockCount ≤ 1 := hs.lockCount_le
    have hc1 : M.lockCount = 1 := by have := KMutex.lockCount_of_owner hO; omega
    cases hcw : c.info.waitsLock
    · -- nobody waits for the mutex
      have hMw : M.waitq = [] := by simpa [hcw] using hs.mutex_waitq
      have hcin : c.info.inCs = false := by simpa using hs.not_both_inCs
      obtain ⟨h1, h2, h3, h4⟩ := KMutex.unlock_of_nil hO hc1 hMw
      simp only [h4, State.wake]
      exact { hs with
        owner_eq := h1.trans (by simp [hcin])
        not_both_inCs := by simp
        lockCount_le := h2.trans_le (Nat.zero_le 1)
        mutex_waitq := h3.trans (by simp [hcw]) }
    · -- the consumer waits for it, and gets it
      obtain ⟨j, rfl⟩ := Pc.waitsLock_iff.1 hcw
      obtain ⟨h1, h2, h3, h4⟩ := KMutex.unlock_of_cons hO hc1 (hs.mutex_waitq : M.waitq = [.consumer])
      simp only [h3, State.wake, Pc.wake]
      exact { hs with
        owner_eq := h1
        not_both_inCs := by simp
        lockCount_le := Nat.le_of_eq h4
        mutex_waitq := h2 }
  case give i =>
    have hPa := hs.producer_accesses
    have hPl := hs.producer_loop
    have hE := hs.empty_units
    have hF := hs.full_units
    have hFl : F.limit = BUFFER_SIZE := hs.full_limit
    simp only [Pc.accesses, Pc.InLoop, Pc.info_give, Bool.false_eq_true, false_or, ite_false,
      Bool.toNat_true, Bool.toNat_false] at hPa hPl hE hF
    obtain ⟨n3, n4, n5, n6, n7⟩ := Pc.next_info (i + 1 ≤ 15) (i + 1)
    have n1 : (if i + 1 ≤ 15 then Pc.take (i + 1) else Pc.done).accesses 1 = prod.length ∧
        (if i + 1 ≤ 15 then Pc.take (i + 1) else Pc.done).InLoop 1 := by
      split <;> simp [Pc.accesses, Pc.InLoop] <;> omega
    generalize (if i + 1 ≤ 15 then Pc.take (i + 1) else Pc.done) = q at n1 n3 n4 n5 n6 n7 ⊢
    cases hct : c.info.waitsTake
    · -- nobody waits on `full_slots`
      obtain ⟨h1, h2, h3⟩ := KSem.give_of_waitq_nil (by simpa [hct] using hs.full_waitq)
      simp only [h3, State.wake]
      exact { hs with
        producer_accesses := n1.1
        producer_loop := n1.2
        empty_units := by simp only [n3]; exact hs.empty_units
        full_units := by
          simp only [h1, n4, hFl, BUFFER_SIZE, Bool.toNat_false] at hE ⊢
          rw [if_neg (by omega)]; omega
        full_limit := (KSem.give_limit _).trans hFl
        empty_waitq := by simp only [n6]; exact hs.empty_waitq
        full_waitq := h2.trans (by simp [hct])
        owner_eq := by simp only [n5]; exact hs.owner_eq
        not_both_inCs := by simp only [n5]; exact hs.not_both_inCs
        mutex_waitq := by simp only [n7]; exact hs.mutex_waitq }
    · -- the consumer waits, and gets the unit
      obtain ⟨j, rfl⟩ := Pc.waitsTake_iff.1 hct
      obtain ⟨h1, h2, h3⟩ := KSem.give_of_waitq_cons (hs.full_waitq : F.waitq = [.consumer])
      simp only [h3, State.wake, Pc.wake]
      exact { hs with
        producer_accesses := n1.1
        producer_loop := n1.2
        empty_units := by simp only [n3]; exact hs.empty_units
        full_units := by
          simp only [h1, n4, Pc.info_lock, Pc.info_waitTake, Bool.toNat_false, Bool.toNat_true]
            at hF ⊢
          omega
        full_limit := (KSem.give_limit _).trans hFl
        empty_waitq := by simp only [n6]; exact hs.empty_waitq
        full_waitq := h2
        owner_eq := by simp only [n5]; exact hs.owner_eq
        not_both_inCs := by simp only [n5]; exact hs.not_both_inCs
        mutex_waitq := by simp only [n7]; exact hs.mutex_waitq }


theorem inv_consumerEntry {s t : State} (hs : Inv s) (h : consumerEntry s = some t) : Inv t := by
  obtain ⟨buf, wI, rI, E, F, M, p, c, m, prod, cons⟩ := s
  cases c <;> simp only [consumerEntry, Option.some.injEq, reduceCtorEq] at h <;> subst h
  case take i =>
    rcases Nat.eq_zero_or_pos F.count with hc | hc
    · -- `full_slots` is zero: the consumer joins its queue
      obtain ⟨h1, hq, h2⟩ := KSem.take_of_zero (t := Tid.consumer) hc
      simp only [h2, Bool.false_eq_true, ite_false]
      exact { hs with
        full_units := h1.trans hc.symm ▸ hs.full_units
        full_limit := (KSem.take_limit _ _).trans hs.full_limit
        full_waitq := by rw [hq, hs.full_waitq]; rfl }
    · have hF : F.count + p.info.accessed.toNat + 0 = prod.length - cons.length := hs.full_units
      obtain ⟨h1, hq, h2⟩ := KSem.take_of_pos (t := Tid.consumer) hc
      simp only [h2, ite_true]
      exact { hs with
        full_units := by simp only [h1, Pc.info_lock, Bool.toNat_true]; omega
        full_limit := (KSem.take_limit _ _).trans hs.full_limit
        full_waitq := hq.trans hs.full_waitq }
  case lock i =>
    cases hpi : p.info.inCs
    · -- the mutex is free
      have hO : M.owner = none := by simpa [hpi] using hs.owner_eq
      obtain ⟨h1, h2, h3, h4⟩ := KMutex.lock_of_free (t := Tid.consumer) hO
      simp only [h4, ite_true]
      exact { hs with
        owner_eq := h1.trans (by simp [hpi])
        not_both_inCs := by simp [hpi]
        lockCount_le := Nat.le_of_eq h2
        mutex_waitq := h3.trans ((M.waitq_of_free hO).symm.trans hs.mutex_waitq) }
    · -- the producer holds it: the consumer joins the mutex's queue
      have hO : M.owner = some .producer := by simpa [hpi] using hs.owner_eq
      obtain ⟨h1, h2, h3, h4⟩ := KMutex.lock_of_other (t := Tid.consumer) hO (by decide)
      simp only [h4, Bool.false_eq_true, ite_false]
      exact { hs with
        owner_eq := (h1.trans hO.symm).trans hs.owner_eq
        lockCount_le := h2.trans_le hs.lockCount_le
        mutex_waitq := h3.trans (by rw [hs.mutex_waitq, Pc.not_waitsLock_of_inCs hpi]; rfl) }
  case access i =>
    have hCa := hs.consumer_accesses
    have hE := hs.empty_units
    have hF := hs.full_units
    have hC := hs.consumed_eq
    have hR := hs.readIdx_eq
    have hB := hs.buffer_eq
    simp only [Pc.accesses, Pc.info_access, Bool.false_eq_true, ite_false, Bool.toNat_true,
      Bool.toNat_false] at hCa hE hF hC hR hB
    obtain rfl : i = cons.length := by omega
    have hlt : cons.length < prod.length := by omega
    exact { hs with
      consumed_eq := by
        simp only [List.length_append, List.length_singleton, List.range_succ, List.map_append]
        rw [← hC, hR, hB _ (Nat.le_refl _) hlt]; rfl
      readIdx_eq := by simp only [List.length_append, List.length_singleton, hR, BUFFER_SIZE]; omega
      buffer_eq := by
        intro k hk hk'
        simp only [List.length_append, List.length_singleton] at hk hk' ⊢
        exact hB k (by omega) hk'
      consumer_accesses := by simp [Pc.accesses]
      consumed_le := by simp only [List.length_append, List.length_singleton]; omega
      empty_units := by simp only [List.length_append, List.length_singleton, Pc.info_unlock,
        Bool.toNat_true] at hE ⊢; omega
      full_units := by simp only [List.length_append, List.length_singleton, Pc.info_unlock,
        Bool.toNat_false]; omega }
  case unlock i =>
    have hpc : p.info.inCs = false := by simpa using hs.not_both_inCs
    have hO : M.owner = some .consumer := by simpa [hpc] using hs.owner_eq
    have hL : M.lockCount ≤ 1 := hs.lockCount_le
    have hc1 : M.lockCount = 1 := by have := KMutex.lockCount_of_owner hO; omega
    cases hpw : p.info.waitsLock
    · -- nobody waits for the mutex
      have hMw : M.waitq = [] := by simpa [hpw] using hs.mutex_waitq
      obtain ⟨h1, h2, h3, h4⟩ := KMutex.unlock_of_nil hO hc1 hMw
      simp only [h4, State.wake]
      exact { hs with
        owner_eq := h1.trans (by simp [hpc])
        not_both_inCs := by simp
        lockCount_le := h2.trans_le (Nat.zero_le 1)
        mutex_waitq := h3.trans (by simp [hpw]) }
    · -- the producer waits for it, and gets it
      obtain ⟨j, rfl⟩ := Pc.waitsLock_iff.1 hpw
      obtain ⟨h1, h2, h3, h4⟩ := KMutex.unlock_of_cons hO hc1 (hs.mutex_waitq : M.waitq = [.producer])
      simp only [h3, State.wake, Pc.wake]
      exact { hs with
        owner_eq := h1
        not_both_inCs := by simp
        lockCount_le := Nat.le_of_eq h4
        mutex_waitq := h2 }
  case give i =>
    have hCa := hs.consumer_accesses
    have hCl := hs.consumer_loop
    have hE := hs.empty_units
    have hF := hs.full_units
    have hEl : E.limit = BUFFER_SIZE := hs.empty_limit
    simp only [Pc.accesses, Pc.InLoop, Pc.info_give, Bool.false_eq_true, false_or, ite_false,
      Bool.toNat_true, Bool.toNat_false] at hCa hCl hE hF
    obtain ⟨n3, n4, n5, n6, n7⟩ := Pc.next_info (i + 1 < 15) (i + 1)
    have n1 : (if i + 1 < 15 then Pc.take (i + 1) else Pc.done).accesses 0 = cons.length ∧
        (if i + 1 < 15 then Pc.take (i + 1) else Pc.done).InLoop 0 := by
      split <;> simp [Pc.accesses, Pc.InLoop] <;> omega
    generalize (if i + 1 < 15 then Pc.take (i + 1) else Pc.done) = q at n1 n3 n4 n5 n6 n7 ⊢
    cases hpt : p.info.waitsTake
    · -- nobody waits on `empty_slots`
      obtain ⟨h1, h2, h3⟩ := KSem.give_of_waitq_nil (by simpa [hpt] using hs.empty_waitq)
      simp only [h3, State.wake]
      exact { hs with
        consumer_accesses := n1.1
        consumer_loop := n1.2
        full_units := by simp only [n3]; exact hs.full_units
        empty_units := by
          simp only [h1, n4, hEl, BUFFER_SIZE, Bool.toNat_false] at hE ⊢
          rw [if_neg (by omega)]; omega
        empty_limit := (KSem.give_limit _).trans hEl
        full_waitq := by simp only [n6]; exact hs.full_waitq
        empty_waitq := h2.trans (by simp [hpt])
        owner_eq := by simp only [n5]; exact hs.owner_eq
        not_both_inCs := by simp only [n5]; exact hs.not_both_inCs
        mutex_waitq := by simp only [n7]; exact hs.mutex_waitq }
    · -- the producer waits, and gets the unit
      obtain ⟨j, rfl⟩ := Pc.waitsTake_iff.1 hpt
      obtain ⟨h1, h2, h3⟩ := KSem.give_of_waitq_cons (hs.empty_waitq : E.waitq = [.producer])
      simp only [h3, State.wake, Pc.wake]
      exact { hs with
        consumer_accesses := n1.1
        consumer_loop := n1.2
        full_units := by simp only [n3]; exact hs.full_units
        empty_units := by
          simp only [h1, n4, Pc.info_lock, Pc.info_waitTake, Bool.toNat_false, Bool.toNat_true]
            at hE ⊢
          omega
        empty_limit := (KSem.give_limit _).trans hEl
        full_waitq := by simp only [n6]; exact hs.full_waitq
        empty_waitq := h2
        owner_eq := by simp only [n5]; exact hs.owner_eq
        not_both_inCs := by simp only [n5]; exact hs.not_both_inCs
        mutex_waitq := by simp only [n7]; exact hs.mutex_waitq }


/-- `main` moves nothing the invariant reads. -/
theorem Inv.setMain {s : State} (hs : Inv s) (m : MainPc) : Inv { s with main := m } := by
  cases hs; constructor <;> assumption

theorem inv_mainStep {s t : State} (hs : Inv s) (h : mainStep s = some t) : Inv t := by
  unfold mainStep at h
  split at h <;> (try split at h) <;> simp only [Option.some.injEq, reduceCtorEq] at h <;>
    subst h <;> exact hs.setMain _

theorem inv_holds : program.Invariant Inv where
  init := inv_init
  step a hs h := by
    cases a
    · exact inv_producerEntry hs h
    · exact inv_consumerEntry hs h
    · exact inv_mainStep hs h

/-! ## The buffer -/

/-- **The bounded buffer, in every interleaving.**  In every reachable state: the consumer has
printed the items `1, 2, …` in order, each from index `(k - 1) % 5`, and at most 15 of them;
`write_idx` and `read_idx` are the counts of writes and reads modulo 5, with at most 5 items in
between; a producer about to write finds no unread item in the slot; and neither thread is about
to give to a semaphore already at its limit. -/
theorem bounded_buffer_fifo (s : State) (hs : program.Reachable s) :
    s.consumed = (List.range s.consumed.length).map (fun k => (k + 1, k % BUFFER_SIZE)) ∧
      s.consumed.length ≤ 15 ∧
    s.writeIdx = s.produced.length % BUFFER_SIZE ∧ s.readIdx = s.consumed.length % BUFFER_SIZE ∧
      s.consumed.length ≤ s.produced.length ∧ s.produced.length ≤ s.consumed.length + BUFFER_SIZE ∧
      (∀ i, s.producer = .access i → ∀ item ∈ s.produced.drop s.consumed.length,
        item.2 ≠ s.writeIdx) ∧
    (∀ i, s.producer = .give i → s.fullSlots.count < s.fullSlots.limit) ∧
      (∀ i, s.consumer = .give i → s.emptySlots.count < s.emptySlots.limit) := by
  have hi := inv_holds.holds hs
  have hE := hi.empty_units
  have hF := hi.full_units
  refine ⟨hi.consumed_eq, hi.consumer_accesses ▸ Pc.accesses_le hi.consumer_loop, hi.writeIdx_eq,
    hi.readIdx_eq, hi.consumed_le, by simp only [BUFFER_SIZE] at *; omega, ?_, ?_, ?_⟩
  · intro i hp item hitem
    rw [List.mem_drop_iff_getElem] at hitem
    obtain ⟨j, hj, rfl⟩ := hitem
    simp only [hp, Pc.info_access, Bool.toNat_true] at hE
    rw [List.getElem_of_eq hi.produced_eq, List.getElem_map, List.getElem_range, hi.writeIdx_eq]
    simp only [BUFFER_SIZE] at *
    omega
  · intro i hp
    simp only [hp, Pc.info_give, Bool.toNat_true] at hF
    rw [hi.full_limit]; simp only [BUFFER_SIZE] at *; omega
  · intro i hp
    simp only [hp, Pc.info_give, Bool.toNat_true] at hE
    rw [hi.empty_limit]; simp only [BUFFER_SIZE] at *; omega

/-- Two items produced and one consumed, in one of the interleavings. -/
theorem bounded_buffer_two_items :
    ∃ s, program.Reachable s ∧ s.consumed = [(1, 0)] ∧
      s.produced.length ≤ s.consumed.length + BUFFER_SIZE := by
  obtain ⟨s, hs, h⟩ := program.exists_reachable_of_run
    [.producer, .producer, .producer, .producer, .producer,
     .producer, .producer, .producer, .producer, .producer,
     .consumer, .consumer, .consumer]
    (fun s => s.consumed == [(1, 0)]) (by decide)
  exact ⟨s, hs, by simpa using h, (bounded_buffer_fifo s hs).2.2.2.2.2.1⟩

end Semaphore
end ZephyrGuide
