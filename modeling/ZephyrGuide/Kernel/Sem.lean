import Mathlib.Order.Basic

/-!
# Kernel semaphores

`struct k_sem` as the examples use it: a count, a limit fixed by `K_SEM_DEFINE`, and the queue
of threads blocked in `k_sem_take`.  The kernel's code is not part of the guide; what is modelled
is the contract the examples are written against.

* `KSem.give` is `k_sem_give`.  If a thread is waiting, the unit goes straight to it: the
  waiter is removed from the queue and returned, to be made ready by the caller, and the count
  does not move.  Otherwise the count goes up by one — unless it already equals the limit, in
  which case the give is absorbed.  This saturation is what a binary semaphore (limit 1) is for,
  and what several of the examples trip over.
* `KSem.take` is `k_sem_take(sem, K_FOREVER)`: a unit if there is one, else the caller joins the
  queue.  `KSem.timeout` takes a thread out of the queue when a finite timeout expires.
  `KSem.tryTake` is `k_sem_take(sem, K_NO_WAIT)`, which fails with `-EBUSY` instead of waiting.

Waiters join at the tail.  The kernel orders its wait queues by priority first; in every
example of the guide each semaphore has at most one thread that ever takes it, so the order
among waiters never arises.

The two invariants of the object are fields: the count never passes the limit, and nobody waits
while a unit is available.

Modelled from the spec: `k_sem` is kernel code, absent from `src/`; this is the semaphore of the
specification's §4.4 (a give clamped at the limit, or handed to a waiter; a take that blocks on
zero), over the wait queue of its §4.1.
-/

set_option autoImplicit false

namespace ZephyrGuide

/-- Modelled from the spec (§4.4, the kernel's code is not in `src/`): a kernel semaphore whose
waiters are threads of type `τ`. -/
structure KSem (τ : Type) where
  count : Nat
  limit : Nat
  waitq : List τ
  count_le : count ≤ limit
  waitq_of_pos : 0 < count → waitq = []
  deriving DecidableEq, Repr

namespace KSem

variable {τ : Type}

/-- `K_SEM_DEFINE(name, initial_count, count_limit)`. -/
def define (initialCount countLimit : Nat) (h : initialCount ≤ countLimit) : KSem τ :=
  ⟨initialCount, countLimit, [], h, fun _ => rfl⟩

/-- `k_sem_give`: hand the unit to the first waiter, or count it unless the count is at the
limit.  The second component is the thread made ready. -/
def give (s : KSem τ) : KSem τ × Option τ :=
  match h : s.waitq with
  | t :: rest =>
    (⟨s.count, s.limit, rest, s.count_le, fun hp => absurd (s.waitq_of_pos hp) (by simp [h])⟩,
      some t)
  | [] =>
    (⟨if s.count = s.limit then s.count else s.count + 1, s.limit, [],
      by split <;> have := s.count_le <;> omega, fun _ => rfl⟩, none)

/-- `k_sem_take(sem, K_FOREVER)` by thread `t`: `true` when a unit was taken, `false` when `t`
joined the queue and sleeps until a `give` hands it one. -/
def take (s : KSem τ) (t : τ) : KSem τ × Bool :=
  if h : 0 < s.count then
    (⟨s.count - 1, s.limit, s.waitq, by have := s.count_le; omega,
      fun _ => s.waitq_of_pos h⟩, true)
  else
    (⟨s.count, s.limit, s.waitq ++ [t], s.count_le, fun hp => absurd hp h⟩, false)

/-- `k_sem_take(sem, K_NO_WAIT)`: `true` when a unit was taken, `false` (`-EBUSY`) when there
was none. -/
def tryTake (s : KSem τ) : KSem τ × Bool :=
  if h : 0 < s.count then
    (⟨s.count - 1, s.limit, s.waitq, by have := s.count_le; omega, fun _ => s.waitq_of_pos h⟩, true)
  else (s, false)

/-- The timeout of a `k_sem_take` with a finite wait expires: `t` leaves the queue. -/
def timeout [DecidableEq τ] (s : KSem τ) (t : τ) : KSem τ :=
  ⟨s.count, s.limit, s.waitq.erase t, s.count_le,
    fun hp => by simp [s.waitq_of_pos hp]⟩

/-! ## What each operation does -/

variable {s : KSem τ} {t : τ} {rest : List τ}

@[simp] theorem define_count (c l : Nat) (h : c ≤ l) : (define c l h : KSem τ).count = c := rfl
@[simp] theorem define_limit (c l : Nat) (h : c ≤ l) : (define c l h : KSem τ).limit = l := rfl
@[simp] theorem define_waitq (c l : Nat) (h : c ≤ l) : (define c l h : KSem τ).waitq = [] := rfl

@[simp] theorem give_limit (s : KSem τ) : s.give.1.limit = s.limit := by
  unfold give; split <;> rfl

@[simp] theorem take_limit (s : KSem τ) (t : τ) : (s.take t).1.limit = s.limit := by
  unfold take; split <;> rfl

theorem give_of_waitq_cons (h : s.waitq = t :: rest) :
    s.give.1.count = s.count ∧ s.give.1.waitq = rest ∧ s.give.2 = some t := by
  unfold give; split <;> simp_all

theorem give_of_waitq_nil (h : s.waitq = []) :
    s.give.1.count = (if s.count = s.limit then s.count else s.count + 1) ∧
      s.give.1.waitq = [] ∧ s.give.2 = none := by
  unfold give; split <;> simp_all

theorem take_of_pos (h : 0 < s.count) :
    (s.take t).1.count = s.count - 1 ∧ (s.take t).1.waitq = s.waitq ∧ (s.take t).2 = true := by
  simp [take, h]

theorem take_of_zero (h : s.count = 0) :
    (s.take t).1.count = 0 ∧ (s.take t).1.waitq = s.waitq ++ [t] ∧ (s.take t).2 = false := by
  simp [take, h]

theorem tryTake_of_pos (h : 0 < s.count) :
    s.tryTake.1.count = s.count - 1 ∧ s.tryTake.1.waitq = s.waitq ∧ s.tryTake.2 = true := by
  simp [tryTake, h]

theorem tryTake_of_zero (h : s.count = 0) : s.tryTake = (s, false) := by
  simp [tryTake, h]

@[simp] theorem tryTake_limit (s : KSem τ) : s.tryTake.1.limit = s.limit := by
  unfold tryTake; split <;> rfl

@[simp] theorem timeout_count [DecidableEq τ] (s : KSem τ) (t : τ) :
    (s.timeout t).count = s.count := rfl

@[simp] theorem timeout_waitq [DecidableEq τ] (s : KSem τ) (t : τ) :
    (s.timeout t).waitq = s.waitq.erase t := rfl

/-- A thread in the queue means there is no unit to take. -/
theorem count_eq_zero_of_mem (h : t ∈ s.waitq) : s.count = 0 := by
  by_contra hc
  simp [s.waitq_of_pos (Nat.pos_of_ne_zero hc)] at h

end KSem

end ZephyrGuide
