import Mathlib.Order.Basic

/-!
# Kernel mutexes

`struct k_mutex` as the examples use it: an owner, a lock count for recursive locking, and the
queue of threads blocked in `k_mutex_lock`.

* `KMutex.lock` is `k_mutex_lock(mutex, K_FOREVER)`.  A free mutex is taken with lock count 1,
  the owner locking again only counts up, and anyone else joins the queue.
* `KMutex.unlock` is `k_mutex_unlock`.  Only the owner's call does anything (the kernel returns
  `-EPERM` or `-EINVAL` otherwise, and no example looks at the result).  The last unlock hands
  the mutex to the first waiter, which becomes the owner before it runs again: nobody can take
  the mutex in between.  The new owner is returned, to be made ready by the caller.

Priority inheritance changes which thread the scheduler prefers, not what any step does, so it
does not appear: every order of steps is considered anyway.  As for semaphores, waiters join at
the tail, which matters only with two waiters, and no mutex of the guide ever has more than one.

The invariants are fields: the lock count is zero exactly when there is no owner, and nobody
waits on a free mutex.

Modelled from the spec: `k_mutex` is kernel code, absent from `src/`; this is the mutex of the
specification's §4.5 (recursive locking by the owner, the last unlock handing ownership to the
first waiter atomically), over the wait queue of its §4.1.
-/

set_option autoImplicit false

namespace ZephyrGuide

/-- Modelled from the spec (§4.5, the kernel's code is not in `src/`): a kernel mutex whose owner
and waiters are threads of type `τ`. -/
structure KMutex (τ : Type) where
  owner : Option τ
  lockCount : Nat
  waitq : List τ
  owner_eq_none : owner = none ↔ lockCount = 0
  waitq_of_free : owner = none → waitq = []
  deriving DecidableEq, Repr

namespace KMutex

variable {τ : Type}

/-- `K_MUTEX_DEFINE(name)`: free, nobody waiting. -/
def define : KMutex τ := ⟨none, 0, [], iff_of_true rfl rfl, fun _ => rfl⟩

variable [DecidableEq τ]

/-- `k_mutex_lock(mutex, K_FOREVER)` by `t`: `true` when `t` now holds the mutex, `false` when
it joined the queue. -/
def lock (m : KMutex τ) (t : τ) : KMutex τ × Bool :=
  match h : m.owner with
  | none => (⟨some t, 1, [], iff_of_false nofun nofun, nofun⟩, true)
  | some o =>
    if o = t then (⟨some o, m.lockCount + 1, m.waitq, iff_of_false nofun nofun, nofun⟩, true)
    else (⟨some o, m.lockCount, m.waitq ++ [t], h ▸ m.owner_eq_none, nofun⟩, false)

/-- `k_mutex_unlock` by `t`.  The second component is the waiter that now owns the mutex. -/
def unlock (m : KMutex τ) (t : τ) : KMutex τ × Option τ :=
  if m.owner = some t then
    if hc : 1 < m.lockCount then
      (⟨some t, m.lockCount - 1, m.waitq, iff_of_false nofun (Nat.sub_ne_zero_of_lt hc), nofun⟩, none)
    else
      match m.waitq with
      | w :: rest => (⟨some w, 1, rest, iff_of_false nofun nofun, nofun⟩, some w)
      | [] => (⟨none, 0, [], iff_of_true rfl rfl, fun _ => rfl⟩, none)
  else (m, none)

/-! ## What each operation does -/

omit [DecidableEq τ] in
@[simp] theorem define_owner : (define : KMutex τ).owner = none := rfl
omit [DecidableEq τ] in
@[simp] theorem define_waitq : (define : KMutex τ).waitq = [] := rfl

variable {m : KMutex τ} {t o : τ} {rest : List τ}

theorem lock_of_free (h : m.owner = none) :
    (m.lock t).1.owner = some t ∧ (m.lock t).1.lockCount = 1 ∧ (m.lock t).1.waitq = [] ∧
      (m.lock t).2 = true := by
  unfold lock; split <;> simp_all

theorem lock_of_other (h : m.owner = some o) (ho : o ≠ t) :
    (m.lock t).1.owner = some o ∧ (m.lock t).1.lockCount = m.lockCount ∧
      (m.lock t).1.waitq = m.waitq ++ [t] ∧ (m.lock t).2 = false := by
  unfold lock; split <;> simp_all

/-- The owner's last unlock with nobody waiting frees the mutex. -/
theorem unlock_of_nil (h : m.owner = some t) (hc : m.lockCount = 1) (hq : m.waitq = []) :
    (m.unlock t).1.owner = none ∧ (m.unlock t).1.lockCount = 0 ∧ (m.unlock t).1.waitq = [] ∧
      (m.unlock t).2 = none := by
  simp [unlock, h, hc, hq]

/-- The owner's last unlock with `w` waiting first makes `w` the owner. -/
theorem unlock_of_cons {w : τ} (h : m.owner = some t) (hc : m.lockCount = 1)
    (hq : m.waitq = w :: rest) :
    (m.unlock t).1.owner = some w ∧ (m.unlock t).1.waitq = rest ∧ (m.unlock t).2 = some w ∧
      (m.unlock t).1.lockCount = 1 := by
  simp [unlock, h, hc, hq]

omit [DecidableEq τ] in
theorem lockCount_of_owner (h : m.owner = some t) : 0 < m.lockCount := by
  have := m.owner_eq_none
  simp_all [Nat.pos_iff_ne_zero]

end KMutex

end ZephyrGuide
