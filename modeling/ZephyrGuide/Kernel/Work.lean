import Mathlib.Data.List.Nodup

/-!
# Kernel work queues

`struct k_work` and the system work queue, as the examples use them.  As for the other kernel
objects, the kernel's code is not part of the guide: what is modelled is the contract of
`k_work_submit` and of the work queue's thread.

* `KWorkQ.submit` is `k_work_submit`.  An item that is already queued stays where it is and the
  call returns 0: submissions coalesce, so an item is queued at most once however often it is
  submitted (`count_pending_le_one`).  Otherwise the item joins the tail and the call returns 1,
  or 2 when the queue's thread is running that very item — it will run again.
* `KWorkQ.take` is the queue's thread starting the first queued item: the item leaves the queue
  and is the one running.  The thread runs one item at a time, so it takes the next only after
  the handler has returned (`KWorkQ.finish`).

* `KWorkQ.isPending` is `k_work_is_pending`: the item is queued or running.
* A delayable item is an item and a flag saying that its timeout is running.  `KWorkQ.schedule`
  is `k_work_schedule` with a delay other than `K_NO_WAIT`: it starts the timeout unless the item
  is already scheduled or queued; when the timeout expires the item is submitted.
  `KWorkQ.delayableIsPending` is `k_work_delayable_is_pending`.

Cancellation is not modelled: no modelled example uses it.  The invariant of the object is a
field: no item is queued twice.

Modelled from the spec: `k_work` is kernel code, absent from `src/`; this is the deferred work
queue of the specification's §4.7 (submissions coalesce, one worker thread, a scheduled item
queued when its deadline expires).
-/

set_option autoImplicit false

namespace ZephyrGuide

/-- Modelled from the spec (§4.7, the kernel's code is not in `src/`): a work queue whose items
are of type `τ`, the items queued, in order, and the one its thread is running. -/
structure KWorkQ (τ : Type) where
  pending : List τ
  current : Option τ
  nodup : pending.Nodup
  deriving Repr

namespace KWorkQ

variable {τ : Type}

/-- The queue as the kernel starts it: nothing queued, nothing running. -/
def empty : KWorkQ τ := ⟨[], none, List.nodup_nil⟩

section Submit

variable [DecidableEq τ]

/-- `k_work_submit(&w)`: the queue afterwards, and the value returned. -/
def submit (q : KWorkQ τ) (w : τ) : KWorkQ τ × Int :=
  if h : w ∈ q.pending then (q, 0)
  else
    (⟨q.pending ++ [w], q.current,
      q.nodup.append (List.nodup_singleton w) (by simpa [List.disjoint_singleton] using h)⟩,
      if q.current = some w then 2 else 1)

/-- `k_work_is_pending(&w)`: `w` is queued or running. -/
def isPending (q : KWorkQ τ) (w : τ) : Bool := decide (w ∈ q.pending) || decide (q.current = some w)

/-- `k_work_schedule(&dw, delay)` for a delay other than `K_NO_WAIT`, where `timer` says whether
the item's timeout is running: the flag afterwards, and the value returned. -/
def schedule (q : KWorkQ τ) (timer : Bool) (w : τ) : Bool × Int :=
  if timer = true ∨ w ∈ q.pending then (timer, 0) else (true, 1)

/-- `k_work_delayable_is_pending(&dw)`: the timeout is running, or the item is queued or running. -/
def delayableIsPending (q : KWorkQ τ) (timer : Bool) (w : τ) : Bool := timer || q.isPending w

end Submit

/-- The queue's thread starts the first queued item, when it is not running one. -/
def take (q : KWorkQ τ) : Option (KWorkQ τ × τ) :=
  match q.current, h : q.pending with
  | none, w :: rest => some (⟨rest, some w, (h ▸ q.nodup).of_cons⟩, w)
  | _, _ => none

/-- The running item's handler has returned. -/
def finish (q : KWorkQ τ) : KWorkQ τ := ⟨q.pending, none, q.nodup⟩

/-! ## What each operation does -/

section Submit

variable [DecidableEq τ]

/-- **Submissions coalesce.**  Submitting a queued item changes nothing and returns 0. -/
theorem submit_of_mem {q : KWorkQ τ} {w : τ} (h : w ∈ q.pending) : q.submit w = (q, 0) :=
  dif_pos h

@[simp] theorem current_submit (q : KWorkQ τ) (w : τ) : (q.submit w).1.current = q.current := by
  unfold submit
  split <;> rfl

/-- After a submission the item is queued, and so is everything that was. -/
theorem mem_submit (q : KWorkQ τ) (w x : τ) :
    x ∈ (q.submit w).1.pending ↔ x = w ∨ x ∈ q.pending := by
  unfold submit
  split
  · next h => exact ⟨Or.inr, fun hx => hx.elim (· ▸ h) id⟩
  · simp only [List.mem_append, List.mem_singleton]
    exact or_comm

/-- A submission queues at most one more item. -/
theorem length_submit_le (q : KWorkQ τ) (w : τ) :
    (q.submit w).1.pending.length ≤ q.pending.length + 1 := by
  unfold submit
  split
  · exact Nat.le_succ _
  · exact (List.length_append _ _).le

/-- No item is queued twice. -/
theorem count_pending_le_one (q : KWorkQ τ) (w : τ) : q.pending.count w ≤ 1 :=
  List.nodup_iff_count_le_one.1 q.nodup w

/-- A submitted item is queued exactly once. -/
theorem count_submit (q : KWorkQ τ) (w : τ) : (q.submit w).1.pending.count w = 1 :=
  List.count_eq_one_of_mem (q.submit w).1.nodup ((mem_submit q w w).2 (Or.inl rfl))

/-- Scheduling an item that is neither scheduled nor queued starts its timeout. -/
theorem schedule_of_idle {q : KWorkQ τ} {w : τ} (h : w ∉ q.pending) :
    q.schedule false w = (true, 1) :=
  if_neg (by simp [h])

end Submit

/-- What the thread's taking an item means: it was running nothing, and the item was first in
the queue; the rest stays queued. -/
theorem take_eq_some {q q' : KWorkQ τ} {w : τ} (h : q.take = some (q', w)) :
    q.current = none ∧ q.pending = w :: q'.pending ∧ q'.current = some w := by
  unfold take at h
  split at h
  · next _ _ _ hc hp =>
    simp only [Option.some.injEq, Prod.mk.injEq] at h
    obtain ⟨rfl, rfl⟩ := h
    exact ⟨hc, hp, rfl⟩
  · exact absurd h (Option.some_ne_none _).symm

/-- The thread can always start the first queued item once it is idle. -/
theorem take_of_cons {q : KWorkQ τ} {w : τ} {rest : List τ} (hc : q.current = none)
    (hp : q.pending = w :: rest) : ∃ q', q.take = some (q', w) ∧ q'.pending = rest := by
  unfold take
  split
  · next _ _ _ _ hp' =>
    rw [hp, List.cons.injEq] at hp'
    obtain ⟨rfl, rfl⟩ := hp'
    exact ⟨_, rfl, rfl⟩
  · next hne => exact absurd hp (hne w rest hc)

@[simp] theorem pending_finish (q : KWorkQ τ) : q.finish.pending = q.pending := rfl

@[simp] theorem current_finish (q : KWorkQ τ) : q.finish.current = none := rfl

end KWorkQ

end ZephyrGuide
