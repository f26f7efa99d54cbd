import Mathlib.Order.Basic

/-!
# Kernel message queues

`struct k_msgq` as the guide's message-queue example uses it: a ring of at most `max_msgs`
messages, oldest first, and the queue of threads blocked in `k_msgq_get`.

* `KMsgq.put` is `k_msgq_put(q, msg, K_NO_WAIT)`.  A thread blocked in `k_msgq_get` gets the
  message directly and is returned, to be made ready by the caller; otherwise the message goes to
  the tail of the ring, or, with the ring full, is refused with `-ENOMSG`.
* `KMsgq.get` is `k_msgq_get(q, &msg, timeout)` with a nonzero timeout: the oldest message if
  there is one, else the caller joins the queue.  `KMsgq.timeout` takes it out again when the
  timeout expires; the call then returns `-EAGAIN`.
* `KMsgq.numUsed` is `k_msgq_num_used_get`.

The return codes are the negated values of Zephyr's `errno.h`; the examples only compare them
with `0` and with each other.  The invariants are fields: the ring never holds more than
`max_msgs` messages, and nobody waits while there is a message to read.

Modelled from the spec: `k_msgq` is kernel code, absent from `src/`; this is the bounded message
queue of the specification's §4.6 (FIFO, a getter handed the message directly), with the
`K_NO_WAIT` put and the timed get the example makes.
-/

set_option autoImplicit false

namespace ZephyrGuide

/-- `EAGAIN` of Zephyr's `errno.h`. -/
def EAGAIN : Int := 11

/-- `ENOMSG` of Zephyr's `errno.h`. -/
def ENOMSG : Int := 35

/-- `EBUSY` of Zephyr's `errno.h`. -/
def EBUSY : Int := 16

/-- Modelled from the spec (§4.6, the kernel's code is not in `src/`): a kernel message queue of
messages of type `α`, read by threads of type `τ`. -/
structure KMsgq (α τ : Type) where
  buffer : List α
  maxMsgs : Nat
  waitq : List τ
  length_le : buffer.length ≤ maxMsgs
  waitq_of_ne_nil : buffer ≠ [] → waitq = []
  deriving DecidableEq, Repr

namespace KMsgq

variable {α τ : Type}

/-- `K_MSGQ_DEFINE(name, msg_size, max_msgs, align)`: empty, nobody waiting. -/
def define (maxMsgs : Nat) : KMsgq α τ := ⟨[], maxMsgs, [], Nat.zero_le _, fun _ => rfl⟩

/-- `k_msgq_put(q, msg, K_NO_WAIT)`: the queue after it, the reader handed `msg` if any, and
the return code. -/
def put (q : KMsgq α τ) (msg : α) : KMsgq α τ × Option τ × Int :=
  match hq : q.waitq with
  | t :: rest =>
    (⟨q.buffer, q.maxMsgs, rest, q.length_le,
      fun hb => absurd (q.waitq_of_ne_nil hb) (by simp [hq])⟩, some t, 0)
  | [] =>
    if h : q.buffer.length < q.maxMsgs then
      (⟨q.buffer ++ [msg], q.maxMsgs, [], (List.length_append _ _).trans_le h, fun _ => rfl⟩, none, 0)
    else (q, none, -ENOMSG)

/-- `k_msgq_get(q, &msg, timeout)` by `t`: the oldest message, or `none` when `t` joined the
queue to wait for one. -/
def get (q : KMsgq α τ) (t : τ) : KMsgq α τ × Option α :=
  match hb : q.buffer with
  | m :: rest =>
    (⟨rest, q.maxMsgs, q.waitq, Nat.le_of_succ_le ((congrArg List.length hb).symm.trans_le q.length_le),
      fun _ => q.waitq_of_ne_nil (by simp [hb])⟩, some m)
  | [] => (⟨[], q.maxMsgs, q.waitq ++ [t], Nat.zero_le _, fun h => absurd rfl h⟩, none)

/-- The timeout of a waiting `k_msgq_get` expires: `t` leaves the queue. -/
def timeout [DecidableEq τ] (q : KMsgq α τ) (t : τ) : KMsgq α τ :=
  ⟨q.buffer, q.maxMsgs, q.waitq.erase t, q.length_le, fun hb => by simp [q.waitq_of_ne_nil hb]⟩

/-- `k_msgq_num_used_get`. -/
def numUsed (q : KMsgq α τ) : Nat := q.buffer.length

/-! ## What each operation does -/

variable {q : KMsgq α τ} {t : τ} {rest : List τ}

@[simp] theorem define_buffer (n : Nat) : (define n : KMsgq α τ).buffer = [] := rfl
@[simp] theorem define_waitq (n : Nat) : (define n : KMsgq α τ).waitq = [] := rfl

theorem put_of_waitq_cons (msg : α) (h : q.waitq = t :: rest) :
    (q.put msg).1.buffer = q.buffer ∧ (q.put msg).1.waitq = rest ∧ (q.put msg).2 = (some t, 0) := by
  unfold put; split <;> simp_all

theorem put_of_room (msg : α) (h : q.waitq = []) (hl : q.buffer.length < q.maxMsgs) :
    (q.put msg).1.buffer = q.buffer ++ [msg] ∧ (q.put msg).1.waitq = [] ∧
      (q.put msg).2 = (none, 0) := by
  unfold put; split <;> simp_all

theorem put_of_full (msg : α) (h : q.waitq = []) (hl : q.maxMsgs ≤ q.buffer.length) :
    q.put msg = (q, none, -ENOMSG) := by
  unfold put; split <;> simp_all

theorem get_of_cons {m : α} {ms : List α} (h : q.buffer = m :: ms) :
    (q.get t).1.buffer = ms ∧ (q.get t).1.waitq = q.waitq ∧ (q.get t).2 = some m := by
  unfold get; split <;> simp_all

theorem get_of_nil (h : q.buffer = []) :
    (q.get t).1.buffer = [] ∧ (q.get t).1.waitq = q.waitq ++ [t] ∧ (q.get t).2 = none := by
  unfold get; split <;> simp_all

@[simp] theorem timeout_buffer [DecidableEq τ] (q : KMsgq α τ) (t : τ) :
    (q.timeout t).buffer = q.buffer := rfl
@[simp] theorem timeout_waitq [DecidableEq τ] (q : KMsgq α τ) (t : τ) :
    (q.timeout t).waitq = q.waitq.erase t := rfl

end KMsgq

end ZephyrGuide
