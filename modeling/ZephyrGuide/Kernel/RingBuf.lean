import Mathlib.Order.Basic

/-!
# Byte ring buffers

`struct ring_buf` of `zephyr/sys/ring_buffer.h` in byte mode, seen through what it holds: the
bytes put and not yet got, oldest first.  `RING_BUF_DECLARE(name, size)` makes one of `size`
bytes.  `ring_buf_put` stores as many of the given bytes as there is room for and drops the
rest; `ring_buf_get` takes up to the requested number from the front.  Where in the backing
array the bytes sit is the library's business and nothing in the examples depends on it.

Modelled from the spec: `ring_buffer.h` is library code, absent from `src/`, and outside the
specification's core; what is modelled is the contract of the two calls the UART example makes.
-/

set_option autoImplicit false

namespace ZephyrGuide

/-- Modelled from the spec (an external collaborator, interface only; its code is not in
`src/`): a byte ring buffer, its contents, oldest first, and its size. -/
structure RingBuf where
  bytes : List UInt8
  size : Nat
  length_le : bytes.length ≤ size
  deriving DecidableEq, Repr

namespace RingBuf

/-- `RING_BUF_DECLARE(name, size)`: empty. -/
def declare (size : Nat) : RingBuf := ⟨[], size, Nat.zero_le _⟩

/-- `ring_buf_put(buf, data, len)`: the bytes that fit are appended. -/
def put (r : RingBuf) (data : List UInt8) : RingBuf :=
  ⟨r.bytes ++ data.take (r.size - r.bytes.length), r.size, by
    have := r.length_le; simp [List.length_take]; omega⟩

/-- `ring_buf_get(buf, &c, 1)`: the oldest byte, if any. -/
def getByte (r : RingBuf) : RingBuf × Option UInt8 :=
  match h : r.bytes with
  | c :: rest => (⟨rest, r.size, by have := r.length_le; simp [h] at this; omega⟩, some c)
  | [] => (r, none)

@[simp] theorem declare_bytes (size : Nat) : (declare size).bytes = [] := rfl

@[simp] theorem put_size (r : RingBuf) (data : List UInt8) : (r.put data).size = r.size := rfl

theorem put_bytes (r : RingBuf) (data : List UInt8) :
    (r.put data).bytes = r.bytes ++ data.take (r.size - r.bytes.length) := rfl

theorem getByte_of_cons {r : RingBuf} {c : UInt8} {rest : List UInt8} (h : r.bytes = c :: rest) :
    (r.getByte).1.bytes = rest ∧ (r.getByte).2 = some c := by
  unfold getByte; split <;> simp_all

theorem getByte_of_nil {r : RingBuf} (h : r.bytes = []) : r.getByte = (r, none) := by
  unfold getByte; split <;> simp_all

end RingBuf

end ZephyrGuide
