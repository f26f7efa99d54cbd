import Mathlib.Data.List.Infix

/-!
# C strings, `strncmp` and `strcmp`

A C string held in a buffer is the characters before the first NUL (`cString`); `strcmp(a, b)
== 0` is the equality of the two strings so read.  `strncmpEq a b n` is `strncmp(a, b, n) == 0`:
at most `n` characters are compared, and the comparison stops at a NUL met in both.  Each string
is read as its characters followed by NULs, which is what C reads past the end of a terminated
string.

For a string `a` with no NUL, `strncmp(a, b, strlen(a)) == 0` says exactly that `a` is a prefix of
`b` (`strncmpEq_length_iff_prefix`): the bound is the length of the string received, so every
prefix of `b` passes, the empty string included.
-/

set_option autoImplicit false

namespace ZephyrGuide
namespace Libc

/-- The C string a buffer holds: its characters up to the first NUL. -/
def cString (buf : List Char) : List Char := buf.takeWhile (· ≠ '\x00')

/-- `strncmp(a, b, n) == 0`, each string read as its characters followed by NULs. -/
def strncmpEq (a b : List Char) : Nat → Bool
  | 0 => true
  | n + 1 =>
    a.headD '\x00' == b.headD '\x00' && (a.headD '\x00' == '\x00' || strncmpEq a.tail b.tail n)

theorem cString_of_not_mem {buf : List Char} (h : '\x00' ∉ buf) : cString buf = buf :=
  List.takeWhile_eq_self_iff.2 fun _ hc => decide_eq_true fun e => h (e ▸ hc)

/-- The NUL a program writes after the characters it copied ends the string there. -/
theorem cString_append_nul (buf : List Char) : cString (buf ++ ['\x00']) = cString buf := by
  induction buf with
  | nil => rfl
  | cons c buf ih =>
    by_cases hc : c = '\x00'
    · simp [cString, List.takeWhile_cons, hc]
    · simpa [cString, List.takeWhile_cons, hc] using ih

/-- **`strncmp` bounded by the received string's length is a prefix test.** -/
theorem strncmpEq_length_iff_prefix {a : List Char} (b : List Char) (h : '\x00' ∉ a) :
    strncmpEq a b a.length = true ↔ a <+: b := by
  induction a generalizing b with
  | nil => exact ⟨fun _ => List.nil_prefix, fun _ => rfl⟩
  | cons c a ih =>
    rw [List.mem_cons, not_or] at h
    have hc : (c == '\x00') = false := beq_false_of_ne (Ne.symm h.1)
    cases b with
    | nil => simp [strncmpEq, hc]
    | cons d b =>
      simp only [strncmpEq, List.length_cons, List.headD_cons, List.tail_cons, hc,
        Bool.false_or, Bool.and_eq_true, beq_iff_eq, List.cons_prefix_cons, ih b h.2]

end Libc
end ZephyrGuide
