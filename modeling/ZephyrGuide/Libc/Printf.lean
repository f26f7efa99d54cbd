import Mathlib.Data.Nat.Digits

/-!
# `snprintf` with `%d` conversions, and decimal numerals

The examples format integers with `%d` and `%02d` into fixed-size buffers.  This file models
that part of the C library and says what the text it produces means:

* `fmtInt width n` is `%0<width>d`: a minus sign for a negative value, then the decimal digits of
  the magnitude, zero-padded on the left to `width` characters (`%d` is width 0).  The digits are
  `Nat.toDigits 10`, most significant first;
* `fmtHex width n` is `%0<width>x`, the lower-case hexadecimal digits of `n` zero-padded;
* `snprintf size out` is what `snprintf(buf, size, ...)` does with the text `out` it formats:
  the first `size - 1` characters reach the buffer, and the whole length is returned;
* `digitsValue`, `fixedValue` and `decimalValue` read a numeral back: the value of a string of
  digits, the value in units of `10⁻ᶠʳᵃᶜ` of a numeral `[-]I.F…F` with `frac` fraction digits,
  and its case `frac = 2`.

The facts proved here are the reading of `Nat.toDigits` (`digitsValue_toDigits`), which comes
from its recursion on `n / 10` (`toDigits_of_ge`), the length of what `fmtInt` prints, what
`%d.%0<w>d` reads back as (`fixedValue_fmtInt`), and what becomes of C's `v / b` and
`abs(v % b)` printed that way (`tdiv_tmod_value`).
-/

set_option autoImplicit false

namespace ZephyrGuide
namespace Libc

/-! ## Formatting -/

/-- `%0<width>d` of `n`; `%d` is `width = 0`. -/
def fmtInt (width : Nat) (n : Int) : List Char :=
  let sign := if n < 0 then ['-'] else []
  let ds := Nat.toDigits 10 n.natAbs
  sign ++ List.replicate (width - sign.length - ds.length) '0' ++ ds

/-- `snprintf(buf, size, ...)` producing the text `out`: the buffer receives the first
`size - 1` characters (then the terminating NUL), and the length of `out` is returned. -/
def snprintf (size : Nat) (out : List Char) : List Char × Nat :=
  (out.take (size - 1), out.length)

/-- `%0<width>x` of `n`: its lower-case hexadecimal digits, zero-padded on the left. -/
def fmtHex (width n : Nat) : List Char :=
  let ds := Nat.toDigits 16 n
  List.replicate (width - ds.length) '0' ++ ds

example : fmtHex 2 0x48 = "48".toList ∧ fmtHex 2 0x0a = "0a".toList := by decide

/-! ## Reading numerals -/

/-- One more character of a string of digits: shift in its value, or fail on a non-digit. -/
def digitStep (acc : Option Nat) (c : Char) : Option Nat :=
  acc.bind fun a => if c.isDigit then some (10 * a + (c.toNat - '0'.toNat)) else none

/-- The value of a string of decimal digits, or `none` if it holds another character. -/
def digitsValue (ds : List Char) : Option Nat :=
  ds.foldl digitStep (some 0)

/-- The value, in hundredths, of a numeral `I.FF` — one or more digits, a point and two digits —
or `none` if the text is not one. -/
def unsignedValue (x : List Char) : Option Nat :=
  match x.reverse with
  | f₂ :: f₁ :: '.' :: i@(_ :: _) => digitsValue (i.reverse ++ [f₁, f₂])
  | _ => none

/-- The value, in hundredths, of a numeral `[-]I.FF`. -/
def decimalValue : List Char → Option Int
  | '-' :: x => (unsignedValue x).map fun v : Nat => -(v : Int)
  | x => (unsignedValue x).map Int.ofNat

/-- The value, in units of `10⁻ᶠʳᵃᶜ`, of a numeral `I.F…F` with exactly `frac` digits after the
point, or `none` if the text is not one. -/
def unsignedFixed (frac : Nat) (x : List Char) : Option Nat :=
  match x.reverse.drop frac with
  | '.' :: i@(_ :: _) => digitsValue (i.reverse ++ (x.reverse.take frac).reverse)
  | _ => none

/-- The value, in units of `10⁻ᶠʳᵃᶜ`, of a numeral `[-]I.F…F` with `frac` fraction digits. -/
def fixedValue (frac : Nat) : List Char → Option Int
  | '-' :: x => (unsignedFixed frac x).map fun v : Nat => -(v : Int)
  | x => (unsignedFixed frac x).map Int.ofNat

example : fixedValue 3 "-0.050".toList = some (-50) ∧ fixedValue 1 "45.50".toList = none := by
  decide

/-! ## The digits of a natural number -/

theorem digitChar_digit {d : Nat} (h : d < 10) :
    (Nat.digitChar d).isDigit = true ∧ (Nat.digitChar d).toNat - '0'.toNat = d := by
  have key : ∀ d < 10, (Nat.digitChar d).isDigit = true ∧
      (Nat.digitChar d).toNat - '0'.toNat = d := by decide
  exact key d h

@[simp] theorem digitStep_digitChar {d : Nat} (h : d < 10) (a : Nat) :
    digitStep (some a) (Nat.digitChar d) = some (10 * a + d) := by
  obtain ⟨h1, h2⟩ := digitChar_digit h
  simp only [digitStep, Option.some_bind, h1, h2, if_true]

/-- The accumulator of `Nat.toDigitsCore` is appended to what it computes. -/
theorem toDigitsCore_acc (f n : Nat) (ds : List Char) :
    Nat.toDigitsCore 10 f n ds = Nat.toDigitsCore 10 f n [] ++ ds := by
  induction f generalizing n ds with
  | zero => rfl
  | succ f ih =>
    simp only [Nat.toDigitsCore]
    split
    · rfl
    · rw [ih _ (_ :: ds), ih _ [_]]
      simp

/-- Enough fuel is all `Nat.toDigitsCore` needs: more does not change the digits. -/
theorem toDigitsCore_fuel {f g : Nat} (n : Nat) (ds : List Char) (hf : n < f) (hg : n < g) :
    Nat.toDigitsCore 10 f n ds = Nat.toDigitsCore 10 g n ds := by
  induction f generalizing g n ds with
  | zero => omega
  | succ f ih =>
    obtain ⟨g, rfl⟩ : ∃ g', g = g' + 1 := ⟨g - 1, by omega⟩
    simp only [Nat.toDigitsCore]
    split
    · rfl
    · exact ih _ _ (by omega) (by omega)

theorem toDigits_of_lt {n : Nat} (h : n < 10) : Nat.toDigits 10 n = [Nat.digitChar n] := by
  simp [Nat.toDigits, Nat.toDigitsCore, Nat.div_eq_of_lt h, Nat.mod_eq_of_lt h]

/-- `Nat.toDigits 10 n` is the digits of `n / 10` followed by the last digit. -/
theorem toDigits_of_ge {n : Nat} (h : 10 ≤ n) :
    Nat.toDigits 10 n = Nat.toDigits 10 (n / 10) ++ [Nat.digitChar (n % 10)] := by
  have hq : n / 10 ≠ 0 := by omega
  rw [Nat.toDigits, Nat.toDigitsCore]
  simp only [hq, if_false]
  rw [toDigitsCore_acc, Nat.toDigits, toDigitsCore_fuel _ _ (by omega) (Nat.lt_succ_self _)]

theorem toDigits_ne_nil (n : Nat) : Nat.toDigits 10 n ≠ [] := by
  rcases Nat.lt_or_ge n 10 with h | h
  · simp [toDigits_of_lt h]
  · simp [toDigits_of_ge h]

/-- Reading the digits of `n` after those of `a` gives `a` shifted left, plus `n`. -/
theorem foldl_toDigits (n a : Nat) :
    (Nat.toDigits 10 n).foldl digitStep (some a) =
      some (10 ^ (Nat.toDigits 10 n).length * a + n) := by
  induction n using Nat.strong_induction_on generalizing a with
  | _ n ih =>
    rcases Nat.lt_or_ge n 10 with h | h
    · simp [toDigits_of_lt h, h]
    · have hq : n / 10 < n := by omega
      rw [toDigits_of_ge h, List.foldl_append, ih _ hq, List.foldl_cons, List.foldl_nil,
        digitStep_digitChar (Nat.mod_lt _ (by decide)), List.length_append,
        List.length_singleton, Nat.pow_succ]
      have := Nat.div_add_mod n 10
      congr 1
      rw [Nat.mul_add, ← Nat.mul_assoc, Nat.mul_comm 10 (10 ^ _)]
      omega

theorem digitsValue_toDigits (n : Nat) : digitsValue (Nat.toDigits 10 n) = some n := by
  simpa using foldl_toDigits n 0

theorem foldl_replicate_zero (k a : Nat) :
    (List.replicate k '0').foldl digitStep (some a) = some (10 ^ k * a) := by
  induction k generalizing a with
  | zero => simp
  | succ k ih =>
    rw [List.replicate_succ, List.foldl_cons]
    have h0 : digitStep (some a) '0' = some (10 * a) := by simp [digitStep]
    rw [h0, ih, Nat.pow_succ, Nat.mul_assoc, Nat.mul_comm 10]

theorem toDigits_length_le {n e : Nat} (he : 0 < e) (h : n < 10 ^ e) :
    (Nat.toDigits 10 n).length ≤ e :=
  Nat.toDigitsCore_length 10 (by decide) (n + 1) n e h he

theorem toDigits_digits (n : Nat) : ∀ c ∈ Nat.toDigits 10 n, c.isDigit = true := by
  induction n using Nat.strong_induction_on with
  | _ n ih =>
    rcases Nat.lt_or_ge n 10 with h | h
    · simp [toDigits_of_lt h, (digitChar_digit h).1]
    · rw [toDigits_of_ge h]
      simp only [List.mem_append, List.mem_singleton]
      rintro c (hc | rfl)
      · exact ih _ (by omega) c hc
      · exact (digitChar_digit (Nat.mod_lt _ (by decide))).1

/-! ## What `%d` prints -/

theorem fmtInt_of_nonneg (width : Nat) {n : Int} (h : 0 ≤ n) :
    fmtInt width n =
      List.replicate (width - (Nat.toDigits 10 n.natAbs).length) '0' ++ Nat.toDigits 10 n.natAbs := by
  simp [fmtInt, Int.not_lt.2 h]

theorem fmtInt_of_neg {n : Int} (h : n < 0) :
    fmtInt 0 n = '-' :: Nat.toDigits 10 n.natAbs := by
  simp [fmtInt, h]

/-- `%0<w>d` of a value below `10 ^ w` is `w` characters, read as that value. -/
theorem fmtInt_pad {w k : Nat} (hw : 0 < w) (h : k < 10 ^ w) (a : Nat) :
    (fmtInt w k).length = w ∧ (fmtInt w k).foldl digitStep (some a) = some (10 ^ w * a + k) := by
  have hl := toDigits_length_le hw h
  have hl1 : 1 ≤ (Nat.toDigits 10 k).length := List.length_pos.2 (toDigits_ne_nil k)
  rw [fmtInt_of_nonneg w (Int.ofNat_nonneg k), Int.natAbs_ofNat]
  refine ⟨by simp; omega, ?_⟩
  rw [List.foldl_append, foldl_replicate_zero, foldl_toDigits, ← Nat.mul_assoc, ← Nat.pow_add,
    Nat.add_sub_cancel' hl]

theorem fmtInt_two {k : Nat} (h : k < 100) (a : Nat) :
    (fmtInt 2 k).length = 2 ∧ (fmtInt 2 k).foldl digitStep (some a) = some (100 * a + k) :=
  fmtInt_pad (by decide) h a

/-- What `%d` prints is at most the sign and the digits of the magnitude. -/
theorem fmtInt_zero_length_le {n : Int} {e : Nat} (he : 0 < e) (h : n.natAbs < 10 ^ e) :
    (fmtInt 0 n).length ≤ e + 1 := by
  have := toDigits_length_le he h
  unfold fmtInt
  split <;> simp <;> omega

/-! ## Reading a numeral back -/

theorem unsignedFixed_append {frac : Nat} {ds fs : List Char} (hds : ds ≠ [])
    (hfs : fs.length = frac) : unsignedFixed frac (ds ++ '.' :: fs) = digitsValue (ds ++ fs) := by
  obtain ⟨c, rest, h⟩ := List.exists_cons_of_ne_nil (List.reverse_ne_nil_iff.2 hds)
  have hds' : ds = (c :: rest).reverse := by rw [← h, List.reverse_reverse]
  have hr : (ds ++ '.' :: fs).reverse = fs.reverse ++ '.' :: c :: rest := by simp [h]
  have hl : fs.reverse.length = frac := by simp [hfs]
  rw [unsignedFixed, hr, List.drop_left' hl, List.take_left' hl, List.reverse_reverse, hds']
  rfl

/-- `unsignedValue` is `unsignedFixed 2`. -/
theorem unsignedValue_eq (x : List Char) : unsignedValue x = unsignedFixed 2 x := by
  unfold unsignedValue unsignedFixed
  generalize x.reverse = r
  rcases r with _ | ⟨a, _ | ⟨b, _ | ⟨c, tail⟩⟩⟩
  iterate 3 rfl
  by_cases hc : c = '.'
  · subst hc
    cases tail <;> rfl
  · simp only [List.drop_succ_cons, List.drop_zero]
    split <;> simp_all

theorem decimalValue_eq (x : List Char) : decimalValue x = fixedValue 2 x := by
  unfold decimalValue fixedValue
  split <;> simp only [unsignedValue_eq]

theorem fixedValue_of_digit {c : Char} (hc : c.isDigit = true) (frac : Nat) (x : List Char) :
    fixedValue frac (c :: x) = (unsignedFixed frac (c :: x)).map Int.ofNat := by
  unfold fixedValue
  split
  · rename_i h
    cases h
    simp [Char.isDigit] at hc
  · rfl

/-- The numeral read from the digits of `m`, a point, and `%0<w>d` of `k < 10 ^ w`. -/
theorem unsignedFixed_fmt (m : Nat) {w k : Nat} (hw : 0 < w) (hk : k < 10 ^ w) :
    unsignedFixed w (Nat.toDigits 10 m ++ '.' :: fmtInt w k) = some (10 ^ w * m + k) := by
  have hm := digitsValue_toDigits m
  rw [unsignedFixed_append (toDigits_ne_nil m) (fmtInt_pad hw hk 0).1]
  unfold digitsValue at hm ⊢
  rw [List.foldl_append, hm, (fmtInt_pad hw hk m).2]

/-- **What `%d.%0<w>d` prints, read back.**  For `q` and `k < 10 ^ w` the numeral reads as
`10 ^ w q - k` when `q` is negative and `10 ^ w q + k` otherwise, in units of `10⁻ʷ`: the sign
printed is that of `q` alone. -/
theorem fixedValue_fmtInt (q : Int) {w k : Nat} (hw : 0 < w) (hk : k < 10 ^ w) :
    fixedValue w (fmtInt 0 q ++ '.' :: fmtInt w k) =
      some (if q < 0 then 10 ^ w * q - k else 10 ^ w * q + k) := by
  rcases Int.lt_or_le q 0 with h | h
  · rw [fmtInt_of_neg h, List.cons_append, fixedValue, unsignedFixed_fmt _ hw hk, if_pos h]
    have := Int.ofNat_natAbs_of_nonpos h.le
    simp only [Option.map_some', Option.some.injEq, Int.natCast_add, Int.natCast_mul,
      Int.natCast_pow]
    rw [this]
    ring
  · rw [fmtInt_of_nonneg 0 h, Nat.zero_sub, List.replicate_zero, List.nil_append,
      if_neg (Int.not_lt.2 h)]
    obtain ⟨c, rest, hc⟩ := List.exists_cons_of_ne_nil (toDigits_ne_nil q.natAbs)
    have hd : c.isDigit = true := toDigits_digits _ c (hc ▸ List.mem_cons_self _ _)
    rw [hc, List.cons_append, fixedValue_of_digit hd, ← List.cons_append, ← hc,
      unsignedFixed_fmt _ hw hk]
    have := Int.natAbs_of_nonneg h
    simp only [Option.map_some', Option.some.injEq, Int.ofNat_eq_coe, Int.natCast_add,
      Int.natCast_mul, Int.natCast_pow, Nat.cast_ofNat, this]

/-- **What `%d.%02d` prints, read back.**  For `q` and `k < 100` the numeral reads as
`100 q - k` when `q` is negative and `100 q + k` otherwise: the sign printed is that of `q`
alone. -/
theorem decimalValue_fmtInt (q : Int) {k : Nat} (hk : k < 100) :
    decimalValue (fmtInt 0 q ++ '.' :: fmtInt 2 k) =
      some (if q < 0 then 100 * q - k else 100 * q + k) := by
  rw [decimalValue_eq]
  exact fixedValue_fmtInt q (by decide) hk

/-- Once a character is not a digit, the reading fails. -/
theorem foldl_digitStep_none (l : List Char) : l.foldl digitStep none = none := by
  induction l with
  | nil => rfl
  | cons _ _ ih => exact ih

theorem foldl_digitStep_of_not_digit {l : List Char} {c : Char} (hc : c ∈ l)
    (hd : c.isDigit = false) (acc : Option Nat) : l.foldl digitStep acc = none := by
  induction l generalizing acc with
  | nil => cases hc
  | cons x xs ih =>
    rw [List.foldl_cons]
    rcases List.mem_cons.1 hc with rfl | hc
    · have h : digitStep acc c = none := by cases acc <;> simp [digitStep, hd]
      rw [h, foldl_digitStep_none]
    · exact ih hc _

/-- **`%d.%02d` with a negative second argument is no numeral.**  `%02d` of `m` in `-99 … -1`
prints a minus sign after the point, and a text with a sign there reads as nothing. -/
theorem fixedValue_neg_frac (q : Int) {m : Int} (hm : m < 0) (hm' : -100 < m) :
    fixedValue 2 (fmtInt 0 q ++ '.' :: fmtInt 2 m) = none := by
  have hl := toDigits_length_le (n := m.natAbs) (e := 2) (by decide) (by omega)
  have hl1 : 1 ≤ (Nat.toDigits 10 m.natAbs).length := List.length_pos.2 (toDigits_ne_nil _)
  have hF : fmtInt 2 m = '-' :: Nat.toDigits 10 m.natAbs := by
    simp only [fmtInt, if_pos hm, List.length_singleton, List.singleton_append, List.cons_append]
    rw [show 2 - 1 - (Nat.toDigits 10 m.natAbs).length = 0 by omega, List.replicate_zero]
    rfl
  have key : ∀ ds : List Char, ds ≠ [] → unsignedFixed 2 (ds ++ '.' :: fmtInt 2 m) = none := by
    intro ds hds
    rw [hF]
    generalize Nat.toDigits 10 m.natAbs = G at hl hl1
    rcases G with _ | ⟨d, _ | ⟨d₂, _ | ⟨d₃, tail⟩⟩⟩
    · exact absurd hl1 (by decide)
    · -- one digit: the point is where it should be, but the fraction holds the sign
      rw [@unsignedFixed_append 2 ds ['-', d] hds rfl]
      exact foldl_digitStep_of_not_digit (c := '-') (by simp) rfl _
    · -- two digits: the third character from the end is the sign, not the point
      simp [unsignedFixed]
    · simp at hl
  rcases Int.lt_or_le q 0 with h | h
  · rw [fmtInt_of_neg h, List.cons_append, fixedValue, key _ (toDigits_ne_nil _)]
    rfl
  · rw [fmtInt_of_nonneg 0 h, Nat.zero_sub, List.replicate_zero, List.nil_append]
    obtain ⟨c, rest, hc⟩ := List.exists_cons_of_ne_nil (toDigits_ne_nil q.natAbs)
    have hd : c.isDigit = true := toDigits_digits _ c (hc ▸ List.mem_cons_self _ _)
    rw [hc, List.cons_append, fixedValue_of_digit hd, ← List.cons_append, ← hc,
      key _ (toDigits_ne_nil _)]
    rfl

/-! ## C's division, read back -/

theorem natAbs_tmod_lt (v : Int) {b : Int} (hb : 0 < b) : (v.tmod b).natAbs < b.natAbs := by
  obtain ⟨n, rfl⟩ := Int.eq_ofNat_of_zero_le hb.le
  cases v <;> simp only [Int.tmod, Int.ofNat_eq_coe, Int.natAbs_ofNat, Int.natAbs_neg] <;>
    exact Nat.mod_lt _ (by omega)

/-- `v / b` and `abs(v % b)` of C's truncating division put back together as the numeral puts
them, with the sign of the quotient: `v`, except on `-b < v < 0`, where the quotient is 0 and the
sign is lost. -/
theorem tdiv_tmod_value (v : Int) {b : Int} (hb : 0 < b) :
    (if v.tdiv b < 0 then b * v.tdiv b - ((v.tmod b).natAbs : Int)
      else b * v.tdiv b + ((v.tmod b).natAbs : Int)) =
      if v < 0 ∧ -b < v then -v else v := by
  obtain ⟨b, rfl⟩ := Int.eq_ofNat_of_zero_le hb.le
  replace hb : 0 < b := by omega
  cases v with
  | ofNat m =>
    have h := Nat.div_add_mod m b
    simp only [Int.tdiv, Int.tmod, Int.ofNat_eq_coe, Int.natAbs_ofNat]
    generalize m / b = q at *
    generalize m % b = r at *
    subst h
    split <;> split <;> omega
  | negSucc m =>
    have h := Nat.div_add_mod (m + 1) b
    have hz := Nat.div_eq_zero_iff (a := m + 1) hb
    simp only [Int.tdiv, Int.tmod, Int.negSucc_eq, Nat.succ_eq_add_one, Int.natAbs_neg,
      Int.natAbs_ofNat, Int.ofNat_eq_coe, Int.mul_neg]
    generalize (m + 1) / b = q at *
    generalize (m + 1) % b = r at *
    rcases Nat.eq_zero_or_pos q with rfl | hq
    · simp only [Nat.mul_zero, Nat.zero_add, Nat.cast_zero, Int.mul_zero] at h ⊢
      split <;> split <;> omega
    · split <;> split <;> omega

end Libc
end ZephyrGuide
