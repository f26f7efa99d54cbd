import ZephyrGuide.Shell.Model
import Mathlib.Data.BitVec
import Mathlib.Tactic.Ring

/-!
# What `sensor read` prints

`cmd_sensor_read` prints `"Temperature: %d.%02d C"` of `sensor_reading / 100` and
`sensor_reading % 100`.  C's `%` keeps the sign of the dividend, and nothing takes its absolute
value, so a negative reading that is not a multiple of 100 puts a minus sign after the point.
The text is a numeral equal to the reading, in hundredths, exactly when the reading is
non-negative or a multiple of 100; otherwise it is no numeral at all (`sensorReadNumeral_value`).

The sensor thread's walk reaches every `int` (`sensor_reaches`): a round in which
`k_cycle_get_32() % 11` is 6 adds one, modulo 2³², and one in which it is 0 subtracts 5.  So 530
rounds of the latter take 2500 to -150, and `sensor read` then prints `Temperature: -1.-50 C`
(`negative_reading_misprinted`).
-/

set_option autoImplicit false

namespace ZephyrGuide
namespace Shell

open Libc

/-! ## The walk -/

/-- Rounds of the sensor loop with the cycle counter at `c` add `(c % 11) - 5` each. -/
theorem foldl_sensorDrift_replicate (k : Nat) (c r : BitVec 32) :
    (List.replicate k c).foldl sensorDrift r = r + BitVec.ofNat 32 k * (c % 11 - 5) := by
  induction k generalizing r with
  | zero => simp
  | succ k ih =>
    rw [List.replicate_succ, List.foldl_cons, ih, sensorDrift, BitVec.ofNat_add]
    rw [show BitVec.ofNat 32 1 = 1 from rfl]
    ring

/-- Once `sensor_thread` is in its loop, its rounds with the cycle counter at the values `cs`
drift the reading by each in turn. -/
theorem run_sensor {s : State} (h : s.sensor = .loop) (cs : List (BitVec 32)) :
    program.run s (cs.map .sensor) =
      some { s with sensorReading := cs.foldl sensorDrift s.sensorReading } := by
  induction cs generalizing s with
  | nil => rfl
  | cons c cs ih =>
    have hs : program.step s (.sensor c) =
        some { s with sensorReading := sensorDrift s.sensorReading c } := by
      simp only [program, sensorThread, h]
    simp only [List.map_cons, System.run, hs, Option.some_bind]
    exact ih h

/-- The state after `sensor_reading = 2500` and the rounds `cs`. -/
theorem run_init_sensor (cs : List (BitVec 32)) :
    program.run program.init (((0 : BitVec 32) :: cs).map .sensor) =
      some { init with sensorReading := cs.foldl sensorDrift 2500, sensor := .loop } :=
  run_sensor (s := { init with sensorReading := 2500, sensor := .loop }) rfl cs

/-- **Every reading is reachable.**  Rounds in which `k_cycle_get_32() % 11` is 6 add one. -/
theorem sensor_reaches (v : BitVec 32) : ∃ s, program.Reachable s ∧ s.sensorReading = v := by
  refine ⟨_, System.reachable_of_run (run_init_sensor (List.replicate (v - 2500).toNat 6)), ?_⟩
  show (List.replicate (v - 2500).toNat 6).foldl sensorDrift 2500 = v
  rw [foldl_sensorDrift_replicate, BitVec.ofNat_toNat, BitVec.setWidth_eq,
    show (6 : BitVec 32) % 11 - 5 = 1 by decide]
  ring

/-! ## The text -/

/-- The sign of C's remainder by 100 is that of the dividend, and a dividend in `-99 … -1` is its
own remainder. -/
theorem tmod_hundred (v : Int) :
    (v < 0 ∨ 0 ≤ v.tmod 100) ∧ (0 ≤ v ∨ v.tmod 100 ≤ 0) ∧ (v ≤ -100 ∨ 0 ≤ v ∨ v.tmod 100 = v) := by
  cases v <;> simp only [Int.tmod, Int.ofNat_eq_coe, Int.negSucc_eq, Nat.succ_eq_add_one] <;>
    omega

/-- **What `sensor read` prints, read back.**  The numeral reads as the reading, in hundredths,
if the reading is non-negative or a multiple of 100; otherwise the text, with a minus sign after
the point, is no numeral. -/
theorem sensorReadNumeral_value (sensorReading : BitVec 32) :
    fixedValue 2 (sensorReadNumeral sensorReading) =
      if 0 ≤ sensorReading.toInt ∨ sensorReading.toInt.tmod 100 = 0 then some sensorReading.toInt
      else none := by
  unfold sensorReadNumeral
  generalize sensorReading.toInt = v
  have hlt := natAbs_tmod_lt v (b := 100) (by decide)
  have ht := tmod_hundred v
  rcases Int.lt_or_le (v.tmod 100) 0 with hm | hm
  · -- a negative remainder: the minus sign lands after the point
    rw [fixedValue_neg_frac _ hm (by omega), if_neg (by omega)]
  · have hk : v.tmod 100 = ((v.tmod 100).natAbs : Int) := (Int.natAbs_of_nonneg hm).symm
    rw [if_pos (by omega)]
    conv_lhs => rw [hk]
    rw [fixedValue_fmtInt _ (by decide) hlt]
    exact congrArg some ((tdiv_tmod_value v (by decide)).trans (if_neg (by omega)))

/-- **When `sensor read` is right.**  Every `int` is a reading the sensor thread reaches, and
the text `cmd_sensor_read` prints for it is a numeral equal to it, in hundredths, exactly when it
is non-negative or a multiple of 100; for the other negative readings it is no numeral. -/
theorem sensor_read_exact_iff (v : BitVec 32) :
    (∃ s, program.Reachable s ∧ s.sensorReading = v) ∧
      fixedValue 2 (sensorReadNumeral v) =
        if 0 ≤ v.toInt ∨ v.toInt.tmod 100 = 0 then some v.toInt else none :=
  ⟨sensor_reaches v, sensorReadNumeral_value v⟩

/-! ## A negative reading -/

theorem foldl_sensorDrift_530 : (List.replicate 530 (0 : BitVec 32)).foldl sensorDrift 2500 = -150 := by
  rw [foldl_sensorDrift_replicate]
  decide

/-- **A negative reading is printed as no numeral.**  After `sensor_reading = 2500` and 530
rounds in which `k_cycle_get_32() % 11` is 0, the reading is -150, and `sensor read` prints
`Temperature: -1.-50 C`: `-150 / 100 = -1` and `-150 % 100 = -50`, which `%02d` prints with its
sign. -/
theorem negative_reading_misprinted :
    ∃ s, program.Reachable s ∧ s.sensorReading = -150 ∧
      s.out = [.print "Temperature: -1.-50 C".toList] ∧
      fixedValue 2 (sensorReadNumeral (-150)) = none := by
  have hrun := System.run_append (S := program) program.init
    (((0 : BitVec 32) :: List.replicate 530 0).map .sensor) [.sensorRead]
  rw [run_init_sensor, foldl_sensorDrift_530, Option.some_bind] at hrun
  exact ⟨_, System.reachable_of_run hrun, rfl, by decide, by decide⟩

end Shell
end ZephyrGuide
