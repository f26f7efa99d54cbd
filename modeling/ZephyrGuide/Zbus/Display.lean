import ZephyrGuide.Zbus.Model
import ZephyrGuide.Libc.Printf

/-!
# What `display_listener` prints

For every message published on `sensor_chan` (`State.display`), `display_listener` prints
`"[Display] Temp: %d.%03d C, Humidity: %d.%01d%% @ %u\n"` of `msg->temperature / 1000`,
`abs(msg->temperature % 1000)`, `msg->humidity / 1000`, `abs(msg->humidity % 100)` and
`msg->timestamp` (`displayText`).  The temperature is in milli-degrees and the humidity in
milli-percent, so the first numeral should read as the temperature in thousandths, and the second
as the humidity in tenths, truncated.

* The temperature's numeral reads back as the temperature, except on `-999 … -1`, where the
  quotient 0 is printed without a sign (`temperatureNumeral_value`).
* The humidity's does not: its fraction is `abs(humidity % 100)`, the last two digits rather than
  the tenths, and `%01d` prints it with two characters from 10 on.  One call of `read_humidity`
  takes the humidity from 45000 to 45050, and `display_listener` then prints `45.50%` for
  45.05 % (`humidity_printed_wrong`).
* In this program the temperature's exception is never met.  `main` samples ten times and each
  call of `read_temperature` moves `temp` by at most 500 from 22000, so every message displayed
  has a temperature in `17000 … 26990`, printed exactly (`display_temperature_exact`).  The
  invariant `TempInv` ties the bound to the number of samples `main`'s position says it has taken.
-/

set_option autoImplicit false

namespace ZephyrGuide
namespace Zbus

open Libc

/-- `%d.%03d` of `temperature / 1000` and `abs(temperature % 1000)`. -/
def temperatureNumeral (temperature : BitVec 32) : List Char :=
  fmtInt 0 (temperature.toInt.tdiv 1000) ++ '.' :: fmtInt 3 (temperature.toInt.tmod 1000).natAbs

/-- `%d.%01d` of `humidity / 1000` and `abs(humidity % 100)`. -/
def humidityNumeral (humidity : BitVec 32) : List Char :=
  fmtInt 0 (humidity.toInt.tdiv 1000) ++ '.' :: fmtInt 1 (humidity.toInt.tmod 100).natAbs

/-- The line `display_listener` prints for `msg`. -/
def displayText (msg : SensorData) : List Char :=
  "[Display] Temp: ".toList ++ temperatureNumeral msg.temperature ++ " C, Humidity: ".toList ++
    humidityNumeral msg.humidity ++ "% @ ".toList ++ (Nat.repr msg.timestamp.toNat).toList ++ ['\n']

/-- **The temperature as printed.**  `%d.%03d` of `temperature / 1000` and
`abs(temperature % 1000)` reads back as `temperature` thousandths, except on `-999 … -1`, where it
reads as the opposite. -/
theorem temperatureNumeral_value (temperature : BitVec 32) :
    fixedValue 3 (temperatureNumeral temperature) =
      some (if temperature.toInt < 0 ∧ -1000 < temperature.toInt then -temperature.toInt
        else temperature.toInt) := by
  rw [temperatureNumeral, fixedValue_fmtInt _ (by decide)
    (natAbs_tmod_lt temperature.toInt (b := 1000) (by decide))]
  exact congrArg some (tdiv_tmod_value _ (by decide))

/-- **The humidity is printed wrong.**  `main` samples once, with `sys_rand32_get()` returning 0
for the temperature and 1050 for the humidity, and publishes: `display_listener` prints the
message with humidity 45050, 45.05 %, as `45.50%`.  That numeral has two digits after the point,
not one, and reads as 45.50, where the humidity truncated to one decimal is 45.0. -/
theorem humidity_printed_wrong :
    ∃ s, program.Reachable s ∧ s.display = [⟨21500, 45050, 0⟩] ∧
      displayText ⟨21500, 45050, 0⟩ =
        "[Display] Temp: 21.500 C, Humidity: 45.50% @ 0\n".toList ∧
      fixedValue 1 (humidityNumeral 45050) = none ∧
      fixedValue 2 (humidityNumeral 45050) = some 4550 := by
  obtain ⟨s, hs, h⟩ := program.exists_reachable_of_run [.sample 0 1050 0, .main, .main]
    (fun s => s.display == [⟨21500, 45050, 0⟩]) (by decide)
  exact ⟨s, hs, by simpa using h, by decide, by decide, by decide⟩

/-! ## The temperatures `main` publishes -/

/-- How many times `main` has called `read_temperature`. -/
def MainPc.samples : MainPc → Nat
  | .sample i => i
  | .lock i | .waitLock i | .notify i | .waitRoom i => i + 1
  | .done => 10

/-- A temperature that ten calls of `read_temperature` can reach from 22000, each moving it by
`(r % 1000) - 500`, in `-500 … 499`. -/
def Sampled (m : SensorData) : Prop := 17000 ≤ m.temperature.toInt ∧ m.temperature.toInt ≤ 26990

/-- `temp += (r % 1000) - 500`, computed modulo 2³², adds `r mod 1000` and takes 500 from a
`temp` far from the bounds of `int32_t`. -/
theorem temp_add_toInt {t : BitVec 32} (r : BitVec 32) (ht : 500 ≤ t.toInt ∧ t.toInt < 2 ^ 30) :
    (t + (r % 1000 - 500)).toInt = t.toInt + (r.toNat % 1000 : Nat) - 500 := by
  have hr : (r % 1000).toNat = r.toNat % 1000 := by rw [BitVec.toNat_umod]; rfl
  have hlt := Nat.mod_lt r.toNat (by decide : 0 < 1000)
  have h500 : (500 : BitVec 32).toNat = 500 := rfl
  have htn : t.toInt = t.toNat ∧ t.toNat < 2 ^ 30 := by
    have := BitVec.toInt_eq_toNat_cond t
    split at this <;> omega
  rw [htn.1] at ht ⊢
  rw [BitVec.toInt_eq_toNat_cond]
  simp only [BitVec.toNat_add, BitVec.toNat_sub, h500, hr]
  split <;> omega

/-- After `n` calls of `read_temperature`, `temp` is at most `500 n` below 22000 and `499 n`
above it.  `msg` holds a temperature so sampled once `main` has sampled, the channel holds one
while `main` publishes, and so does every message displayed. -/
structure TempInv (s : State) : Prop where
  samples_le : s.main.samples ≤ 10
  sample_lt : ∀ i, s.main = .sample i → i < 10
  temp_range : 22000 - 500 * (s.main.samples : Int) ≤ s.temp.toInt ∧
    s.temp.toInt ≤ 22000 + 499 * (s.main.samples : Int)
  msg : 0 < s.main.samples → Sampled s.msg
  chan : ∀ i, s.main = .notify i ∨ s.main = .waitRoom i → Sampled s.chanMsg
  display : ∀ m ∈ s.display, Sampled m

theorem tempInv_init : TempInv init :=
  ⟨by decide, fun i h => by cases h; decide, by decide, nofun, fun _ h => by simp [init] at h,
    nofun⟩

/-- A step that leaves `main`'s position, `temp`, `msg`, the channel's message and the display as
they were keeps the invariant. -/
theorem TempInv.congr {s t : State} (h : TempInv s) (hm : t.main = s.main) (ht : t.temp = s.temp)
    (hmsg : t.msg = s.msg) (hc : t.chanMsg = s.chanMsg) (hd : t.display = s.display) :
    TempInv t := by
  obtain ⟨_, _, _, _, _, _, _, _, _, _, _, _⟩ := t
  simp only at hm ht hmsg hc hd
  subst hm ht hmsg hc hd
  exact ⟨h.1, h.2, h.3, h.4, h.5, h.6⟩

/-- `main` moving on to its next iteration keeps the invariant. -/
theorem TempInv.next {s t : State} {i : Nat} (h : TempInv s) (hi : s.main.samples = i + 1)
    (hm : t.main = .next i) (ht : t.temp = s.temp) (hmsg : t.msg = s.msg)
    (hd : t.display = s.display) : TempInv t := by
  have hle := h.samples_le
  have hs : t.main.samples = i + 1 := by
    rw [hm, MainPc.next]
    split
    · rfl
    · simp only [MainPc.samples]; omega
  refine ⟨by omega, fun j hj => ?_, ?_, fun _ => hmsg ▸ h.msg (by omega), fun j hj => ?_,
    hd ▸ h.display⟩
  · rw [hm, MainPc.next] at hj
    split at hj <;> simp only [MainPc.sample.injEq, reduceCtorEq] at hj
    omega
  · rw [hs, ht, ← hi]; exact h.temp_range
  · rw [hm, MainPc.next] at hj
    split at hj <;> simp at hj

theorem TempInv.handChannel {s : State} (h : TempInv s) (w : Option Tid) :
    TempInv (s.handChannel w) := by
  rcases w with _ | _ | _
  · exact h
  · unfold State.handChannel
    cases hm : s.main
    case waitLock i =>
      have h1 := h.samples_le
      have h3 := h.temp_range
      rw [hm] at h1 h3
      exact ⟨h1, nofun, h3, fun _ => h.msg (by simp [hm, MainPc.samples]),
        fun _ _ => h.msg (by simp [hm, MainPc.samples]), h.display⟩
    all_goals exact h
  · exact h

theorem TempInv.wakeLogger {s : State} (h : TempInv s) (w : Option Tid) :
    TempInv (s.wakeLogger w) := by
  rcases w with _ | _ | _ <;> exact h.congr rfl rfl rfl rfl rfl

theorem TempInv.notified {s : State} {i : Nat} (h : TempInv s) (hi : s.main.samples = i + 1)
    (q : KMsgq Unit Tid × Option Tid × Int) : TempInv (s.notified i q) :=
  (((h.next (t := { s with loggerSub := q.1, chanSem := s.chanSem.give.1, main := .next i })
    hi rfl rfl rfl rfl).wakeLogger _).handChannel _)

theorem tempInv_mainSample {s t : State} {r₁ r₂ ts : BitVec 32} (h : TempInv s)
    (hs : mainSample s r₁ r₂ ts = some t) : TempInv t := by
  unfold mainSample at hs
  split at hs <;> simp only [Option.some.injEq, reduceCtorEq] at hs
  subst hs
  rename_i i hm
  have hi := h.sample_lt i hm
  have hr := h.temp_range
  simp only [hm, MainPc.samples] at hr
  have hlt := Nat.mod_lt r₁.toNat (by decide : 0 < 1000)
  have htemp := temp_add_toInt r₁ (t := s.temp) ⟨by omega, by omega⟩
  refine ⟨by simp only [MainPc.samples]; omega, nofun, ?_, fun _ => ?_, nofun, h.display⟩
  · simp only [MainPc.samples, htemp]; omega
  · simp only [Sampled, htemp]; omega

theorem tempInv_mainStep {s t : State} (h : TempInv s) (hs : mainStep s = some t) : TempInv t := by
  unfold mainStep at hs
  dsimp only at hs
  split at hs
  case h_1 i hm =>
    have h1 := h.samples_le
    have h3 := h.temp_range
    have hmsg := h.msg (by simp [hm, MainPc.samples])
    rw [hm] at h1 h3
    split at hs <;> simp only [Option.some.injEq] at hs <;> subst hs
    · exact ⟨h1, nofun, h3, fun _ => hmsg, fun _ _ => hmsg, h.display⟩
    · exact ⟨h1, nofun, h3, fun _ => hmsg, fun _ hj => by simp at hj, h.display⟩
  case h_2 i hm =>
    have hc := h.chan i (.inl hm)
    have hd : ∀ m ∈ s.display ++ [s.chanMsg], Sampled m := by
      simpa [or_imp, forall_and] using ⟨h.display, hc⟩
    have hi : s.main.samples = i + 1 := by simp [hm, MainPc.samples]
    split at hs <;> simp only [Option.some.injEq] at hs <;> subst hs
    · exact TempInv.notified (s := { s with display := s.display ++ [s.chanMsg] })
        ⟨h.samples_le, h.sample_lt, h.temp_range, h.msg, h.chan, hd⟩ hi _
    · have h1 := h.samples_le
      have h3 := h.temp_range
      rw [hm] at h1 h3
      exact ⟨h1, nofun, h3, fun _ => h.msg (by omega), fun _ _ => hc, hd⟩
  case h_3 i hm =>
    split at hs <;> simp only [Option.some.injEq, reduceCtorEq] at hs
    subst hs
    exact h.notified (by simp [hm, MainPc.samples]) _
  all_goals simp at hs

theorem tempInv_timeoutStep {s t : State} (h : TempInv s) (hs : timeoutStep s = some t) :
    TempInv t := by
  unfold timeoutStep at hs
  split at hs <;> simp only [Option.some.injEq, reduceCtorEq] at hs <;> subst hs
  case h_1 i hm => exact h.next (by simp [hm, MainPc.samples]) rfl rfl rfl rfl
  case h_2 i hm =>
    apply TempInv.handChannel
    exact h.next (by simp [hm, MainPc.samples]) rfl rfl rfl rfl

theorem tempInv_loggerThreadEntry {s t : State} {junk : SensorData} (h : TempInv s)
    (hs : loggerThreadEntry s junk = some t) : TempInv t := by
  unfold loggerThreadEntry at hs
  cases hm : s.logger <;> simp only [hm, Option.some.injEq, reduceCtorEq] at hs
  case wait => exact hs ▸ h.congr rfl rfl rfl rfl rfl
  case read =>
    split at hs <;> simp only [Option.some.injEq] at hs <;> exact hs ▸ h.congr rfl rfl rfl rfl rfl
  case copy =>
    subst hs
    apply TempInv.handChannel
    exact h.congr rfl rfl rfl rfl rfl

theorem tempInv_holds : program.Invariant TempInv where
  init := tempInv_init
  step a h hs := by
    cases a with
    | sample r₁ r₂ ts => exact tempInv_mainSample h hs
    | main => exact tempInv_mainStep h hs
    | logger junk => exact tempInv_loggerThreadEntry h hs
    | timeout => exact tempInv_timeoutStep h hs

/-- **In this program the temperature is printed exactly.**  `main` samples ten times, and each
call of `read_temperature` moves the temperature from 22000 by at most 500, so every message
`display_listener` prints has a temperature in `17000 … 26990`, far from the `-999 … -1` where
`%d.%03d` loses the sign: its numeral reads back as the temperature. -/
theorem display_temperature_exact (s : State) (hs : program.Reachable s) :
    ∀ m ∈ s.display, 17000 ≤ m.temperature.toInt ∧ m.temperature.toInt ≤ 26990 ∧
      fixedValue 3 (temperatureNumeral m.temperature) = some m.temperature.toInt := by
  intro m hm
  obtain ⟨h1, h2⟩ := (tempInv_holds.holds hs).display m hm
  refine ⟨h1, h2, ?_⟩
  rw [temperatureNumeral_value, if_neg (by omega)]

theorem display_temperature_exact_first_sample :
    ∃ s, program.Reachable s ∧ s.display = [⟨21500, 45050, 0⟩] ∧
      fixedValue 3 (temperatureNumeral 21500) = some (21500 : BitVec 32).toInt := by
  obtain ⟨s, hs, h⟩ := program.exists_reachable_of_run [.sample 0 1050 0, .main, .main]
    (fun s => s.display == [⟨21500, 45050, 0⟩]) (by decide)
  have hd : s.display = [⟨21500, 45050, 0⟩] := by simpa using h
  exact ⟨s, hs, hd, (display_temperature_exact s hs ⟨21500, 45050, 0⟩ (by simp [hd])).2.2⟩

end Zbus
end ZephyrGuide
