import ZephyrGuide.Ble.Model

/-!
# The simulated sensors stay in range

`update_sensors` adds `(sys_rand32_get() % 100) - 50` to the `int16_t temperature` and
`(sys_rand32_get() % 200) - 100` to `humidity`, in `unsigned` arithmetic, and then clamps them to
`0 … 5000` and `0 … 10000`.

* The clamps alone keep both values in range after every call, whatever the sums were
  (`clamp_range`), and only `update_sensors` writes them (`step_sensors`).
* From a value in range, the `unsigned` sum converted back to `int16_t` is the signed sum: the
  wrap of `(r % m) - k` below zero is undone modulo 2¹⁶, and the sum stays far from the `int16_t`
  bounds (`addRandom_toInt`).
* A value in `0 … 10000` is non-negative, so `%d.%02d` of `value / 100` and
  `abs(value % 100)` reads back as the value (`sensorNumeral_value`).
* What a client receives is in range too: `bt_gatt_notify` sends the sensors as they are, and
  `battery = (battery > 0) ? battery - 1 : 100` keeps every level passed to
  `bt_bas_set_battery_level` in `0 … 100` (`values_sent_in_range`).
-/

set_option autoImplicit false

namespace ZephyrGuide
namespace Ble

open Libc

/-! ## One update -/

/-- From a non-negative `int16_t` whose sum with `(r % m) - k` fits, the update computes that
signed sum. -/
theorem addRandom_toInt {v : BitVec 16} {r m k : BitVec 32} (hv : 0 ≤ v.toInt)
    (hk : k.toNat ≤ 2 ^ 15) (hsum : v.toInt + (r % m).toNat - k.toNat < 2 ^ 15) :
    (addRandom v r m k).toInt = v.toInt + (r % m).toNat - k.toNat := by
  have hx := (r % m).isLt
  have hvi : v.toInt = v.toNat ∧ v.toNat < 2 ^ 15 := by
    have := BitVec.toInt_eq_toNat_cond v
    split at this <;> omega
  have hmsb : v.msb = false := by
    rw [BitVec.msb_eq_decide]
    simp only [decide_eq_false_iff_not, Nat.not_le]
    exact hvi.2
  rw [hvi.1] at hsum ⊢
  unfold addRandom
  rw [BitVec.signExtend_eq_not_setWidth_not_of_msb_false hmsb, BitVec.toInt_eq_toNat_cond]
  simp only [BitVec.toNat_setWidth, BitVec.toNat_add, BitVec.toNat_sub]
  split <;> omega

/-- The update of a value in `0 … hi`, with `hi + m - k < 2¹⁵`, adds `r mod m` and takes `k`. -/
theorem addRandom_toInt_of_le {v : BitVec 16} (r : BitVec 32) {m k : Nat} {hi : Int}
    (hv : 0 ≤ v.toInt ∧ v.toInt ≤ hi) (hm : 0 < m ∧ m < 2 ^ 32) (hk : k ≤ 2 ^ 15)
    (hfit : hi + m - k ≤ 2 ^ 15) :
    (addRandom v r (BitVec.ofNat 32 m) (BitVec.ofNat 32 k)).toInt = v.toInt + (r.toNat % m : Nat) - k := by
  have hmk : (BitVec.ofNat 32 m).toNat = m ∧ (BitVec.ofNat 32 k).toNat = k := by
    simp only [BitVec.toNat_ofNat]
    exact ⟨Nat.mod_eq_of_lt hm.2, Nat.mod_eq_of_lt (by omega)⟩
  have hr : (r % BitVec.ofNat 32 m).toNat = r.toNat % m := by
    rw [BitVec.toNat_umod, hmk.1]
  have hlt := Nat.mod_lt r.toNat hm.1
  rw [addRandom_toInt hv.1 (by omega) (by rw [hr, hmk.2]; omega), hr, hmk.2]

/-- The clamps put any value in `0 … hi`. -/
theorem clamp_range (v : BitVec 16) {hi : BitVec 16} (hhi : 0 ≤ hi.toInt) :
    0 ≤ (clamp v hi).toInt ∧ (clamp v hi).toInt ≤ hi.toInt := by
  unfold clamp
  dsimp only
  split_ifs with h1 h2 h2 <;> simp_all

/-! ## Every step -/

/-- **What a step does to the sensors.**  Only `main`'s update writes `temperature` and
`humidity`, and it prints them as it leaves them. -/
theorem step_sensors {s t : State} {a : Act} (hs : program.step s a = some t) :
    (t.temperature = s.temperature ∧ t.humidity = s.humidity ∧ t.status = s.status) ∨
    ∃ r₁ r₂ : BitVec 32, t.temperature = clamp (addRandom s.temperature r₁ 100 50) 5000 ∧
      t.humidity = clamp (addRandom s.humidity r₂ 200 100) 10000 ∧
      t.status = s.status ++ [(t.temperature, t.humidity)] := by
  cases a with
  | main btErr advErr r₁ r₂ =>
    have hs : mainStep s btErr advErr r₁ r₂ = some t := hs
    unfold mainStep at hs
    split at hs
    · split at hs <;> (try split at hs) <;> simp only [Option.some.injEq] at hs <;> subst hs <;>
        exact .inl ⟨rfl, rfl, rfl⟩
    · simp only [Option.some.injEq] at hs
      subst hs
      exact .inr ⟨r₁, r₂, updateSensors_temperature s r₁ r₂, updateSensors_humidity s r₁ r₂,
        congrArg (· ++ _) (updateSensors_status s r₁ r₂)⟩
    · simp only [Option.some.injEq] at hs
      subst hs
      unfold State.notifyTemperature State.notify
      split <;> exact .inl ⟨rfl, rfl, rfl⟩
    · simp only [Option.some.injEq] at hs
      subst hs
      unfold State.notifyHumidity State.notify
      split <;> exact .inl ⟨rfl, rfl, rfl⟩
    · simp at hs
  | connected err =>
    simp only [program, Option.some.injEq] at hs
    subst hs
    unfold connected
    split <;> exact .inl ⟨rfl, rfl, rfl⟩
  | writeLed buf len offset =>
    simp only [program, Option.some.injEq] at hs
    subst hs
    unfold writeLed
    split <;> (try split) <;> exact .inl ⟨rfl, rfl, rfl⟩
  | disconnected | tempCcc _ | humidCcc _ =>
    simp only [program, Option.some.injEq] at hs
    subst hs
    exact .inl ⟨rfl, rfl, rfl⟩

/-- The sensors are in range, and so is every pair of values printed. -/
structure Ranges (s : State) : Prop where
  temperature : 0 ≤ s.temperature.toInt ∧ s.temperature.toInt ≤ 5000
  humidity : 0 ≤ s.humidity.toInt ∧ s.humidity.toInt ≤ 10000
  status : ∀ p ∈ s.status, (0 ≤ p.1.toInt ∧ p.1.toInt ≤ 5000) ∧ (0 ≤ p.2.toInt ∧ p.2.toInt ≤ 10000)

theorem ranges_holds : program.Invariant Ranges where
  init := ⟨by decide, by decide, nofun⟩
  step _ h hs := by
    rcases step_sensors hs with ⟨ht, hh, hst⟩ | ⟨r₁, r₂, ht, hh, hst⟩
    · exact ⟨ht ▸ h.temperature, hh ▸ h.humidity, hst ▸ h.status⟩
    · have h₁ : _ ∧ _ ≤ (5000 : BitVec 16).toInt := ht ▸ clamp_range _ (by decide)
      have h₂ : _ ∧ _ ≤ (10000 : BitVec 16).toInt := hh ▸ clamp_range _ (by decide)
      refine ⟨h₁, h₂, fun p hp => ?_⟩
      rw [hst, List.mem_append, List.mem_singleton] at hp
      rcases hp with hp | rfl
      · exact h.status p hp
      · exact ⟨h₁, h₂⟩

/-! ## The sensor line -/

/-- A non-negative value is printed as its own numeral. -/
theorem sensorNumeral_value {v : BitVec 16} (hv : 0 ≤ v.toInt) :
    decimalValue (sensorNumeral v) = some v.toInt := by
  rw [sensorNumeral, decimalValue_fmtInt _ (natAbs_tmod_lt v.toInt (b := 100) (by decide))]
  exact congrArg some ((tdiv_tmod_value _ (by decide)).trans (if_neg (by omega)))

/-- **The sensors stay in range, and are printed exactly.**  In every reachable state
`temperature` is in `0 … 5000` and `humidity` in `0 … 10000`.  From such a state the update of
`update_sensors`, before the clamps, is the signed sum of the value and
`(r % 100) - 50` (resp. `(r % 200) - 100`), in `-50 … 49` (resp. `-100 … 99`): the `unsigned`
arithmetic and the conversion back to `int16_t` wrap nothing.  And every line
`Sensors: Temp=%d.%02d C, Humid=%d.%02d%%` printed shows numerals equal to the values. -/
theorem sensors_in_range :
    (∀ s, program.Reachable s → 0 ≤ s.temperature.toInt ∧ s.temperature.toInt ≤ 5000 ∧
      0 ≤ s.humidity.toInt ∧ s.humidity.toInt ≤ 10000) ∧
    (∀ s, program.Reachable s → ∀ r : BitVec 32,
      (addRandom s.temperature r 100 50).toInt = s.temperature.toInt + (r.toNat % 100 : Nat) - 50) ∧
    (∀ s, program.Reachable s → ∀ r : BitVec 32,
      (addRandom s.humidity r 200 100).toInt = s.humidity.toInt + (r.toNat % 200 : Nat) - 100) ∧
    (∀ s, program.Reachable s → ∀ p ∈ s.status,
      decimalValue (sensorNumeral p.1) = some p.1.toInt ∧
        decimalValue (sensorNumeral p.2) = some p.2.toInt) :=
  ⟨fun _ hs => have h := ranges_holds.holds hs; ⟨h.temperature.1, h.temperature.2, h.humidity⟩,
    fun _ hs r => addRandom_toInt_of_le r (ranges_holds.holds hs).temperature (by decide)
      (by decide) (by norm_num),
    fun _ hs r => addRandom_toInt_of_le r (ranges_holds.holds hs).humidity (by decide)
      (by decide) (by norm_num),
    fun _ hs p hp => have h := (ranges_holds.holds hs).status p hp;
      ⟨sensorNumeral_value h.1.1, sensorNumeral_value h.2.1⟩⟩

/-! ## What the peripheral sends -/

/-- A notified value is in its sensor's range. -/
def Notification.InRange : Notification → Prop
  | .temperature v => 0 ≤ v.toInt ∧ v.toInt ≤ 5000
  | .humidity v => 0 ≤ v.toInt ∧ v.toInt ≤ 10000

@[simp] theorem notify_battery (s : State) (e : Bool) (n : Notification) :
    (s.notify e n).battery = s.battery := by
  unfold State.notify; split <;> rfl

@[simp] theorem notify_batteryLevels (s : State) (e : Bool) (n : Notification) :
    (s.notify e n).batteryLevels = s.batteryLevels := by
  unfold State.notify; split <;> rfl

theorem notify_notified (s : State) (e : Bool) (n : Notification) :
    (s.notify e n).notified = s.notified ∨ (s.notify e n).notified = s.notified ++ [n] := by
  unfold State.notify; split
  · exact .inr rfl
  · exact .inl rfl

/-- `battery = (battery > 0) ? battery - 1 : 100` stays in `0 … 100`. -/
theorem battery_next_le {b : BitVec 8} (h : b.toNat ≤ 100) :
    (if b > 0 then b - 1 else 100 : BitVec 8).toNat ≤ 100 := by
  split
  · rename_i hb
    have hb' : 0 < b.toNat := hb
    rw [BitVec.toNat_sub]
    have h1 : (1 : BitVec 8).toNat = 1 := rfl
    rw [h1]
    omega
  · decide

/-- The battery level and what the levels and notifications sent so far carry are in range. -/
structure Sent (s : State) : Prop where
  battery_le : s.battery.toNat ≤ 100
  levels_le : ∀ l ∈ s.batteryLevels, l.toNat ≤ 100
  notified : ∀ n ∈ s.notified, n.InRange

theorem Sent.notify {s : State} (h : Sent s) {e : Bool} {n : Notification} (hn : n.InRange) :
    Sent (s.notify e n) := by
  refine ⟨by simpa using h.battery_le, by simpa using h.levels_le, fun m hm => ?_⟩
  rcases notify_notified s e n with he | he <;> rw [he] at hm
  · exact h.notified m hm
  · rcases List.mem_append.1 hm with hm | hm
    · exact h.notified m hm
    · exact (List.mem_singleton.1 hm) ▸ hn

theorem sent_step {s t : State} {a : Act} (hr : Ranges s) (h : Sent s)
    (hs : program.step s a = some t) : Sent t := by
  cases a with
  | main btErr advErr r₁ r₂ =>
    have hs : mainStep s btErr advErr r₁ r₂ = some t := hs
    unfold mainStep at hs
    split at hs
    · split at hs <;> (try split at hs) <;> simp only [Option.some.injEq] at hs <;> subst hs <;>
        exact { h with }
    · simp only [Option.some.injEq] at hs
      subst hs
      exact { h with }
    · simp only [Option.some.injEq] at hs
      subst hs
      exact { h.notify (e := s.tempNotifyEnabled) (show Notification.InRange (.temperature _) from
        hr.temperature) with }
    · simp only [Option.some.injEq] at hs
      subst hs
      have hn := h.notify (e := s.humidNotifyEnabled) (show Notification.InRange (.humidity _) from
        hr.humidity)
      have hb := battery_next_le hn.battery_le
      refine ⟨hb, fun l hl => ?_, hn.notified⟩
      rcases List.mem_append.1 hl with hl | hl
      · exact hn.levels_le l hl
      · exact (List.mem_singleton.1 hl) ▸ hb
    · simp at hs
  | connected err =>
    simp only [program, Option.some.injEq] at hs
    subst hs
    unfold connected
    split <;> exact { h with }
  | writeLed buf len offset =>
    simp only [program, Option.some.injEq] at hs
    subst hs
    unfold writeLed
    split <;> (try split) <;> exact { h with }
  | disconnected | tempCcc _ | humidCcc _ =>
    simp only [program, Option.some.injEq] at hs
    subst hs
    exact { h with }

theorem sent_holds : program.Invariant fun s => Ranges s ∧ Sent s where
  init := ⟨ranges_holds.init, by decide, nofun, nofun⟩
  step a h hs := ⟨ranges_holds.step a h.1 hs, sent_step h.1 h.2 hs⟩

/-- **What a client receives is in range.**  Every level `main` passes to
`bt_bas_set_battery_level` is in `0 … 100`, the percentages the Battery Service accepts, and
every temperature and humidity `bt_gatt_notify` sends is in `0 … 5000` and `0 … 10000`. -/
theorem values_sent_in_range (s : State) (hs : program.Reachable s) :
    (∀ l ∈ s.batteryLevels, l.toNat ≤ 100) ∧
    (∀ v, .temperature v ∈ s.notified → 0 ≤ v.toInt ∧ v.toInt ≤ 5000) ∧
    (∀ v, .humidity v ∈ s.notified → 0 ≤ v.toInt ∧ v.toInt ≤ 10000) :=
  have h := (sent_holds.holds hs).2
  ⟨h.levels_le, fun _ hv => h.notified _ hv, fun _ hv => h.notified _ hv⟩

theorem values_sent_first_round :
    ∃ s, program.Reachable s ∧ s.batteryLevels = [99] ∧ s.notified.length = 2 ∧
      (99 : BitVec 8).toNat ≤ 100 := by
  obtain ⟨s, hs, h⟩ := program.exists_reachable_of_run
    [.main 0 0 0 0, .connected 0, .tempCcc 1, .humidCcc 1, .main 0 0 0 0, .main 0 0 0 0,
      .main 0 0 0 0]
    (fun s => s.batteryLevels == [99] && s.notified.length == 2) (by decide)
  simp only [Bool.and_eq_true, beq_iff_eq] at h
  exact ⟨s, hs, h.1, h.2, (values_sent_in_range s hs).1 99 (by simp [h.1])⟩

end Ble
end ZephyrGuide
