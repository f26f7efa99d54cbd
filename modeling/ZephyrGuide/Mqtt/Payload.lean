import ZephyrGuide.Mqtt.Model

/-!
# The payload of `mqtt_publish_sensor`

`snprintf(payload, sizeof(payload), "{\"temp\":%d.%02d}", temperature / 100,
abs(temperature % 100))` prints a temperature in hundredths of a degree as a decimal numeral.

* The text always fits `payload[32]`: `%d` of an `int32_t` divided by 100 is at most nine
  characters, and the whole text at most 21 (`mqttPublishSensor_sends_payload`).
* The numeral reads back as the temperature except on `-99 … -1`: there `temperature / 100` is
  0, which `%d` prints without a sign, and the remainder has lost its sign to `abs`
  (`tempNumeral_value`).  So -50 is sent as `{"temp":0.50}` (`negative_temp_loses_sign`).
* `read_temperature`'s walk reaches every `int32_t`: a step with `sys_rand32_get() % 100 = 51`
  adds one, modulo 2³² (`readTemperature_reaches`).
-/

set_option autoImplicit false

namespace ZephyrGuide
namespace Mqtt

open Libc

/-! ## Sizes -/

/-- `temperature / 100` of an `int32_t` has at most eight digits. -/
theorem natAbs_tdiv_lt (temperature : BitVec 32) :
    (temperature.toInt.tdiv 100).natAbs < 10 ^ 8 := by
  have := temperature.isLt
  rw [Int.natAbs_tdiv, BitVec.toInt_eq_toNat_cond]
  change _ / 100 < _
  split <;> omega

theorem payloadText_length (temperature : BitVec 32) :
    0 < (payloadText temperature).length ∧ (payloadText temperature).length ≤ 21 := by
  have hq := fmtInt_zero_length_le (by decide) (natAbs_tdiv_lt temperature)
  have hr := (fmtInt_two (natAbs_tmod_lt temperature.toInt (b := 100) (by decide)) 0).1
  have h8 : ("\x7b\"temp\":".toList).length = 8 := by decide
  simp only [payloadText, tempNumeral, List.length_append, List.length_cons, hr, h8,
    List.length_singleton, List.length_nil]
  omega

/-- **The payload is never truncated.**  `mqtt_publish_sensor` sends the whole text
`{"temp":%d.%02d}` of its argument, with its length, and that length is between 1 and 31. -/
theorem mqttPublishSensor_sends_payload (temperature r : BitVec 32) :
    mqttPublishSensor temperature r =
      .publish (r &&& 0xFFFF).toNat TOPIC_SENSOR (payloadText temperature)
        (payloadText temperature).length MQTT_QOS_1_AT_LEAST_ONCE ∧
    0 < (payloadText temperature).length ∧ (payloadText temperature).length < 32 := by
  have h := payloadText_length temperature
  refine ⟨?_, h.1, by omega⟩
  simp only [mqttPublishSensor, snprintf]
  rw [List.take_of_length_le (by omega)]

/-! ## The value printed -/

/-- **What the payload's numeral says.**  `%d.%02d` of `temperature / 100` and
`abs(temperature % 100)` reads back as `temperature` hundredths, except on `-99 … -1`, where it
reads as the opposite. -/
theorem tempNumeral_value (temperature : BitVec 32) :
    decimalValue (tempNumeral temperature) =
      some (if temperature.toInt < 0 ∧ -100 < temperature.toInt then -temperature.toInt
        else temperature.toInt) := by
  rw [tempNumeral, decimalValue_fmtInt _ (natAbs_tmod_lt temperature.toInt (b := 100) (by decide))]
  rw [tdiv_tmod_value _ (by decide)]

/-! ## The random walk -/

/-- Steps of `read_temperature` with `sys_rand32_get() = 51` add one each. -/
theorem readTemperature_replicate (k : Nat) (temp : BitVec 32) :
    (List.replicate k 51).foldl readTemperature temp = temp + BitVec.ofNat 32 k := by
  induction k generalizing temp with
  | zero => simp
  | succ k ih =>
    rw [List.replicate_succ, List.foldl_cons, ih]
    have h1 : readTemperature temp 51 = temp + 1 :=
      congrArg (temp + ·) (by decide : (51 : BitVec 32) % 100 - 50 = 1)
    rw [h1]
    bv_omega

/-- **Every `int32_t` is reachable.**  From its initial 2500, `read_temperature` returns any
value after suitably many calls. -/
theorem readTemperature_reaches (v : BitVec 32) :
    ∃ rs : List (BitVec 32), rs.foldl readTemperature init.temp = v :=
  ⟨List.replicate (v - init.temp).toNat 51, by
    rw [readTemperature_replicate, BitVec.ofNat_toNat, BitVec.setWidth_eq]
    bv_omega⟩

/-- **A negative temperature loses its sign.**  After 51 calls of `read_temperature` with
`sys_rand32_get()` returning 0 the temperature is -0.50 °C; `mqtt_publish_sensor` formats it as
`{"temp":0.50}`, whose numeral reads as +0.50. -/
theorem negative_temp_loses_sign :
    (List.replicate 51 0).foldl readTemperature init.temp = -50 ∧
      payloadText (-50) = "\x7b\"temp\":0.50\x7d".toList ∧
      decimalValue (tempNumeral (-50)) = some 50 := by
  decide

end Mqtt
end ZephyrGuide
