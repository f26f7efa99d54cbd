import ZephyrGuide.Mqtt.Model
import ZephyrGuide.Libc.String

/-!
# The MQTT example: what `handle_message` does with a PUBLISH

`handle_message` copies at most 63 bytes of the payload into `payload[64]` and ends them with a
NUL, prints the topic and the payload, and then, if the topic is `TOPIC_CONTROL`, looks for an
`on` or `off` command in the payload.  `mqttEvtHandler` in `Mqtt.Model` leaves the printing out;
this file models the function on its own, for every topic and payload.

* **`handle_message` takes every prefix of `control/led` for the control topic**
  (`handleMessage_spec`).  Its `strncmp` is bounded by the size of the topic received rather
  than by the length of `TOPIC_CONTROL`, so `control`, `con` and the empty topic are taken for
  it as well.
* **The command is read from the payload's first 63 bytes, up to the first NUL**: the payload is
  printed and compared as that C string, so `on` followed by a NUL and anything at all is an ON
  command, and a payload longer than 63 bytes is cut short before it is read.

A topic is its `size` characters, which `%.*s` prints and `strncmp` reads up to the first NUL.
MQTT topic names are UTF-8 strings that may not contain U+0000, which is the hypothesis of the
theorem; the payload is arbitrary bytes.
-/

set_option autoImplicit false

namespace ZephyrGuide
namespace Mqtt

open Libc

/-- `handle_message(pub)` for a PUBLISH of `topic` (its `topic.size` characters) with payload
`data` (its `payload.len` bytes): the lines it prints.  `len` is compared with
`sizeof(payload) - 1` as a `size_t`, so it is cut to 63 whatever `payload.len` is. -/
def handleMessage (topic data : List Char) : List (List Char) :=
  let len := if data.length > 64 - 1 then 64 - 1 else data.length
  let payload := data.take len ++ ['\x00']
  let received :=
    "[MQTT] Received on '".toList ++ cString topic ++ "': ".toList ++ cString payload ++ "\n".toList
  if strncmpEq topic TOPIC_CONTROL topic.length then
    if cString payload = "on".toList then [received, "[MQTT] LED control: ON\n".toList]
    else if cString payload = "off".toList then [received, "[MQTT] LED control: OFF\n".toList]
    else [received]
  else [received]

/-- The string `handle_message` reads from `payload[64]`. -/
theorem cString_payload (data : List Char) :
    cString (data.take (if data.length > 64 - 1 then 64 - 1 else data.length) ++ ['\x00']) =
      cString (data.take 63) := by
  rw [cString_append_nul]
  split
  · rfl
  · rw [List.take_length, List.take_of_length_le (by omega)]

/-- **What `handle_message` prints, for every topic and payload.**  It prints the topic and the
payload's first 63 bytes up to the first NUL; and it takes the topic for `control/led` exactly
when it is a prefix of it, the empty topic included. -/
theorem handleMessage_spec (topic data : List Char) (h : '\x00' ∉ topic) :
    handleMessage topic data =
      ("[MQTT] Received on '".toList ++ topic ++ "': ".toList ++ cString (data.take 63) ++
          "\n".toList) ::
        if topic <+: TOPIC_CONTROL ∧ cString (data.take 63) = "on".toList then
          ["[MQTT] LED control: ON\n".toList]
        else if topic <+: TOPIC_CONTROL ∧ cString (data.take 63) = "off".toList then
          ["[MQTT] LED control: OFF\n".toList]
        else [] := by
  have hp := strncmpEq_length_iff_prefix TOPIC_CONTROL h
  simp only [handleMessage, cString_payload, cString_of_not_mem h]
  by_cases ht : topic <+: TOPIC_CONTROL
  · simp only [hp.2 ht, ht, true_and, ↓reduceIte]
    split_ifs <;> rfl
  · simp only [ht, false_and, ↓reduceIte, mt hp.1 ht, Bool.false_eq_true]

/-- `off` on `control/led` switches the LED off; `on`, a NUL and more on the empty topic
switches it on. -/
theorem control_topic_off_and_empty_topic_on :
    handleMessage TOPIC_CONTROL "off".toList =
        ["[MQTT] Received on 'control/led': off\n".toList, "[MQTT] LED control: OFF\n".toList] ∧
      handleMessage [] "on\x00 and more".toList =
        ["[MQTT] Received on '': on\n".toList, "[MQTT] LED control: ON\n".toList] :=
  ⟨(handleMessage_spec TOPIC_CONTROL _ (by decide)).trans (by decide),
    (handleMessage_spec [] _ (List.not_mem_nil _)).trans (by decide)⟩

end Mqtt
end ZephyrGuide
