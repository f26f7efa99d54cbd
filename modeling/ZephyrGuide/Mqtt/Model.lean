import ZephyrGuide.Kernel.System
import ZephyrGuide.Kernel.Sem
import ZephyrGuide.Libc.Printf

/-!
# The MQTT example: a client thread, an input thread, and the broker

`docs/examples/part6/mqtt/src/main.c`.  `main` connects to the broker, waits up to 10 s on
`mqtt_sem` for the connection to be acknowledged, subscribes to `control/led`, and then publishes
a temperature every 10 s.  `mqtt_input_thread` polls the socket and feeds what arrives to
`mqtt_input`, which decodes one packet and calls `mqtt_evt_handler` with the event; the handler
sets `connected` and gives `mqtt_sem` on a CONNACK with result 0.

The MQTT library is modelled by its contract, as the kernel objects are: `mqtt_connect` sends
CONNECT and returns (its result is part of `main`'s action), `mqtt_input` reads one event from the
socket and calls the handler, `mqtt_live` may send a PINGREQ, and `mqtt_subscribe`,
`mqtt_publish` and `mqtt_publish_qos1_ack` send their packet.  The broker is an action of its
own that puts an event on the socket at any time.

Besides the globals, the state records the connection's trace `io`: every packet the client
sent and every event its handler processed, in order.  `sys_rand32_get` values are part of
`main`'s action, and `read_temperature`'s static is the field `temp`.

Modelled from the spec: the MQTT library is an external collaborator of the specification
(interfaces only), and its code is not in `src/`.  `Packet`, `Evt` and the `.input` and `.live`
steps of `mqttInputThread` stand for it, by the contract above.
-/

set_option autoImplicit false

namespace ZephyrGuide
namespace Mqtt

open Libc

/-- `ETIMEDOUT`, in Zephyr's numbering. -/
def ETIMEDOUT : Int := 116

/-- `TOPIC_SENSOR`. -/
def TOPIC_SENSOR : List Char := "sensors/temperature".toList

/-- `TOPIC_CONTROL`. -/
def TOPIC_CONTROL : List Char := "control/led".toList

/-- `MQTT_QOS_1_AT_LEAST_ONCE`. -/
def MQTT_QOS_1_AT_LEAST_ONCE : Nat := 1

/-- Modelled from the spec (the MQTT library's code is not in `src/`): an MQTT control packet
the client sends. -/
inductive Packet
  | connect
  | subscribe (messageId : Nat) (topic : List Char) (qos : Nat)
  | publish (messageId : Nat) (topic : List Char) (payload : List Char) (len : Nat) (qos : Nat)
  | puback (messageId : Nat)
  | pingreq
  deriving DecidableEq, Repr

/-- Modelled from the spec (the MQTT library's code is not in `src/`): an event `mqtt_input`
decodes from what the broker sent. -/
inductive Evt
  | connack (result : Int)
  | disconnect
  | publish (topic : List Char) (payload : List Char) (qos : Nat) (messageId : Nat)
  | puback (messageId : Nat)
  | suback (messageId : Nat)
  | pingresp
  deriving DecidableEq, Repr

/-- One entry of the connection's trace: a packet sent, or an event handled. -/
inductive Io
  | send (p : Packet)
  | recv (e : Evt)
  deriving DecidableEq, Repr

/-- The only thread that waits on `mqtt_sem`. -/
inductive Tid
  | main
  deriving DecidableEq, Repr

/-- Where `main` is. -/
inductive MainPc
  /-- `k_sleep(K_SECONDS(5))`, `app_mqtt_init`, and `mqtt_connect` in `app_mqtt_connect`. -/
  | start
  /-- `k_sem_take(&mqtt_sem, K_SECONDS(10))`. -/
  | take
  | waitTake
  /-- `if (!connected) return -ETIMEDOUT;` -/
  | check
  /-- `mqtt_subscribe_control`. -/
  | subscribe
  /-- The body of `while (1)`: publish if connected, then `k_sleep(K_SECONDS(10))`. -/
  | loop
  /-- `main` has returned `ret`. -/
  | done (ret : Int)
  deriving DecidableEq, Repr

/-- Where `mqtt_input_thread` is in its `while (1)` loop. -/
inductive InputPc
  /-- `if (!connected) { k_sleep(K_SECONDS(1)); continue; }` -/
  | top
  /-- `poll(fds, 1, 1000)`. -/
  | poll
  /-- `mqtt_input(&client)`. -/
  | input
  /-- `mqtt_live(&client)`. -/
  | live
  deriving DecidableEq, Repr

/-- The globals, the socket, the trace, and the positions of the two threads. -/
structure State where
  connected : Bool
  mqttSem : KSem Tid
  /-- What the broker sent and `mqtt_input` has not read yet. -/
  socket : List Evt
  io : List Io
  temp : BitVec 32
  main : MainPc
  input : InputPc

/-- `connected = false`, `K_SEM_DEFINE(mqtt_sem, 0, 1)`, `temp = 2500`. -/
def init : State where
  connected := false
  mqttSem := KSem.define 0 1 (by decide)
  socket := []
  io := []
  temp := 2500
  main := .start
  input := .top

/-! ## The functions of `main.c` -/

/-- `read_temperature` with `r = sys_rand32_get()`: the new value of the static `temp`, which it
returns.  `(r % 100) - 50` is computed in `uint32_t` and added modulo 2³². -/
def readTemperature (temp r : BitVec 32) : BitVec 32 := temp + (r % 100 - 50)

/-- The `%d.%02d` part of `mqtt_publish_sensor`'s payload: `temperature / 100` and
`abs(temperature % 100)`, with C's truncating division. -/
def tempNumeral (temperature : BitVec 32) : List Char :=
  fmtInt 0 (temperature.toInt.tdiv 100) ++ '.' :: fmtInt 2 (temperature.toInt.tmod 100).natAbs

/-- The text `snprintf` formats in `mqtt_publish_sensor`: `{"temp":%d.%02d}`. -/
def payloadText (temperature : BitVec 32) : List Char :=
  "\x7b\"temp\":".toList ++ tempNumeral temperature ++ ['\x7d']

/-- `mqtt_publish_sensor(temperature)` with `r = sys_rand32_get()`: the PUBLISH it sends, whose
payload is `payload[32]` after the `snprintf` and whose length is what `snprintf` returned. -/
def mqttPublishSensor (temperature r : BitVec 32) : Packet :=
  .publish (r &&& 0xFFFF).toNat TOPIC_SENSOR (snprintf 32 (payloadText temperature)).1
    (snprintf 32 (payloadText temperature)).2 MQTT_QOS_1_AT_LEAST_ONCE

/-- `mqtt_subscribe_control` with `r = sys_rand32_get()`: the SUBSCRIBE it sends. -/
def mqttSubscribeControl (r : BitVec 32) : Packet :=
  .subscribe (r &&& 0xFFFF).toNat TOPIC_CONTROL MQTT_QOS_1_AT_LEAST_ONCE

/-- Make `main` ready if a give handed it `mqtt_sem`. -/
def State.wake (s : State) : Option Tid → State
  | some .main => if s.main = .waitTake then { s with main := .check } else s
  | none => s

/-- `mqtt_evt_handler`.  `handle_message` only prints (its GPIO calls are commented out), so a
PUBLISH leaves the state as it was but for the PUBACK of a QoS-1 message. -/
def mqttEvtHandler (s : State) : Evt → State
  | .connack result =>
    if result = 0 then { s with connected := true, mqttSem := s.mqttSem.give.1 }.wake s.mqttSem.give.2
    else s
  | .disconnect => { s with connected := false }
  | .publish _ _ qos messageId =>
    if qos = MQTT_QOS_1_AT_LEAST_ONCE then { s with io := s.io ++ [.send (.puback messageId)] }
    else s
  | .puback _ | .suback _ | .pingresp => s

/-- One step of `main`: `ret` is what `mqtt_connect` returns, `r₁` and `r₂` what the calls of
`sys_rand32_get` return. -/
def mainStep (s : State) (ret : Int) (r₁ r₂ : BitVec 32) : Option State :=
  match s.main with
  | .start =>
    if ret ≠ 0 then some { s with main := .done ret }
    else some { s with io := s.io ++ [.send .connect], main := .take }
  | .take =>
    some { s with mqttSem := (s.mqttSem.take .main).1,
                  main := if (s.mqttSem.take .main).2 then .check else .waitTake }
  | .check =>
    if s.connected then some { s with main := .subscribe }
    else some { s with main := .done (-ETIMEDOUT) }
  | .subscribe => some { s with io := s.io ++ [.send (mqttSubscribeControl r₁)], main := .loop }
  | .loop =>
    if s.connected then
      some { s with temp := readTemperature s.temp r₁,
                    io := s.io ++ [.send (mqttPublishSensor (readTemperature s.temp r₁) r₂)] }
    else some s
  | .waitTake | .done _ => none

/-- The 10 s of `main`'s `k_sem_take` run out. -/
def timeoutStep (s : State) : Option State :=
  match s.main with
  | .waitTake => some { s with mqttSem := s.mqttSem.timeout .main, main := .check }
  | _ => none

/-- One step of `mqtt_input_thread`; `ping` is whether `mqtt_live` finds a PINGREQ due. -/
def mqttInputThread (s : State) (ping : Bool) : Option State :=
  match s.input with
  | .top => some { s with input := if s.connected then .poll else .top }
  | .poll => some { s with input := if s.socket = [] then .live else .input }
  | .input =>
    match s.socket with
    | e :: rest =>
      some { mqttEvtHandler { s with socket := rest, io := s.io ++ [.recv e] } e with
        input := .live }
    | [] => some { s with input := .live }
  | .live => some { s with io := if ping then s.io ++ [.send .pingreq] else s.io, input := .top }

/-- Who moves next: `main`, the input thread, the clock ending `main`'s wait, or the broker
sending an event. -/
inductive Act
  | main (ret : Int) (r₁ r₂ : BitVec 32)
  | input (ping : Bool)
  | timeout
  | broker (e : Evt)
  deriving DecidableEq, Repr

/-- The example as a system. -/
def program : System State Act where
  init := init
  step s
    | .main ret r₁ r₂ => mainStep s ret r₁ r₂
    | .input ping => mqttInputThread s ping
    | .timeout => timeoutStep s
    | .broker e => some { s with socket := s.socket ++ [e] }

end Mqtt
end ZephyrGuide
