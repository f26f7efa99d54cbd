import ZephyrGuide.Kernel.System
import ZephyrGuide.Libc.Printf

/-!
# The BLE peripheral example: a sensor loop and the GATT callbacks

`examples/part6/ble-peripheral/src/main.c`.  `main` enables Bluetooth and starts advertising,
then loops: every 2 s it updates the simulated sensors (`update_sensors`), prints them, notifies
each one that a connected client has subscribed to, and counts the battery level down.  The
Bluetooth stack calls `connected` and `disconnected`, the CCC callbacks when a client
(un)subscribes, and `write_led` when it writes the LED characteristic; those run in the stack's
thread, between any two steps of `main`'s loop.

The loop body is three steps: the update and the `printk` of the values, `notify_temperature`,
and `notify_humidity` with the battery update.  The stack is modelled by its contract:
`bt_enable` and `bt_le_adv_start` return an error code, which is part of `main`'s action, and
`bt_gatt_notify` sends the value (`State.notified`).  The read callbacks only copy a static to
the client, and the `printk`s other than the sensor line print texts the model does not keep.

The integers follow the C types: `int16_t temperature` and `humidity` are `BitVec 16`.
`temperature += (sys_rand32_get() % 100) - 50` adds an `unsigned` expression to an `int16_t`:
the `int16_t` is promoted to `int` and converted to `unsigned`, the sum is taken modulo 2³², and
the result is converted back to `int16_t`, keeping its low 16 bits (`addRandom`).

Modelled from the spec: the Bluetooth stack is an external collaborator of the specification
(interfaces only), and its code is not in `src/`.  `bt_enable`, `bt_le_adv_start` and
`bt_gatt_notify` (`State.notify`), and the stack's calls of the callbacks (`Act`), are modelled
by the contract above.
-/

set_option autoImplicit false

namespace ZephyrGuide
namespace Ble

/-- `BT_GATT_CCC_NOTIFY`. -/
def BT_GATT_CCC_NOTIFY : BitVec 16 := 1

/-- `BT_ATT_ERR_INVALID_OFFSET`. -/
def BT_ATT_ERR_INVALID_OFFSET : Int := 0x07

/-- `BT_GATT_ERR(att_err)`. -/
def BT_GATT_ERR (attErr : Int) : Int := -attErr

/-- A notification `bt_gatt_notify` sent, with the value it carried. -/
inductive Notification
  | temperature (value : BitVec 16)
  | humidity (value : BitVec 16)
  deriving DecidableEq, Repr

/-- Where `main` is: before its setup, at the top of its loop, before each notification, or
returned. -/
inductive MainPc
  | start
  | update
  | notifyTemperature
  | notifyHumidity
  | done (err : Int)
  deriving DecidableEq, Repr

/-- The statics, `main`'s position, and what is printed and sent. -/
structure State where
  /-- `static int16_t temperature`, in 0.01 °C. -/
  temperature : BitVec 16
  /-- `static int16_t humidity`, in 0.01 %. -/
  humidity : BitVec 16
  /-- `static uint8_t led_state`. -/
  ledState : BitVec 8
  /-- `current_conn` is not `NULL`. -/
  currentConn : Bool
  tempNotifyEnabled : Bool
  humidNotifyEnabled : Bool
  /-- `static uint8_t battery` of `main`'s loop. -/
  battery : BitVec 8
  main : MainPc
  /-- `Sensors: Temp=%d.%02d C, Humid=%d.%02d%%`: the values printed. -/
  status : List (BitVec 16 × BitVec 16)
  notified : List Notification
  /-- The levels passed to `bt_bas_set_battery_level`. -/
  batteryLevels : List (BitVec 8)
  deriving DecidableEq, Repr

/-- The statics as the program defines them. -/
def init : State where
  temperature := 2500
  humidity := 4500
  ledState := 0
  currentConn := false
  tempNotifyEnabled := false
  humidNotifyEnabled := false
  battery := 100
  main := .start
  status := []
  notified := []
  batteryLevels := []

/-! ## The sensor loop -/

/-- `v += (sys_rand32_get() % m) - k` for an `int16_t v`, where `r` is what `sys_rand32_get`
returns: computed in `unsigned` arithmetic and converted back to `int16_t`. -/
def addRandom (v : BitVec 16) (r m k : BitVec 32) : BitVec 16 :=
  (v.signExtend 32 + (r % m - k)).setWidth 16

/-- `if (v < 0) v = 0; if (v > hi) v = hi;`. -/
@[irreducible] def clamp (v hi : BitVec 16) : BitVec 16 :=
  let v := if v.toInt < 0 then 0 else v
  if v.toInt > hi.toInt then hi else v

/-- `update_sensors`; `r₁` and `r₂` are what its two calls of `sys_rand32_get` return. -/
def State.updateSensors (s : State) (r₁ r₂ : BitVec 32) : State :=
  { s with temperature := clamp (addRandom s.temperature r₁ 100 50) 5000,
           humidity := clamp (addRandom s.humidity r₂ 200 100) 10000 }

@[simp] theorem updateSensors_temperature (s : State) (r₁ r₂ : BitVec 32) :
    (s.updateSensors r₁ r₂).temperature = clamp (addRandom s.temperature r₁ 100 50) 5000 := rfl

@[simp] theorem updateSensors_humidity (s : State) (r₁ r₂ : BitVec 32) :
    (s.updateSensors r₁ r₂).humidity = clamp (addRandom s.humidity r₂ 200 100) 10000 := rfl

@[simp] theorem updateSensors_status (s : State) (r₁ r₂ : BitVec 32) :
    (s.updateSensors r₁ r₂).status = s.status := rfl

/-- `%d.%02d` of `value / 100` and `abs(value % 100)`, as the sensor line prints both values. -/
def sensorNumeral (value : BitVec 16) : List Char :=
  Libc.fmtInt 0 (value.toInt.tdiv 100) ++ '.' :: Libc.fmtInt 2 (value.toInt.tmod 100).natAbs

/-- The body of `notify_temperature` and `notify_humidity`: `bt_gatt_notify` of `n` if a client
is connected and has enabled the notification.  Modelled from the spec for `bt_gatt_notify`,
whose code is not in `src/`: it sends the value. -/
def State.notify (s : State) (enabled : Bool) (n : Notification) : State :=
  if s.currentConn ∧ enabled then { s with notified := s.notified ++ [n] } else s

/-- `notify_temperature`. -/
def State.notifyTemperature (s : State) : State :=
  s.notify s.tempNotifyEnabled (.temperature s.temperature)

/-- `notify_humidity`. -/
def State.notifyHumidity (s : State) : State :=
  s.notify s.humidNotifyEnabled (.humidity s.humidity)

/-- One step of `main`.  `btErr` and `advErr` are what `bt_enable` and `bt_le_adv_start`
return, `r₁` and `r₂` what `sys_rand32_get` returns in `update_sensors`. -/
def mainStep (s : State) (btErr advErr : Int) (r₁ r₂ : BitVec 32) : Option State :=
  match s.main with
  | .start =>
    if btErr ≠ 0 then some { s with main := .done btErr }
    else if advErr ≠ 0 then some { s with main := .done advErr }
    else some { s with main := .update }
  | .update =>
    let s := s.updateSensors r₁ r₂
    some { s with status := s.status ++ [(s.temperature, s.humidity)], main := .notifyTemperature }
  | .notifyTemperature => some { s.notifyTemperature with main := .notifyHumidity }
  | .notifyHumidity =>
    let s := s.notifyHumidity
    let battery : BitVec 8 := if s.battery > 0 then s.battery - 1 else 100
    some { s with battery := battery, batteryLevels := s.batteryLevels ++ [battery],
                  main := .update }
  | .done _ => none

/-! ## The callbacks -/

/-- `connected`, with the stack's `err`. -/
def connected (s : State) (err : BitVec 8) : State :=
  if err ≠ 0 then s else { s with currentConn := true }

/-- `disconnected`. -/
def disconnected (s : State) : State :=
  { s with currentConn := false, tempNotifyEnabled := false, humidNotifyEnabled := false }

/-- `temp_ccc_changed`: the flag is `value == BT_GATT_CCC_NOTIFY`. -/
def tempCccChanged (s : State) (value : BitVec 16) : State :=
  { s with tempNotifyEnabled := value = BT_GATT_CCC_NOTIFY }

/-- `humid_ccc_changed`. -/
def humidCccChanged (s : State) (value : BitVec 16) : State :=
  { s with humidNotifyEnabled := value = BT_GATT_CCC_NOTIFY }

/-- `write_led(conn, attr, buf, len, offset, flags)`: a write past the one byte of `led_state`
is refused; otherwise the `len` bytes of `buf` are copied to `&led_state + offset`. -/
def writeLed (s : State) (buf : List (BitVec 8)) (len offset : BitVec 16) : State × Int :=
  if offset.toNat + len.toNat > 1 then (s, BT_GATT_ERR BT_ATT_ERR_INVALID_OFFSET)
  else if len.toNat = 1 then ({ s with ledState := buf.headD 0 }, len.toNat)
  else (s, len.toNat)

/-- Who moves next: `main`, or the Bluetooth stack with a callback. -/
inductive Act
  | main (btErr advErr : Int) (r₁ r₂ : BitVec 32)
  | connected (err : BitVec 8)
  | disconnected
  | tempCcc (value : BitVec 16)
  | humidCcc (value : BitVec 16)
  | writeLed (buf : List (BitVec 8)) (len offset : BitVec 16)
  deriving DecidableEq, Repr

/-- The example as a system: `main`'s loop interleaved with the stack's callbacks. -/
def program : System State Act where
  init := init
  step s
    | .main btErr advErr r₁ r₂ => mainStep s btErr advErr r₁ r₂
    | .connected err => some (connected s err)
    | .disconnected => some (disconnected s)
    | .tempCcc value => some (tempCccChanged s value)
    | .humidCcc value => some (humidCccChanged s value)
    | .writeLed buf len offset => some (writeLed s buf len offset).1

end Ble
end ZephyrGuide
