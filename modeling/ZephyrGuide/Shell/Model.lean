import ZephyrGuide.Kernel.System
import ZephyrGuide.Libc.Printf

/-!
# The shell example: commands and a sensor thread

`docs/examples/part6/shell/src/main.c`.  Three statics are shared: `led_state`,
`sensor_interval_ms` (1000) and `sensor_reading`.  The shell thread runs one command handler at a
time — `led on|off|status`, `sensor read`, `sensor interval [ms]` and `uptime` — and each handler
is one step: it reads and writes the statics and prints with `shell_print` or `shell_error`.
`sensor_thread` sets `sensor_reading` to 2500 and then, once per `k_msleep`, adds
`(k_cycle_get_32() % 11) - 5` to it.

The integers follow the C types.  `int` is `BitVec 32` with C's truncating division read through
`toInt`; `sensor_reading += (k_cycle_get_32() % 11) - 5` adds an `unsigned` to an `int`, so it is
computed modulo 2³² and stored back as it is (`sensorDrift`).  What the code does not decide is
part of the action: the command typed, the value `atoi` makes of `sensor interval`'s argument,
what `k_uptime_get` and `k_cycle_get_32` return.  `main` only prints a banner with `printk` and
returns.
-/

set_option autoImplicit false

namespace ZephyrGuide
namespace Shell

open Libc

/-- `EINVAL`, in Zephyr's numbering. -/
def EINVAL : Int := 22

/-- A line the shell prints: with `shell_print`, or with `shell_error`. -/
inductive Line
  | print (text : List Char)
  | error (text : List Char)
  deriving DecidableEq, Repr

/-- Where `sensor_thread` is: before `sensor_reading = 2500`, or in its loop. -/
inductive SensorPc
  | start
  | loop
  deriving DecidableEq, Repr

/-- The statics, the sensor thread's position, and what the shell printed. -/
structure State where
  /-- `static int led_state`. -/
  ledState : BitVec 32
  /-- `static int sensor_interval_ms`. -/
  sensorIntervalMs : BitVec 32
  /-- `static int sensor_reading`. -/
  sensorReading : BitVec 32
  sensor : SensorPc
  out : List Line
  deriving DecidableEq, Repr

/-- The statics as the program defines them. -/
def init : State where
  ledState := 0
  sensorIntervalMs := 1000
  sensorReading := 0
  sensor := .start
  out := []

/-- `shell_print(sh, ...)` of the text formatted. -/
def State.print (s : State) (text : List Char) : State := { s with out := s.out ++ [.print text] }

/-- `shell_error(sh, ...)`. -/
def State.error (s : State) (text : List Char) : State := { s with out := s.out ++ [.error text] }

/-! ## The commands -/

/-- `cmd_led_on`. -/
def cmdLedOn (s : State) : State × Int :=
  ({ s with ledState := 1 }.print "LED turned ON".toList, 0)

/-- `cmd_led_off`. -/
def cmdLedOff (s : State) : State × Int :=
  ({ s with ledState := 0 }.print "LED turned OFF".toList, 0)

/-- `cmd_led_status`: `"LED is %s"` of `led_state ? "ON" : "OFF"`. -/
def cmdLedStatus (s : State) : State × Int :=
  (s.print ("LED is ".toList ++ if s.ledState ≠ 0 then "ON".toList else "OFF".toList), 0)

/-- `%d.%02d` of `sensor_reading / 100` and `sensor_reading % 100`, with C's truncating division:
the remainder keeps the sign of `sensor_reading`. -/
def sensorReadNumeral (sensorReading : BitVec 32) : List Char :=
  fmtInt 0 (sensorReading.toInt.tdiv 100) ++ '.' :: fmtInt 2 (sensorReading.toInt.tmod 100)

/-- `cmd_sensor_read`: `"Temperature: %d.%02d C"`. -/
def cmdSensorRead (s : State) : State × Int :=
  (s.print ("Temperature: ".toList ++ sensorReadNumeral s.sensorReading ++ " C".toList), 0)

/-- `cmd_sensor_interval`; `arg` is `atoi(argv[1])`, or `none` when `argc < 2`. -/
def cmdSensorInterval (s : State) (arg : Option (BitVec 32)) : State × Int :=
  match arg with
  | none =>
    (s.print ("Current interval: ".toList ++ fmtInt 0 s.sensorIntervalMs.toInt ++ " ms".toList), 0)
  | some val =>
    if val.toInt < 100 ∨ val.toInt > 60000 then
      (s.error "Interval must be 100-60000 ms".toList, -EINVAL)
    else
      let s := { s with sensorIntervalMs := val }
      (s.print ("Sensor interval set to ".toList ++ fmtInt 0 s.sensorIntervalMs.toInt ++
        " ms".toList), 0)

/-- `cmd_uptime`; `ms` is what `k_uptime_get()` returns.  `sec = (int)(ms / 1000)` keeps the low
32 bits of the quotient, and `min = sec / 60`. -/
def cmdUptime (s : State) (ms : BitVec 64) : State × Int :=
  let sec : BitVec 32 := (ms.sdiv 1000).setWidth 32
  let min := sec.sdiv 60
  (s.print ("Uptime: ".toList ++ fmtInt 0 min.toInt ++ "m ".toList ++ fmtInt 0 (sec.srem 60).toInt ++
    "s (".toList ++ fmtInt 0 ms.toInt ++ " ms)".toList), 0)

/-! ## The sensor thread -/

/-- `sensor_reading += (k_cycle_get_32() % 11) - 5`, in `unsigned` arithmetic. -/
def sensorDrift (sensorReading cycle : BitVec 32) : BitVec 32 := sensorReading + (cycle % 11 - 5)

/-- One step of `sensor_thread`: `sensor_reading = 2500`, or one round of its loop, in which
`k_cycle_get_32()` returns `cycle`. -/
def sensorThread (s : State) (cycle : BitVec 32) : State :=
  match s.sensor with
  | .start => { s with sensorReading := 2500, sensor := .loop }
  | .loop => { s with sensorReading := sensorDrift s.sensorReading cycle }

/-- A command typed at the shell, or a step of the sensor thread. -/
inductive Act
  | ledOn
  | ledOff
  | ledStatus
  | sensorRead
  | sensorInterval (arg : Option (BitVec 32))
  | uptime (ms : BitVec 64)
  | sensor (cycle : BitVec 32)
  deriving DecidableEq, Repr

/-- The example as a system: every interleaving of commands and sensor steps. -/
def program : System State Act where
  init := init
  step s
    | .ledOn => some (cmdLedOn s).1
    | .ledOff => some (cmdLedOff s).1
    | .ledStatus => some (cmdLedStatus s).1
    | .sensorRead => some (cmdSensorRead s).1
    | .sensorInterval arg => some (cmdSensorInterval s arg).1
    | .uptime ms => some (cmdUptime s ms).1
    | .sensor cycle => some (sensorThread s cycle)

/-- **`sensor_interval_ms` stays in range.**  Its initial 1000 is in `100 … 60000`, and
`cmd_sensor_interval` stores only a value that is. -/
theorem interval_in_range :
    program.Invariant fun s => 100 ≤ s.sensorIntervalMs.toInt ∧ s.sensorIntervalMs.toInt ≤ 60000 where
  init := by decide
  step a h hs := by
    cases a <;> simp only [program, Option.some.injEq] at hs <;> subst hs
    case sensorInterval arg =>
      unfold cmdSensorInterval
      rcases arg with _ | val
      · exact h
      · dsimp only
        split
        · exact h
        · show 100 ≤ val.toInt ∧ val.toInt ≤ 60000
          omega
    case sensor cycle => unfold sensorThread; split <;> exact h
    all_goals exact h

end Shell
end ZephyrGuide
