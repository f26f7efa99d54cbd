import ZephyrGuide.Kernel.System
import ZephyrGuide.Kernel.Sem
import ZephyrGuide.Kernel.Msgq

/-!
# The zbus example: one channel, a listener and a subscriber

`examples/part4/zbus/src/main.c`.  `main` publishes ten `struct sensor_data` on `sensor_chan`
with `zbus_chan_pub(&sensor_chan, &msg, K_MSEC(100))`.  A publish takes the channel, copies the
message in, runs the observers in order — the listener `display_listener` in the publisher's
context, then a notification into the queue of the subscriber `logger_sub` (8 entries) — and
releases the channel.  `logger_thread_entry` loops on `zbus_sub_wait` and
`zbus_chan_read(chan, &msg, K_NO_WAIT)`, and prints `msg` whatever the read returned.

The channel's lock is a binary semaphore, `chanSem`.  A read with `K_NO_WAIT` that finds it
taken returns `-EBUSY` and leaves `msg` as it was: uninitialised, since `msg` is declared afresh
in each iteration.  What an uninitialised `struct sensor_data` holds is not determined by the
program, so the logger's action carries it, `junk`, and a failed read prints that.

The integers follow the C types: `int32_t` and `uint32_t` are `BitVec 32`, and
`read_temperature`'s `temp += (sys_rand32_get() % 1000) - 500` is computed, as C does, in
unsigned 32-bit arithmetic and stored back modulo 2³²; the random values and the uptime are the
arguments of `main`'s sampling action.

Modelled from the spec: zbus is an external collaborator of the specification (interfaces
only), and its code is not in `src/`.  `zbus_chan_pub`, `zbus_chan_read` and `zbus_sub_wait` are
modelled by the contract above, on the kernel objects of `Kernel.Sem` and `Kernel.Msgq`
(`State.handChannel`, `State.notified`).
-/

set_option autoImplicit false

namespace ZephyrGuide
namespace Zbus

/-- `struct sensor_data`. -/
structure SensorData where
  temperature : BitVec 32
  humidity : BitVec 32
  timestamp : BitVec 32
  deriving DecidableEq, Repr

/-- `ZBUS_MSG_INIT(.temperature = 0, .humidity = 0, .timestamp = 0)`. -/
def initMsg : SensorData := ⟨0, 0, 0⟩

/-- The threads that block on the channel or on the subscriber's queue. -/
inductive Tid
  | main
  | logger
  deriving DecidableEq, Repr

/-- Where `main` is in iteration `i` of `for (int i = 0; i < 10; i++)`. -/
inductive MainPc
  /-- `read_temperature`, `read_humidity`, `k_uptime_get_32` and the printk. -/
  | sample (i : Nat)
  /-- `zbus_chan_pub` takes the channel. -/
  | lock (i : Nat)
  /-- Blocked on the channel, for at most 100 ms. -/
  | waitLock (i : Nat)
  /-- The channel is held and holds the message: the observers run, then the release. -/
  | notify (i : Nat)
  /-- `logger_sub`'s queue is full; the publish waits for room, for what is left of 100 ms. -/
  | waitRoom (i : Nat)
  | done
  deriving DecidableEq, Repr

/-- Where `logger_thread_entry` is in its `while (1)` loop. -/
inductive LoggerPc
  /-- `zbus_sub_wait(&logger_sub, &chan, K_FOREVER)`. -/
  | wait
  | waitSub
  /-- `zbus_chan_read(chan, &msg, K_NO_WAIT)`: taking the channel. -/
  | read
  /-- Holding the channel: the copy, the release, and the printk. -/
  | copy
  deriving DecidableEq, Repr

/-- The channel, the subscriber's queue, the statics of the sensor functions, `main`'s `msg`,
the positions, and what is printed. -/
structure State where
  chanMsg : SensorData
  chanSem : KSem Tid
  loggerSub : KMsgq Unit Tid
  temp : BitVec 32
  hum : BitVec 32
  msg : SensorData
  main : MainPc
  logger : LoggerPc
  /-- Messages copied into the channel, in order. -/
  published : List SensorData
  /-- `[Display] …`: the message `display_listener` printed. -/
  display : List SensorData
  /-- `[Logger] Logged: …`: what `zbus_chan_read` returned, which the logger ignores, and the
  message printed. -/
  logged : List (Int × SensorData)
  /-- `[Publisher] Publish failed: %d`. -/
  failed : List Int

/-- The channel free with its initial message, the statics at 22000 and 45000. -/
def init : State where
  chanMsg := initMsg
  chanSem := KSem.define 1 1 (by decide)
  loggerSub := KMsgq.define 8
  temp := 22000
  hum := 45000
  msg := initMsg
  main := .sample 0
  logger := .wait
  published := []
  display := []
  logged := []
  failed := []

/-- The end of iteration `i` of `main`: `k_sleep`, `i++` and the loop test. -/
def MainPc.next (i : Nat) : MainPc := if i + 1 < 10 then .sample (i + 1) else .done

/-- `zbus_sub_wait` returned, on a notification. -/
def LoggerPc.wake : LoggerPc → LoggerPc
  | .waitSub => .read
  | pc => pc

/-- Modelled from the spec (zbus's code is not in `src/`): the channel is handed to `main`,
blocked in its publish, which copies its message in. -/
def State.handChannel (s : State) : Option Tid → State
  | some .main =>
    match s.main with
    | .waitLock i => { s with chanMsg := s.msg, published := s.published ++ [s.msg],
                              main := .notify i }
    | _ => s
  | _ => s

/-- The subscriber's queue handed a notification to the waiting logger. -/
def State.wakeLogger (s : State) : Option Tid → State
  | some .logger => { s with logger := s.logger.wake }
  | _ => s

/-- `main` samples its sensors: `r₁` and `r₂` are what `sys_rand32_get` returns, `ts` what
`k_uptime_get_32` returns. -/
def mainSample (s : State) (r₁ r₂ ts : BitVec 32) : Option State :=
  match s.main with
  | .sample i =>
    let temp := s.temp + (r₁ % 1000 - 500)
    let hum := s.hum + (r₂ % 2000 - 1000)
    some { s with temp := temp, hum := hum, msg := ⟨temp, hum, ts⟩, main := .lock i }
  | _ => none

/-- Modelled from the spec (zbus's code is not in `src/`): the observers and the release, once
the subscriber's queue has taken the notification. -/
def State.notified (s : State) (i : Nat) (q : KMsgq Unit Tid × Option Tid × Int) : State :=
  State.handChannel
    (State.wakeLogger { s with loggerSub := q.1, chanSem := s.chanSem.give.1, main := .next i }
      q.2.1)
    s.chanSem.give.2

/-- One step of `main` other than sampling. -/
def mainStep (s : State) : Option State :=
  match s.main with
  | .lock i =>
    if (s.chanSem.take .main).2 then
      some { s with chanSem := (s.chanSem.take .main).1, chanMsg := s.msg,
                    published := s.published ++ [s.msg], main := .notify i }
    else some { s with chanSem := (s.chanSem.take .main).1, main := .waitLock i }
  | .notify i =>
    let s := { s with display := s.display ++ [s.chanMsg] }
    if (s.loggerSub.put ()).2.2 = (0 : Int) then some (s.notified i (s.loggerSub.put ()))
    else some { s with main := .waitRoom i }
  | .waitRoom i =>
    if (s.loggerSub.put ()).2.2 = (0 : Int) then some (s.notified i (s.loggerSub.put ())) else none
  | .sample _ | .waitLock _ | .done => none

/-- The 100 ms of `main`'s publish run out: it fails with `-EAGAIN` (and gives the channel
back if it had taken it). -/
def timeoutStep (s : State) : Option State :=
  match s.main with
  | .waitLock i =>
    some { s with chanSem := s.chanSem.timeout .main, failed := s.failed ++ [-EAGAIN],
                  main := .next i }
  | .waitRoom i =>
    some (State.handChannel { s with chanSem := s.chanSem.give.1, failed := s.failed ++ [-EAGAIN],
                                     main := .next i } s.chanSem.give.2)
  | _ => none

/-- One step of `logger_thread_entry`; `junk` is what its uninitialised `msg` holds. -/
def loggerThreadEntry (s : State) (junk : SensorData) : Option State :=
  match s.logger with
  | .wait =>
    some { s with loggerSub := (s.loggerSub.get .logger).1,
                  logger := if (s.loggerSub.get .logger).2.isSome then .read else .waitSub }
  | .read =>
    if s.chanSem.tryTake.2 then some { s with chanSem := s.chanSem.tryTake.1, logger := .copy }
    else some { s with logged := s.logged ++ [(-EBUSY, junk)], logger := .wait }
  | .copy =>
    some (State.handChannel { s with chanSem := s.chanSem.give.1,
                                     logged := s.logged ++ [(0, s.chanMsg)], logger := .wait }
      s.chanSem.give.2)
  | .waitSub => none

/-- Who moves next: `main` sampling with the values it reads, `main`, the logger with what its
uninitialised `msg` holds, or the clock ending `main`'s 100 ms wait. -/
inductive Act
  | sample (r₁ r₂ ts : BitVec 32)
  | main
  | logger (junk : SensorData)
  | timeout
  deriving DecidableEq, Repr

/-- The example as a system. -/
def program : System State Act where
  init := init
  step s
    | .sample r₁ r₂ ts => mainSample s r₁ r₂ ts
    | .main => mainStep s
    | .logger junk => loggerThreadEntry s junk
    | .timeout => timeoutStep s

end Zbus
end ZephyrGuide
