import ZephyrGuide.Kernel.System
import ZephyrGuide.Kernel.Mutex
import ZephyrGuide.Libc.Printf

/-!
# The native_sim example: a worker thread and `main` joining it

`docs/examples/part6/native-sim/src/main.c`.  `main` prints a banner, logs two lines and creates
`worker_entry`, then joins it.  The worker takes `MAX_CYCLES` (10) readings of a simulated sensor:
each time it reads `k_uptime_get_32()`, counts the event in `event_count` under `state_mutex`,
logs the reading and, above 25.00 C, an alert.  Once the worker has ended, `main` takes the mutex,
logs `event_count`, and returns.

Each call on the mutex and each statement touching `event_count` is a step of its own; the
worker's logging and its `k_msleep` ride along with the step before.  The value of
`k_uptime_get_32()` is part of the worker's action, so every sequence of readings is a run, and
so is every interleaving of the two threads: the priorities (0 for `main`, 5 for the worker) are
not used.

`printk` and `LOG_INF`/`LOG_WRN` calls are recorded in the order they are made, with the message
each formats (`Line`); the prefix the logging backend adds, and the time the deferred backend
takes to print, are not part of the model.
-/

set_option autoImplicit false

namespace ZephyrGuide
namespace NativeSim

open Libc

/-- `MAX_CYCLES`. -/
def MAX_CYCLES : Nat := 10

/-- The two threads. -/
inductive Tid
  | main
  | worker
  deriving DecidableEq, Repr

/-- A `printk`, `LOG_INF` or `LOG_WRN` call, with the text it formats. -/
inductive Line
  | printk (text : List Char)
  | inf (text : List Char)
  | wrn (text : List Char)
  deriving DecidableEq, Repr

/-- Where `worker_entry` is, in iteration `i` of its loop, with `reading` its local. -/
inductive WorkerPc
  /-- Not created yet. -/
  | unborn
  | start
  | read (i : Nat)
  | lock (i : Nat) (reading : Int)
  | waitLock (i : Nat) (reading : Int)
  | count (i : Nat) (reading : Int)
  | unlock (i : Nat) (reading : Int)
  | log (i : Nat) (reading : Int)
  | done
  deriving DecidableEq, Repr

/-- Where `main` is: before creating the worker, at `k_thread_name_set`, at `k_thread_join`, in
its critical section, at its last `LOG_INF`, or returned. -/
inductive MainPc
  | start
  | name
  | join
  | lock
  | waitLock
  | log
  | unlock
  | exit
  | done
  deriving DecidableEq, Repr

/-- The mutex, `event_count`, the two positions, and the lines printed and logged. -/
structure State where
  stateMutex : KMutex Tid
  eventCount : Int
  worker : WorkerPc
  main : MainPc
  out : List Line

/-- `K_MUTEX_DEFINE(state_mutex)`, `event_count = 0`, `main` at its start. -/
def init : State := ⟨KMutex.define, 0, .unborn, .start, []⟩

/-- Print or log `lines`, in order. -/
def State.emit (s : State) (lines : List Line) : State := { s with out := s.out ++ lines }

/-- Make ready the thread an unlock handed the mutex to, if any. -/
def State.wake (s : State) : Option Tid → State
  | some .main => if s.main = .waitLock then { s with main := .log } else s
  | some .worker =>
    match s.worker with
    | .waitLock i reading => { s with worker := .count i reading }
    | _ => s
  | none => s

/-! ## The functions of `main.c` -/

/-- `simulate_sensor_read` when `k_uptime_get_32()` returns `uptime`. -/
def simulateSensorRead (uptime : UInt32) : Int := 2200 + ((uptime % 400).toNat : Int)

/-- `%d.%02d` of `reading / 100` and `reading % 100`, with C's truncating division. -/
def tempText (reading : Int) : List Char :=
  fmtInt 0 (reading.tdiv 100) ++ '.' :: fmtInt 2 (reading.tmod 100)

/-- What the worker logs for reading `reading` in iteration `i`: the reading, and the alert
above 2500. -/
def readingLines (i : Nat) (reading : Int) : List Line :=
  .inf ("Sensor reading ".toList ++ fmtInt 0 ((i : Int) + 1) ++ ": ".toList ++ tempText reading ++
      " C".toList) ::
    if reading > 2500 then [.wrn ("High temperature alert: ".toList ++ tempText reading ++ " C".toList)]
    else []

/-- `LOG_INF("Worker thread completed %d readings", MAX_CYCLES)`. -/
def completedLine : Line :=
  .inf ("Worker thread completed ".toList ++ fmtInt 0 MAX_CYCLES ++ " readings".toList)

/-- One step of `worker_entry`; `uptime` is what `k_uptime_get_32()` returns if it is called. -/
def workerEntry (s : State) (uptime : UInt32) : Option State :=
  match s.worker with
  | .start => some { s.emit [.inf "Worker thread started".toList] with worker := .read 0 }
  | .read i => some { s with worker := .lock i (simulateSensorRead uptime) }
  | .lock i reading =>
    some { s with stateMutex := (s.stateMutex.lock .worker).1,
                  worker := if (s.stateMutex.lock .worker).2 then .count i reading
                    else .waitLock i reading }
  | .count i reading => some { s with eventCount := s.eventCount + 1, worker := .unlock i reading }
  | .unlock i reading =>
    some ({ s with stateMutex := (s.stateMutex.unlock .worker).1, worker := .log i reading }.wake
      (s.stateMutex.unlock .worker).2)
  | .log i reading =>
    let s := s.emit (readingLines i reading)
    if i + 1 < MAX_CYCLES then some { s with worker := .read (i + 1) }
    else some { s.emit [completedLine] with worker := .done }
  | .unborn | .waitLock _ _ | .done => none

/-- The banner `main` prints and logs before it creates the worker, on board `board`. -/
def banner (board : List Char) : List Line :=
  [.printk "\n".toList, .printk "Native Simulator Example\n".toList,
    .printk "========================\n".toList,
    .printk ("Board: ".toList ++ board ++ "\n\n".toList),
    .inf "Application starting on native_sim".toList,
    .inf "This runs as a Linux process - no hardware needed!".toList]

/-- One step of `main` on board `board` (`CONFIG_BOARD`). -/
def mainStep (board : List Char) (s : State) : Option State :=
  match s.main with
  | .start => some { s.emit (banner board) with worker := .start, main := .name }
  | .name => some { s with main := .join }
  | .join => if s.worker = .done then some { s with main := .lock } else none
  | .lock =>
    some { s with stateMutex := (s.stateMutex.lock .main).1,
                  main := if (s.stateMutex.lock .main).2 then .log else .waitLock }
  | .log =>
    some { s.emit [.inf ("Total events processed: ".toList ++ fmtInt 0 s.eventCount)] with
      main := .unlock }
  | .unlock =>
    some ({ s with stateMutex := (s.stateMutex.unlock .main).1, main := .exit }.wake
      (s.stateMutex.unlock .main).2)
  | .exit => some { s.emit [.inf "Application complete - exiting".toList] with main := .done }
  | .waitLock | .done => none

/-- Who moves next: `main`, or the worker with the value `k_uptime_get_32()` would return. -/
inductive Act
  | main
  | worker (uptime : UInt32)
  deriving DecidableEq, Repr

/-- The example on board `board`: every interleaving of the two threads, and every reading. -/
def program (board : List Char) : System State Act where
  init := init
  step s
    | .main => mainStep board s
    | .worker uptime => workerEntry s uptime

end NativeSim
end ZephyrGuide
