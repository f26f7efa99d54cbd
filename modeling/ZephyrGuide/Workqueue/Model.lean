import ZephyrGuide.Kernel.System
import ZephyrGuide.Kernel.Work
import ZephyrGuide.Libc.Printf

/-!
# The workqueue example: three items, a delayable one, and the system work queue

`examples/part3/workqueue/src/main.c`.  `main` submits `simple_work`, schedules `delayed_work`
to be submitted two seconds later, and calls `simulate_isr`, which submits `simple_work` again,
sets `sensor_ctx.sensor_value` to 42 and submits `sensor_ctx.work`.  It then checks whether
`delayed_work` is still pending, submits `simple_work` a third time, checks whether that one is
pending, and returns.  The system work queue's thread runs the handlers: `simple_work_handler`
prints, sleeps 100 ms and prints again; the other two print one line each.

Three parties interleave: `main`, one kernel call at a time with the `printk`s around it; the
work queue's thread, which takes the first queued item (`Act.take`) and runs its handler a part
at a time (`Act.run`); and the timeout of `delayed_work` (`Act.expire`), which submits it.  Every
interleaving is a run: the sleeps and the two-second delay only make some of them the ones a
real board shows, and are not modelled.  The work queue is the kernel contract `KWorkQ`.
-/

set_option autoImplicit false

namespace ZephyrGuide
namespace Workqueue

open Libc

/-- The work items: `simple_work`, `delayed_work`'s item, and `sensor_ctx.work`. -/
inductive Work
  | simpleWork
  | delayedWork
  | sensorWork
  deriving DecidableEq, Repr

/-- Where `main` is: at the statement that makes its next kernel call, or returned. -/
inductive MainPc
  | start
  | schedule
  | isr
  | isrValue
  | isrSensor
  | checkDelayed
  | submitLast
  | checkSimple
  | finish
  | done
  deriving DecidableEq, Repr

/-- The work queue, `delayed_work`'s timeout, `sensor_ctx.sensor_value`, whether
`simple_work_handler` is in its sleep, where `main` is, and the lines printed. -/
structure State where
  workq : KWorkQ Work
  delayedTimer : Bool
  sensorValue : Int
  slept : Bool
  main : MainPc
  out : List (List Char)

/-- Nothing queued or scheduled, `sensor_ctx` zero, `main` at its start. -/
def init : State := ⟨KWorkQ.empty, false, 0, false, .start, []⟩

/-- `printk` of `lines`, in order. -/
def State.print (s : State) (lines : List (List Char)) : State := { s with out := s.out ++ lines }

/-- `k_work_submit(&w)`; the value it returns is not used. -/
def State.submit (s : State) (w : Work) : State := { s with workq := (s.workq.submit w).1 }

@[simp] theorem State.print_out (s : State) (l : List (List Char)) : (s.print l).out = s.out ++ l :=
  rfl
@[simp] theorem State.print_workq (s : State) (l : List (List Char)) : (s.print l).workq = s.workq :=
  rfl
@[simp] theorem State.print_main (s : State) (l : List (List Char)) : (s.print l).main = s.main :=
  rfl
@[simp] theorem State.print_slept (s : State) (l : List (List Char)) : (s.print l).slept = s.slept :=
  rfl
@[simp] theorem State.print_sensorValue (s : State) (l : List (List Char)) :
    (s.print l).sensorValue = s.sensorValue := rfl
@[simp] theorem State.print_delayedTimer (s : State) (l : List (List Char)) :
    (s.print l).delayedTimer = s.delayedTimer := rfl
@[simp] theorem State.submit_workq (s : State) (w : Work) :
    (s.submit w).workq = (s.workq.submit w).1 := rfl
@[simp] theorem State.submit_out (s : State) (w : Work) : (s.submit w).out = s.out := rfl
@[simp] theorem State.submit_main (s : State) (w : Work) : (s.submit w).main = s.main := rfl
@[simp] theorem State.submit_slept (s : State) (w : Work) : (s.submit w).slept = s.slept := rfl
@[simp] theorem State.submit_sensorValue (s : State) (w : Work) :
    (s.submit w).sensorValue = s.sensorValue := rfl

/-- `printk("[Sensor] Processing sensor value: %d\n", v)`. -/
def sensorLine (v : Int) : List Char :=
  "[Sensor] Processing sensor value: ".toList ++ fmtInt 0 v ++ "\n".toList

/-- The line of `delayed_work_handler`. -/
def delayedLine : List Char := "[Delayed] Delayed work executed\n".toList

/-- The first line of `simple_work_handler`. -/
def executedLine : List Char := "[Work] Simple work executed in thread context\n".toList

/-- The last line of `simple_work_handler`. -/
def completeLine : List Char := "[Work] Simple work complete\n".toList

/-! ## The functions of `main.c` -/

/-- A part of the running handler: `simple_work_handler` up to its sleep or from it to its end,
or the whole of one of the other two; then the item is no longer running. -/
def runHandler (s : State) : Option State :=
  match s.workq.current with
  | some .simpleWork =>
    if s.slept then some { s.print [completeLine] with workq := s.workq.finish, slept := false }
    else some { s.print [executedLine] with slept := true }
  | some .delayedWork => some { s.print [delayedLine] with workq := s.workq.finish }
  | some .sensorWork => some { s.print [sensorLine s.sensorValue] with workq := s.workq.finish }
  | none => none

/-- One step of `main`, with `simulate_isr` inline. -/
def mainStep (s : State) : Option State :=
  match s.main with
  | .start =>
    some { (s.print ["Workqueue Example\n".toList, "Submitting simple work\n".toList]).submit
      .simpleWork with main := .schedule }
  | .schedule =>
    some { s.print ["Scheduling delayed work (2s)\n".toList] with
      delayedTimer := (s.workq.schedule s.delayedTimer .delayedWork).1, main := .isr }
  | .isr =>
    some { (s.print ["[ISR] Submitting work from ISR context\n".toList]).submit .simpleWork with
      main := .isrValue }
  | .isrValue => some { s with sensorValue := 42, main := .isrSensor }
  | .isrSensor => some { s.submit .sensorWork with main := .checkDelayed }
  | .checkDelayed =>
    some { s.print (if s.workq.delayableIsPending s.delayedTimer .delayedWork then
        ["Delayed work still pending, letting it run\n".toList] else []) with main := .submitLast }
  | .submitLast => some { s.submit .simpleWork with main := .checkSimple }
  | .checkSimple =>
    some { s.print (if s.workq.isPending .simpleWork then ["Work is pending\n".toList] else []) with
      main := .finish }
  | .finish => some { s.print ["Example complete\n".toList] with main := .done }
  | .done => none

/-- `main`, the work queue's thread taking an item or running a part of a handler, or the
timeout of `delayed_work` expiring. -/
inductive Act
  | main
  | take
  | run
  | expire
  deriving DecidableEq, Repr

/-- The example: every interleaving of `main`, the work queue's thread and the timeout. -/
def program : System State Act where
  init := init
  step s
    | .main => mainStep s
    | .take => s.workq.take.map fun (q, _) => { s with workq := q }
    | .run => runHandler s
    | .expire => if s.delayedTimer then some { s.submit .delayedWork with delayedTimer := false }
      else none

end Workqueue
end ZephyrGuide
