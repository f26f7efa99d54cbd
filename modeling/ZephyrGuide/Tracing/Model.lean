import ZephyrGuide.Kernel.System
import ZephyrGuide.Kernel.Sem
import ZephyrGuide.Kernel.Mutex

/-!
# The tracing example: a value handed over through a binary semaphore

`docs/examples/part6/tracing/src/main.c`.  Twenty times, `producer_entry` writes `i * 10` into
`shared_value` under `data_mutex` and gives `data_ready`; twenty times, `consumer_entry` takes
`data_ready`, reads `shared_value` under the mutex into `val` and prints it.  `data_ready` is
`K_SEM_DEFINE(data_ready, 0, 1)`: a second give before the consumer's take is absorbed by the
limit.

The busy waits, the sleeps and the producer's printk touch nothing the other thread reads, so
they ride along with the step before them:

```
producer:  lock (k_busy_wait; k_mutex_lock) · write · unlock · give (k_sem_give; printk; k_msleep)
consumer:  take · lock · read (val = shared_value) · unlock · print (k_busy_wait; printk)
```

Both printks are kept, as `produced` and `consumed`.
-/

set_option autoImplicit false

namespace ZephyrGuide
namespace Tracing

/-- `producer_entry` and `consumer_entry`, the threads that block on the kernel objects. -/
inductive Tid
  | producer
  | consumer
  deriving DecidableEq, Repr

/-- Where `producer_entry` is, in iteration `i` of `for (int i = 0; i < 20; i++)`. -/
inductive ProducerPc
  | lock (i : Nat)
  | waitLock (i : Nat)
  | write (i : Nat)
  | unlock (i : Nat)
  | give (i : Nat)
  | done
  deriving DecidableEq, Repr

/-- Where `consumer_entry` is, in iteration `i` of `for (int i = 0; i < 20; i++)`; `val` is its
local `val`. -/
inductive ConsumerPc
  | take (i : Nat)
  | waitTake (i : Nat)
  | lock (i : Nat)
  | waitLock (i : Nat)
  | read (i : Nat)
  | unlock (i : Nat) (val : Int)
  | print (i : Nat) (val : Int)
  | done
  deriving DecidableEq, Repr

/-- `k_mutex_lock` has returned, on the consumer's unlock. -/
def ProducerPc.wake : ProducerPc → ProducerPc
  | .waitLock i => .write i
  | pc => pc

/-- `k_sem_take` or `k_mutex_lock` has returned, on the producer's give or unlock. -/
def ConsumerPc.wake : ConsumerPc → ConsumerPc
  | .waitTake i => .lock i
  | .waitLock i => .read i
  | pc => pc

/-- Where `main` is: in one of its two `k_thread_join(…, K_FOREVER)` calls, or past both. -/
inductive MainPc
  | joinProducer
  | joinConsumer
  | done
  deriving DecidableEq, Repr

/-- The globals, the positions of the threads, and what they have printed. -/
structure State where
  sharedValue : Int
  dataReady : KSem Tid
  dataMutex : KMutex Tid
  producer : ProducerPc
  consumer : ConsumerPc
  main : MainPc
  /-- `[Producer] Produced value: %d`, in order. -/
  produced : List Int
  /-- `[Consumer] Consumed value: %d`, in order. -/
  consumed : List Int

/-- `static int shared_value;`, the kernel objects as defined, both threads at iteration 0. -/
def init : State where
  sharedValue := 0
  dataReady := KSem.define 0 1 (by decide)
  dataMutex := KMutex.define
  producer := .lock 0
  consumer := .take 0
  main := .joinProducer
  produced := []
  consumed := []

/-- Make ready the thread a give or an unlock woke, if any. -/
def State.wake (s : State) : Option Tid → State
  | none => s
  | some .producer => { s with producer := s.producer.wake }
  | some .consumer => { s with consumer := s.consumer.wake }

@[simp] theorem wake_main (s : State) (w : Option Tid) : (s.wake w).main = s.main := by
  rcases w with _ | _ | _ <;> rfl

/-- Waking leaves a returned producer returned. -/
theorem wake_producer_done {s : State} (w : Option Tid) (h : s.producer = .done) :
    (s.wake w).producer = .done := by
  rcases w with _ | _ | _ <;> simp [State.wake, ProducerPc.wake, h]

/-- One step of `producer_entry`. -/
def producerEntry (s : State) : Option State :=
  match s.producer with
  | .lock i =>
    some { s with dataMutex := (s.dataMutex.lock .producer).1,
                  producer := if (s.dataMutex.lock .producer).2 then .write i else .waitLock i }
  | .write i => some { s with sharedValue := (i * 10 : Int), producer := .unlock i }
  | .unlock i =>
    some (State.wake { s with dataMutex := (s.dataMutex.unlock .producer).1,
                              producer := .give i } (s.dataMutex.unlock .producer).2)
  | .give i =>
    some (State.wake { s with dataReady := s.dataReady.give.1,
                              produced := s.produced ++ [(i * 10 : Int)],
                              producer := if i + 1 < 20 then .lock (i + 1) else .done }
      s.dataReady.give.2)
  | .waitLock _ | .done => none

/-- One step of `consumer_entry`. -/
def consumerEntry (s : State) : Option State :=
  match s.consumer with
  | .take i =>
    some { s with dataReady := (s.dataReady.take .consumer).1,
                  consumer := if (s.dataReady.take .consumer).2 then .lock i else .waitTake i }
  | .lock i =>
    some { s with dataMutex := (s.dataMutex.lock .consumer).1,
                  consumer := if (s.dataMutex.lock .consumer).2 then .read i else .waitLock i }
  | .read i => some { s with consumer := .unlock i s.sharedValue }
  | .unlock i val =>
    some (State.wake { s with dataMutex := (s.dataMutex.unlock .consumer).1,
                              consumer := .print i val } (s.dataMutex.unlock .consumer).2)
  | .print i val =>
    some { s with consumed := s.consumed ++ [val],
                  consumer := if i + 1 < 20 then .take (i + 1) else .done }
  | .waitTake _ | .waitLock _ | .done => none

/-- One step of `main`: each `k_thread_join` returns once its thread has. -/
def mainStep (s : State) : Option State :=
  match s.main with
  | .joinProducer => if s.producer = .done then some { s with main := .joinConsumer } else none
  | .joinConsumer => if s.consumer = .done then some { s with main := .done } else none
  | .done => none

/-- Who moves next: the scheduler's choice. -/
inductive Act
  | producer
  | consumer
  | main
  deriving DecidableEq, Repr

/-- The example as a system: every interleaving of the three threads. -/
def program : System State Act where
  init := init
  step s
    | .producer => producerEntry s
    | .consumer => consumerEntry s
    | .main => mainStep s

end Tracing
end ZephyrGuide
