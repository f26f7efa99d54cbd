import ZephyrGuide.Kernel.System
import ZephyrGuide.Kernel.Sem
import ZephyrGuide.Kernel.Mutex

/-!
# The semaphore example: a bounded buffer

`docs/examples/part4/semaphore/src/main.c`.  A producer writes the items `1, …, 15` into a ring
of `BUFFER_SIZE = 5` slots and a consumer reads them back.  Two counting semaphores do the
accounting — `empty_slots` (initially 5, limit 5) counts free slots and `full_slots` (initially
0, limit 5) counts filled ones — and `buffer_mutex` guards the buffer and its two indices.

Both threads run the same loop shape, so they share one type of program counter, `Pc`:

```
take   — k_sem_take(&empty_slots / &full_slots, K_FOREVER)
lock   — k_mutex_lock(&buffer_mutex, K_FOREVER)
access — the buffer access, its printk, and the index update
unlock — k_mutex_unlock(&buffer_mutex)
give   — k_sem_give(&full_slots / &empty_slots), k_msleep, and the loop's increment and test
```

with `waitTake` and `waitLock` for a thread blocked in one of the two blocking calls.  A thread
that another one wakes does not run the rest of its call itself: the giver hands it the unit
(or the mutex) and moves it on, `Pc.wake`.  The sleeps and printks touch nothing the other
thread reads, so they ride along with the step before them.

The printks are the program's output and are kept, as `produced` and `consumed`: the item and
the index each line prints.  `main` only joins the two threads; that it gets past both joins is
the content of `ZephyrGuide.Semaphore.Progress`.
-/

set_option autoImplicit false

namespace ZephyrGuide
namespace Semaphore

/-- `#define BUFFER_SIZE 5`. -/
def BUFFER_SIZE : Nat := 5

/-- The two threads that block on the kernel objects. -/
inductive Tid
  | producer
  | consumer
  deriving DecidableEq, Repr

/-- Where `producer_entry` or `consumer_entry` is, in iteration `i` of its loop. -/
inductive Pc
  | take (i : Nat)
  | waitTake (i : Nat)
  | lock (i : Nat)
  | waitLock (i : Nat)
  | access (i : Nat)
  | unlock (i : Nat)
  | give (i : Nat)
  | done
  deriving DecidableEq, Repr

/-- The blocking call has returned, on another thread's `give` or `unlock`. -/
def Pc.wake : Pc → Pc
  | .waitTake i => .lock i
  | .waitLock i => .access i
  | pc => pc

/-- Where `main` is: in one of its two `k_thread_join(…, K_FOREVER)` calls, or past both. -/
inductive MainPc
  | joinProducer
  | joinConsumer
  | done
  deriving DecidableEq, Repr

/-- The program's globals, the three threads' positions, and what they have printed. -/
structure State where
  buffer : Nat → Nat
  writeIdx : Nat
  readIdx : Nat
  emptySlots : KSem Tid
  fullSlots : KSem Tid
  bufferMutex : KMutex Tid
  producer : Pc
  consumer : Pc
  main : MainPc
  /-- `[Producer] Produced: %d at index %d`, item and index, in order. -/
  produced : List (Nat × Nat)
  /-- `[Consumer] Consumed: %d from index %d`, item and index, in order. -/
  consumed : List (Nat × Nat)

/-- The globals as the program defines them, both threads at the top of their loops. -/
def init : State where
  buffer := fun _ => 0
  writeIdx := 0
  readIdx := 0
  emptySlots := KSem.define BUFFER_SIZE BUFFER_SIZE (by decide)
  fullSlots := KSem.define 0 BUFFER_SIZE (by decide)
  bufferMutex := KMutex.define
  producer := .take 1
  consumer := .take 0
  main := .joinProducer
  produced := []
  consumed := []

/-- Make ready the thread a `give` or an `unlock` woke, if any. -/
def State.wake (s : State) : Option Tid → State
  | none => s
  | some .producer => { s with producer := s.producer.wake }
  | some .consumer => { s with consumer := s.consumer.wake }

/-- One step of `producer_entry`: `for (int i = 1; i <= 15; i++)`. -/
def producerEntry (s : State) : Option State :=
  match s.producer with
  | .take i =>
    some { s with emptySlots := (s.emptySlots.take .producer).1,
                  producer := if (s.emptySlots.take .producer).2 then .lock i else .waitTake i }
  | .lock i =>
    some { s with bufferMutex := (s.bufferMutex.lock .producer).1,
                  producer := if (s.bufferMutex.lock .producer).2 then .access i else .waitLock i }
  | .access i =>
    some { s with buffer := Function.update s.buffer s.writeIdx i
                  writeIdx := (s.writeIdx + 1) % BUFFER_SIZE
                  produced := s.produced ++ [(i, s.writeIdx)]
                  producer := .unlock i }
  | .unlock i =>
    some (State.wake { s with bufferMutex := (s.bufferMutex.unlock .producer).1,
                              producer := .give i } (s.bufferMutex.unlock .producer).2)
  | .give i =>
    some (State.wake { s with fullSlots := s.fullSlots.give.1,
                              producer := if i + 1 ≤ 15 then .take (i + 1) else .done }
      s.fullSlots.give.2)
  | .waitTake _ | .waitLock _ | .done => none

/-- One step of `consumer_entry`: `for (int i = 0; i < 15; i++)`. -/
def consumerEntry (s : State) : Option State :=
  match s.consumer with
  | .take i =>
    some { s with fullSlots := (s.fullSlots.take .consumer).1,
                  consumer := if (s.fullSlots.take .consumer).2 then .lock i else .waitTake i }
  | .lock i =>
    some { s with bufferMutex := (s.bufferMutex.lock .consumer).1,
                  consumer := if (s.bufferMutex.lock .consumer).2 then .access i else .waitLock i }
  | .access i =>
    some { s with readIdx := (s.readIdx + 1) % BUFFER_SIZE
                  consumed := s.consumed ++ [(s.buffer s.readIdx, s.readIdx)]
                  consumer := .unlock i }
  | .unlock i =>
    some (State.wake { s with bufferMutex := (s.bufferMutex.unlock .consumer).1,
                              consumer := .give i } (s.bufferMutex.unlock .consumer).2)
  | .give i =>
    some (State.wake { s with emptySlots := s.emptySlots.give.1,
                              consumer := if i + 1 < 15 then .take (i + 1) else .done }
      s.emptySlots.give.2)
  | .waitTake _ | .waitLock _ | .done => none

/-- One step of `main`: each `k_thread_join` returns once its thread has. -/
def mainStep (s : State) : Option State :=
  match s.main with
  | .joinProducer => if s.producer = .done then some { s with main := .joinConsumer } else none
  | .joinConsumer => if s.consumer = .done then some { s with main := .done } else none
  | .done => none

/-- Who moves next: the scheduler's choice. -/
inductive Act
  | producer
  | consumer
  | main
  deriving DecidableEq, Repr

/-- The example as a system: every interleaving of the three threads. -/
def program : System State Act where
  init := init
  step s
    | .producer => producerEntry s
    | .consumer => consumerEntry s
    | .main => mainStep s

end Semaphore
end ZephyrGuide
