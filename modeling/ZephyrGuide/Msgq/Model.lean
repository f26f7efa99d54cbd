import ZephyrGuide.Kernel.System
import ZephyrGuide.Kernel.Msgq

/-!
# The message-queue example

`docs/examples/part4/msgq/src/main.c`.  `producer_entry` makes twenty `k_msgq_put(&sensor_msgq,
&msg, K_NO_WAIT)` calls on a queue of ten messages and prints whether each was sent or
dropped; `consumer_entry` loops on `k_msgq_get(&sensor_msgq, &msg, K_MSEC(1000))`, prints what it
receives, and on a timeout (`-EAGAIN`) returns if `k_msgq_num_used_get` is 0.  The comment above
that test reads "Check if producer is done".

A message is named by the iteration `i` of `producer_entry` that built it: the sensor readings,
the timestamp and the formatting of the printks are what the message carries, not where it goes,
and nothing in the queue's behaviour depends on them.

The consumer's positions encode the value of `ret`:

```
get      — the k_msgq_get call
waitGet  — blocked in it, until a put hands over a message or the timeout expires
print m  — it returned 0 with message m: the printk and k_msleep(300)
check    — it returned -EAGAIN: the printk and the k_msgq_num_used_get test
```

The timeout is not a thread but the clock; it is an action of its own, enabled whenever the
consumer waits, so every moment at which a 1000 ms wait could expire is considered.
-/

set_option autoImplicit false

namespace ZephyrGuide
namespace Msgq

/-- The threads of the example; only the consumer ever waits on `sensor_msgq`. -/
inductive Tid
  | producer
  | consumer
  deriving DecidableEq, Repr

/-- Where `producer_entry` is: about to build and put message `i`, or returned. -/
inductive ProducerPc
  | put (i : Nat)
  | done
  deriving DecidableEq, Repr

/-- Where `consumer_entry` is in its `while (1)` loop. -/
inductive ConsumerPc
  | get
  | waitGet
  | print (msg : Nat)
  | check
  | done
  deriving DecidableEq, Repr

/-- A waiting `k_msgq_get` has returned 0 with `msg`, handed over by a put. -/
def ConsumerPc.wake (msg : Nat) : ConsumerPc → ConsumerPc
  | .waitGet => .print msg
  | pc => pc

/-- Where `main` is: in one of its two `k_thread_join(…, K_FOREVER)` calls, or past both. -/
inductive MainPc
  | joinProducer
  | joinConsumer
  | done
  deriving DecidableEq, Repr

/-- The queue, the positions of the threads, and what they have printed. -/
structure State where
  sensorMsgq : KMsgq Nat Tid
  producer : ProducerPc
  consumer : ConsumerPc
  main : MainPc
  /-- `[Producer] Sent: …`, by message. -/
  sent : List Nat
  /-- `[Producer] Queue full, dropping message`, by message. -/
  dropped : List Nat
  /-- `[Consumer] Received: …`, by message. -/
  received : List Nat
  /-- `[Consumer] Timeout waiting for message`, counted. -/
  timeouts : Nat

/-- `K_MSGQ_DEFINE(sensor_msgq, sizeof(struct sensor_msg), 10, 4)`, both threads at the top. -/
def init : State where
  sensorMsgq := KMsgq.define 10
  producer := .put 0
  consumer := .get
  main := .joinProducer
  sent := []
  dropped := []
  received := []
  timeouts := 0

/-- Make ready the reader a put handed `msg` to, if any. -/
def State.handTo (s : State) (msg : Nat) : Option Tid → State
  | some .consumer => { s with consumer := s.consumer.wake msg }
  | _ => s

/-- One step of `producer_entry`: `for (int i = 0; i < 20; i++)`. -/
def producerEntry (s : State) : Option State :=
  match s.producer with
  | .put i =>
    some (State.handTo
      { s with sensorMsgq := (s.sensorMsgq.put i).1,
               sent := if (s.sensorMsgq.put i).2.2 = 0 then s.sent ++ [i] else s.sent,
               dropped := if (s.sensorMsgq.put i).2.2 = 0 then s.dropped else s.dropped ++ [i],
               producer := if i + 1 < 20 then .put (i + 1) else .done }
      i (s.sensorMsgq.put i).2.1)
  | .done => none

/-- One step of `consumer_entry`. -/
def consumerEntry (s : State) : Option State :=
  match s.consumer with
  | .get =>
    some { s with sensorMsgq := (s.sensorMsgq.get .consumer).1,
                  consumer := match (s.sensorMsgq.get .consumer).2 with
                    | some m => .print m
                    | none => .waitGet }
  | .print m => some { s with received := s.received ++ [m], consumer := .get }
  | .check =>
    some { s with timeouts := s.timeouts + 1,
                  consumer := if s.sensorMsgq.numUsed = 0 then .done else .get }
  | .waitGet | .done => none

/-- The consumer's `K_MSEC(1000)` expires while it waits: `k_msgq_get` returns `-EAGAIN`. -/
def timeoutStep (s : State) : Option State :=
  match s.consumer with
  | .waitGet => some { s with sensorMsgq := s.sensorMsgq.timeout .consumer, consumer := .check }
  | _ => none

/-- One step of `main`: each `k_thread_join` returns once its thread has. -/
def mainStep (s : State) : Option State :=
  match s.main with
  | .joinProducer => if s.producer = .done then some { s with main := .joinConsumer } else none
  | .joinConsumer => if s.consumer = .done then some { s with main := .done } else none
  | .done => none

/-- Who moves next: a thread, or the clock. -/
inductive Act
  | producer
  | consumer
  | timeout
  | main
  deriving DecidableEq, Repr

/-- The example as a system: every interleaving of the threads and the consumer's timeout. -/
def program : System State Act where
  init := init
  step s
    | .producer => producerEntry s
    | .consumer => consumerEntry s
    | .timeout => timeoutStep s
    | .main => mainStep s

end Msgq
end ZephyrGuide
