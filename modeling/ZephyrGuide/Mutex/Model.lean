import ZephyrGuide.Kernel.System
import ZephyrGuide.Kernel.Mutex

/-!
# The mutex example: two threads incrementing one counter

`docs/examples/part4/mutex/src/main.c`.  `main` starts two threads, named `inc1` and `inc2`, on
the same function `increment_thread`, which ten times takes `counter_mutex`, copies
`shared_counter` into `local`, sleeps 10 ms, writes `local + 1` back, prints the transition, and
releases the mutex.  `main` joins both and prints the final count.

The sleep between the read and the write is the point of the example: without the mutex it is
exactly where the other thread would slip in and an increment would be lost.  So the read
(`load`) and the write (`store`) are separate steps here, and so is the `printk` that reads
`shared_counter` once more; every interleaving of the two threads' steps is a run.

One definition, `incrementThread`, is both threads; it is told which one it runs as.  The two
sleeps outside the critical section, the `i++` and the loop test ride along with the unlock.
-/

set_option autoImplicit false

namespace ZephyrGuide
namespace Mutex

/-- The two threads `main` creates on `increment_thread`, by the names it gives them. -/
inductive Tid
  | inc1
  | inc2
  deriving DecidableEq, Repr

/-- The other thread. -/
def Tid.other : Tid → Tid
  | .inc1 => .inc2
  | .inc2 => .inc1

/-- Where an `increment_thread` is, in iteration `i` of `for (int i = 0; i < 10; i++)`.
`val` is the local variable `local`. -/
inductive Pc
  | lock (i : Nat)
  | waitLock (i : Nat)
  | load (i : Nat)
  | store (i : Nat) (val : Int)
  | print (i : Nat) (val : Int)
  | unlock (i : Nat)
  | done
  deriving DecidableEq, Repr

/-- After the unlock of iteration `i`: `i++` and the loop test. -/
def Pc.next (i : Nat) : Pc := if i + 1 < 10 then .lock (i + 1) else .done

/-- `k_mutex_lock` has returned: another thread's unlock handed the mutex over. -/
def Pc.wake : Pc → Pc
  | .waitLock i => .load i
  | pc => pc

/-- Where `main` is: in one of its `k_thread_join` calls, or past both and the final printk. -/
inductive MainPc
  | join1
  | join2
  | done
  deriving DecidableEq, Repr

/-- The globals, the positions of the threads, and the lines printed. -/
structure State where
  sharedCounter : Int
  counterMutex : KMutex Tid
  pc : Tid → Pc
  main : MainPc
  /-- `[%s] Counter: %d -> %d`: the thread, `local` and `shared_counter`, in order. -/
  log : List (Tid × Int × Int)
  /-- `Final counter: %d (expected: 20)`, once `main` has printed it. -/
  finalCounter : Option Int

/-- `shared_counter = 0`, the mutex free, both threads at the top of their loop. -/
def init : State where
  sharedCounter := 0
  counterMutex := KMutex.define
  pc := fun _ => .lock 0
  main := .join1
  log := []
  finalCounter := none

/-- Move thread `t` to `pc`. -/
def State.setPc (s : State) (t : Tid) (pc : Pc) : State :=
  { s with pc := Function.update s.pc t pc }

/-- Make ready the thread an unlock handed the mutex to, if any. -/
def State.wake (s : State) : Option Tid → State
  | none => s
  | some w => s.setPc w (s.pc w).wake

/-- One step of `increment_thread` running as `t`. -/
def incrementThread (s : State) (t : Tid) : Option State :=
  match s.pc t with
  | .lock i =>
    some ({ s with counterMutex := (s.counterMutex.lock t).1 }.setPc t
      (if (s.counterMutex.lock t).2 then .load i else .waitLock i))
  | .load i => some (s.setPc t (.store i s.sharedCounter))
  | .store i val => some ({ s with sharedCounter := val + 1 }.setPc t (.print i val))
  | .print i val => some ({ s with log := s.log ++ [(t, val, s.sharedCounter)] }.setPc t (.unlock i))
  | .unlock i =>
    some (State.wake ({ s with counterMutex := (s.counterMutex.unlock t).1 }.setPc t
      (.next i)) (s.counterMutex.unlock t).2)
  | .waitLock _ | .done => none

/-- One step of `main`: the two joins, then the final printk. -/
def mainStep (s : State) : Option State :=
  match s.main with
  | .join1 => if s.pc .inc1 = .done then some { s with main := .join2 } else none
  | .join2 =>
    if s.pc .inc2 = .done then some { s with main := .done, finalCounter := some s.sharedCounter }
    else none
  | .done => none

/-- Who moves next. -/
inductive Act
  | thread (t : Tid)
  | main
  deriving DecidableEq, Repr

/-- The example as a system: every interleaving of `main` and the two threads. -/
def program : System State Act where
  init := init
  step s
    | .thread t => incrementThread s t
    | .main => mainStep s

/-! ## Small facts about the model -/

@[simp] theorem Tid.other_ne (t : Tid) : t.other ≠ t := by cases t <;> decide
@[simp] theorem Tid.ne_other (t : Tid) : t ≠ t.other := by cases t <;> decide
@[simp] theorem Tid.other_other (t : Tid) : t.other.other = t := by cases t <;> rfl

theorem Tid.eq_or_eq_other (t u : Tid) : u = t ∨ u = t.other := by
  cases t <;> cases u <;> simp [Tid.other]

/-- A statement about both threads is one about `t` and one about the other. -/
theorem Tid.forall_iff (t : Tid) {P : Tid → Prop} : (∀ u, P u) ↔ P t ∧ P t.other :=
  ⟨fun h => ⟨h t, h t.other⟩, fun h u => (Tid.eq_or_eq_other t u).elim (· ▸ h.1) (· ▸ h.2)⟩

@[simp] theorem setPc_pc_self (s : State) (t : Tid) (pc : Pc) : (s.setPc t pc).pc t = pc := by
  simp [State.setPc]

@[simp] theorem setPc_pc_other (s : State) (t : Tid) (pc : Pc) :
    (s.setPc t pc).pc t.other = s.pc t.other := by
  simp [State.setPc, Function.update_noteq]

@[simp] theorem setPc_other_pc (s : State) (t : Tid) (pc : Pc) :
    (s.setPc t.other pc).pc t = s.pc t := by
  simpa using setPc_pc_other s t.other pc

@[simp] theorem setPc_sharedCounter (s : State) (t : Tid) (pc : Pc) :
    (s.setPc t pc).sharedCounter = s.sharedCounter := rfl
@[simp] theorem setPc_counterMutex (s : State) (t : Tid) (pc : Pc) :
    (s.setPc t pc).counterMutex = s.counterMutex := rfl
@[simp] theorem setPc_main (s : State) (t : Tid) (pc : Pc) : (s.setPc t pc).main = s.main := rfl
@[simp] theorem setPc_log (s : State) (t : Tid) (pc : Pc) : (s.setPc t pc).log = s.log := rfl
@[simp] theorem setPc_finalCounter (s : State) (t : Tid) (pc : Pc) :
    (s.setPc t pc).finalCounter = s.finalCounter := rfl

@[simp] theorem wake_sharedCounter (s : State) (w : Option Tid) :
    (s.wake w).sharedCounter = s.sharedCounter := by
  cases w <;> rfl
@[simp] theorem wake_main (s : State) (w : Option Tid) : (s.wake w).main = s.main := by
  cases w <;> rfl

/-- Waking moves at most the thread woken, and only out of its wait. -/
theorem wake_pc (s : State) (w : Option Tid) (u : Tid) :
    (s.wake w).pc u = s.pc u ∨ (s.wake w).pc u = (s.pc u).wake := by
  rcases w with _ | w
  · exact .inl rfl
  · rcases Tid.eq_or_eq_other w u with rfl | rfl <;> simp [State.wake]

end Mutex
end ZephyrGuide
