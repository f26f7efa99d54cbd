import ZephyrGuide.Mutex.Model

/-!
# No increment is lost

The invariant says three things about every reachable state of the mutex example.

* **The mutex is what the threads think it is** — its owner is the one thread between
  `k_mutex_lock` and `k_mutex_unlock`, and its queue holds exactly the threads blocked in
  `k_mutex_lock`, each once.  So at most one thread is in the critical section.
* **Nobody writes between a read and its write** — a thread that has copied `shared_counter` into
  `local` and not yet written `local + 1` back still sees `shared_counter = local`.
* **The count is the number of increments** — `shared_counter` is the number of writes made,
  and the printed transitions are `0 -> 1, 1 -> 2, …` in order, one behind the count while a
  thread sits between its write and its printk.

From it, and a measure that every step decreases, the example finishes in every interleaving,
with twenty transitions printed and `main` printing 20.
-/

set_option autoImplicit false

namespace ZephyrGuide
namespace Mutex

/-! ## What a thread's position says -/

/-- What the invariant reads off a thread's position. -/
structure PcInfo where
  /-- Holds `counter_mutex`. -/
  inCs : Bool
  /-- Blocked in `k_mutex_lock`. -/
  waitsLock : Bool
  /-- Between its write and its printk. -/
  atPrint : Bool
  /-- Has made this iteration's write. -/
  stored : Bool
  /-- Has returned. -/
  done : Bool
  /-- The loop variable (`0` once returned). -/
  iter : Nat
  /-- `local`, from the read to the printk. -/
  val : Option Int

namespace Pc

/-- The facts about a position the invariant uses. -/
def info : Pc → PcInfo
  | .lock i => ⟨false, false, false, false, false, i, none⟩
  | .waitLock i => ⟨false, true, false, false, false, i, none⟩
  | .load i => ⟨true, false, false, false, false, i, none⟩
  | .store i v => ⟨true, false, false, false, false, i, some v⟩
  | .print i v => ⟨true, false, true, true, false, i, some v⟩
  | .unlock i => ⟨true, false, false, true, false, i, none⟩
  | .done => ⟨false, false, false, false, true, 0, none⟩

@[simp] theorem info_lock (i : Nat) :
    (lock i).info = ⟨false, false, false, false, false, i, none⟩ := rfl
@[simp] theorem info_waitLock (i : Nat) :
    (waitLock i).info = ⟨false, true, false, false, false, i, none⟩ := rfl
@[simp] theorem info_load (i : Nat) :
    (load i).info = ⟨true, false, false, false, false, i, none⟩ := rfl
@[simp] theorem info_store (i : Nat) (v : Int) :
    (store i v).info = ⟨true, false, false, false, false, i, some v⟩ := rfl
@[simp] theorem info_print (i : Nat) (v : Int) :
    (print i v).info = ⟨true, false, true, true, false, i, some v⟩ := rfl
@[simp] theorem info_unlock (i : Nat) :
    (unlock i).info = ⟨true, false, false, true, false, i, none⟩ := rfl
@[simp] theorem info_done : done.info = ⟨false, false, false, false, true, 0, none⟩ := rfl

/-- Writes to `shared_counter` made so far. -/
def stores (pc : Pc) : Nat := if pc.info.done then 10 else pc.info.iter + pc.info.stored.toNat

/-- The loop variable is in range. -/
def InLoop (pc : Pc) : Prop := pc.info.done ∨ pc.info.iter < 10

theorem waitsLock_iff {pc : Pc} : pc.info.waitsLock ↔ ∃ i, pc = waitLock i := by
  cases pc <;> simp

theorem not_waitsLock_of_inCs {pc : Pc} (h : pc.info.inCs) : pc.info.waitsLock = false := by
  cases pc <;> simp_all

/-- `local` is live and the printk pending only inside the critical section. -/
theorem inCs_of_val {pc : Pc} {v : Int} (h : pc.info.val = some v) : pc.info.inCs := by
  cases pc <;> simp_all

theorem atPrint_of_not_inCs {pc : Pc} (h : pc.info.inCs = false) : pc.info.atPrint = false := by
  cases pc <;> simp_all

theorem val_of_not_inCs {pc : Pc} (h : pc.info.inCs = false) : pc.info.val = none := by
  cases pc <;> simp_all

theorem stores_le {pc : Pc} (h : pc.InLoop) : pc.stores ≤ 10 := by
  unfold stores InLoop at *
  cases pc <;> simp_all <;> omega

@[simp] theorem next_info (i : Nat) :
    (next i).info.inCs = false ∧ (next i).info.waitsLock = false ∧
      (next i).info.atPrint = false ∧ (next i).info.val = none := by
  unfold next; split <;> simp

theorem next_stores {i : Nat} (h : i < 10) : (next i).stores = i + 1 := by
  unfold next stores; split <;> simp; omega

theorem next_inLoop (i : Nat) : (next i).InLoop := by
  unfold next InLoop; split <;> simp_all

/-- Waking a thread only ends its wait for the mutex. -/
theorem wake_eq (pc : Pc) : pc.wake = pc ∨ ∃ j, pc = waitLock j ∧ pc.wake = load j := by
  cases pc <;> simp [wake]

end Pc

/-- `f` summed over the two threads. -/
def State.total (s : State) (f : Pc → Nat) : Nat := f (s.pc .inc1) + f (s.pc .inc2)

theorem State.total_eq (t : Tid) {s : State} {f : Pc → Nat} :
    s.total f = f (s.pc t) + f (s.pc t.other) := by
  cases t <;> simp [State.total, Tid.other, Nat.add_comm]

@[simp] theorem setPc_self (s : State) (t : Tid) : s.setPc t (s.pc t) = s := by
  simp [State.setPc]

/-! ## The mutex -/

/-- The mutex's owner and queue are the threads the positions say. -/
structure MutexInv (s : State) : Prop where
  owner : ∀ t, s.counterMutex.owner = some t ↔ (s.pc t).info.inCs
  waitq : ∀ t, t ∈ s.counterMutex.waitq ↔ (s.pc t).info.waitsLock
  nodup : s.counterMutex.waitq.Nodup
  lockCount_le : s.counterMutex.lockCount ≤ 1

namespace MutexInv

variable {s : State} (h : MutexInv s)
include h

/-- **Mutual exclusion.** -/
theorem not_both_inCs (t : Tid) : ¬ ((s.pc t).info.inCs ∧ (s.pc t.other).info.inCs) := by
  rintro ⟨h1, h2⟩
  simpa using ((h.owner t).2 h1).symm.trans ((h.owner t.other).2 h2)

/-- Only the other thread can be queued, and only once. -/
theorem waitq_eq {t : Tid} (ht : (s.pc t).info.waitsLock = false) :
    s.counterMutex.waitq = if (s.pc t.other).info.waitsLock then [t.other] else [] := by
  have hmem : ∀ u, u ∈ s.counterMutex.waitq ↔ u = t.other ∧ (s.pc t.other).info.waitsLock := by
    intro u; rw [h.waitq]; rcases Tid.eq_or_eq_other t u with rfl | rfl <;> simp [ht]
  have hnil : ∀ l : List Tid, (∀ u, u ∉ l) → l = [] := fun l hl => List.eq_nil_iff_forall_not_mem.2 hl
  split
  case isFalse hw => exact hnil _ fun u hu => hw ((hmem u).1 hu).2
  case isTrue hw =>
    have hn := h.nodup
    match hq : s.counterMutex.waitq, hn with
    | [], _ => simpa [hq] using (hmem t.other).2 ⟨rfl, hw⟩
    | x :: rest, hn =>
      have hx := ((hmem x).1 (by simp [hq])).1
      refine hx ▸ congrArg _ (hnil rest fun u hu => ?_)
      have := ((hmem u).1 (by simp [hq, hu])).1
      exact (List.nodup_cons.1 hn).1 (hx.trans this.symm ▸ hu)

/-- The mutex part reads only the mutex and the positions. -/
theorem congr {s' : State} (hm : s'.counterMutex = s.counterMutex) (hp : s'.pc = s.pc) :
    MutexInv s' := by
  obtain ⟨c, m, p, mn, l, f⟩ := s'
  simp only at hm hp
  subst hm hp
  exact ⟨h.1, h.2, h.3, h.4⟩

/-- A move that keeps whether the thread holds or waits for the mutex keeps the mutex part. -/
theorem setPc {t : Tid} {q : Pc} (hc : q.info.inCs = (s.pc t).info.inCs)
    (hw : q.info.waitsLock = (s.pc t).info.waitsLock) : MutexInv (s.setPc t q) := by
  refine ⟨fun u => ?_, fun u => ?_, h.nodup, h.lockCount_le⟩ <;>
    rcases Tid.eq_or_eq_other t u with rfl | rfl <;>
    simp only [setPc_pc_self, setPc_pc_other, setPc_counterMutex, hc, hw, h.owner, h.waitq]

end MutexInv

theorem mutexInv_incrementThread {s s' : State} {t : Tid} (h : MutexInv s)
    (hs : incrementThread s t = some s') : MutexInv s' := by
  unfold incrementThread at hs
  cases hpc : s.pc t with
  | waitLock | done => simp [hpc] at hs
  | load i | store i v | print i v =>
    simp only [hpc, Option.some.injEq] at hs
    subst hs
    refine MutexInv.setPc (h.congr ?_ ?_) ?_ ?_ <;> simp [hpc]
  | lock i =>
    simp only [hpc, Option.some.injEq] at hs
    subst hs
    cases ho : s.counterMutex.owner with
    | none =>
      obtain ⟨h1, h2, h3, h4⟩ := KMutex.lock_of_free (t := t) ho
      have hi := h.owner t.other
      have hw := h.waitq t.other
      rw [ho] at hi
      rw [s.counterMutex.waitq_of_free ho] at hw
      refine ⟨fun u => ?_, fun u => ?_, by simp [h3], by simp [h2]⟩ <;>
        rcases Tid.eq_or_eq_other t u with rfl | rfl <;> simp_all
    | some o =>
      have hot : o ≠ t := by rintro rfl; simpa [hpc] using (h.owner o).1 ho
      obtain rfl := (Tid.eq_or_eq_other t o).resolve_left hot
      obtain ⟨h1, h2, h3, h4⟩ := KMutex.lock_of_other ho hot
      have hnot : t ∉ s.counterMutex.waitq := by simp [h.waitq, hpc]
      have hO := h.owner
      have hW := h.waitq
      have hN : (s.counterMutex.waitq ++ [t]).Nodup :=
        List.pairwise_append.2 ⟨h.nodup, List.pairwise_singleton _ _, fun a ha b hb =>
          (List.mem_singleton.1 hb) ▸ fun e => hnot (e ▸ ha)⟩
      refine ⟨fun u => ?_, fun u => ?_, by simpa [h3] using hN,
        by simpa [h2] using h.lockCount_le⟩ <;>
        rcases Tid.eq_or_eq_other t u with rfl | rfl <;> simp_all
  | unlock i =>
    simp only [hpc, Option.some.injEq] at hs
    subst hs
    have ho : s.counterMutex.owner = some t := (h.owner t).2 (by simp [hpc])
    have hc : s.counterMutex.lockCount = 1 := by
      have := KMutex.lockCount_of_owner ho; have := h.lockCount_le; omega
    have hi : (s.pc t.other).info.inCs = false := by
      simpa [hpc] using h.not_both_inCs t
    have hq := h.waitq_eq (t := t) (by simp [hpc])
    split at hq
    case isTrue hw =>
      obtain ⟨j, hj⟩ := Pc.waitsLock_iff.1 hw
      obtain ⟨h1, h2, h3, h4⟩ := KMutex.unlock_of_cons ho hc hq
      rw [h3]
      refine ⟨fun u => ?_, fun u => ?_, by simp [State.wake, h2], by simp [State.wake, h4]⟩ <;>
        rcases Tid.eq_or_eq_other t u with rfl | rfl <;> simp_all [State.wake, Pc.wake]
    case isFalse hw =>
      obtain ⟨h1, h2, h3, h4⟩ := KMutex.unlock_of_nil ho hc hq
      rw [h4]
      refine ⟨fun u => ?_, fun u => ?_, by simp [State.wake, h3], by simp [State.wake, h2]⟩ <;>
        rcases Tid.eq_or_eq_other t u with rfl | rfl <;> simp_all [State.wake]

/-! ## The count -/

/-- `shared_counter` counts the writes; the printed transitions count up from `0 -> 1`. -/
structure CountInv (s : State) : Prop where
  loop : ∀ t, (s.pc t).InLoop
  counter_eq : s.sharedCounter = s.total Pc.stores
  val_eq : ∀ t v, (s.pc t).info.val = some v →
    s.sharedCounter = v + (s.pc t).info.stored.toNat
  log_len : s.log.length + s.total (fun pc => pc.info.atPrint.toNat) = s.total Pc.stores
  log_eq : s.log.map Prod.snd =
    (List.range s.log.length).map fun k : Nat => ((k : Int), (k : Int) + 1)

namespace CountInv

variable {s : State} (h : CountInv s)
include h

/-- The count part reads only the counter, the positions and the log. -/
theorem congr {s' : State} (hc : s'.sharedCounter = s.sharedCounter) (hp : s'.pc = s.pc)
    (hl : s'.log = s.log) : CountInv s' := by
  obtain ⟨c, m, p, mn, l, f⟩ := s'
  simp only at hc hp hl
  subst hc hp hl
  exact ⟨h.1, h.2, h.3, h.4, h.5⟩

/-- A move that makes no write and no printk, and reads `shared_counter` right if at all, keeps
the count part. -/
theorem setPc {t : Tid} {q : Pc} (hl : q.InLoop) (hs : q.stores = (s.pc t).stores)
    (ha : q.info.atPrint = (s.pc t).info.atPrint)
    (hv : ∀ v, q.info.val = some v → s.sharedCounter = v + q.info.stored.toNat) :
    CountInv (s.setPc t q) := by
  have hc := h.counter_eq
  have hn := h.log_len
  simp only [State.total_eq t] at hc hn
  refine ⟨fun u => ?_, ?_, fun u => ?_, ?_, h.log_eq⟩
  · rcases Tid.eq_or_eq_other t u with rfl | rfl <;> simp [hl, h.loop]
  · simpa [State.total_eq t, hs] using hc
  · rcases Tid.eq_or_eq_other t u with rfl | rfl
    · simpa using hv
    · simpa using h.val_eq t.other
  · simpa [State.total_eq t, hs, ha] using hn

/-- Handing the mutex to a waiting thread keeps the count part. -/
theorem wake (w : Option Tid) : CountInv (s.wake w) := by
  rcases w with _ | w
  · exact h
  rcases Pc.wake_eq (s.pc w) with e | ⟨j, hj, e⟩
  · simpa [State.wake, e] using h
  · have hl := h.loop w
    simp only [State.wake, e]
    exact h.setPc (by simp_all [Pc.InLoop]) (by simp [hj, Pc.stores]) (by simp [hj]) (by simp)

end CountInv

theorem countInv_incrementThread {s s' : State} {t : Tid} (hm : MutexInv s) (h : CountInv s)
    (hs : incrementThread s t = some s') : CountInv s' := by
  unfold incrementThread at hs
  have hl := h.loop t
  have hc := h.counter_eq
  have hn := h.log_len
  simp only [State.total_eq t] at hc hn
  cases hpc : s.pc t with
  | waitLock | done => simp [hpc] at hs
  | lock i =>
    simp only [hpc, Option.some.injEq] at hs
    subst hs
    refine CountInv.setPc
      (h.congr rfl rfl rfl : CountInv { s with counterMutex := (s.counterMutex.lock t).1 })
      ?_ ?_ ?_ ?_ <;> split <;> simp [hpc, Pc.InLoop, Pc.stores]
    all_goals simpa [Pc.InLoop, hpc] using hl
  | load i =>
    simp only [hpc, Option.some.injEq] at hs
    subst hs
    refine h.setPc ?_ ?_ ?_ ?_ <;> simp [hpc, Pc.InLoop, Pc.stores]
    simpa [Pc.InLoop, hpc] using hl
  | unlock i =>
    simp only [hpc, Option.some.injEq] at hs
    subst hs
    have hl' : i < 10 := by simpa [Pc.InLoop, hpc] using hl
    refine CountInv.wake (CountInv.setPc (h.congr ?_ ?_ ?_) (Pc.next_inLoop i) ?_ ?_ ?_) _
    all_goals simp only [setPc_pc_self, Pc.next_stores hl']
    all_goals simp [hpc, Pc.stores]
  | store i v =>
    simp only [hpc, Option.some.injEq] at hs
    subst hs
    have hv : s.sharedCounter = v := by simpa [hpc] using h.val_eq t v (by simp [hpc])
    have ho : (s.pc t.other).info.inCs = false := by simpa [hpc] using hm.not_both_inCs t
    have hao := Pc.atPrint_of_not_inCs ho
    have hst : (s.pc t).stores = i := by simp [hpc, Pc.stores]
    have hsp : (Pc.print i v).stores = i + 1 := by simp [Pc.stores]
    rw [hst] at hc hn
    simp only [hpc, hao, Pc.info_store, Bool.toNat_false] at hn
    refine ⟨(Tid.forall_iff t).2 ⟨?_, ?_⟩, ?_, (Tid.forall_iff t).2 ⟨?_, ?_⟩, ?_, h.log_eq⟩
    · simpa [Pc.InLoop, hpc] using hl
    · simpa using h.loop t.other
    · simp only [State.total_eq t, setPc_pc_self, setPc_pc_other, setPc_sharedCounter, hsp]
      omega
    · simp
    · simp [Pc.val_of_not_inCs ho]
    · simp only [State.total_eq t, setPc_pc_self, setPc_pc_other, setPc_log, hsp, hao,
        Pc.info_print, Bool.toNat_true, Bool.toNat_false]
      omega
  | print i v =>
    simp only [hpc, Option.some.injEq] at hs
    subst hs
    have hv : s.sharedCounter = v + 1 := by simpa [hpc] using h.val_eq t v (by simp [hpc])
    have ho : (s.pc t.other).info.inCs = false := by simpa [hpc] using hm.not_both_inCs t
    have hao := Pc.atPrint_of_not_inCs ho
    have hst : (s.pc t).stores = i + 1 := by simp [hpc, Pc.stores]
    have hsu : (Pc.unlock i).stores = i + 1 := by simp [Pc.stores]
    rw [hst] at hc hn
    simp only [hpc, hao, Pc.info_print, Bool.toNat_true, Bool.toNat_false] at hn
    refine ⟨(Tid.forall_iff t).2 ⟨?_, ?_⟩, ?_, (Tid.forall_iff t).2 ⟨?_, ?_⟩, ?_, ?_⟩
    · simpa [Pc.InLoop, hpc] using hl
    · simpa using h.loop t.other
    · simp only [State.total_eq t, setPc_pc_self, setPc_pc_other, setPc_sharedCounter, hsu]
      exact hc
    · simp
    · simpa using h.val_eq t.other
    · simp only [State.total_eq t, setPc_pc_self, setPc_pc_other, setPc_log, hsu, hao,
        Pc.info_unlock, Bool.toNat_false, List.length_append, List.length_singleton]
      omega
    · have : (v, s.sharedCounter) = ((s.log.length : Int), (s.log.length : Int) + 1) := by
        simp only [Prod.mk.injEq]; omega
      simp [List.range_succ, h.log_eq, this]

/-! ## `main` -/

/-- What `main` knows once past a join. -/
def MainInv (s : State) : Prop :=
  (s.main = .join2 → s.pc .inc1 = .done) ∧
    (s.main = .done →
      s.pc .inc1 = .done ∧ s.pc .inc2 = .done ∧ s.finalCounter = some s.sharedCounter)

/-- What a step of `t` leaves alone: `main`, and the other thread once it has returned. -/
theorem incrementThread_frame {s s' : State} {t : Tid} (hs : incrementThread s t = some s') :
    s.pc t ≠ .done ∧ s'.main = s.main ∧ (s.pc t.other = .done → s'.pc t.other = .done) := by
  unfold incrementThread at hs
  cases hpc : s.pc t <;> simp only [hpc, Option.some.injEq, reduceCtorEq] at hs <;> subst hs
  case unlock i =>
    refine ⟨by simp, by simp, fun hd => ?_⟩
    rcases wake_pc ({ s with counterMutex := (s.counterMutex.unlock t).1 }.setPc t (.next i))
      (s.counterMutex.unlock t).2 t.other with e | e <;> simp [e, hd, Pc.wake]
  all_goals simp

theorem mainInv_incrementThread {s s' : State} {t : Tid} (h : MainInv s)
    (hs : incrementThread s t = some s') : MainInv s' := by
  obtain ⟨ht, hm, ho⟩ := incrementThread_frame hs
  unfold MainInv
  rw [hm]
  refine ⟨fun e => ?_, fun e => absurd (by cases t <;> simp [(h.2 e).1, (h.2 e).2.1]) ht⟩
  rcases Tid.eq_or_eq_other t .inc1 with e1 | e1
  · exact absurd (e1 ▸ h.1 e) ht
  · exact e1 ▸ ho (e1 ▸ h.1 e)

/-! ## The invariant -/

/-- What holds in every reachable state. -/
structure Inv (s : State) : Prop where
  mutex : MutexInv s
  count : CountInv s
  main : MainInv s

theorem inv_init : Inv init where
  mutex := ⟨fun t => by simp [init, KMutex.define], fun t => by simp [init, KMutex.define],
    by simp [init, KMutex.define], by simp [init, KMutex.define]⟩
  count := ⟨fun t => by simp [init, Pc.InLoop], by simp [init, State.total, Pc.stores],
    fun t v => by simp [init], by simp [init, State.total, Pc.stores], rfl⟩
  main := by simp [MainInv, init]

theorem inv_mainStep {s s' : State} (h : Inv s) (hs : mainStep s = some s') : Inv s' := by
  refine ⟨h.mutex.congr ?_ ?_, h.count.congr ?_ ?_ ?_, ?_⟩ <;> unfold mainStep at hs <;>
    split at hs <;> (try split at hs) <;> simp only [Option.some.injEq, reduceCtorEq] at hs <;>
    subst hs <;> try rfl
  · exact ⟨fun _ => by assumption, by simp⟩
  · exact ⟨by simp, fun _ => ⟨h.main.1 ‹_›, ‹_›, rfl⟩⟩

theorem inv_holds : program.Invariant Inv where
  init := inv_init
  step a hs h := by
    cases a with
    | thread t =>
      exact ⟨mutexInv_incrementThread hs.mutex h, countInv_incrementThread hs.mutex hs.count h,
        mainInv_incrementThread hs.main h⟩
    | main => exact inv_mainStep hs h

end Mutex
end ZephyrGuide
