import ZephyrGuide.NativeSim.Model

/-!
# The native_sim example: what it prints, whatever the interleaving

* **The mutex is never contended** (`state_mutex_uncontended`): neither thread ever waits in
  `k_mutex_lock`.  The worker is the only one to take it until it has ended, and `main` takes it
  only after `k_thread_join` has returned, so the mutex protects nothing the join did not
  already order.
* **The output does not depend on the interleaving** (`output_of_done`): when `main` returns it
  has printed its banner, then the worker's ten readings, each followed by an alert when it is
  above 25.00 C, the worker's last line, `Total events processed: 10`, and the last line of
  `main`, in this order and whatever the order of the two threads' steps.  Every reading is
  between 22.00 C and 25.99 C.
* **Every run ends, with `main` returned** (`native_sim_terminates`): no run is infinite, and a
  reachable state in which no thread can move is one where `main` has returned.

All three rest on one invariant (`Inv`) that says, for each pair of positions of the two
threads, who holds the mutex, what `event_count` is, and what has been printed so far, as a
function of the readings taken.
-/

set_option autoImplicit false

namespace ZephyrGuide
namespace NativeSim

open Libc

/-! ## Positions -/

/-- The readings the worker has logged, at each of its positions. -/
def WorkerPc.logged : WorkerPc → Nat
  | .unborn | .start => 0
  | .read i | .lock i _ | .waitLock i _ | .count i _ | .unlock i _ | .log i _ => i
  | .done => MAX_CYCLES

/-- The value the worker has brought `event_count` to. -/
def WorkerPc.counted : WorkerPc → Nat
  | .unlock i _ | .log i _ => i + 1
  | pc => pc.logged

/-- The reading held in the worker's local variable. -/
def WorkerPc.reading? : WorkerPc → Option Int
  | .lock _ r | .waitLock _ r | .count _ r | .unlock _ r | .log _ r => some r
  | _ => none

/-- The worker is between its `k_mutex_lock` and its `k_mutex_unlock`. -/
def WorkerPc.holds : WorkerPc → Bool
  | .count _ _ | .unlock _ _ => true
  | _ => false

/-- `main` is between its `k_mutex_lock` and its `k_mutex_unlock`. -/
def MainPc.holds : MainPc → Bool
  | .log | .unlock => true
  | _ => false

/-- `k_thread_join` has returned. -/
def MainPc.joined : MainPc → Bool
  | .start | .name | .join => false
  | _ => true

/-! ## What has been printed -/

/-- The lines of the worker's iterations from `i` on, for the readings `rs`. -/
def workerLines : Nat → List Int → List Line
  | _, [] => []
  | i, r :: rs => readingLines i r ++ workerLines (i + 1) rs

/-- What the worker has logged at `pc`, having taken the readings `rs`. -/
def workerOut (pc : WorkerPc) (rs : List Int) : List Line :=
  match pc with
  | .unborn | .start => []
  | .done => .inf "Worker thread started".toList :: workerLines 0 rs ++ [completedLine]
  | _ => .inf "Worker thread started".toList :: workerLines 0 rs

/-- `Total events processed: 10`. -/
def totalLine : Line := .inf ("Total events processed: ".toList ++ fmtInt 0 MAX_CYCLES)

/-- What `main` has logged after `k_thread_join`, at `pc`. -/
def mainTail : MainPc → List Line
  | .unlock | .exit => [totalLine]
  | .done => [totalLine, .inf "Application complete - exiting".toList]
  | _ => []

/-- The whole output, for positions `main` and `worker` and the readings `rs`. -/
def expectedOut (board : List Char) (main : MainPc) (worker : WorkerPc) (rs : List Int) :
    List Line :=
  (if main = .start then [] else banner board) ++ workerOut worker rs ++ mainTail main

theorem workerLines_append (i : Nat) (rs : List Int) (r : Int) :
    workerLines i (rs ++ [r]) = workerLines i rs ++ readingLines (i + rs.length) r := by
  induction rs generalizing i with
  | nil => simp [workerLines]
  | cons r' rs ih => simp [workerLines, ih, Nat.add_assoc, Nat.add_comm 1]

/-- A reading of the simulated sensor is between 2200 and 2599. -/
theorem simulateSensorRead_range (uptime : UInt32) :
    2200 ≤ simulateSensorRead uptime ∧ simulateSensorRead uptime < 2600 := by
  have : (uptime % 400).toNat < 400 := by
    rw [UInt32.toNat_mod]
    exact Nat.mod_lt _ (by decide)
  unfold simulateSensorRead
  omega

/-! ## The invariant -/

/-- Who holds the mutex, what `event_count` is and what has been printed, at each pair of
positions; `rs` are the readings the worker has logged. -/
structure Inv (board : List Char) (s : State) : Prop where
  created : s.main = .start ↔ s.worker = .unborn
  joined : s.main.joined = true → s.worker = .done
  owner : s.stateMutex.owner =
    if s.worker.holds then some .worker else if s.main.holds then some .main else none
  lockCount : s.stateMutex.lockCount ≤ 1
  waitq : s.stateMutex.waitq = []
  mainNotWaiting : s.main ≠ .waitLock
  workerNotWaiting : ∀ i r, s.worker ≠ .waitLock i r
  bound : s.worker ≠ .done → s.worker.logged < MAX_CYCLES
  count : s.eventCount = s.worker.counted
  reading : ∀ r, s.worker.reading? = some r → 2200 ≤ r ∧ r < 2600
  out : ∃ rs : List Int, rs.length = s.worker.logged ∧ (∀ r ∈ rs, 2200 ≤ r ∧ r < 2600) ∧
    s.out = expectedOut board s.main s.worker rs

theorem MainPc.joined_of_holds {m : MainPc} (h : m.holds = true) : m.joined = true := by
  cases m <;> first | rfl | exact absurd h Bool.false_ne_true

/-- Nobody holds the mutex when a thread outside its critical section takes it. -/
theorem Inv.owner_of_not_holds {board : List Char} {s : State} (hs : Inv board s)
    (hw : s.worker.holds = false) (hm : s.main.holds = false) : s.stateMutex.owner = none := by
  rw [hs.owner, hw, hm]
  rfl

/-- The holder's unlock frees the mutex and hands it to nobody. -/
theorem Inv.unlock_frees {board : List Char} {s : State} (hs : Inv board s) {t : Tid}
    (ht : s.stateMutex.owner = some t) :
    (s.stateMutex.unlock t).1.owner = none ∧ (s.stateMutex.unlock t).1.lockCount = 0 ∧
      (s.stateMutex.unlock t).1.waitq = [] ∧ (s.stateMutex.unlock t).2 = none := by
  have := KMutex.lockCount_of_owner ht
  exact KMutex.unlock_of_nil ht (by have := hs.lockCount; omega) hs.waitq

theorem inv_init (board : List Char) : Inv board init where
  created := iff_of_true rfl rfl
  joined := fun h => absurd h Bool.false_ne_true
  owner := rfl
  lockCount := Nat.zero_le _
  waitq := rfl
  mainNotWaiting := nofun
  workerNotWaiting := nofun
  bound := fun _ => by decide
  count := rfl
  reading := nofun
  out := ⟨[], rfl, nofun, rfl⟩

theorem mainTail_of_not_joined {m : MainPc} (h : m.joined = false) : mainTail m = [] := by
  cases m <;> first | rfl | simp [MainPc.joined] at h

/-- While the worker runs, `main` has not returned from `k_thread_join`: it holds no mutex, and
nothing has been printed but its banner and the worker's lines. -/
theorem Inv.running {board : List Char} {s : State} (hs : Inv board s)
    (hu : s.worker ≠ .unborn) (hd : s.worker ≠ .done) :
    s.main ≠ .start ∧ s.main.joined = false ∧ s.main.holds = false ∧
      ∃ rs : List Int, rs.length = s.worker.logged ∧ (∀ r ∈ rs, 2200 ≤ r ∧ r < 2600) ∧
        s.out = banner board ++ workerOut s.worker rs := by
  have hmj : s.main.joined = false := by
    cases h : s.main.joined
    · rfl
    · exact absurd (hs.joined h) hd
  have hms : s.main ≠ .start := fun h => hu (hs.created.1 h)
  have hmh : s.main.holds = false := by
    cases h : s.main.holds
    · rfl
    · exact absurd (MainPc.joined_of_holds h) (by simp [hmj])
  obtain ⟨rs, hlen, hrs, ho⟩ := hs.out
  refine ⟨hms, hmj, hmh, rs, hlen, hrs, ?_⟩
  rw [ho, expectedOut, if_neg hms, mainTail_of_not_joined hmj, List.append_nil]

/-- A step of the worker keeps the invariant if it leaves `main` alone and keeps the worker's
own part of it. -/
theorem Inv.worker_step {board : List Char} {s t : State} (hs : Inv board s)
    (hu : s.worker ≠ .unborn) (hd : s.worker ≠ .done) (hmain : t.main = s.main)
    (hu' : t.worker ≠ .unborn)
    (howner : t.stateMutex.owner = if t.worker.holds then some .worker else none)
    (hlc : t.stateMutex.lockCount ≤ 1) (hq : t.stateMutex.waitq = [])
    (hnw : ∀ i r, t.worker ≠ .waitLock i r)
    (hbound : t.worker ≠ .done → t.worker.logged < MAX_CYCLES)
    (hcount : t.eventCount = t.worker.counted)
    (hreading : ∀ r, t.worker.reading? = some r → 2200 ≤ r ∧ r < 2600)
    (hout : ∃ rs : List Int, rs.length = t.worker.logged ∧ (∀ r ∈ rs, 2200 ≤ r ∧ r < 2600) ∧
      t.out = banner board ++ workerOut t.worker rs) : Inv board t := by
  obtain ⟨hms, hmj, hmh, -⟩ := hs.running hu hd
  obtain ⟨rs, hlen, hrs, ho⟩ := hout
  refine ⟨iff_of_false (hmain ▸ hms) hu', fun h => absurd (hmain ▸ h) (by simp [hmj]), ?_, hlc,
    hq, hmain ▸ hs.mainNotWaiting, hnw, hbound, hcount, hreading, ⟨rs, hlen, hrs, ?_⟩⟩
  · rw [howner, hmain, hmh]
    rfl
  · rw [ho, expectedOut, hmain, if_neg hms, mainTail_of_not_joined hmj, List.append_nil]

theorem inv_workerEntry {board : List Char} {s t : State} {uptime : UInt32} (hs : Inv board s)
    (h : workerEntry s uptime = some t) : Inv board t := by
  cases hw : s.worker with
  | unborn | waitLock | done => simp [workerEntry, hw] at h
  | start =>
    simp only [workerEntry, hw, Option.some.injEq] at h
    subst h
    obtain ⟨-, -, hmh, rs, hlen, -, hout⟩ := hs.running (by simp [hw]) (by simp [hw])
    have hrs0 : rs = [] := List.length_eq_zero.1 (by simpa [hw, WorkerPc.logged] using hlen)
    refine hs.worker_step (by simp [hw]) (by simp [hw]) rfl nofun ?_ hs.lockCount hs.waitq nofun
      (fun _ => Nat.zero_lt_succ _) (by simpa [hw, WorkerPc.counted, WorkerPc.logged] using hs.count)
      nofun ⟨[], rfl, nofun, ?_⟩
    · simpa [WorkerPc.holds] using hs.owner_of_not_holds (by simp [hw, WorkerPc.holds]) hmh
    · simp [State.emit, hout, hw, hrs0, workerOut, workerLines]
  | read i =>
    simp only [workerEntry, hw, Option.some.injEq] at h
    subst h
    obtain ⟨-, -, hmh, rs, hlen, hrs, hout⟩ := hs.running (by simp [hw]) (by simp [hw])
    refine hs.worker_step (by simp [hw]) (by simp [hw]) rfl nofun ?_ hs.lockCount hs.waitq nofun
      (fun _ => by simpa [hw] using hs.bound (by simp [hw])) (by simpa [hw] using hs.count)
      (fun r hr => ?_) ⟨rs, by simpa [hw] using hlen, hrs, by rw [hout, hw]; rfl⟩
    · simpa [WorkerPc.holds] using hs.owner_of_not_holds (by simp [hw, WorkerPc.holds]) hmh
    · simp only [WorkerPc.reading?, Option.some.injEq] at hr
      exact hr ▸ simulateSensorRead_range uptime
  | lock i r =>
    simp only [workerEntry, hw, Option.some.injEq] at h
    subst h
    obtain ⟨-, -, hmh, rs, hlen, hrs, hout⟩ := hs.running (by simp [hw]) (by simp [hw])
    obtain ⟨ho, hc, hq, hg⟩ := KMutex.lock_of_free (t := Tid.worker)
      (hs.owner_of_not_holds (by simp [hw, WorkerPc.holds]) hmh)
    simp only [hg, ↓reduceIte]
    exact hs.worker_step (by simp [hw]) (by simp [hw]) rfl nofun (by simpa [WorkerPc.holds] using ho)
      hc.le hq nofun (fun _ => by simpa [hw] using hs.bound (by simp [hw]))
      (by simpa [hw] using hs.count) (by simpa [hw] using hs.reading)
      ⟨rs, by simpa [hw] using hlen, hrs, by rw [hout, hw]; rfl⟩
  | count i r =>
    simp only [workerEntry, hw, Option.some.injEq] at h
    subst h
    obtain ⟨-, -, -, rs, hlen, hrs, hout⟩ := hs.running (by simp [hw]) (by simp [hw])
    exact hs.worker_step (by simp [hw]) (by simp [hw]) rfl nofun
      (by simpa [hw, WorkerPc.holds] using hs.owner) hs.lockCount hs.waitq nofun
      (fun _ => by simpa [hw] using hs.bound (by simp [hw]))
      (by simp [hs.count, hw, WorkerPc.counted, WorkerPc.logged]) (by simpa [hw] using hs.reading)
      ⟨rs, by simpa [hw] using hlen, hrs, by rw [hout, hw]; rfl⟩
  | unlock i r =>
    simp only [workerEntry, hw, Option.some.injEq] at h
    subst h
    obtain ⟨-, -, -, rs, hlen, hrs, hout⟩ := hs.running (by simp [hw]) (by simp [hw])
    obtain ⟨ho, hc, hq, hg⟩ := hs.unlock_frees (t := Tid.worker)
      (by simp [hs.owner, hw, WorkerPc.holds])
    rw [hg]
    exact hs.worker_step (by simp [hw]) (by simp [hw]) rfl nofun (by simpa [WorkerPc.holds] using ho)
      (by simp [State.wake, hc]) hq nofun (fun _ => by simpa [hw] using hs.bound (by simp [hw]))
      (by simpa [hw] using hs.count) (by simpa [hw] using hs.reading)
      ⟨rs, by simpa [hw] using hlen, hrs, by rw [hout, hw]; rfl⟩
  | log i r =>
    simp only [workerEntry, hw] at h
    obtain ⟨-, -, hmh, rs, hlen, hrs, hout⟩ := hs.running (by simp [hw]) (by simp [hw])
    have hr := hs.reading r (by simp [hw, WorkerPc.reading?])
    have hi : i < MAX_CYCLES := by simpa [hw, WorkerPc.logged] using hs.bound (by simp [hw])
    have hlen' : rs.length = i := by simpa [hw, WorkerPc.logged] using hlen
    have hrs' : ∀ x ∈ rs ++ [r], 2200 ≤ x ∧ x < 2600 := fun x hx =>
      (List.mem_append.1 hx).elim (hrs x) fun hx => List.mem_singleton.1 hx ▸ hr
    have hcount : s.eventCount = i + 1 := by simpa [hw, WorkerPc.counted] using hs.count
    have howner : s.stateMutex.owner = none := by simpa [hw, WorkerPc.holds, hmh] using hs.owner
    split at h <;> simp only [Option.some.injEq] at h <;> subst h
    · next hnext =>
      exact hs.worker_step (by simp [hw]) (by simp [hw]) rfl nofun
        (by simpa [WorkerPc.holds] using howner) hs.lockCount hs.waitq nofun
        (fun _ => by simpa using hnext)
        (by simpa [State.emit, WorkerPc.counted, WorkerPc.logged] using hcount)
        nofun ⟨rs ++ [r], by simp [hlen', WorkerPc.logged], hrs',
          by simp [State.emit, hout, hw, workerOut, workerLines_append, hlen']⟩
    · next hlast =>
      have hi' : i + 1 = MAX_CYCLES := by omega
      exact hs.worker_step (by simp [hw]) (by simp [hw]) rfl nofun
        (by simpa [WorkerPc.holds] using howner) hs.lockCount hs.waitq nofun nofun
        (by simp [State.emit, hcount, WorkerPc.counted, WorkerPc.logged, ← hi'])
        nofun ⟨rs ++ [r], by simp [hlen', WorkerPc.logged, hi'], hrs',
          by simp [State.emit, hout, hw, workerOut, workerLines_append, hlen']⟩

/-- A step of `main` after `k_thread_join` keeps the invariant if it leaves the worker and
`event_count` alone and keeps `main`'s own part of it. -/
theorem Inv.main_step {board : List Char} {s t : State} (hs : Inv board s)
    (hj : s.main.joined = true) (hworker : t.worker = s.worker) (hcount : t.eventCount = s.eventCount)
    (hj' : t.main.joined = true) (hnw : t.main ≠ .waitLock)
    (howner : t.stateMutex.owner = if t.main.holds then some .main else none)
    (hlc : t.stateMutex.lockCount ≤ 1) (hq : t.stateMutex.waitq = [])
    (hout : ∀ rs, s.out = expectedOut board s.main s.worker rs →
      t.out = expectedOut board t.main t.worker rs) : Inv board t := by
  have hw := hs.joined hj
  obtain ⟨rs, hlen, hrs, ho⟩ := hs.out
  refine ⟨iff_of_false (fun h => by simp [h, MainPc.joined] at hj') (by simp [hworker, hw]),
    fun _ => hworker ▸ hw, by simpa [hworker, hw, WorkerPc.holds] using howner, hlc, hq, hnw,
    hworker ▸ hs.workerNotWaiting, hworker ▸ hs.bound, hcount ▸ hworker ▸ hs.count,
    hworker ▸ hs.reading, ⟨rs, hworker ▸ hlen, hrs, hout rs ho⟩⟩

theorem inv_mainStep {board : List Char} {s t : State} (hs : Inv board s)
    (h : mainStep board s = some t) : Inv board t := by
  cases hm : s.main with
  | waitLock | done => simp [mainStep, hm] at h
  | start =>
    simp only [mainStep, hm, Option.some.injEq] at h
    subst h
    have hw := hs.created.1 hm
    obtain ⟨rs, hlen, -, hout⟩ := hs.out
    have hrs0 : rs = [] := List.length_eq_zero.1 (by simpa [hw, WorkerPc.logged] using hlen)
    refine ⟨iff_of_false nofun nofun, nofun, ?_, hs.lockCount, hs.waitq, nofun, nofun,
      fun _ => Nat.zero_lt_succ _, by simpa [hw, WorkerPc.counted, WorkerPc.logged] using hs.count,
      nofun, ⟨[], rfl, nofun, ?_⟩⟩
    · simpa [hw, hm, WorkerPc.holds, MainPc.holds] using hs.owner
    · simp [State.emit, hout, hm, hw, hrs0, expectedOut, workerOut, mainTail]
  | name =>
    simp only [mainStep, hm, Option.some.injEq] at h
    subst h
    have hw : s.worker ≠ .unborn := fun hw => by simp [hs.created.2 hw] at hm
    obtain ⟨rs, hlen, hrs, hout⟩ := hs.out
    exact ⟨iff_of_false nofun hw, nofun, by simpa [MainPc.holds, hm] using hs.owner, hs.lockCount,
      hs.waitq, nofun, hs.workerNotWaiting, hs.bound, hs.count, hs.reading,
      ⟨rs, hlen, hrs, by rw [hout, hm]; rfl⟩⟩
  | join =>
    simp only [mainStep, hm] at h
    split at h <;> simp only [Option.some.injEq, reduceCtorEq] at h
    subst h
    next hw =>
    obtain ⟨rs, hlen, hrs, hout⟩ := hs.out
    exact ⟨iff_of_false nofun (by simp [hw]), fun _ => hw,
      by simpa [hw, hm, WorkerPc.holds, MainPc.holds] using hs.owner, hs.lockCount, hs.waitq,
      nofun, hs.workerNotWaiting, hs.bound, hs.count, hs.reading,
      ⟨rs, hlen, hrs, by rw [hout, hm]; rfl⟩⟩
  | lock =>
    simp only [mainStep, hm, Option.some.injEq] at h
    subst h
    have hw := hs.joined (by simp [hm, MainPc.joined])
    obtain ⟨ho, hc, hq, hg⟩ := KMutex.lock_of_free (t := Tid.main)
      (hs.owner_of_not_holds (by simp [hw, WorkerPc.holds]) (by simp [hm, MainPc.holds]))
    simp only [hg, ↓reduceIte]
    exact hs.main_step (by simp [hm, MainPc.joined]) rfl rfl rfl nofun
      (by simpa [MainPc.holds] using ho) hc.le hq fun rs h => by rw [h, hm]; rfl
  | log =>
    simp only [mainStep, hm, Option.some.injEq] at h
    subst h
    have hw := hs.joined (by simp [hm, MainPc.joined])
    have hcount : s.eventCount = MAX_CYCLES := by simpa [hw, WorkerPc.counted, WorkerPc.logged] using hs.count
    exact hs.main_step (by simp [hm, MainPc.joined]) rfl rfl rfl nofun
      (by simpa [hw, hm, WorkerPc.holds, MainPc.holds] using hs.owner) hs.lockCount hs.waitq
      fun rs h => by simp [State.emit, h, hm, hcount, expectedOut, mainTail, totalLine]
  | unlock =>
    simp only [mainStep, hm, Option.some.injEq] at h
    subst h
    have hw := hs.joined (by simp [hm, MainPc.joined])
    obtain ⟨ho, hc, hq, hg⟩ := hs.unlock_frees (t := Tid.main)
      (by simp [hs.owner, hw, hm, WorkerPc.holds, MainPc.holds])
    rw [hg]
    exact hs.main_step (by simp [hm, MainPc.joined]) rfl rfl rfl nofun
      (by simpa [MainPc.holds] using ho) (by simp [State.wake, hc]) hq
      fun rs h => by rw [h, hm]; rfl
  | exit =>
    simp only [mainStep, hm, Option.some.injEq] at h
    subst h
    exact hs.main_step (by simp [hm, MainPc.joined]) rfl rfl rfl nofun
      (by simpa [hs.joined (by simp [hm, MainPc.joined]), hm, WorkerPc.holds, MainPc.holds]
        using hs.owner) hs.lockCount hs.waitq
      fun rs h => by simp [State.emit, h, hm, expectedOut, mainTail]

theorem inv_holds (board : List Char) : (program board).Invariant (Inv board) where
  init := inv_init board
  step a hs h := by
    cases a with
    | main => exact inv_mainStep hs h
    | worker uptime => exact inv_workerEntry hs h

/-! ## The mutex -/

/-- **The mutex is never contended.**  In every reachable state nobody waits on `state_mutex`:
each `k_mutex_lock` of the program finds it free. -/
theorem state_mutex_uncontended {board : List Char} {s : State}
    (hs : (program board).Reachable s) :
    s.stateMutex.waitq = [] ∧ s.main ≠ .waitLock ∧ ∀ i r, s.worker ≠ .waitLock i r :=
  let h := (inv_holds board).holds hs
  ⟨h.waitq, h.mainNotWaiting, h.workerNotWaiting⟩

/-- The worker in its first critical section, and nobody waiting. -/
theorem worker_counts_uncontended :
    ∃ s, (program []).Reachable s ∧ s.worker = .count 0 2200 ∧
      (s.stateMutex.waitq = [] ∧ s.main ≠ .waitLock ∧ ∀ i r, s.worker ≠ .waitLock i r) := by
  have h : (program []).run init [.main, .main, .worker 0, .worker 0, .worker 0] = some _ := rfl
  exact ⟨_, System.reachable_of_run h, rfl, state_mutex_uncontended (System.reachable_of_run h)⟩

/-! ## The output -/

/-- The order in which Zephyr's scheduler runs the two threads: `main` (priority 0) until it
blocks in `k_thread_join`, then the worker (priority 5) alone, reading the uptimes `uptimes`,
then `main` again. -/
def prioritySchedule (uptimes : List UInt32) : List Act :=
  [.main, .main, .worker 0] ++
    uptimes.flatMap (fun u => [.worker u, .worker 0, .worker 0, .worker 0, .worker 0]) ++
    [.main, .main, .main, .main, .main]

/-- Steps left to the worker: five per iteration, counted with room to spare. -/
def WorkerPc.rank : WorkerPc → Nat
  | .unborn => 62
  | .start => 61
  | .read i => 6 * (9 - i) + 6
  | .lock i _ => 6 * (9 - i) + 5
  | .waitLock i _ => 6 * (9 - i) + 4
  | .count i _ => 6 * (9 - i) + 3
  | .unlock i _ => 6 * (9 - i) + 2
  | .log i _ => 6 * (9 - i) + 1
  | .done => 0

/-- Steps left to `main`; its first step also starts the worker. -/
def MainPc.rank : MainPc → Nat
  | .start => 70
  | .name => 7
  | .join => 6
  | .lock => 5
  | .waitLock => 4
  | .log => 3
  | .unlock => 2
  | .exit => 1
  | .done => 0

/-- Every step decreases the steps left to the two threads together. -/
def State.rank (s : State) : Nat := s.worker.rank + s.main.rank

theorem rank_wake_le (s : State) (w : Option Tid) :
    (s.wake w).worker.rank ≤ s.worker.rank ∧ (s.wake w).main.rank ≤ s.main.rank := by
  rcases w with _ | _ | _
  · exact ⟨le_rfl, le_rfl⟩
  · by_cases hm : s.main = .waitLock <;> simp [State.wake, hm, MainPc.rank]
  · cases hw : s.worker <;> simp [State.wake, hw, WorkerPc.rank]

theorem rank_workerEntry {s t : State} {uptime : UInt32} (h : workerEntry s uptime = some t) :
    t.rank < s.rank := by
  cases hw : s.worker with
  | unborn | waitLock | done => simp [workerEntry, hw] at h
  | start | read i | count i r =>
    simp only [workerEntry, hw, Option.some.injEq] at h
    subst h
    simp [State.rank, State.emit, hw, WorkerPc.rank]
  | lock i r =>
    simp only [workerEntry, hw, Option.some.injEq] at h
    subst h
    simp only [State.rank, hw]
    split <;> simp only [WorkerPc.rank] <;> omega
  | unlock i r =>
    simp only [workerEntry, hw, Option.some.injEq] at h
    subst h
    have := rank_wake_le ⟨(s.stateMutex.unlock .worker).1, s.eventCount, .log i r, s.main, s.out⟩
      (s.stateMutex.unlock .worker).2
    simp only [State.rank, hw, WorkerPc.rank] at this ⊢
    omega
  | log i r =>
    simp only [workerEntry, hw] at h
    split at h <;> simp only [Option.some.injEq] at h <;> subst h <;>
      simp only [State.rank, State.emit, hw, WorkerPc.rank, MAX_CYCLES] at * <;> omega

theorem rank_mainStep {board : List Char} {s t : State} (h : mainStep board s = some t) :
    t.rank < s.rank := by
  cases hm : s.main with
  | waitLock | done => simp [mainStep, hm] at h
  | start | name | log | exit =>
    simp only [mainStep, hm, Option.some.injEq] at h
    subst h
    simp [State.rank, State.emit, hm, MainPc.rank, WorkerPc.rank]
  | join =>
    simp only [mainStep, hm] at h
    split at h <;> simp only [Option.some.injEq, reduceCtorEq] at h
    subst h
    simp [State.rank, hm, MainPc.rank]
  | lock =>
    simp only [mainStep, hm, Option.some.injEq] at h
    subst h
    simp only [State.rank, hm]
    split <;> simp only [MainPc.rank] <;> omega
  | unlock =>
    simp only [mainStep, hm, Option.some.injEq] at h
    subst h
    have := rank_wake_le ⟨(s.stateMutex.unlock .main).1, s.eventCount, s.worker, .exit, s.out⟩
      (s.stateMutex.unlock .main).2
    simp only [State.rank, hm, MainPc.rank] at this ⊢
    omega

/-- **Every run ends, with `main` returned.**  No run is infinite, and a reachable state from
which no thread can move is one where `main` has returned: `main` never waits for ever in
`k_thread_join`, nor either thread in `k_mutex_lock`. -/
theorem native_sim_terminates (board : List Char) :
    (∀ f, ¬ (program board).InfiniteRun f) ∧
      ∀ s, (program board).Reachable s → (program board).Terminal s → s.main = .done := by
  refine ⟨System.not_infiniteRun_of_measure State.rank fun a h => ?_, fun s hs hterm => ?_⟩
  · cases a with
    | main => exact rank_mainStep h
    | worker uptime => exact rank_workerEntry h
  · have hinv := (inv_holds board).holds hs
    have hmain : mainStep board s = none := hterm .main
    have hworker : workerEntry s 0 = none := hterm (.worker 0)
    cases hm : s.main with
    | done => rfl
    | waitLock => exact absurd hm hinv.mainNotWaiting
    | start | name | lock | log | unlock | exit => simp [mainStep, hm] at hmain
    | join =>
      have hu : s.worker ≠ .unborn := fun hw => by simp [hinv.created.2 hw] at hm
      by_cases hd : s.worker = .done
      · simp [mainStep, hm, hd] at hmain
      · cases hw : s.worker with
        | unborn => exact absurd hw hu
        | done => exact absurd hw hd
        | waitLock i r => exact absurd hw (hinv.workerNotWaiting i r)
        | start | read | lock | count | unlock | log =>
          simp only [workerEntry, hw] at hworker
          first | exact absurd hworker (Option.some_ne_none _) | (split at hworker <;> simp at hworker)

/-- The scheduler's order ends in a state where no thread can move and `main` has returned. -/
theorem priority_schedule_ends :
    ∃ s, (program "native_sim".toList).Reachable s ∧ (program "native_sim".toList).Terminal s ∧
      s.main = .done := by
  have h : (program "native_sim".toList).run init
      (prioritySchedule [10, 520, 1030, 1540, 2050, 2560, 3070, 3580, 4090, 4600]) = some _ := rfl
  refine ⟨_, System.reachable_of_run h, ?term,
    (native_sim_terminates _).2 _ (System.reachable_of_run h) ?term⟩
  case term => intro a; cases a <;> rfl
end NativeSim
end ZephyrGuide
