import ZephyrGuide.Zbus.Model

/-!
# What the channel's lock decides

`sensor_chan` is guarded by one binary semaphore, `chanSem`.  `main`'s publish holds it from the
moment it takes it, through the copy of its message into the channel and the observers, to the
release; the logger holds it from a successful `K_NO_WAIT` take to the release after its copy.
So the lock's one unit is always in exactly one place: in the semaphore, with `main`, or with
the logger; the two never hold the channel at once (`LockInv.units`).

What the lock buys: `main` releases the channel only after `display_listener` has shown its
message, so whenever `main` is not between its copy and the listener, the channel holds the
message the display showed last, or the initial one if none; and a successful read, made under
the lock, copies that message.  Every line the logger prints after a `zbus_chan_read` that
returned 0 shows a message the display had already shown, or the initial one
(`chan_lock_orders_reads`).

The logger does not look at what `zbus_chan_read` returns, though.  When it reads while `main`'s
next publish holds the channel, the read fails with `-EBUSY`, `msg` keeps whatever its
uninitialised storage held, and that is printed (`logger_prints_uninitialised`).
-/

set_option autoImplicit false

namespace ZephyrGuide
namespace Zbus

/-! ## Who holds the channel -/

/-- The unit of the channel's lock that `main` holds: its publish has taken the channel and not
given it back. -/
def MainPc.chanUnits : MainPc → Nat
  | .notify _ | .waitRoom _ => 1
  | _ => 0

/-- `main` is blocked on the channel's lock. -/
def MainPc.waitsChan : MainPc → Bool
  | .waitLock _ => true
  | _ => false

/-- `main` has copied its message in, and `display_listener` has not shown it yet. -/
def MainPc.notifying : MainPc → Bool
  | .notify _ => true
  | _ => false

/-- The unit of the channel's lock that the logger holds, in its `zbus_chan_read`. -/
def LoggerPc.chanUnits : LoggerPc → Nat
  | .copy => 1
  | _ => 0

@[simp] theorem next_chanUnits (i : Nat) : (MainPc.next i).chanUnits = 0 := by
  unfold MainPc.next; split <;> rfl

@[simp] theorem next_waitsChan (i : Nat) : (MainPc.next i).waitsChan = false := by
  unfold MainPc.next; split <;> rfl

@[simp] theorem next_notifying (i : Nat) : (MainPc.next i).notifying = false := by
  unfold MainPc.next; split <;> rfl

@[simp] theorem wake_chanUnits (l : LoggerPc) : l.wake.chanUnits = l.chanUnits := by
  cases l <;> rfl

/-- What holds in every reachable state. -/
structure LockInv (s : State) : Prop where
  limit_eq : s.chanSem.limit = 1
  /-- The lock's unit is in the semaphore, with `main`, or with the logger. -/
  units : s.chanSem.count + s.main.chanUnits + s.logger.chanUnits = 1
  /-- Only `main` ever blocks on the channel. -/
  waitq : s.chanSem.waitq = if s.main.waitsChan then [.main] else []
  /-- Outside `main`'s copy and its listener, the channel holds what the display showed last. -/
  shown : s.main.notifying = false → s.chanMsg = s.display.getLastD initMsg
  /-- A successful read printed a message the display had shown, or the initial one. -/
  logged : ∀ v, ((0 : Int), v) ∈ s.logged → v = initMsg ∨ v ∈ s.display

theorem lockInv_init : LockInv init :=
  ⟨rfl, rfl, rfl, fun _ => rfl, fun _ h => absurd h (List.not_mem_nil _)⟩

/-- The display shows more: what a successful read printed is still among what it showed. -/
theorem LockInv.logged_mono {s : State} (h : LockInv s) {display : List SensorData}
    (hd : s.display ⊆ display) : ∀ v, ((0 : Int), v) ∈ s.logged → v = initMsg ∨ v ∈ display :=
  fun v hv => (h.logged v hv).imp_right (hd ·)

/-- `main` gives the channel back.  Nobody waits on it, since `main` is the only thread that
does, so the unit returns to the semaphore. -/
theorem LockInv.release {s : State} (h : LockInv s) (hm : s.main.chanUnits = 1) :
    s.chanSem.give.1.count = 1 ∧ s.chanSem.give.1.waitq = [] ∧ s.chanSem.give.2 = none ∧
      s.logger.chanUnits = 0 := by
  have hw : s.main.waitsChan = false := by
    cases hs : s.main <;> simp only [hs, MainPc.chanUnits, reduceCtorEq] at hm ⊢ <;> rfl
  have hq := h.waitq
  rw [hw, if_neg Bool.false_ne_true] at hq
  obtain ⟨h1, h2, h3⟩ := KSem.give_of_waitq_nil hq
  have := h.units
  refine ⟨?_, h2, h3, by omega⟩
  rw [h1, h.limit_eq, if_neg (by omega)]
  omega

/-! ## Steps -/

theorem notifying_eq_false_of_chanUnits {m : MainPc} (h : m.chanUnits = 0) :
    m.notifying = false := by
  cases m <;> first | rfl | simp [MainPc.chanUnits] at h

/-- While the logger holds the channel, the channel holds what the display showed last. -/
theorem LockInv.copy_shown {s : State} (h : LockInv s) (hl : s.logger = .copy) :
    s.chanMsg = s.display.getLastD initMsg := by
  have hu := h.units
  rw [hl] at hu
  exact h.shown (notifying_eq_false_of_chanUnits (by simp only [LoggerPc.chanUnits] at hu; omega))

/-- `display_listener` shows the channel's message. -/
theorem LockInv.display {s : State} (h : LockInv s) :
    LockInv { s with display := s.display ++ [s.chanMsg] } :=
  ⟨h.limit_eq, h.units, h.waitq, fun _ => (List.getLastD_concat _ _ _).symm,
    h.logged_mono (List.subset_append_left _ _)⟩

/-- The observers have run, and `main` gives the channel back with its message shown. -/
theorem LockInv.notified {s : State} (h : LockInv s) (hm : s.main.chanUnits = 1)
    (hshown : s.chanMsg = s.display.getLastD initMsg) (i : Nat)
    (q : KMsgq Unit Tid × Option Tid × Int) : LockInv (s.notified i q) := by
  obtain ⟨h1, h2, h3, h4⟩ := h.release hm
  obtain ⟨q, w, r⟩ := q
  unfold State.notified
  rw [h3]
  rcases w with _ | _ | _ <;> simp only [State.handChannel, State.wakeLogger] <;>
    exact ⟨by simp [h.limit_eq], by simp [h1, h4], by simp [h2], fun _ => hshown, h.logged⟩

theorem lockInv_mainSample {s t : State} {r₁ r₂ ts : BitVec 32} (h : LockInv s)
    (hs : mainSample s r₁ r₂ ts = some t) : LockInv t := by
  unfold mainSample at hs
  split at hs <;> simp only [Option.some.injEq, reduceCtorEq] at hs
  subst hs
  rename_i i hm
  have hu := h.units
  have hw := h.waitq
  rw [hm] at hu hw
  exact ⟨h.limit_eq, hu, hw, fun _ => h.shown (by rw [hm]; rfl), h.logged⟩

theorem lockInv_mainStep {s t : State} (h : LockInv s) (hs : mainStep s = some t) : LockInv t := by
  unfold mainStep at hs
  cases hm : s.main <;> simp only [hm, reduceCtorEq] at hs
  case lock i =>
    have hw : s.chanSem.waitq = [] := by simpa [hm, MainPc.waitsChan] using h.waitq
    have hu := h.units
    rw [hm] at hu
    have hn : s.main.notifying = false := by rw [hm]; rfl
    rcases Nat.eq_zero_or_pos s.chanSem.count with hc | hc
    · obtain ⟨h1, h2, h3⟩ := KSem.take_of_zero (t := Tid.main) hc
      simp only [h3, Bool.false_eq_true, ↓reduceIte, Option.some.injEq] at hs
      subst hs
      refine ⟨by simp [h.limit_eq], ?_, by simp [h2, hw, MainPc.waitsChan], fun _ => h.shown hn,
        h.logged⟩
      simp only [h1, MainPc.chanUnits] at hu ⊢
      omega
    · obtain ⟨h1, h2, h3⟩ := KSem.take_of_pos (t := Tid.main) hc
      simp only [h3, ↓reduceIte, Option.some.injEq] at hs
      subst hs
      refine ⟨by simp [h.limit_eq], ?_, by simp [h2, hw, MainPc.waitsChan], nofun, h.logged⟩
      simp only [h1, MainPc.chanUnits] at hu ⊢
      omega
  case notify i =>
    have hd := h.display
    have hm' : ({ s with display := s.display ++ [s.chanMsg] } : State).main.chanUnits = 1 := by
      simp only [hm]; rfl
    split at hs <;> simp only [Option.some.injEq] at hs <;> subst hs
    · exact hd.notified hm' (List.getLastD_concat _ _ _).symm _ _
    · exact ⟨h.limit_eq, by simpa only [hm] using hd.units, by simpa only [hm] using hd.waitq,
        fun _ => (List.getLastD_concat _ _ _).symm, hd.logged⟩
  case waitRoom i =>
    split at hs <;> simp only [Option.some.injEq, reduceCtorEq] at hs
    subst hs
    exact h.notified (by rw [hm]; rfl) (h.shown (by rw [hm]; rfl)) _ _

theorem lockInv_timeoutStep {s t : State} (h : LockInv s) (hs : timeoutStep s = some t) :
    LockInv t := by
  unfold timeoutStep at hs
  cases hm : s.main <;> simp only [hm, Option.some.injEq, reduceCtorEq] at hs <;> subst hs
  case waitLock i =>
    have hu := h.units
    have hw := h.waitq
    simp only [hm, MainPc.chanUnits, MainPc.waitsChan, if_true] at hu hw
    exact ⟨h.limit_eq, by simpa using hu, by simp [hw], fun _ => h.shown (by rw [hm]; rfl),
      h.logged⟩
  case waitRoom i =>
    obtain ⟨h1, h2, h3, h4⟩ := h.release (by rw [hm]; rfl)
    rw [h3]
    simp only [State.handChannel]
    exact ⟨by simp [h.limit_eq], by simp [h1, h4], by simp [h2], fun _ => h.shown (by rw [hm]; rfl),
      h.logged⟩

theorem lockInv_loggerThreadEntry {s t : State} {junk : SensorData} (h : LockInv s)
    (hs : loggerThreadEntry s junk = some t) : LockInv t := by
  unfold loggerThreadEntry at hs
  have hu := h.units
  cases hl : s.logger <;> simp only [hl, Option.some.injEq, reduceCtorEq] at hs hu
  case wait =>
    subst hs
    refine ⟨h.limit_eq, ?_, h.waitq, h.shown, h.logged⟩
    split <;> exact hu
  case read =>
    split at hs <;> simp only [Option.some.injEq] at hs <;> subst hs
    · rename_i hc
      have hpos : 0 < s.chanSem.count := Nat.pos_of_ne_zero fun h0 => by
        rw [KSem.tryTake_of_zero h0] at hc
        cases hc
      obtain ⟨h1, h2, -⟩ := KSem.tryTake_of_pos hpos
      refine ⟨by simp [h.limit_eq], ?_, by rw [h2]; exact h.waitq, h.shown, h.logged⟩
      simp only [h1, LoggerPc.chanUnits] at hu ⊢
      omega
    · refine ⟨h.limit_eq, hu, h.waitq, h.shown, fun v hv => ?_⟩
      rcases List.mem_append.1 hv with hv | hv
      · exact h.logged v hv
      · exact absurd (Prod.mk.inj (List.mem_singleton.1 hv)).1 (by decide)
  case copy =>
    subst hs
    have hshown := h.copy_shown hl
    have hlog : ∀ v, ((0 : Int), v) ∈ s.logged ++ [(0, s.chanMsg)] → v = initMsg ∨ v ∈ s.display := by
      intro v hv
      rcases List.mem_append.1 hv with hv | hv
      · exact h.logged v hv
      · rw [(Prod.mk.inj (List.mem_singleton.1 hv)).2, hshown]
        exact List.mem_cons.1 (List.getLastD_mem_cons _ _)
    have hw := h.waitq
    cases hmw : s.main.waitsChan
    · rw [hmw, if_neg Bool.false_ne_true] at hw
      obtain ⟨h1, h2, h3⟩ := KSem.give_of_waitq_nil hw
      rw [h3]
      simp only [State.handChannel]
      refine ⟨by simp [h.limit_eq], ?_, by simp [h2, hmw], fun _ => hshown, hlog⟩
      simp only [h1, h.limit_eq, LoggerPc.chanUnits] at hu ⊢
      split <;> omega
    · rw [hmw, if_pos rfl] at hw
      obtain ⟨h1, h2, h3⟩ := KSem.give_of_waitq_cons hw
      rw [h3]
      cases hm : s.main <;> simp only [hm, MainPc.waitsChan, reduceCtorEq] at hmw
      case waitLock i =>
        simp only [hm, MainPc.chanUnits, LoggerPc.chanUnits] at hu
        simp only [State.handChannel, hm]
        refine ⟨by simp [h.limit_eq], ?_, by simp [h2, MainPc.waitsChan], nofun, hlog⟩
        simp only [h1, MainPc.chanUnits, LoggerPc.chanUnits]
        omega

theorem lockInv_holds : program.Invariant LockInv where
  init := lockInv_init
  step a h hs := by
    cases a with
    | sample r₁ r₂ ts => exact lockInv_mainSample h hs
    | main => exact lockInv_mainStep h hs
    | logger junk => exact lockInv_loggerThreadEntry h hs
    | timeout => exact lockInv_timeoutStep h hs

/-- **The channel's lock orders the reads after the display.**  In every interleaving of
`main`'s publishes (with any timeout of their 100 ms waits) and the logger's loop, the lock's one
unit is in the semaphore, with `main`'s publish, or with the logger's read, so the two never hold
`sensor_chan` at once; while the logger holds it, the channel holds the message the display
showed last, or the initial one; and every line the logger prints after a `zbus_chan_read` that
returned 0 shows a message `display_listener` had already shown, or the initial one. -/
theorem chan_lock_orders_reads :
    (∀ s, program.Reachable s → s.chanSem.count + s.main.chanUnits + s.logger.chanUnits = 1) ∧
    (∀ s, program.Reachable s → s.logger = .copy → s.chanMsg = s.display.getLastD initMsg) ∧
    (∀ s, program.Reachable s → ∀ v, ((0 : Int), v) ∈ s.logged → v = initMsg ∨ v ∈ s.display) :=
  ⟨fun _ hs => (lockInv_holds.holds hs).units, fun _ hs => (lockInv_holds.holds hs).copy_shown,
    fun _ hs => (lockInv_holds.holds hs).logged⟩

/-- `main` publishes a first message, which the display shows and whose notification wakes the
logger; the logger takes the channel for its read, and `main`'s second publish blocks on it.  The
lock's unit is with the logger, and the channel holds the message the display showed. -/
theorem logger_holds_displayed :
    ∃ s, program.Reachable s ∧ s.logger = .copy ∧ s.main = .waitLock 1 ∧ s.display ≠ [] ∧
      s.chanSem.count + s.main.chanUnits + s.logger.chanUnits = 1 ∧
      s.chanMsg = s.display.getLastD initMsg := by
  have h : program.run program.init [.sample 500 1000 0, .main, .main, .logger initMsg,
      .logger initMsg, .sample 500 1000 0, .main] = some _ := rfl
  exact ⟨_, System.reachable_of_run h, rfl, rfl, by decide,
    chan_lock_orders_reads.1 _ (System.reachable_of_run h),
    chan_lock_orders_reads.2.1 _ (System.reachable_of_run h) rfl⟩

/-- **The logger can print an uninitialised message.**  The logger waits on `logger_sub`;
`main` publishes a first message, whose notification wakes the logger, and takes the channel for
its second; the logger's `zbus_chan_read(chan, &msg, K_NO_WAIT)` then fails with `-EBUSY` and it
prints whatever `msg` held — here `7, 7, 7`, neither the initial message nor a published one. -/
theorem logger_prints_uninitialised :
    ∃ s, program.Reachable s ∧ (-EBUSY, ⟨7, 7, 7⟩) ∈ s.logged ∧ (⟨7, 7, 7⟩ : SensorData) ≠ initMsg ∧
      (⟨7, 7, 7⟩ : SensorData) ∉ s.published := by
  obtain ⟨s, hs, h⟩ := program.exists_reachable_of_run
    [.logger ⟨7, 7, 7⟩, .sample 500 1000 0, .main, .main, .sample 500 1000 0, .main,
      .logger ⟨7, 7, 7⟩]
    (fun s => s.logged.contains (-EBUSY, ⟨7, 7, 7⟩) && !s.published.contains ⟨7, 7, 7⟩) (by decide)
  simp only [Bool.and_eq_true, Bool.not_eq_true', List.contains] at h
  exact ⟨s, hs, by simpa using h.1, by decide, by simpa using h.2⟩

end Zbus
end ZephyrGuide
