import ZephyrGuide.Uart.Model

/-!
# No lost wake-up

`rx_sem` has limit 1, so the gives of several callback rounds that land while the thread is busy
leave one unit, not several; and the thread tests the ring before it sleeps, not atomically
with sleeping.  That is still enough, for a reason that has to hold at every point of every
interleaving (`Inv.wakeup`): while the thread is at or in its `k_sem_take`, the ring is empty, or a
round of the callback has stored bytes and not given yet, or there is a unit to take.

* A round stores its bytes before it gives, so a non-empty ring with no give pending was filled
  by a round that has given since — after the thread's last empty `ring_buf_get`, since a ring
  that was empty then and is not now has been put to since.  That give either woke the thread or
  left a unit.
* A thread blocked in `k_sem_take` has no unit to take, so the third case is out.

Hence a thread asleep on a non-empty ring is woken by the round that filled it, with the bytes
still there: no byte is left in the ring while the thread sleeps for good.
-/

set_option autoImplicit false

namespace ZephyrGuide
namespace Uart

/-! ## What the thread's byte handling leaves alone -/

/-- The parts of the state that only the kernel objects and the positions change. -/
structure Frame (s t : State) : Prop where
  rxRingBuf : t.rxRingBuf = s.rxRingBuf
  rxSem : t.rxSem = s.rxSem
  isr : t.isr = s.isr
  thread : t.thread = s.thread

theorem Frame.trans {s t u : State} (h₁ : Frame s t) (h₂ : Frame t u) : Frame s u :=
  ⟨h₂.1.trans h₁.1, h₂.2.trans h₁.2, h₂.3.trans h₁.3, h₂.4.trans h₁.4⟩

theorem frame_uartSend (s : State) (str : List UInt8) : Frame s (s.uartSend str) :=
  ⟨rfl, rfl, rfl, rfl⟩

theorem frame_uartPrintln (s : State) (str : List UInt8) : Frame s (s.uartPrintln str) :=
  (frame_uartSend _ _).trans (frame_uartSend _ _)

theorem frame_handleCommand (s : State) (cmd : List UInt8) (len : Nat) :
    Frame s (s.handleCommand cmd len) := by
  unfold State.handleCommand
  split
  · exact (((((frame_uartPrintln _ _).trans (frame_uartPrintln _ _)).trans
      (frame_uartPrintln _ _)).trans (frame_uartPrintln _ _)).trans (frame_uartPrintln _ _)).trans
      (frame_uartPrintln _ _)
  split
  · exact ((frame_uartPrintln _ _).trans (frame_uartPrintln _ _)).trans (frame_uartPrintln _ _)
  split
  · exact Frame.trans (t := { s with rxCount := 0, txCount := 0 }) ⟨rfl, rfl, rfl, rfl⟩
      ((frame_uartPrintln _ _).trans (frame_uartPrintln _ _))
  split
  · exact (frame_uartPrintln _ _).trans (frame_uartPrintln _ _)
  · exact ⟨rfl, rfl, rfl, rfl⟩

theorem frame_callHandleCommand (s : State) (cmd : List UInt8) (len : Nat) :
    Frame s (s.callHandleCommand cmd len) :=
  Frame.trans (t := { s with commands := s.commands ++ [(cmd, len)] }) ⟨rfl, rfl, rfl, rfl⟩
    (frame_handleCommand _ cmd len)

/-- Handling a byte touches neither the ring, nor `rx_sem`, nor the positions. -/
theorem frame_processByte (s : State) (c : UInt8) : Frame s (s.processByte c) := by
  have echo : Frame s { s with tx := s.tx ++ [c], txCount := s.txCount + 1 } := ⟨rfl, rfl, rfl, rfl⟩
  unfold State.processByte
  dsimp only
  split
  · refine Frame.trans ?_ (frame_uartSend _ _)
    split
    · refine echo.trans (Frame.trans ((frame_uartSend _ (ascii "\r\n")).trans
        (frame_callHandleCommand _ s.cmdBuf s.cmdPos)) ?_)
      exact ⟨rfl, rfl, rfl, rfl⟩
    · exact echo
  split
  · split
    · refine echo.trans (Frame.trans ?_ (frame_uartSend _ _))
      exact ⟨rfl, rfl, rfl, rfl⟩
    · exact echo
  split
  · exact echo.trans ⟨rfl, rfl, rfl, rfl⟩
  · exact echo

/-! ## The invariant -/

/-- What holds in every reachable state. -/
structure Inv (s : State) : Prop where
  limit_eq : s.rxSem.limit = 1
  waitq : s.rxSem.waitq = if s.thread = .waitTake then [.uartThread] else []
  wakeup : s.thread = .take ∨ s.thread = .waitTake →
    s.rxRingBuf.bytes = [] ∨ s.isr ≠ .idle ∨ 0 < s.rxSem.count

theorem inv_init : Inv init := ⟨rfl, rfl, fun _ => .inl rfl⟩

/-- The invariant reads only the kernel objects and the positions. -/
theorem Inv.frame {s t : State} (h : Inv s) (hf : Frame s t) : Inv t := by
  obtain ⟨h1, h2, h3, h4⟩ := hf
  exact ⟨h2 ▸ h.limit_eq, h2 ▸ h4 ▸ h.waitq, h1 ▸ h2 ▸ h3 ▸ h4 ▸ h.wakeup⟩

theorem inv_uartThreadEntry {s t : State} (h : Inv s) (hs : uartThreadEntry s = some t) :
    Inv t := by
  obtain ⟨hl, hw, hu⟩ := h
  unfold uartThreadEntry at hs
  cases hp : s.thread with
  | waitTake => simp [hp] at hs
  | take =>
    simp only [hp, Option.some.injEq, reduceCtorEq, ite_false] at hs hw hu
    subst hs
    rcases Nat.eq_zero_or_pos s.rxSem.count with hc | hc
    · obtain ⟨h1, h2, h3⟩ := KSem.take_of_zero (t := Tid.uartThread) hc
      refine ⟨by simp [hl], by simp [h2, h3, hw], fun _ => ?_⟩
      simpa [hc, h1, h3] using hu
    · obtain ⟨h1, h2, h3⟩ := KSem.take_of_pos (t := Tid.uartThread) hc
      exact ⟨by simp [hl], by simp [h2, h3, hw], by simp [h3]⟩
  | get =>
    simp only [hp] at hs
    cases hb : s.rxRingBuf.bytes with
    | nil =>
      simp only [RingBuf.getByte_of_nil hb, Option.some.injEq] at hs
      subst hs
      exact ⟨hl, by simpa [hp] using hw, fun _ => .inl hb⟩
    | cons c rest =>
      obtain ⟨h1, h2⟩ := RingBuf.getByte_of_cons hb
      simp only [h2, Option.some.injEq] at hs
      subst hs
      refine Inv.frame ?_ (frame_processByte _ c)
      exact ⟨hl, by simpa [hp] using hw, fun e => by simp [hp] at e⟩

theorem inv_uartCbRead {s t : State} {data : List UInt8} (h : Inv s)
    (hs : uartCbRead s data = some t) : Inv t := by
  unfold uartCbRead at hs
  split at hs
  · simp only [Option.some.injEq] at hs
    subst hs
    exact ⟨h.limit_eq, h.waitq, fun _ => .inr (.inl (by simp))⟩
  · simp at hs

theorem inv_uartCb {s t : State} (h : Inv s) (hs : uartCb s = some t) : Inv t := by
  obtain ⟨hl, hw, hu⟩ := h
  unfold uartCb at hs
  split at hs
  · simp only [Option.some.injEq] at hs
    subst hs
    exact ⟨hl, hw, fun _ => .inr (.inl (by simp))⟩
  · simp only [Option.some.injEq] at hs
    subst hs
    by_cases ht : s.thread = .waitTake
    · rw [if_pos ht] at hw
      obtain ⟨h1, h2, h3⟩ := KSem.give_of_waitq_cons hw
      rw [h3]
      refine ⟨by simp [hl], ?_, fun e => ?_⟩ <;> simp_all [State.wake, ThreadPc.wake]
    · rw [if_neg ht] at hw
      obtain ⟨h1, h2, h3⟩ := KSem.give_of_waitq_nil hw
      rw [h3]
      refine ⟨by simp [hl], by simp [h2, ht, State.wake], fun _ => .inr (.inr ?_)⟩
      simp only [State.wake, h1, hl]
      split <;> omega
  · simp at hs

theorem inv_mainStep {s t : State} (h : Inv s) (hs : mainStep s = some t) : Inv t := by
  unfold mainStep at hs
  split at hs <;> simp only [Option.some.injEq] at hs <;> subst hs
  · exact Inv.frame (t := { s with rxEnabled := true, main := .loop }) h ⟨rfl, rfl, rfl, rfl⟩
      |>.frame (frame_uartSend _ _)
  · exact Inv.frame h ⟨rfl, rfl, rfl, rfl⟩

theorem inv_holds : program.Invariant Inv where
  init := inv_init
  step a h hs := by
    cases a with
    | rx data => exact inv_uartCbRead h hs
    | isr => exact inv_uartCb h hs
    | thread => exact inv_uartThreadEntry h hs
    | main => exact inv_mainStep h hs

/-! ## No lost wake-up -/

/-- A thread blocked in `k_sem_take` has no unit to take, so it sleeps on an empty ring or with
a give pending. -/
theorem Inv.empty_or_pending {s : State} (h : Inv s) (ht : s.thread = .waitTake) :
    s.rxRingBuf.bytes = [] ∨ s.isr ≠ .idle := by
  have hc : s.rxSem.count = 0 :=
    KSem.count_eq_zero_of_mem (t := Tid.uartThread) (by simp [h.waitq, ht])
  rcases h.wakeup (.inr ht) with h | h | h
  · exact .inl h
  · exact .inr h
  · omega

/-- The pending give wakes the blocked thread, and leaves the ring as it was. -/
theorem Inv.give_wakes {s : State} (h : Inv s) (ht : s.thread = .waitTake)
    (hisr : s.isr = .give) : ∃ t, uartCb s = some t ∧ t.thread = .get ∧ t.rxRingBuf = s.rxRingBuf := by
  have hw := h.waitq
  rw [if_pos ht] at hw
  obtain ⟨-, -, h3⟩ := KSem.give_of_waitq_cons hw
  refine ⟨State.wake { s with rxSem := s.rxSem.give.1, isr := .idle } s.rxSem.give.2,
    by simp only [uartCb, hisr], ?_, by simp⟩
  simp [h3, State.wake, ht, ThreadPc.wake]

/-- **No lost wake-up.**  In every interleaving of the callback's steps with the thread's, a
thread blocked in `k_sem_take(&rx_sem, K_FOREVER)` sleeps on an empty `rx_ring_buf` or while a
round of `uart_cb` has stored bytes and not yet given `rx_sem`; and in the second case that
round's remaining steps — at most the `rx_count` update and the give — wake the thread with the
ring's bytes still there. -/
theorem uart_no_lost_wakeup :
    (∀ s, program.Reachable s → s.thread = .waitTake →
      s.rxRingBuf.bytes = [] ∨ s.isr ≠ .idle) ∧
    (∀ s, program.Reachable s → s.thread = .waitTake → s.rxRingBuf.bytes ≠ [] →
      ∃ k ≤ 2, ∃ t, program.run s (List.replicate k .isr) = some t ∧ t.thread = .get ∧
        t.rxRingBuf = s.rxRingBuf) := by
  refine ⟨fun s hs ht => (inv_holds.holds hs).empty_or_pending ht, fun s hs ht hb => ?_⟩
  have hi := inv_holds.holds hs
  have hisr := (hi.empty_or_pending ht).resolve_left hb
  cases he : s.isr with
  | idle => exact absurd he hisr
  | give =>
    obtain ⟨t, h1, h2, h3⟩ := hi.give_wakes ht he
    exact ⟨1, by omega, t, by simp [System.run, program, h1], h2, h3⟩
  | count len =>
    let u : State := { s with rxCount := s.rxCount + len.toUInt32, isr := .give }
    have hu : uartCb s = some u := by simp only [uartCb, he]
    obtain ⟨t, h1, h2, h3⟩ := Inv.give_wakes (s := u) (inv_uartCb hi hu) ht rfl
    exact ⟨2, Nat.le_refl 2, t, by simp [System.run, program, hu, h1], h2, h3⟩

/-- The thread has gone to sleep in `k_sem_take` on an empty ring; then `uart_cb` stores `a` and
has yet to count and give.  The ring is not empty, a give is pending, and the rest of
that round wakes the thread with `a` still in the ring. -/
theorem uart_sleeper_woken :
    ∃ s, program.Reachable s ∧ s.thread = .waitTake ∧ s.rxRingBuf.bytes = [97] ∧
      (s.rxRingBuf.bytes = [] ∨ s.isr ≠ .idle) ∧
      ∃ k ≤ 2, ∃ t, program.run s (List.replicate k .isr) = some t ∧ t.thread = .get ∧
        t.rxRingBuf = s.rxRingBuf := by
  have h : program.run program.init [.main, .thread, .rx [97]] = some _ := rfl
  exact ⟨_, System.reachable_of_run h, rfl, rfl,
    uart_no_lost_wakeup.1 _ (System.reachable_of_run h) rfl,
    uart_no_lost_wakeup.2 _ (System.reachable_of_run h) rfl (by decide)⟩

end Uart
end ZephyrGuide
