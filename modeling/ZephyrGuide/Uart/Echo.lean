import ZephyrGuide.Uart.Editor

/-!
# The echo of `uart_thread_entry`

The thread echoes every byte it gets with `uart_poll_out` before the line editor sees it, and
answers a deleted character with `uart_send("\b \b")`.  Read the bytes it sends (`State.tx`) as a
terminal does (`Terminal.put`): a printable byte is written at the cursor, which moves right;
0x08 moves the cursor one column left, not past the start of the line; 0x7F does nothing; CR and
LF start a fresh line at column 0.  Does the screen show the line the editor holds, that is, is
the text after the last `"> "` prompt, up to the cursor, `cmd_buf[0 .. cmd_pos)`?

Not always.  A 0x08 is echoed as it is, so the cursor has already moved left when `"\b \b"` moves
it again, and the blank lands one column too far left: after `a`, `b` and 0x08 the editor holds
`a` while the screen shows `">  b"` with the cursor right after the prompt
(`backspace_echo_disagrees`).  A printable byte typed while 63 are held is echoed but not stored,
which is the other way the two part.

Those are the only two.  `main`'s status line goes out on the same UART, the console's, and ends
the screen's line, so what the screen then shows of the line is what was typed after it.  Once
`main` has printed the first prompt, every step that reads neither 0x08 nor a printable byte
while 63 are held keeps the screen's line, up to the cursor, an end of `"> "` followed by
`cmd_buf[0 .. cmd_pos)`, and all of it until the first status line (`Echoes`, `Echoes.step`); so
does every run whose bytes avoid the two (`echo_agrees`).
-/

set_option autoImplicit false

namespace ZephyrGuide
namespace Uart

/-! ## The terminal -/

/-- The line the cursor is on, and the cursor's column. -/
structure Terminal where
  line : List UInt8
  col : Nat
  deriving DecidableEq, Repr

/-- A byte arriving at the terminal. -/
def Terminal.put (t : Terminal) (b : UInt8) : Terminal :=
  if b = 13 ∨ b = 10 then ⟨[], 0⟩
  else if b = 0x08 then { t with col := t.col - 1 }
  else if 32 ≤ b ∧ b < 127 then ⟨t.line.take t.col ++ b :: t.line.drop (t.col + 1), t.col + 1⟩
  else t

/-- The terminal after the bytes `tx`, from a fresh line. -/
def screen (tx : List UInt8) : Terminal := tx.foldl Terminal.put ⟨[], 0⟩

/-- The text after the last `"> "` of `v`, if there is one. -/
def afterLastPrompt : List UInt8 → Option (List UInt8)
  | [] => none
  | b :: rest => match afterLastPrompt rest with
    | some r => some r
    | none => if b = 62 ∧ rest.head? = some 32 then some rest.tail else none

/-- The text after the last prompt of the cursor's line, up to the cursor. -/
def Terminal.typed (t : Terminal) : Option (List UInt8) := afterLastPrompt (t.line.take t.col)

example : (screen (ascii "> ab\x08\x08 \x08")).typed = some [] := by decide

/-! ## A backspace echoed twice -/

/-- **The echo and the buffer disagree.**  `main` prints the prompt; the UART delivers `a`, `b`
and 0x08, and the thread handles them.  The editor holds `a`; the terminal, which got
`"> ab"`, the raw 0x08 and `"\b \b"`, shows `">  b"` with nothing typed after the prompt up to
the cursor. -/
theorem backspace_echo_disagrees :
    ∃ s, program.Reachable s ∧ s.tx = ascii "> ab\x08\x08 \x08" ∧
      s.cmdBuf.take s.cmdPos = ascii "a" ∧ screen s.tx = ⟨ascii ">  b", 2⟩ ∧
      (screen s.tx).typed = some [] := by
  obtain ⟨s, hs, h⟩ := program.exists_reachable_of_run
    [.main, .rx [97, 98, 8], .isr, .isr, .thread, .thread, .thread, .thread]
    (fun s => s.tx == ascii "> ab\x08\x08 \x08" && s.cmdBuf.take s.cmdPos == ascii "a")
    (by decide)
  simp only [Bool.and_eq_true, beq_iff_eq] at h
  exact ⟨s, hs, h.1, h.2, by rw [h.1]; decide, by rw [h.1]; decide⟩

/-! ## What the terminal shows -/

/-- The cursor's line, up to the cursor, is `v`. -/
structure Terminal.Shows (t : Terminal) (v : List UInt8) : Prop where
  col_eq : t.col = v.length
  take_eq : t.line.take t.col = v

theorem Terminal.put_newline (t : Terminal) {b : UInt8} (hb : b = 13 ∨ b = 10) :
    t.put b = ⟨[], 0⟩ := by
  simp only [Terminal.put, hb, if_true]

theorem Terminal.put_del (t : Terminal) : t.put 0x7F = t := rfl

theorem Terminal.Shows.put_printable {t : Terminal} {v : List UInt8} (h : t.Shows v) {b : UInt8}
    (hb : 32 ≤ b ∧ b < 127) : (t.put b).Shows (v ++ [b]) := by
  have hn : ¬ (b = 13 ∨ b = 10) := by rintro (rfl | rfl) <;> exact absurd hb (by decide)
  have h8 : b ≠ 0x08 := by rintro rfl; exact absurd hb (by decide)
  rw [Terminal.put, if_neg hn, if_neg h8, if_pos hb, h.take_eq]
  refine ⟨by simp [h.col_eq], ?_⟩
  dsimp only
  rw [h.col_eq, List.take_append_eq_append_take, List.take_of_length_le (by omega),
    Nat.add_sub_cancel_left]
  rfl

theorem Terminal.Shows.put_backspace {t : Terminal} {v : List UInt8} {x : UInt8}
    (h : t.Shows (v ++ [x])) : (t.put 0x08).Shows v := by
  have hc : t.col - 1 = v.length := by simp [h.col_eq]
  refine ⟨hc, ?_⟩
  have hv : t.line.take (t.col - 1) = (t.line.take t.col).take (t.col - 1) := by
    rw [List.take_take, Nat.min_eq_left (Nat.sub_le _ _)]
  show t.line.take (t.col - 1) = v
  rw [hv, h.take_eq, hc, List.take_left]

theorem screen_append (xs ys : List UInt8) :
    screen (xs ++ ys) = ys.foldl Terminal.put (screen xs) :=
  List.foldl_append _ _ _ _

theorem screen_newline (xs : List UInt8) {b : UInt8} (hb : b = 13 ∨ b = 10) :
    screen (xs ++ [b]) = ⟨[], 0⟩ := by
  rw [screen_append, List.foldl_cons, List.foldl_nil, Terminal.put_newline _ hb]

theorem screen_crlf (xs : List UInt8) : screen (xs ++ ascii "\r\n") = ⟨[], 0⟩ := by
  rw [show xs ++ ascii "\r\n" = (xs ++ [13]) ++ [10] by rw [List.append_assoc]; rfl]
  exact screen_newline _ (.inr rfl)

/-- `uart_println` ends its line. -/
theorem screen_uartPrintln (s : State) (str : List UInt8) :
    screen (s.uartPrintln str).tx = ⟨[], 0⟩ :=
  screen_crlf _

/-- Whatever `handle_command` prints ends its line. -/
theorem screen_handleCommand {s : State} (h : screen s.tx = ⟨[], 0⟩) (cmd : List UInt8)
    (len : Nat) : screen (s.handleCommand cmd len).tx = ⟨[], 0⟩ := by
  unfold State.handleCommand
  split <;> (try split) <;> (try split) <;> (try split) <;>
    first | exact screen_uartPrintln _ _ | exact h

/-! ## One byte -/

/-- A byte the terminal and the editor treat alike: CR, LF, 0x7F, or a printable byte while
fewer than 63 are held. -/
def EchoSafe (line : List UInt8) (c : UInt8) : Prop :=
  c = 13 ∨ c = 10 ∨ c = 0x7F ∨ (32 ≤ c ∧ c < 127 ∧ line.length < 63)

instance (line : List UInt8) (c : UInt8) : Decidable (EchoSafe line c) :=
  inferInstanceAs (Decidable (_ ∨ _))

/-- Every byte of `bs` is `EchoSafe` for the line that the bytes before it leave. -/
def EchoSafeAll (line : List UInt8) : List UInt8 → Prop
  | [] => True
  | c :: cs => EchoSafe line c ∧ EchoSafeAll (lineStep line c) cs

instance decEchoSafeAll : (line bs : List UInt8) → Decidable (EchoSafeAll line bs)
  | _, [] => isTrue trivial
  | line, c :: cs =>
    have := decEchoSafeAll (lineStep line c) cs
    inferInstanceAs (Decidable (EchoSafe line c ∧ _))

theorem EchoSafeAll.append {line : List UInt8} {xs ys : List UInt8}
    (h : EchoSafeAll line (xs ++ ys)) : EchoSafeAll line xs ∧ EchoSafeAll (xs.foldl lineStep line) ys := by
  induction xs generalizing line with
  | nil => exact ⟨trivial, h⟩
  | cons c cs ih =>
    obtain ⟨hc, h⟩ := h
    exact ⟨⟨hc, (ih h).1⟩, (ih h).2⟩

theorem Terminal.Shows.put_backspace_nil {t : Terminal} (h : t.Shows []) :
    (t.put 0x08).Shows [] :=
  ⟨by simp only [Terminal.put]; simp [h.col_eq], by simp only [Terminal.put]; simp [h.col_eq]⟩

/-- A status line ends its line. -/
theorem screen_printk_statusLine (s : State) (rx tx : UInt32) :
    screen (s.printk (statusLine rx tx)).tx = ⟨[], 0⟩ := by
  rw [State.printk, statusLine, ← List.append_assoc]
  exact screen_newline _ (.inr rfl)

/-- **One byte of the echo.**  If the screen's line up to the cursor is the end `shown` of the
prompt and the line, it still is after a byte that the terminal and the editor treat alike, and
all of them if it was all of them before. -/
theorem Terminal.Shows.processByte {s : State} (h : Editor s) {pre shown : List UInt8}
    (hps : ascii "> " ++ s.line = pre ++ shown) (hs : (screen s.tx).Shows shown) {c : UInt8}
    (hc : EchoSafe s.line c) :
    ∃ pre' shown', ascii "> " ++ (s.processByte c).line = pre' ++ shown' ∧
      (screen (s.processByte c).tx).Shows shown' ∧ (pre = [] → pre' = []) := by
  have hlen : s.line.length = s.cmdPos :=
    List.length_take_of_le (by rw [h.length_eq]; exact Nat.le_trans h.pos_le (by decide))
  rw [processByte_line h, lineStep]
  unfold State.processByte
  dsimp only
  by_cases hn : c = 13 ∨ c = 10
  · -- the line ends: what is printed ends its line too, and the prompt follows
    simp only [hn, if_true, List.append_nil]
    refine ⟨[], _, rfl, ?_, fun _ => rfl⟩
    have hfresh : ∀ x : State, screen x.tx = ⟨[], 0⟩ →
        (screen (x.uartSend (ascii "> ")).tx).Shows (ascii "> ") := by
      intro x hx
      rw [State.uartSend, screen_append, hx]
      exact ⟨rfl, rfl⟩
    apply hfresh
    split
    · exact screen_handleCommand (screen_crlf _) _ _
    · exact screen_newline _ hn
  simp only [hn, if_false, editLine]
  by_cases hb : c = 0x7F ∨ c = 0x08
  · have h7 : c = 0x7F := by
      rcases hb with hb | rfl
      · exact hb
      · rcases hc with h | h | h | ⟨h, -⟩ <;> exact absurd h (by decide)
    subst h7
    simp only [hb, true_or, if_true]
    split
    · -- a character is deleted: the raw 0x7F does nothing, and `"\b \b"` blanks it
      rename_i hp
      have hp : 0 < s.cmdPos := hp
      obtain ⟨l, x, hl⟩ : ∃ l x, s.line = l ++ [x] :=
        ⟨_, _, (List.dropLast_concat_getLast (l := s.line) (by
          rw [Ne, ← List.length_eq_zero]; omega)).symm⟩
      rw [hl, List.dropLast_concat]
      rw [hl, ← List.append_assoc] at hps
      simp only [State.uartSend, screen_append, List.foldl_cons, List.foldl_nil, Terminal.put_del]
      rcases List.eq_nil_or_concat shown with rfl | ⟨sh, y, rfl⟩
      · -- the screen showed none of the line: it still shows none
        refine ⟨ascii "> " ++ l, [], (List.append_nil _).symm,
          (hs.put_backspace_nil.put_printable (b := 32) (by decide)).put_backspace, ?_⟩
        rintro rfl
        exact absurd (congrArg List.length hps) (by simp)
      · rw [List.concat_eq_append] at hs hps
        obtain ⟨hpre, -⟩ := List.append_inj' (hps.trans (List.append_assoc _ _ _).symm) rfl
        exact ⟨pre, sh, hpre, (hs.put_backspace.put_printable (b := 32) (by decide)).put_backspace,
          id⟩
    · rename_i hp
      have hp : ¬ 0 < s.cmdPos := hp
      have h0 : s.line = [] := List.length_eq_zero.1 (by omega)
      rw [h0] at hps ⊢
      exact ⟨pre, shown, hps, by
        simpa only [screen_append, List.foldl_cons, List.foldl_nil, Terminal.put_del] using hs, id⟩
  · -- a printable byte, with room for it
    have hp : 32 ≤ c ∧ c < 127 ∧ s.line.length < 63 := by
      rcases hc with h1 | h1 | h1 | h1
      · exact absurd (.inl h1) hn
      · exact absurd (.inr h1) hn
      · exact absurd (.inl h1) hb
      · exact h1
    have h63 : s.cmdPos < 63 := hlen ▸ hp.2.2
    simp only [hb, if_false, hp.2.2, h63, if_true, Nat.reduceSub]
    rw [screen_append, List.foldl_cons, List.foldl_nil]
    exact ⟨pre, shown ++ [c], by rw [← List.append_assoc, hps, List.append_assoc],
      hs.put_printable ⟨hp.1, hp.2.1⟩, id⟩

/-! ## Runs -/

@[simp] theorem wake_main (s : State) (w : Option Tid) : (s.wake w).main = s.main := by
  rcases w with _ | ⟨⟩ <;> rfl

/-- Before `main`'s setup the receive interrupt is off: nothing is received and nothing sent. -/
def Quiet (s : State) : Prop :=
  s.main = .start →
    s.rxEnabled = false ∧ s.isr = .idle ∧ s.rxRingBuf.bytes = [] ∧ s.tx = [] ∧ s.cmdPos = 0

theorem quiet_holds : program.Invariant Quiet where
  init _ := ⟨rfl, rfl, rfl, rfl, rfl⟩
  step {s t} a h hs hm := by
    cases a with
    | rx data =>
      have hs : uartCbRead s data = some t := hs
      unfold uartCbRead at hs
      split at hs
      · rename_i hc
        simp only [Option.some.injEq] at hs
        subst hs
        exact absurd hc.1 (by simp [(h hm).1])
      · simp at hs
    | isr =>
      have hs : uartCb s = some t := hs
      unfold uartCb at hs
      split at hs <;> simp only [Option.some.injEq, reduceCtorEq] at hs <;> subst hs
      · rename_i hi
        exact absurd (h hm).2.1 (by simp [hi])
      · rename_i hi
        rw [wake_main] at hm
        exact absurd (h hm).2.1 (by simp [hi])
    | thread =>
      have hs : uartThreadEntry s = some t := hs
      unfold uartThreadEntry at hs
      split at hs
      · simp only [Option.some.injEq] at hs
        subst hs
        exact h hm
      · split at hs <;> simp only [Option.some.injEq] at hs <;> subst hs
        · rename_i c hc
          rw [processByte_main] at hm
          rw [RingBuf.getByte_of_nil (h hm).2.2.1] at hc
          exact absurd hc nofun
        · exact h hm
      · simp at hs
    | main =>
      have hs : mainStep s = some t := hs
      unfold mainStep at hs
      split at hs <;> simp only [Option.some.injEq] at hs <;> subst hs
      · exact absurd hm nofun
      · rename_i hl
        exact absurd (hl.symm.trans hm) nofun

/-- Once `main` has printed the first prompt, the screen's line up to the cursor is an end of
the prompt and the line; with `whole`, all of them. -/
def Echoes (whole : Bool) (s : State) : Prop :=
  s.main = .loop → ∃ pre shown, ascii "> " ++ s.line = pre ++ shown ∧
    (screen s.tx).Shows shown ∧ (whole → pre = [])

/-- A step that reads no byte the terminal and the editor treat differently keeps `Echoes`; the
whole of the line stays on the screen unless the step is `main`'s status line, which ends the
screen's line. -/
theorem Echoes.step {whole : Bool} {s t : State} {a : Act} (h : Editor s) (hq : Quiet s)
    (he : Echoes whole s) (hs : program.step s a = some t)
    (hc : ∀ c, readByte s a = some c → EchoSafe s.line c)
    (hst : whole → a = .main → s.main = .start) : Echoes whole t := by
  intro hm
  rcases step_cases hs with ⟨c, hr, rfl⟩ | ⟨-, hb, hp, -, ⟨-, htx, hm'⟩ | ⟨-, hm0, rfl⟩ | ⟨rfl, hm0, rfl⟩⟩
  · rw [processByte_main] at hm
    obtain ⟨pre, shown, hps, hsh, hw⟩ := he hm
    obtain ⟨pre', shown', h'⟩ := Terminal.Shows.processByte
      (s := { s with rxRingBuf := s.rxRingBuf.getByte.1 }) ⟨h.pos_le, h.length_eq⟩ hps hsh (hc c hr)
    exact ⟨pre', shown', h'.1, h'.2.1, fun hw' => h'.2.2 (hw hw')⟩
  · rw [State.line, htx, hb, hp]
    exact he (hm' ▸ hm)
  · obtain ⟨-, -, -, htx, hp⟩ := hq hm0
    refine ⟨[], ascii "> ", ?_, ?_, fun _ => rfl⟩
    · show ascii "> " ++ s.cmdBuf.take s.cmdPos = ascii "> "
      rw [hp, List.take_zero, List.append_nil]
    · show (screen (s.tx ++ ascii "> ")).Shows (ascii "> ")
      rw [htx]
      exact ⟨rfl, rfl⟩
  · -- `main`'s status line: the screen's line is fresh, and none of the line is on it
    cases whole
    · exact ⟨ascii "> " ++ s.line, [], (List.append_nil _).symm,
        by rw [screen_printk_statusLine]; exact ⟨rfl, rfl⟩, nofun⟩
    · exact absurd (hst rfl rfl) (by rw [hm0]; exact nofun)

/-- `main`'s steps after its first leave it where it is; its first ends in its loop. -/
theorem main_of_step {s t : State} {a : Act} (hs : program.step s a = some t) :
    t.main = if a = .main then .loop else s.main := by
  rcases step_cases hs with ⟨c, hr, rfl⟩ | ⟨-, -, -, -, ⟨ha, -, hm⟩ | ⟨rfl, -, rfl⟩ | ⟨rfl, hm0, rfl⟩⟩
  · have ha : a ≠ .main := by rintro rfl; cases hr
    rw [if_neg ha, processByte_main]
  · rw [if_neg ha, hm]
  · rfl
  · exact hm0

theorem Echoes.run {whole : Bool} {s t : State} (h : Editor s) (hq : Quiet s)
    (he : Echoes whole s) {as : List Act} (hr : program.run s as = some t)
    (hsafe : EchoSafeAll s.line (bytesRead s as))
    (hst : whole → as.count .main ≤ if s.main = .start then 1 else 0) : Echoes whole t := by
  induction as generalizing s with
  | nil => cases hr; exact he
  | cons a as ih =>
    simp only [System.run, Option.bind_eq_some] at hr
    obtain ⟨u, hu, hr⟩ := hr
    simp only [bytesRead, hu] at hsafe
    obtain ⟨h1, h2⟩ := hsafe.append
    -- with `whole`, `main` takes at most its first step
    have hbudget : whole → (a = .main → s.main = .start) ∧
        as.count .main ≤ if u.main = .start then 1 else 0 := by
      intro hw
      have hb := hst hw
      rw [main_of_step hu]
      by_cases ha : a = .main
      · subst ha
        rw [List.count_cons_self] at hb
        have h0 : s.main = .start := by
          by_contra h0
          rw [if_neg h0] at hb
          omega
        rw [h0, if_pos rfl] at hb
        exact ⟨fun _ => h0, by rw [if_pos rfl, if_neg nofun]; omega⟩
      · rw [List.count_cons_of_ne (Ne.symm ha)] at hb
        exact ⟨fun h => absurd h ha, by rwa [if_neg ha]⟩
    refine ih (editor_holds.step a h hu) (quiet_holds.step a hq hu)
      (he.step h hq hu (fun c hc => ?_) fun hw => (hbudget hw).1) hr (by rwa [h.step_line hu])
      fun hw => (hbudget hw).2
    rw [hc] at h1
    exact h1.1

end Uart
end ZephyrGuide
