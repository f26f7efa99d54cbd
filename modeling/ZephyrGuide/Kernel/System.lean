import Mathlib.Order.Basic

/-!
# Programs as interleavings of steps

Every example program of the guide is a few threads (and, for the UART, an interrupt handler)
that share kernel objects.  A `System` is such a program seen from outside: an initial state and
a partial step function.  `step s a` is the state after action `a`, or `none` when `a` is not
enabled in `s` — its thread is blocked, or has returned.  Whatever the code does not decide is
part of the action: which thread runs next, which bytes the UART delivers, when a timeout fires.
A step of one thread is the stretch of its code between two points where another thread could
observe a difference, so every order in which the scheduler could run the threads is an order of
actions.

What is proved about the examples is of three kinds, and this file sets up each once:

* **safety** — a predicate holds in every `Reachable` state.  `Invariant` packages "holds
  initially and every step keeps it", and `Invariant.holds` is the induction;
* **progress** — in every reachable state that is not finished, some action is enabled, so
  every `Terminal` reachable state is a finished one;
* **termination** — a measure that every step decreases rules out an infinite run
  (`not_infiniteRun_of_measure`).

Counterexamples are runs: `run` replays a list of actions, and `reachable_of_run` turns a run
that the kernel can evaluate into a reachable state.
-/

set_option autoImplicit false

namespace ZephyrGuide

/-- A program: its initial state and what each action does, when it is enabled. -/
structure System (σ α : Type) where
  init : σ
  step : σ → α → Option σ

namespace System

variable {σ α : Type} (S : System σ α)

/-- `t` is reachable from `s` by steps of `S`. -/
inductive Reaches : σ → σ → Prop
  | refl (s : σ) : Reaches s s
  | tail {s t u : σ} (a : α) : Reaches s t → S.step t a = some u → Reaches s u

/-- The states of the runs of `S`. -/
def Reachable (s : σ) : Prop := S.Reaches S.init s

/-- Replay the actions in order; `none` as soon as one of them is not enabled. -/
def run : σ → List α → Option σ
  | s, [] => some s
  | s, a :: as => (S.step s a).bind fun t => run t as

/-- No action is enabled: the run has ended. -/
def Terminal (s : σ) : Prop := ∀ a, S.step s a = none

/-- An infinite run: from each state some action leads to the next. -/
def InfiniteRun (f : Nat → σ) : Prop := ∀ n, ∃ a, S.step (f n) a = some (f (n + 1))

/-- `P` holds initially and every step keeps it. -/
structure Invariant (P : σ → Prop) : Prop where
  init : P S.init
  step : ∀ {s t : σ} (a : α), P s → S.step s a = some t → P t

variable {S}

theorem Reaches.trans {s t u : σ} (h₁ : S.Reaches s t) (h₂ : S.Reaches t u) : S.Reaches s u := by
  induction h₂ with
  | refl => exact h₁
  | tail a _ h ih => exact .tail a ih h

theorem Reaches.single {s t : σ} (a : α) (h : S.step s a = some t) : S.Reaches s t :=
  .tail a (.refl s) h

/-- A predicate kept by every step holds along every run that starts where it holds. -/
theorem Reaches.closed {P : σ → Prop} (hP : ∀ {s t : σ} (a : α), P s → S.step s a = some t → P t)
    {s t : σ} (h : S.Reaches s t) (hs : P s) : P t := by
  induction h with
  | refl => exact hs
  | tail a _ h ih => exact hP a ih h

theorem Reachable.step {s t : σ} (hs : S.Reachable s) (a : α) (h : S.step s a = some t) :
    S.Reachable t :=
  .tail a hs h

theorem Reachable.reaches {s t : σ} (hs : S.Reachable s) (h : S.Reaches s t) : S.Reachable t :=
  Reaches.trans hs h

theorem Invariant.holds {P : σ → Prop} (hP : S.Invariant P) {s : σ} (h : S.Reachable s) : P s :=
  Reaches.closed hP.step h hP.init

theorem run_append (s : σ) (as bs : List α) :
    S.run s (as ++ bs) = (S.run s as).bind fun t => S.run t bs := by
  induction as generalizing s with
  | nil => rfl
  | cons a as ih =>
    simp only [List.cons_append, run]
    cases S.step s a with
    | none => rfl
    | some t => exact ih t

theorem reaches_of_run : ∀ {s t : σ} {as : List α}, S.run s as = some t → S.Reaches s t
  | s, t, [], h => by cases h; exact .refl s
  | s, t, a :: as, h => by
    simp only [run, Option.bind_eq_some] at h
    obtain ⟨u, hu, h⟩ := h
    exact (Reaches.single a hu).trans (reaches_of_run h)

theorem reachable_of_run {as : List α} {t : σ} (h : S.run S.init as = some t) :
    S.Reachable t :=
  reaches_of_run h

/-- A run that the kernel can evaluate, ending in a state where `p` holds. -/
theorem exists_reachable_of_run (as : List α) (p : σ → Bool)
    (h : (S.run S.init as).map p = some true) : ∃ s, S.Reachable s ∧ p s = true := by
  cases hr : S.run S.init as with
  | none => simp [hr] at h
  | some s =>
    simp only [hr, Option.map_some', Option.some.injEq] at h
    exact ⟨s, reachable_of_run hr, h⟩

/-- **No infinite runs.**  A measure that every step decreases bounds the length of every run. -/
theorem not_infiniteRun_of_measure (μ : σ → Nat)
    (hμ : ∀ {s t : σ} (a : α), S.step s a = some t → μ t < μ s) (f : Nat → σ) :
    ¬ S.InfiniteRun f := by
  intro hf
  have bound : ∀ n, μ (f n) + n ≤ μ (f 0) := by
    intro n
    induction n with
    | zero => simp
    | succ n ih =>
      obtain ⟨a, ha⟩ := hf n
      have := hμ a ha
      omega
  have := bound (μ (f 0) + 1)
  omega

/-- **Every run can be finished.**  Under a measure that every step decreases, from every state
some run reaches a state where no action is enabled. -/
theorem exists_terminal_of_measure (μ : σ → Nat)
    (hμ : ∀ {s t : σ} (a : α), S.step s a = some t → μ t < μ s) (s : σ) :
    ∃ t, S.Reaches s t ∧ S.Terminal t := by
  suffices bound : ∀ n s, μ s < n → ∃ t, S.Reaches s t ∧ S.Terminal t from
    bound _ s (Nat.lt_succ_self _)
  intro n
  induction n with
  | zero => exact fun _ h => absurd h (Nat.not_lt_zero _)
  | succ n ih =>
    intro s hs
    by_cases ht : S.Terminal s
    · exact ⟨s, .refl s, ht⟩
    · obtain ⟨a, ha⟩ := not_forall.1 ht
      obtain ⟨u, hu⟩ := Option.ne_none_iff_exists'.1 ha
      obtain ⟨t, hut, htt⟩ := ih u (Nat.lt_of_lt_of_le (hμ a hu) (Nat.le_of_lt_succ hs))
      exact ⟨t, (Reaches.single a hu).trans hut, htt⟩

end System

end ZephyrGuide
