import Mathlib.Logic.Basic

/-!
# `Infrarust.Lib.Machine`: runs of a transition relation

A machine is a relation between a state, a label and a next state. `Run` is its closure over
finite lists of labels, and `Run.invariant` is the induction every safety result uses: what
one step preserves, a run preserves. A condition on the steps of a run is part of the
relation, so a result about all runs that meet it has the same shape.

A trace is the list of the events of a run, the first one first. `Trace.Each` is a condition on
every event that may refer to the events before it.
-/

set_option autoImplicit false

namespace Machine

variable {σ ε : Type} {step : σ → ε → σ → Prop}

/-- The machine takes the labels of a list, one after the other. -/
inductive Run (step : σ → ε → σ → Prop) : σ → List ε → σ → Prop where
  | nil (s : σ) : Run step s [] s
  | cons {s s' s'' : σ} {e : ε} {es : List ε} :
    step s e s' → Run step s' es s'' → Run step s (e :: es) s''

/-- What every step preserves, every run preserves. -/
theorem Run.invariant {I : σ → Prop} (hstep : ∀ s e s', step s e s' → I s → I s')
    {s s' es} (h : Run step s es s') (hs : I s) : I s' := by
  induction h with
  | nil s => exact hs
  | cons hfst _ ih => exact ih (hstep _ _ _ hfst hs)

/-- Runs a function that takes one step, as long as it can. -/
def exec (f : σ → ε → Option σ) : List ε → σ → Option σ
  | [], s => some s
  | e :: es, s => (f s e).bind (exec f es)

variable {s s' : σ} {es : List ε} {f : σ → ε → Option σ} {P : σ → Prop} {p : σ → ε → Prop}

/-- What a function that takes steps of the machine computes is a run. -/
theorem Run.of_exec (hf : ∀ s e s', f s e = some s' → step s e s') (h : exec f es s = some s') :
    Run step s es s' := by
  induction es generalizing s with
  | nil =>
    obtain rfl := Option.some.inj h
    exact .nil s
  | cons e es ih =>
    obtain ⟨middle, hfst, hrest⟩ := Option.bind_eq_some_iff.mp h
    exact .cons (hf s e middle hfst) (ih hrest)

/-- A run to a state with a property, from a property of it that evaluation checks. -/
theorem exists_run_imp (hf : ∀ s e s', f s e = some s' → step s e s') {Q : σ → Prop}
    [DecidablePred P] (h : (exec f es s).any (P ·) = true)
    (himp : ∀ s', Run step s es s' → P s' → Q s') : ∃ s', Run step s es s' ∧ Q s' := by
  obtain ⟨s', hexec, hP⟩ := (Option.any_eq_true _ _).mp h
  have hrun : Run step s es s' := .of_exec hf hexec
  exact ⟨s', hrun, himp s' hrun (of_decide_eq_true hP)⟩

/-- A run to a state with a property that evaluation checks. -/
theorem exists_run (hf : ∀ s e s', f s e = some s' → step s e s') [DecidablePred P]
    (h : (exec f es s).any (P ·) = true) : ∃ s', Run step s es s' ∧ P s' :=
  exists_run_imp hf h fun _ _ hP => hP

/-- Takes a step only under a label that meets a condition. -/
def guarded (p : σ → ε → Prop) [∀ s, DecidablePred (p s)] (f : σ → ε → Option σ) (s : σ)
    (e : ε) : Option σ :=
  if p s e then f s e else none

/-- The guarded function takes the step, and the label meets the condition. -/
theorem of_guarded [∀ s, DecidablePred (p s)] {e} (h : guarded p f s e = some s') :
    p s e ∧ f s e = some s' := by
  rw [guarded] at h
  split at h
  case isTrue hp => exact ⟨hp, h⟩
  case isFalse => cases h

/-- The guarded function computes what the function does. -/
theorem exec_of_guarded [∀ s, DecidablePred (p s)] (h : exec (guarded p f) es s = some s') :
    exec f es s = some s' := by
  induction es generalizing s with
  | nil => exact h
  | cons e es ih =>
    obtain ⟨middle, hfst, hrest⟩ := Option.bind_eq_some_iff.mp h
    exact Option.bind_eq_some_iff.mpr ⟨middle, (of_guarded hfst).2, ih hrest⟩

/-- What the guarded function computes is a run all of whose steps meet the condition. -/
theorem Run.of_exec_guarded [∀ s, DecidablePred (p s)] (h : exec (guarded p f) es s = some s') :
    Run (fun s e s' => p s e ∧ f s e = some s') s es s' :=
  Run.of_exec (fun _ _ _ => of_guarded) h

/-- A run all of whose steps meet a condition, to a state with a property. -/
theorem exists_run_guarded [∀ s, DecidablePred (p s)] {Q : σ → Prop} [DecidablePred P]
    (h : (exec (guarded p f) es s).any (P ·) = true)
    (himp : ∀ s', Run (fun s e s' => p s e ∧ f s e = some s') s es s' → P s' → Q s') :
    ∃ s', Run (fun s e s' => p s e ∧ f s e = some s') s es s' ∧ Q s' :=
  exists_run_imp (fun _ _ _ => of_guarded) h himp

end Machine

namespace Trace

variable {ε : Type}

/-- Every event of the trace meets a condition on it and the events before it. -/
def Each (P : List ε → ε → Prop) (trace : List ε) : Prop :=
  ∀ before e after, trace = before ++ e :: after → P before e

variable {P : List ε → ε → Prop}

theorem Each.nil : Each P [] := by
  intro before e after h
  cases before <;> cases h

/-- The rule for one more event. -/
theorem Each.snoc {trace e} (h : Each P trace) (he : P trace e) : Each P (trace ++ [e]) := by
  intro before e' after heq
  rcases List.append_eq_append_iff.mp heq with ⟨more, rfl, hmore⟩ | ⟨more, rfl, hmore⟩
  · cases more with
    | nil =>
      cases hmore
      rw [List.append_nil]
      exact he
    | cons _ more => cases more <;> cases hmore
  · cases more with
    | nil =>
      cases hmore
      rw [List.append_nil] at he
      exact he
    | cons first more =>
      cases hmore
      exact h before _ more rfl

end Trace
