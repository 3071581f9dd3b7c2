import Mathlib.Logic.Basic

/-!
# `Infrarust.Lib.Hoare`: what a stateful program keeps, also when it fails

Programs that read and write a state and may fail are values of `EStateM`, where a failure
keeps the state reached so far. `Keeps I m` says that `m` keeps the predicate `I` whichever
way it ends. The rules follow the program's structure: sequencing, branching, loops over a
list, and the primitive reads and writes. `Ensures P m Q` is about the runs that return, and
`Attempts P m Q` about both.
-/

set_option autoImplicit false

namespace Hoare

variable {σ ε α β : Type} {I : σ → Prop}

/-- The state in which a program ends. -/
def final (m : EStateM ε σ α) (s : σ) : σ :=
  match m s with
  | .ok _ s' => s'
  | .error _ s' => s'

variable {m : EStateM ε σ α} {s : σ} {f : α → EStateM ε σ β}

/-- What a program does depends on its first part only through what that does. -/
theorem run_bind_congr {m' s'} (h : m s = m' s') (f : α → EStateM ε σ β) :
    (m >>= f) s = (m' >>= f) s' := by
  show EStateM.bind m f s = EStateM.bind m' f s'
  unfold EStateM.bind
  rw [h]

theorem run_get_bind (f : σ → EStateM ε σ α) (s) : (get >>= f) s = f s s := rfl

/-- A program that returns has gone through both of its parts. -/
theorem ok_of_bind {s'' b} (h : (m >>= f) s = .ok b s'') :
    ∃ a s', m s = .ok a s' ∧ f a s' = .ok b s'' := by
  change EStateM.bind m f s = _ at h
  unfold EStateM.bind at h
  cases hms : m s with
  | error e s' =>
    rw [hms] at h
    cases h
  | ok a s' =>
    rw [hms] at h
    exact ⟨a, s', rfl, h⟩

/-- `m` keeps `I`, whether it returns or fails. -/
def Keeps (I : σ → Prop) (m : EStateM ε σ α) : Prop := ∀ s, I s → I (final m s)

namespace Keeps

theorem pure (a) : Keeps I (Pure.pure a : EStateM ε σ α) := fun _ hs => hs

theorem throw (e) : Keeps I (throw e : EStateM ε σ α) := fun _ hs => hs

/-- A program that keeps `I`, followed by one that leads from `I` to `J`. The first may fail,
so `J` has to follow from `I`. -/
theorem final_bind {J : σ → Prop} (hm : Keeps I m) (hweak : ∀ s, I s → J s)
    (hf : ∀ a s, I s → J (final (f a) s)) (hs : I s) : J (final (m >>= f) s) := by
  have h := hm s hs
  show J (final (EStateM.bind m f) s)
  unfold final EStateM.bind at *
  cases hms : m s with
  | ok a s' =>
    simp only [hms] at h ⊢
    exact hf a s' h
  | error e s' =>
    simp only [hms] at h ⊢
    exact hweak s' h

/-- A program that keeps `I`, followed by one that keeps it for every result. -/
theorem bind (hm : Keeps I m) (hf : ∀ a, Keeps I (f a)) : Keeps I (m >>= f) :=
  fun _ hs => hm.final_bind (fun _ h => h) hf hs

theorem modify {f} (hf : ∀ s, I s → I (f s)) : Keeps I (modify f : EStateM ε σ PUnit) :=
  fun s hs => hf s hs

/-- A loop over a list keeps what its body keeps. -/
theorem forM {l : List α} {f : α → EStateM ε σ PUnit} (hf : ∀ a ∈ l, Keeps I (f a)) :
    Keeps I (l.forM f) := by
  induction l with
  | nil => exact pure _
  | cons a l ih =>
    show Keeps I (f a >>= fun _ => l.forM f)
    exact bind (hf a (by simp)) fun _ => ih fun b hb => hf b (by simp [hb])

end Keeps

/-- If `m` returns from a state with `P`, the state it ends in has `Q`. -/
def Ensures (P : σ → Prop) (m : EStateM ε σ α) (Q : σ → Prop) : Prop :=
  ∀ s a s', P s → m s = .ok a s' → Q s'

namespace Ensures

variable {P Q R : σ → Prop}

/-- What a program keeps, it ensures. -/
theorem of_keeps (hm : Keeps P m) : Ensures P m P := by
  intro s a s' hs h
  have hfinal := hm s hs
  rwa [final, h] at hfinal

theorem pure (a) : Ensures P (Pure.pure a : EStateM ε σ α) P := by
  intro s b s' hs h
  cases h
  exact hs

theorem throw (e) : Ensures P (throw e : EStateM ε σ α) Q := by
  intro s a s' _ h
  cases h

theorem modify {f} (hf : ∀ s, P s → Q (f s)) : Ensures P (modify f : EStateM ε σ PUnit) Q := by
  intro s a s' hs h
  cases h
  exact hf s hs

theorem bind (hm : Ensures P m Q) (hf : ∀ a, Ensures Q (f a) R) : Ensures P (m >>= f) R := by
  intro s b s'' hs h
  obtain ⟨a, s', hfst, hrest⟩ := ok_of_bind h
  exact hf a s' b s'' (hm s a s' hs hfst) hrest

end Ensures

/-- From a state with `P`, the program returns with `Q` or fails with `P`. -/
def Attempts (P : σ → Prop) (m : EStateM ε σ α) (Q : σ → Prop) : Prop :=
  ∀ s, P s →
    match m s with
    | .ok _ s' => Q s'
    | .error _ s' => P s'

section

variable {P Q : σ → Prop} {m : EStateM ε σ α}

theorem Attempts.ensures (h : Attempts P m Q) : Ensures P m Q := by
  intro s a s' hs hm
  have hs' := h s hs
  rw [hm] at hs'
  exact hs'

theorem Attempts.final (h : Attempts P m Q) (hs : P s) : P (final m s) ∨ Q (final m s) := by
  have hs' := h s hs
  unfold Hoare.final
  cases hm : m s with
  | ok a s' =>
    rw [hm] at hs'
    exact .inr hs'
  | error e s' =>
    rw [hm] at hs'
    exact .inl hs'

end

end Hoare
