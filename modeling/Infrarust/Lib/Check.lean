import Mathlib.Logic.Basic

/-!
# `Infrarust.Lib.Check`: checks that end with an error

A validation is a sequence of checks in `Except`, each of which throws or does nothing. It
passes if no check throws. The lemmas take a `do` block apart, one check at a time: a test, a
loop of tests, and a step that is a validation itself.
-/

set_option autoImplicit false

namespace Check

variable {ε α β : Type} {f : α → Except ε β} {e : ε} {l : List α}

/-- A sequence passes if both of its parts do. -/
theorem bind_ok_iff {m b} : (m >>= f) = .ok b ↔ ∃ a, m = .ok a ∧ f a = .ok b := by
  cases m with
  | error e => exact ⟨nofun, nofun⟩
  | ok a =>
    constructor
    · intro h
      exact ⟨a, rfl, h⟩
    · rintro ⟨a', ha', h⟩
      cases ha'
      exact h

/-- A computation that succeeds, from a part of its result that evaluation checks. -/
theorem exists_ok_imp {m : Except ε (α × β)} {γ : Type} {part : α → γ} {c : γ} {P : α → Prop}
    (h : m.map (fun r => part r.1) = .ok c) (himp : ∀ a, part a = c → P a) :
    ∃ a b, m = .ok (a, b) ∧ part a = c ∧ P a := by
  cases m with
  | error e => cases h
  | ok r => exact ⟨r.1, r.2, rfl, Except.ok.inj h, himp r.1 (Except.ok.inj h)⟩

/-- A validation, and what comes after it. -/
theorem seq_ok_iff {m : Except ε PUnit} {f : PUnit → Except ε β} {b : β} :
    (m >>= f) = .ok b ↔ m = .ok () ∧ f () = .ok b := by
  rw [bind_ok_iff]
  exact ⟨fun ⟨_, hm, hf⟩ => ⟨hm, hf⟩, fun ⟨hm, hf⟩ => ⟨(), hm, hf⟩⟩

/-- A test that throws, and what comes after it. -/
theorem test_ok_iff {c} [Decidable c] {rest b} :
    (if c then throw e >>= f else rest) = .ok b ↔ ¬c ∧ rest = .ok b := by
  by_cases hc : c
  · rw [if_pos hc]
    exact ⟨nofun, fun h => absurd hc h.1⟩
  · rw [if_neg hc]
    exact ⟨fun h => ⟨hc, h⟩, And.right⟩

/-- A test at the end. -/
theorem lastTest_ok_iff {c} [Decidable c] :
    (if c then pure () else throw e : Except ε Unit) = .ok () ↔ c := by
  by_cases hc : c
  · rw [if_pos hc]
    exact ⟨fun _ => hc, fun _ => rfl⟩
  · rw [if_neg hc]
    exact ⟨nofun, fun h => absurd h hc⟩

/-- The same test the other way round. -/
theorem throwIf_ok_iff {c} [Decidable c] :
    (if c then throw e else pure () : Except ε PUnit) = .ok () ↔ ¬c := by
  by_cases hc : c
  · rw [if_pos hc]
    exact ⟨nofun, fun h => absurd hc h⟩
  · rw [if_neg hc]
    exact ⟨fun _ => hc, fun _ => rfl⟩

/-- A loop of tests passes if every one does. -/
theorem forIn_ok_iff {p : α → Bool} :
    (forIn l PUnit.unit fun a _ =>
      if p a = true then do
        throw e
        pure (ForInStep.yield PUnit.unit)
      else pure (ForInStep.yield PUnit.unit) : Except ε PUnit) = .ok () ↔
      ∀ a ∈ l, p a = false := by
  induction l with
  | nil => exact ⟨fun _ => nofun, fun _ => rfl⟩
  | cons a l ih =>
    rw [List.forIn_cons, List.forall_mem_cons]
    cases hp : p a with
    | true => exact ⟨nofun, fun h => nomatch h.1⟩
    | false => exact ⟨fun h => ⟨rfl, ih.mp h⟩, fun h => ih.mpr h.2⟩

/-- The same loop as a function, with a validation for each value. -/
theorem forM_ok_iff {f : α → Except ε PUnit} : l.forM f = .ok () ↔ ∀ a ∈ l, f a = .ok () := by
  induction l with
  | nil => exact ⟨fun _ => nofun, fun _ => rfl⟩
  | cons a l ih =>
    rw [List.forall_mem_cons, ← ih]
    exact seq_ok_iff

end Check
