import Infrarust.Lib.Check
import Mathlib.Data.List.Basic

/-!
# `Infrarust.Lib.Reader`: readers that take a block off the front of their input

A reader is a state monad over the input that is left, which may fail. `Reads p bytes a` says
that `p` takes exactly the block `bytes` off the front of any input and gives `a`. A sequence
of readers takes the blocks one after the other (`Reads.bind`), so the round trip of a format
follows from the round trips of its fields. `Takes p format` is the other direction: where `p`
succeeds, a block of the format stood at the front. `Gives p P` is only about the value.
-/

set_option autoImplicit false

namespace Readers

variable {σ ε α γ : Type} {p : StateT (List σ) (Except ε) α}
  {f : α → StateT (List σ) (Except ε) γ} {bytes : List σ} {a : α}

/-- `p` takes `bytes` off the front of its input and gives `a`, whatever follows. -/
def Reads (p : StateT (List σ) (Except ε) α) (bytes : List σ) (a : α) : Prop :=
  ∀ rest : List σ, p.run (bytes ++ rest) = .ok (a, rest)

/-- After the first reader the second one works on what is left. -/
theorem Reads.run_bind (hp : Reads p bytes a) (f : α → StateT (List σ) (Except ε) γ) (rest) :
    (p >>= f).run (bytes ++ rest) = (f a).run rest := by
  rw [StateT.run_bind, hp rest]
  rfl

theorem Reads.bind {bytes' b} (hp : Reads p bytes a)
    (hf : Reads (f a) bytes' b) : Reads (p >>= f) (bytes ++ bytes') b := by
  intro rest
  rw [List.append_assoc, hp.run_bind f]
  exact hf rest

/-- A last reader whose value is passed through a function. -/
theorem Reads.map (hp : Reads p bytes a) (f : α → γ) :
    Reads (p >>= fun a => Pure.pure (f a)) bytes (f a) := by
  intro rest
  rw [hp.run_bind]
  rfl

/-- Where `p` succeeds, it has taken a block of the format off the front of its input. -/
def Takes (p : StateT (List σ) (Except ε) α) (format : List σ → α → Prop) : Prop :=
  ∀ ⦃input : List σ⦄ ⦃a : α⦄ ⦃rest : List σ⦄, p.run input = .ok (a, rest) →
    ∃ block, format block a ∧ input = block ++ rest

variable {format : List σ → α → Prop}

theorem takes_pure (h : format [] a) :
    Takes (Pure.pure a : StateT (List σ) (Except ε) α) format := by
  intro input b rest hrun
  cases hrun
  exact ⟨[], h, rfl⟩

theorem takes_throw (e) : Takes (throw e : StateT (List σ) (Except ε) α) format := by
  intro input b rest hrun
  cases hrun

theorem Takes.mono {format'} (h : Takes p format)
    (himp : ∀ block a, format block a → format' block a) : Takes p format' := by
  intro input a rest hrun
  obtain ⟨block, hblock, hinput⟩ := h hrun
  exact ⟨block, himp block a hblock, hinput⟩

theorem Takes.bind {result} (hp : Takes p format)
    (hf : ∀ block a, format block a → Takes (f a) fun block' => result (block ++ block')) :
    Takes (p >>= f) result := by
  intro input b rest h
  obtain ⟨out, hrun, hnext⟩ := Check.bind_ok_iff.mp h
  obtain ⟨block, hblock, rfl⟩ := hp hrun
  obtain ⟨block', hblock', hrest⟩ := hf block out.1 hblock hnext
  exact ⟨block ++ block', hblock', by rw [hrest, List.append_assoc]⟩

/-- What comes second matters only on what the first reader leaves. -/
theorem Takes.run_bind_congr (hp : Takes p format) {g input} (h : ∀ block a rest, format block a → input = block ++ rest →
      (f a).run rest = (g a).run rest) :
    (p >>= f).run input = (p >>= g).run input := by
  rw [StateT.run_bind, StateT.run_bind]
  cases hrun : p.run input with
  | error e => rfl
  | ok out =>
    obtain ⟨block, hblock, hinput⟩ := hp hrun
    exact h block out.1 out.2 hblock hinput

/-- Where `p` succeeds, its value satisfies `P`. -/
def Gives (p : StateT (List σ) (Except ε) α) (P : α → Prop) : Prop :=
  ∀ ⦃input : List σ⦄ ⦃a : α⦄ ⦃rest : List σ⦄, p.run input = .ok (a, rest) → P a

theorem gives_pure {P} (h : P a) : Gives (Pure.pure a : StateT (List σ) (Except ε) α) P := by
  intro input b rest hrun
  cases hrun
  exact h

theorem gives_throw {P} (e) : Gives (throw e : StateT (List σ) (Except ε) α) P := by
  intro input b rest hrun
  cases hrun

/-- The value of a sequence is that of its last reader. -/
theorem Gives.bind {P} (hf : ∀ a, (∃ input rest, p.run input = .ok (a, rest)) → Gives (f a) P) :
    Gives (p >>= f) P := by
  intro input b rest h
  obtain ⟨out, hrun, hnext⟩ := Check.bind_ok_iff.mp h
  exact hf out.1 ⟨input, out.2, hrun⟩ hnext

end Readers
