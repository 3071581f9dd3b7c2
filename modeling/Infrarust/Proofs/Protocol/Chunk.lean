import Infrarust.Protocol.Chunk
import Mathlib.Data.Nat.Bitwise

/-!
# `Infrarust.Proofs.Protocol.Chunk`: the bits of the light masks

The masks of the sections without light should have one bit for every section and for the two
beyond. The first word is filled as far as it goes, but every further word is zero. So the bits
are right as long as one word is enough, that is up to 62 sections (`emptyLightMask_iff`).
-/

set_option autoImplicit false

namespace Infrarust

namespace Chunk

/-- A bit of a set that is packed into words, the lowest bit of the first word first. -/
def hasBit (words : List (BitVec 64)) (bit : Nat) : Bool :=
  (words[bit / 64]?.getD 0#64).getLsbD (bit % 64)

/-- The number with the `n` lowest bits. -/
theorem getLsbD_one_shiftLeft_sub_one {n} (hn : n < 64) {i} :
    (1#64 <<< n - 1#64).getLsbD i = decide (i < n) := by
  have hle : 2 ^ n ≤ 2 ^ 63 := Nat.pow_le_pow_right (by decide) (by omega)
  have hpos := Nat.two_pow_pos n
  have htoNat : (1#64 <<< n - 1#64).toNat = 2 ^ n - 1 := by
    simp only [BitVec.toNat_sub, BitVec.toNat_shiftLeft, BitVec.toNat_ofNat, Nat.shiftLeft_eq]
    omega
  rw [BitVec.getLsbD, htoNat, Nat.testBit_two_pow_sub_one]

theorem hasBit_emptyLightMask {numSections} (h : numSections ≤ 62) {bit} :
    hasBit (emptyLightMask numSections) bit = decide (bit < numSections + 2) := by
  have hone : numLongs numSections - 1 = 0 := by
    unfold numLongs
    omega
  simp only [hasBit, emptyLightMask, hone, List.replicate_zero]
  by_cases hbit : bit < 64
  · rw [Nat.div_eq_of_lt hbit, Nat.mod_eq_of_lt hbit]
    show (if numSections + 2 ≥ 64 then _ else _ : BitVec 64).getLsbD bit = _
    split
    · simp only [BitVec.getLsbD_allOnes, decide_eq_decide]
      omega
    · exact getLsbD_one_shiftLeft_sub_one (by omega)
  · rw [List.getElem?_eq_none (by simp; omega)]
    simp
    omega

/-- The masks have exactly the bits of the sections and of the two beyond if and only if one word
has room for them. -/
theorem emptyLightMask_iff (numSections : Nat) :
    (∀ bit, hasBit (emptyLightMask numSections) bit = true ↔ bit < numSections + 2) ↔
      numSections ≤ 62 := by
  constructor
  · intro h
    by_contra hlarge
    -- the first bit of the second word
    have hsnd := (h 64).mpr (by omega)
    have hzero : ∀ count, (List.replicate count 0#64)[0]?.getD 0#64 = 0#64 := by
      rintro (_ | count) <;> rfl
    simp [hasBit, emptyLightMask, hzero] at hsnd
  · intro h bit
    rw [hasBit_emptyLightMask h, decide_eq_true_iff]

/-- A chunk of 63 sections: the second word of the mask is there and is zero. -/
theorem emptyLightMask_63 :
    emptyLightMask 63 = [BitVec.allOnes 64, 0#64] ∧
      hasBit (emptyLightMask 63) 64 = false ∧ 64 < 63 + 2 := by
  decide

end Chunk

end Infrarust
