import Infrarust.Lib.Leb128
import Infrarust.Protocol.VarInt
import Mathlib.Data.Nat.Digits.Lemmas

/-!
# `Infrarust.Proofs.Protocol.VarInt`: the `VarInt` codec is base-128

The branchless encoder writes the shortest base-128 form of the number read as unsigned
(`encode_eq_leb128`), and both decoders read a base-128 number of at most five bytes modulo
`2 ^ 32` (`decode_eq`, `decodePartial_eq`). What the packet codec needs follows from the
library: the round trips, that `writtenSize` is the number of bytes written, and that a
complete or an overlong prefix is not read differently when bytes arrive.

The encoder's proof reads the same five digits in two bases. The argument of `stage1` has
them as its base-128 digits and the result has them as its base-256 digits, so every byte of
the result is one group (`exists_groups`).
-/

set_option autoImplicit false

namespace Infrarust

open Nat Leb128 List

namespace VarInt

/-! ### The encoder -/

theorem and_mask (n a b) : n &&& ((2 ^ b - 1) * 2 ^ a) = n / 2 ^ a % 2 ^ b * 2 ^ a := by
  apply eq_of_testBit_eq
  intro i
  rw [← shiftLeft_eq, ← shiftLeft_eq, testBit_and, testBit_shiftLeft,
    Nat.testBit_shiftLeft, Nat.testBit_mod_two_pow, Nat.testBit_div_two_pow,
    Nat.testBit_two_pow_sub_one]
  by_cases h : a ≤ i
  · simp only [h, decide_true, Bool.true_and, Nat.sub_add_cancel]
    rw [Bool.and_comm]
  · simp [h]

theorem or_eq_add {i b} (a) (hb : b < 2 ^ i) : b ||| 2 ^ i * a = b + 2 ^ i * a := by
  rw [Nat.or_comm, ← Nat.two_pow_add_eq_or_of_lt hb, Nat.add_comm]

theorem ofDigits_div_pow_mod {p L} (hL : ∀ l ∈ L, l < p) {i}
    (hi : i < L.length) : Nat.ofDigits p L / p ^ i % p = L[i] := by
  have hlt : L[i] < p := hL _ (getElem_mem hi)
  rw [Nat.ofDigits_div_pow_eq_ofDigits_drop i (by omega) L hL, drop_eq_getElem_cons hi,
    Nat.ofDigits_cons, Nat.add_mul_mod_self_left, Nat.mod_eq_of_lt hlt]

/-- `stage1` reads the base-128 digits of the low 32 bits in base 256. -/
theorem exists_groups (x : BitVec 64) : ∃ a b c d e : Nat, (∀ l ∈ [a, b, c, d, e], l < 128) ∧
    x.toNat % 2 ^ 32 = Nat.ofDigits 128 [a, b, c, d, e] ∧
    (stage1 x).toNat = Nat.ofDigits 256 [a, b, c, d, e] := by
  refine ⟨x.toNat % 2 ^ 7, x.toNat / 2 ^ 7 % 2 ^ 7, x.toNat / 2 ^ 14 % 2 ^ 7,
    x.toNat / 2 ^ 21 % 2 ^ 7, x.toNat / 2 ^ 28 % 2 ^ 4, ?_, ?_, ?_⟩
  · simp only [forall_mem_cons]
    refine ⟨by omega, by omega, by omega, by omega, by omega, by simp⟩
  · simp only [ofDigits_cons, ofDigits_nil]
    omega
  -- Each mask selects one group, and a shifted group still fits in 64 bits.
  have h0 : x.toNat &&& 0x7f = x.toNat % 2 ^ 7 := by
    simpa using and_mask x.toNat 0 7
  have h1 : (x.toNat &&& 0x3f80) <<< 1 % 2 ^ 64 = 2 ^ 8 * (x.toNat / 2 ^ 7 % 2 ^ 7) := by
    rw [show 0x3f80 = (2 ^ 7 - 1) * 2 ^ 7 from rfl, and_mask, shiftLeft_eq]
    omega
  have h2 : (x.toNat &&& 0x001fc000) <<< 2 % 2 ^ 64 = 2 ^ 16 * (x.toNat / 2 ^ 14 % 2 ^ 7) := by
    rw [show 0x001fc000 = (2 ^ 7 - 1) * 2 ^ 14 from rfl, and_mask, shiftLeft_eq]
    omega
  have h3 : (x.toNat &&& 0x0fe00000) <<< 3 % 2 ^ 64 = 2 ^ 24 * (x.toNat / 2 ^ 21 % 2 ^ 7) := by
    rw [show 0x0fe00000 = (2 ^ 7 - 1) * 2 ^ 21 from rfl, and_mask, shiftLeft_eq]
    omega
  have h4 : (x.toNat &&& 0xf0000000) <<< 4 % 2 ^ 64 = 2 ^ 32 * (x.toNat / 2 ^ 28 % 2 ^ 4) := by
    rw [show 0xf0000000 = (2 ^ 4 - 1) * 2 ^ 28 from rfl, and_mask, shiftLeft_eq]
    omega
  show ((((x.toNat &&& 0x7f) ||| (x.toNat &&& 0x3f80) <<< 1 % 2 ^ 64)
    ||| (x.toNat &&& 0x001fc000) <<< 2 % 2 ^ 64) ||| (x.toNat &&& 0x0fe00000) <<< 3 % 2 ^ 64)
    ||| (x.toNat &&& 0xf0000000) <<< 4 % 2 ^ 64 = _
  -- The groups occupy different bytes, so each `or` is an addition.
  rw [h0, h1, h2, h3, h4, or_eq_add (i := 8) _ (by omega), or_eq_add (i := 16) _ (by omega),
    or_eq_add (i := 24) _ (by omega), or_eq_add (i := 32) _ (by omega)]
  simp only [ofDigits_cons, ofDigits_nil]
  omega

/-- The count of leading zeros gives the number of bytes in use. -/
theorem bytesNeeded_eq (s : BitVec 64) {k} (hk : k ≤ 4) (hlo : k = 0 ∨ 256 ^ k ≤ s.toNat)
    (hhi : s.toNat < 128 * 256 ^ k) : 8 - ((leadingZeros s - 1) >>> 3) = k + 1 := by
  rw [shiftRight_eq_div_pow, leadingZeros]
  by_cases hs : s = 0#64
  · subst hs
    have hk0 : k = 0 := by
      rcases hlo with h | h
      · exact h
      · simp at h
    simp [hk0]
  · have hne : s.toNat ≠ 0 := by simpa [← BitVec.toNat_inj] using hs
    have h256 : 256 ^ k = 2 ^ (8 * k) := by rw [Nat.pow_mul]
    have htop : s.toNat.log2 < 8 * k + 7 := by
      rw [Nat.log2_lt hne, Nat.pow_add, ← h256]
      omega
    have hbot : 8 * k ≤ s.toNat.log2 := by
      rcases hlo with rfl | h
      · simp
      · rwa [Nat.le_log2 hne, ← h256]
    rw [if_neg hs]
    omega

/-- The mask of continuation bits has one in every byte but the last. -/
theorem continuation_mask : ∀ k ≤ 4, ∀ i ≤ k, (0x8080808080808080#64
      &&& 0xffffffffffffffff#64 >>> (((8 - (k + 1) + 1) <<< 3) - 1)).toNat / 2 ^ (8 * i) % 2 ^ 8
      = 2 ^ 7 * (if i < k then 1 else 0) := by
  decide

theorem exists_byteCount (v : I32) :
    ∃ k ≤ 4, (k = 0 ∨ 128 ^ k ≤ v.toNat) ∧ v.toNat < 128 ^ (k + 1) := by
  refine ⟨Nat.log 128 v.toNat, ?_, ?_, Nat.lt_pow_succ_log_self (by decide) _⟩
  · by_cases h0 : v.toNat = 0
    · simp [h0]
    · exact Nat.lt_succ_iff.1 (Nat.log_lt_of_lt_pow h0 (by omega))
  · by_cases h0 : v.toNat = 0
    · simp [h0]
    · exact .inr (Nat.pow_log_le_self _ h0)

/-- The branchless encoder writes the shortest base-128 form. -/
theorem encode_eq_leb128 (v) : encode v = Leb128.encode v.toNat := by
  -- The sign extension only fills bits that `stage1` masks away.
  have hx : (v.signExtend 64).toNat % 2 ^ 32 = v.toNat := by
    rw [BitVec.toNat_signExtend]
    split <;> simp [BitVec.toNat_setWidth] <;> omega
  obtain ⟨a, b, c, d, e, hlt, hm, hs⟩ := exists_groups (v.signExtend 64)
  rw [hx] at hm
  obtain ⟨k, hk, hlo, hhi⟩ := exists_byteCount v
  -- Bounds in base 128 on `v` become bounds in base 256 on the spread groups.
  have hn : 8 - ((leadingZeros (stage1 (v.signExtend 64)) - 1) >>> 3) = k + 1 := by
    simp only [forall_mem_cons, ofDigits_cons, ofDigits_nil] at hlt hm hs
    refine bytesNeeded_eq _ hk (hlo.imp_right fun h => ?_) ?_ <;> interval_cases k <;> omega
  rw [encode_eq_map k _ hlo hhi]
  simp only [encode, hn, toLeBytes, ← map_take, take_range]
  rw [min_eq_left (by omega)]
  -- Both sides list bytes by position, so it is enough to compare position `i`.
  apply map_congr_left
  intro i hi
  have hi : i ≤ k := by simpa [Nat.lt_succ_iff] using hi
  have hg : (stage1 (v.signExtend 64)).toNat / 2 ^ (8 * i) % 2 ^ 8 = v.toNat / 128 ^ i % 128 := by
    have hlt' : ∀ l ∈ [a, b, c, d, e], l < 256 := fun l hl => lt_trans (hlt l hl) (by decide)
    have hi5 : i < [a, b, c, d, e].length := by
      simp only [length_cons]
      omega
    rw [hs, hm, Nat.pow_mul, ofDigits_div_pow_mod hlt hi5]
    exact ofDigits_div_pow_mod hlt' hi5
  rw [BitVec.toNat_ushiftRight, Nat.shiftRight_eq_div_pow, BitVec.toNat_or,
    ← UInt8.ofNat_mod_size, Nat.or_div_two_pow, Nat.or_mod_two_pow, hg,
    continuation_mask k hk i hi, or_eq_add _ (by omega)]
  split <;> rfl

/-- The number of bytes, from the number of leading zeros. -/
theorem length_encode_eq {w} (v : BitVec w) :
    (Leb128.encode v.toNat).length
      = if v = 0#w then 1 else (w - 1 - leadingZeros v) / 7 + 1 := by
  rw [length_encode, leadingZeros]
  by_cases h : v = 0#w
  · simp [h]
  · have hne : v.toNat ≠ 0 := by simpa [← BitVec.toNat_inj] using h
    have hlog : v.toNat.log2 < w := (log2_lt hne).2 v.isLt
    rw [if_neg h, if_neg h]
    congr 2
    omega

/-- `written_size` is the number of bytes `encode` writes. -/
theorem writtenSize_eq_length_encode (v) : writtenSize v = (encode v).length := by
  rw [encode_eq_leb128, length_encode_eq v]
  rfl

theorem writtenSize_le (v) : writtenSize v ≤ 5 := by
  rw [writtenSize]
  split <;> omega

theorem length_encode_pos (v) : 0 < (encode v).length := by
  rw [encode_eq_leb128, length_encode]
  omega

/-! ### The decoders -/

/-- One group of seven bits on top of the bits below it. -/
theorem or_group_ofNat {w} (hw : 8 ≤ w) {acc i} (h : acc < 2 ^ (i * 7)) {byte : UInt8} :
    BitVec.ofNat w acc ||| ((BitVec.ofNat w byte.toNat &&& 0x7F#w) <<< (i * 7))
      = BitVec.ofNat w (acc + 2 ^ (i * 7) * (byte.toNat % 128)) := by
  apply BitVec.eq_of_toNat_eq
  have hpow : 2 ^ 8 ≤ 2 ^ w := Nat.pow_le_pow_right (by decide) hw
  have hand : byte.toNat % 2 ^ w &&& 0x7F % 2 ^ w = byte.toNat % 128 := by
    rw [mod_eq_of_lt (byte.toNat_lt.trans_le hpow), mod_eq_of_lt (by omega)]
    exact and_two_pow_sub_one_eq_mod byte.toNat 7
  simp only [BitVec.toNat_or, BitVec.toNat_shiftLeft, BitVec.toNat_and,
    BitVec.toNat_ofNat, shiftLeft_eq]
  rw [hand, ← or_eq_add _ h, or_mod_two_pow, mul_comm]

theorem and_continuation_eq_zero (byte : UInt8) : byte &&& 0x80 = 0 ↔ byte.toNat < 128 := by
  have hmask : byte.toNat &&& 0x80 = byte.toNat / 2 ^ 7 % 2 ^ 1 * 2 ^ 7 := and_mask byte.toNat 7 1
  have hlt := byte.toNat_lt
  rw [← UInt8.toNat_inj, UInt8.toNat_and]
  show byte.toNat &&& 0x80 = 0 ↔ _
  omega

theorem acc_lt_succ {acc i g} (h : acc < 2 ^ (i * 7)) (hg : g < 128) :
    acc + 2 ^ (i * 7) * g < 2 ^ ((i + 1) * 7) := by
  have hpow : 2 ^ ((i + 1) * 7) = 2 ^ (i * 7) * 128 := by rw [Nat.succ_mul, Nat.pow_add]
  have hmul : 2 ^ (i * 7) * g ≤ 2 ^ (i * 7) * 127 := Nat.mul_le_mul_left _ (by omega)
  omega

/-- The value after one more group and the groups that follow it. -/
theorem acc_shift {acc i g v} :
    acc + 2 ^ (i * 7) * g + 2 ^ ((i + 1) * 7) * v = acc + 2 ^ (i * 7) * (g + 128 * v) := by
  ring

/-- A loop that takes byte after byte until one ends the number: what it gives for a number, for
too few bytes and for too many. -/
structure IsLoop {w : Nat} {γ : Type} (loop : Nat → Nat → BitVec w → Bytes → γ)
    (done : BitVec w → Nat → Bytes → γ) (short long : γ) : Prop where
  wide : 8 ≤ w
  zero : ∀ i val r, loop 0 i val r = long
  nil : ∀ left i val, loop (left + 1) i val [] = short
  cons : ∀ left i val byte r, loop (left + 1) i val (byte :: r)
    = let val := val ||| ((BitVec.ofNat w byte.toNat &&& 0x7F#w) <<< (i * 7))
      if byte &&& 0x80 = 0 then done val (i + 1) r else loop left (i + 1) val r

section Loops

variable {w : Nat} {γ : Type} {loop : Nat → Nat → BitVec w → Bytes → γ}
  {done : BitVec w → Nat → Bytes → γ} {short long : γ} (h : IsLoop loop done short long)

include h

/-- Such a loop reads a base-128 number on top of the groups read so far. -/
theorem IsLoop.run_eq (left : Nat) :
    ∀ (i acc : Nat) (r : Bytes), acc < 2 ^ (i * 7) →
      loop left i (BitVec.ofNat w acc) r = match Leb128.decode left r with
        | .done v used => done (BitVec.ofNat w (acc + 2 ^ (i * 7) * v)) (i + used) (r.drop used)
        | .short => short
        | .long => long := by
  induction left with
  | zero => exact fun i acc r _ => h.zero i _ r
  | succ left ih =>
    intro i acc r hacc
    cases r with
    | nil => exact h.nil left i _
    | cons byte r =>
      rw [h.cons, Leb128.decode, or_group_ofNat h.wide hacc]
      dsimp only
      by_cases hb : byte.toNat < 128
      · rw [if_pos ((and_continuation_eq_zero byte).2 hb), if_pos hb, mod_eq_of_lt hb]
        rfl
      · rw [if_neg (fun h => hb ((and_continuation_eq_zero byte).1 h)), if_neg hb,
          ih _ _ r (acc_lt_succ hacc (mod_lt _ (by decide)))]
        cases Leb128.decode left r with
        | done v used =>
          simp only [Leb128.Outcome.shift, acc_shift, drop_succ_cons]
          rw [add_assoc, add_comm 1 used]
        | short | long => rfl

theorem IsLoop.eq (size r) :
    loop size 0 0#w r = match Leb128.decode size r with
      | .done v used => done (BitVec.ofNat w v) used (r.drop used)
      | .short => short
      | .long => long := by
  rw [h.run_eq size 0 0 r (by decide)]
  cases Leb128.decode size r <;> simp

end Loops

theorem decode_eq (r) : decode r = match Leb128.decode MAX_SIZE r with
    | .done v used => .ok (BitVec.ofNat 32 v, r.drop used)
    | .short => .error (.incomplete "VarInt")
    | .long => .error (.invalid "VarInt too large (> 5 bytes)") := by
  have hloop : IsLoop decodeLoop (fun v _ r => .ok (v, r)) _ _ :=
    ⟨by decide, fun _ _ _ => rfl, fun _ _ _ => rfl, fun _ _ _ _ _ => rfl⟩
  exact hloop.eq MAX_SIZE r

theorem decodePartial_eq {buf} :
    decodePartial buf = match Leb128.decode MAX_SIZE buf with
      | .done v used => .ok (BitVec.ofNat 32 v, used)
      | .short => .error .incomplete
      | .long => .error .tooLarge := by
  have hloop : IsLoop decodePartialLoop (fun v used _ => .ok (v, used)) _ _ :=
    ⟨by decide, fun _ _ _ => rfl, fun _ _ _ => rfl, fun _ _ _ _ _ => rfl⟩
  exact hloop.eq MAX_SIZE buf

variable {v : I32} {used : Nat}

/-- What was found is a base-128 number. -/
theorem decodePartial_ok_iff {buf} :
    decodePartial buf = .ok (v, used) ↔
      ∃ n, Leb128.decode MAX_SIZE buf = .done n used ∧ v = BitVec.ofNat 32 n := by
  rw [decodePartial_eq]
  cases Leb128.decode MAX_SIZE buf <;> simp [and_comm, eq_comm]

theorem leb128_decode_encode (v t) :
    Leb128.decode MAX_SIZE (encode v ++ t) = .done v.toNat (encode v).length := by
  rw [encode_eq_leb128]
  exact decode_encode 4 v.toNat (lt_trans v.isLt (by decide)) t

/-- Reading back a written `VarInt` gives the value and leaves what follows. -/
theorem decode_encode (v t) : decode (encode v ++ t) = .ok (v, t) := by
  simp [decode_eq, leb128_decode_encode]

/-- `decode_partial` finds the value and the size of a written `VarInt`. -/
theorem decodePartial_encode (v t) :
    decodePartial (encode v ++ t) = .ok (v, (encode v).length) := by
  simp [decodePartial_eq, leb128_decode_encode]

variable {buf : Bytes}

/-- What was found of a length stays the answer when bytes arrive, unless it was "not yet". -/
theorem decodePartial_append (h : decodePartial buf ≠ .error .incomplete) (t) :
    decodePartial (buf ++ t) = decodePartial buf := by
  have hfinal : Leb128.decode MAX_SIZE buf ≠ .short := by
    intro hshort
    rw [decodePartial_eq, hshort] at h
    exact h rfl
  rw [decodePartial_eq, decodePartial_eq, decode_append t MAX_SIZE buf hfinal]

theorem used_pos_of_decodePartial (h : decodePartial buf = .ok (v, used)) :
    0 < used ∧ used ≤ buf.length := by
  obtain ⟨n, hn, -⟩ := decodePartial_ok_iff.mp h
  exact used_le_of_decode MAX_SIZE buf hn

theorem length_lt_of_decode {r rest} (h : decode r = .ok (v, rest)) : rest.length < r.length := by
  rw [decode_eq] at h
  cases hd : Leb128.decode MAX_SIZE r with
  | done v' used =>
    rw [hd] at h
    cases h
    have hused := used_le_of_decode _ _ hd
    rw [length_drop]
    omega
  | short | long => simp [hd] at h

/-- The value and the size that were found depend only on the bytes of the number. -/
theorem decodePartial_take (h : decodePartial buf = .ok (v, used)) (t) :
    decodePartial (buf.take used ++ t) = .ok (v, used) := by
  obtain ⟨n, hn, hv⟩ := decodePartial_ok_iff.mp h
  exact decodePartial_ok_iff.mpr ⟨n, decode_take t MAX_SIZE buf hn, hv⟩

end VarInt

end Infrarust
