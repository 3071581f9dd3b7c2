import Infrarust.Protocol.Chunk
import Infrarust.Proofs.Protocol.Codec

/-!
# `Infrarust.Proofs.Protocol.Decoders`: the ways to write and read a number or a text agree

Three encoders write the shortest base-128 form (`encoders_agree`). The decoders over a slice,
over a partial buffer and over a reader are loops of one kind (`VarInt.IsLoop`), so they find the
same number in the same bytes (`decoders_agree`). A text is found by both of its decoders or by
none (`decodeString_agrees`).
-/

set_option autoImplicit false

namespace Infrarust

open List FieldReader VarInt BitVec Leb128

/-! ### Encoders -/

theorem toNat_and_group {w} (hw : 8 ≤ w) (x) : (x &&& 0x7F#w).toNat = x.toNat % 128 := by
  have hpow : 2 ^ 8 ≤ 2 ^ w := Nat.pow_le_pow_right (by decide) hw
  rw [toNat_and, toNat_ofNat, Nat.mod_eq_of_lt (by omega)]
  exact Nat.and_two_pow_sub_one_eq_mod x.toNat 7

theorem or_continuation (n) : n % 128 ||| 128 = n % 128 + 128 :=
  @VarInt.or_eq_add 7 _ 1 (Nat.mod_lt n (by decide))

theorem VarLong.encode_eq_leb128 (val) : encode val = Leb128.encode val.toNat := by
  fun_induction encode val with
  | case1 val byte hzero =>
    have hlt : val.toNat < 128 := by bv_omega
    rw [encode_of_lt hlt]
    simp only [byte, toNat_and_group (by decide : 8 ≤ 64), Nat.mod_eq_of_lt hlt]
  | case2 val byte hne ih =>
    have hle : 128 ≤ val.toNat := by bv_omega
    have hbyte : byte ||| 0x80 = UInt8.ofNat (val.toNat % 128 + 128) := by
      rw [← or_continuation, UInt8.ofNat_or]
      simp only [byte, toNat_and_group (by decide : 8 ≤ 64)]
      rfl
    rw [encode_of_le hle, hbyte, ih, toNat_ushiftRight, Nat.shiftRight_eq_div_pow]

theorem Chunk.writeVarint_eq_leb128 (val) : writeVarint val = Leb128.encode val.toNat := by
  have hmask : ∀ x : I32, x &&& ~~~0x7F#32 = 0#32 ↔ x.toNat < 128 := by
    intro x
    have hbits : x.toNat &&& 0xFFFFFF80 = x.toNat / 2 ^ 7 % 2 ^ 25 * 2 ^ 7 := and_mask x.toNat 7 25
    rw [← toNat_inj, toNat_and]
    show x.toNat &&& 0xFFFFFF80 = 0 ↔ _
    omega
  fun_induction writeVarint val with
  | case1 val hlow => rw [encode_of_lt ((hmask val).mp hlow)]
  | case2 val hhigh ih =>
    rw [hmask, Nat.not_lt] at hhigh
    rw [encode_of_le hhigh, ih, toNat_or, toNat_and_group (by decide),
      toNat_ushiftRight, Nat.shiftRight_eq_div_pow, ← or_continuation]
    rfl

/-- The encoders write the shortest base-128 form of the number read as unsigned, in as many bytes
as `written_size` says. -/
theorem encoders_agree :
    (∀ v : I32, VarInt.encode v = Leb128.encode v.toNat ∧
      Chunk.writeVarint v = Leb128.encode v.toNat ∧
      (VarInt.encode v).length = VarInt.writtenSize v) ∧
    ∀ v : BitVec 64, VarLong.encode v = Leb128.encode v.toNat ∧
      (VarLong.encode v).length = VarLong.writtenSize v := by
  refine ⟨fun v => ⟨encode_eq_leb128 v, Chunk.writeVarint_eq_leb128 v,
    (writtenSize_eq_length_encode v).symm⟩, fun v => ⟨VarLong.encode_eq_leb128 v, ?_⟩⟩
  rw [VarLong.encode_eq_leb128]
  exact length_encode_eq v

/-! ### Decoders -/

theorem VarLong.decode_eq (r) : decode r = match Leb128.decode MAX_SIZE r with
    | .done v used => .ok (BitVec.ofNat 64 v, r.drop used)
    | .short => .error (.incomplete "VarLong")
    | .long => .error (.invalid "VarLong too large (> 10 bytes)") := by
  have hloop : VarInt.IsLoop decodeLoop (fun v _ r => .ok (v, r)) _ _ :=
    ⟨by decide, fun _ _ _ => rfl, fun _ _ _ => rfl, fun _ _ _ _ _ => rfl⟩
  exact hloop.eq MAX_SIZE r

theorem readVarLong_eq (r) :
    readVarLong.run r = match Leb128.decode VarLong.MAX_SIZE r with
      | .done v used => .ok (BitVec.ofNat 64 v, r.drop used)
      | .short => .error (.io .unexpectedEof)
      | .long => .error (.invalid "VarLong too large (> 10 bytes)") := by
  have hloop : VarInt.IsLoop (fun left i val r => (readVarLongLoop left i val).run r)
      (fun v _ r => .ok (v, r)) (.error (.io .unexpectedEof))
      (.error (.invalid "VarLong too large (> 10 bytes)")) := by
    refine ⟨by decide, fun _ _ _ => rfl, fun _ _ _ => rfl, fun left i val byte r => ?_⟩
    show StateT.run (readU8 >>= _) ([byte] ++ r) = _
    rw [(reads_readU8 byte).run_bind]
    split <;> rfl
  exact hloop.eq _ r

theorem VarLong.leb128_decode_encode (v t) :
    Leb128.decode MAX_SIZE (encode v ++ t) = .done v.toNat (encode v).length := by
  rw [encode_eq_leb128]
  exact decode_encode 9 v.toNat (v.isLt.trans (by decide)) t

/-- How far the slice was advanced is the number of bytes that `decode_partial` counts. -/
theorem VarInt.decode_ok_iff {r rest v} :
    decode r = .ok (v, rest) ↔
      ∃ used ≤ r.length, decodePartial r = .ok (v, used) ∧ rest = r.drop used := by
  rw [decode_eq, decodePartial_eq]
  cases hfound : Leb128.decode MAX_SIZE r with
  | done n used =>
    have hused := (used_le_of_decode _ _ hfound).2
    constructor
    · rintro ⟨⟩
      exact ⟨used, hused, rfl, rfl⟩
    · rintro ⟨_, -, ⟨⟩, rfl⟩
      rfl
  | short | long => simp

/-- The decoders of a `VarInt` accept the same bytes, with the same number and the same rest, and
so do those of a `VarLong`. Each reads back what was written and leaves what follows. -/
theorem decoders_agree :
    (∀ (r : Bytes) (v : I32) (rest : Bytes),
      (VarInt.decode r = .ok (v, rest) ↔ readVarInt.run r = .ok (v, rest)) ∧
      (VarInt.decode r = .ok (v, rest) ↔
        ∃ used ≤ r.length, VarInt.decodePartial r = .ok (v, used) ∧ rest = r.drop used)) ∧
    (∀ r : Bytes, (VarInt.decodePartial r = .error .tooLarge ↔
        VarInt.decode r = .error (.invalid "VarInt too large (> 5 bytes)")) ∧
      (VarInt.decodePartial r = .error .tooLarge ↔
        readVarInt.run r = .error (.invalid "VarInt too large (> 5 bytes)")) ∧
      (VarLong.decode r = .error (.invalid "VarLong too large (> 10 bytes)") ↔
        readVarLong.run r = .error (.invalid "VarLong too large (> 10 bytes)"))) ∧
    (∀ (v : I32) (t : Bytes), VarInt.decode (VarInt.encode v ++ t) = .ok (v, t) ∧
      VarInt.decodePartial (VarInt.encode v ++ t) = .ok (v, (VarInt.encode v).length) ∧
      readVarInt.run (VarInt.encode v ++ t) = .ok (v, t)) ∧
    (∀ (r : Bytes) (v : BitVec 64) (rest : Bytes),
      VarLong.decode r = .ok (v, rest) ↔ readVarLong.run r = .ok (v, rest)) ∧
    ∀ (v : BitVec 64) (t : Bytes), VarLong.decode (VarLong.encode v ++ t) = .ok (v, t) ∧
      readVarLong.run (VarLong.encode v ++ t) = .ok (v, t) := by
  refine ⟨fun r v rest => ⟨?_, decode_ok_iff⟩, fun r => ?_, fun v t => ?_,
    fun r v rest => ?_, fun v t => ?_⟩
  · rw [decode_eq, readVarInt_eq]
    cases Leb128.decode MAX_SIZE r <;> simp
  · rw [decode_eq, readVarInt_eq, decodePartial_eq, VarLong.decode_eq, readVarLong_eq]
    cases Leb128.decode MAX_SIZE r <;> cases Leb128.decode VarLong.MAX_SIZE r <;> simp
  · exact ⟨decode_encode v t, decodePartial_encode v t, reads_readVarInt v t⟩
  · rw [VarLong.decode_eq, readVarLong_eq]
    cases Leb128.decode VarLong.MAX_SIZE r <;> simp
  · rw [VarLong.decode_eq, readVarLong_eq, VarLong.leb128_decode_encode]
    simp

/-! ### Texts -/

theorem decodeString_ok_iff {r rest maxChars s} :
    decodeString r maxChars = .ok (s, rest) ↔
      (readStringBounded maxChars).run r = .ok (s, rest) := by
  rw [decodeString, readStringBounded, readLength, StateT.run_bind, StateT.run_bind,
    decode_eq, readVarInt_eq]
  cases Leb128.decode MAX_SIZE r with
  | short | long => constructor <;> intro h <;> cases h
  | done v used =>
    show (if (BitVec.ofNat 32 v).toInt < 0 then _ else _) = _ ↔
      StateT.run (if (BitVec.ofNat 32 v).toInt < 0 then _ else _) _ >>= _ = _
    split
    · constructor <;> intro h <;> cases h
    show (if (BitVec.ofNat 32 v).toNat > maxChars * 4 then _ else _) = _ ↔
      StateT.run (if (BitVec.ofNat 32 v).toNat > maxChars * 4 then _ else _) _ = _
    split
    · constructor <;> intro h <;> cases h
    rw [run_readExact_bind]
    show (if _ < _ then _ else _) = _ ↔ _
    split
    · constructor <;> intro h <;> cases h
    cases String.fromUTF8? _ with
    | none => constructor <;> intro h <;> cases h
    | some text =>
      show (if text.length > maxChars then _ else _) = _ ↔
        StateT.run (if text.length > maxChars then _ else _) _ = _
      split
      · constructor <;> intro h <;> cases h
      · rfl

end Infrarust
