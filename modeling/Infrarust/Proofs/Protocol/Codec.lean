import Infrarust.Lib.Reader
import Infrarust.Protocol.Codec
import Infrarust.Proofs.Protocol.VarInt

/-!
# `Infrarust.Proofs.Protocol.Codec`: each field is read back as it was written

One lemma for each field of `McBufReadExt`, in the form the packets use it: the reader takes
the bytes of the writer off the front of its input (`Readers.Reads`). The readers of the fixed
numbers come down to the digits of a number in base 256 (`fromBeBytes_toBeBytes`), and the
`VarInt` reader to the library's base-128 numbers.
-/

set_option autoImplicit false

namespace Infrarust

open Readers (Reads Takes Gives)
open FieldWriter (toBeBytes)
open List Readers

namespace FieldReader

/-! ### Bytes and numbers -/

theorem reads_readExact (bytes : Bytes) : Reads (readExact bytes.length) bytes bytes := by
  intro rest
  show (if (bytes ++ rest).length < bytes.length then _ else _) = _
  rw [if_neg (by simp), take_left, drop_left]

theorem run_readExact_bind {α : Type} {f : Bytes → FieldReader α} {n bytes} :
    (readExact n >>= f).run bytes
      = if bytes.length < n then .error (.io .unexpectedEof)
        else (f (bytes.take n)).run (bytes.drop n) := by
  show Except.bind (if bytes.length < n then _ else _) _ = _
  split <;> rfl

theorem reads_readU8 (b) : Reads readU8 [b] b := by
  intro rest
  have hbyte : UInt8.ofNat (fromBeBytes [b]) = b := by simp [fromBeBytes]
  show (readExact [b].length >>= fun bytes => pure (UInt8.ofNat (fromBeBytes bytes))).run _ = _
  rw [((reads_readExact [b]).map _) rest, hbyte]

theorem fromBeBytes_cons {b : UInt8} {bytes : Bytes} :
    fromBeBytes (b :: bytes) = b.toNat * 256 ^ bytes.length + fromBeBytes bytes := by
  -- the fold from any start, of which the lemma is the start at the first byte
  have hfold : ∀ (bytes : Bytes) (n : Nat), bytes.foldl (fun n b => n * 256 + b.toNat) n
        = n * 256 ^ bytes.length + bytes.foldl (fun n b => n * 256 + b.toNat) 0 := by
    intro bytes
    induction bytes with
    | nil => intro n; simp
    | cons b bytes ih =>
      intro n
      rw [foldl_cons, foldl_cons, ih, ih (0 * 256 + b.toNat), length_cons]
      ring
  rw [fromBeBytes, foldl_cons, hfold, fromBeBytes]
  simp

variable {w : Nat} {s : String} {bytes : Bytes}

theorem length_toBeBytes (n : Nat) (x : BitVec w) : (toBeBytes n x).length = n := by
  simp [toBeBytes]

theorem toBeBytes_succ {n : Nat} {x : BitVec w} :
    toBeBytes (n + 1) x = UInt8.ofNat (x >>> (8 * n)).toNat :: toBeBytes n x := by
  simp [toBeBytes, range_succ]

/-- The bytes of a number, read back: its lowest `n` digits in base 256. -/
theorem fromBeBytes_toBeBytes (n : Nat) (x : BitVec w) :
    fromBeBytes (toBeBytes n x) = x.toNat % 256 ^ n := by
  induction n with
  | zero => simp [toBeBytes, fromBeBytes, Nat.mod_one]
  | succ n ih =>
    have hdigit : (UInt8.ofNat (x >>> (8 * n)).toNat).toNat = x.toNat / 256 ^ n % 256 := by
      rw [UInt8.toNat_ofNat', BitVec.toNat_ushiftRight, Nat.shiftRight_eq_div_pow, Nat.pow_mul]
    rw [toBeBytes_succ, fromBeBytes_cons, length_toBeBytes, ih, hdigit, Nat.pow_succ,
      Nat.mod_mul, Nat.mul_comm, Nat.add_comm]

theorem fromBeBytes_lt (bytes) : fromBeBytes bytes < 256 ^ bytes.length := by
  induction bytes with
  | nil => simp [fromBeBytes]
  | cons b bytes ih =>
    have hb := Nat.mul_le_mul_right (256 ^ bytes.length) (Nat.lt_succ_iff.mp b.toNat_lt)
    rw [fromBeBytes_cons, length_cons, Nat.pow_succ]
    omega

/-- Only its own bytes are read as a number. -/
theorem toBeBytes_of_fromBeBytes {x : BitVec w}
    (h : x.toNat % 256 ^ bytes.length = fromBeBytes bytes) : toBeBytes bytes.length x = bytes := by
  induction bytes with
  | nil => rfl
  | cons b bytes ih =>
    have hlt := fromBeBytes_lt bytes
    rw [length_cons, Nat.pow_succ, Nat.mod_mul, fromBeBytes_cons] at h
    have hlow : x.toNat % 256 ^ bytes.length = fromBeBytes bytes := by
      have hmod := congrArg (· % 256 ^ bytes.length) h
      simpa [Nat.add_mul_mod_self_left, Nat.mod_eq_of_lt hlt] using hmod
    have hhigh : x.toNat / 256 ^ bytes.length % 256 = b.toNat := by
      rw [hlow, Nat.mul_comm, Nat.add_comm] at h
      exact Nat.eq_of_mul_eq_mul_right (Nat.pow_pos (by decide)) (Nat.add_right_cancel h)
    rw [length_cons, toBeBytes_succ, ih hlow]
    congr 1
    rw [BitVec.toNat_ushiftRight, Nat.shiftRight_eq_div_pow, Nat.pow_mul,
      ← UInt8.toNat_inj, UInt8.toNat_ofNat', hhigh]

variable {n : Nat}

/-- The low `n` bytes of a number are read as its low bits. -/
theorem reads_lowBytes {v} (h : 2 ^ v = 256 ^ n) (x : BitVec w) :
    Reads ((fun bytes => BitVec.ofNat v (fromBeBytes bytes)) <$> readExact n) (toBeBytes n x)
      (x.setWidth v) := by
  have hval : BitVec.ofNat v (fromBeBytes (toBeBytes n x)) = x.setWidth v := by
    refine BitVec.eq_of_toNat_eq ?_
    rw [fromBeBytes_toBeBytes, ← h, BitVec.toNat_ofNat, Nat.mod_mod, BitVec.toNat_setWidth]
  have hread := (reads_readExact (toBeBytes n x)).map fun bytes =>
    BitVec.ofNat v (fromBeBytes bytes)
  rw [length_toBeBytes, hval] at hread
  exact hread

/-- A number of `n` bytes is read back if they hold all of its bits. -/
theorem reads_ofBeBytes (h : 2 ^ w = 256 ^ n) (x : BitVec w) :
    Reads ((fun bytes => BitVec.ofNat w (fromBeBytes bytes)) <$> readExact n) (toBeBytes n x)
      x := by
  have hread := reads_lowBytes h x
  rwa [BitVec.setWidth_eq] at hread

theorem takes_readExact (n) :
    Takes (readExact n) fun block bytes => block = bytes ∧ bytes.length = n := by
  intro input bytes rest h
  change (if input.length < n then _ else _) = _ at h
  split_ifs at h with hlen
  cases h
  exact ⟨input.take n, ⟨rfl, by rw [length_take]; omega⟩, (take_append_drop n input).symm⟩

theorem takes_ofBeBytes (h : 2 ^ w = 256 ^ n) :
    Takes ((fun bytes => BitVec.ofNat w (fromBeBytes bytes)) <$> readExact n)
      fun block x => block = toBeBytes n x := by
  show Takes (readExact n >>= fun bytes => pure (BitVec.ofNat w (fromBeBytes bytes))) _
  refine (takes_readExact n).bind fun block bytes hblock => takes_pure ?_
  obtain ⟨rfl, rfl⟩ := hblock
  have hlt := fromBeBytes_lt block
  rw [append_nil, toBeBytes_of_fromBeBytes]
  rw [BitVec.toNat_ofNat, h, Nat.mod_mod, Nat.mod_eq_of_lt hlt]

theorem takes_readI32Be : Takes readI32Be fun block x => block = toBeBytes 4 x :=
  takes_ofBeBytes (by decide)

theorem takes_readI64Be : Takes readI64Be fun block x => block = toBeBytes 8 x :=
  takes_ofBeBytes (by decide)

theorem takes_readU16Be : Takes readU16Be fun block x => block = toBeBytes 2 x.toBitVec := by
  refine (takes_readExact 2).bind fun block bytes hblock => takes_pure ?_
  obtain ⟨rfl, hlen⟩ := hblock
  have hlt := fromBeBytes_lt block
  rw [append_nil, ← hlen, toBeBytes_of_fromBeBytes]
  show fromBeBytes block % 65536 % _ = _
  rw [hlen] at hlt ⊢
  omega

theorem takes_readU8 : Takes readU8 fun block b => block = [b] := by
  refine (takes_readExact 1).bind fun block bytes hblock => takes_pure ?_
  obtain ⟨rfl, hlen⟩ := hblock
  obtain ⟨b, rfl⟩ := length_eq_one_iff.mp hlen
  simp [fromBeBytes]

theorem reads_readI32Be (x) : Reads readI32Be (toBeBytes 4 x) x := reads_ofBeBytes (by decide) x

theorem reads_readI64Be (x) : Reads readI64Be (toBeBytes 8 x) x := reads_ofBeBytes (by decide) x

theorem reads_readU16Be (x : UInt16) : Reads readU16Be (toBeBytes 2 x.toBitVec) x := by
  have hval : UInt16.ofNat (fromBeBytes (toBeBytes 2 x.toBitVec)) = x := by
    have hlt : x.toBitVec.toNat < 256 ^ 2 := x.toBitVec.isLt
    rw [fromBeBytes_toBeBytes, Nat.mod_eq_of_lt hlt]
    exact UInt16.ofNat_toNat
  have hread := (reads_readExact (toBeBytes 2 x.toBitVec)).map fun bytes =>
    UInt16.ofNat (fromBeBytes bytes)
  rw [length_toBeBytes, hval] at hread
  exact hread

theorem reads_readBool (b) : Reads readBool (FieldWriter.bool b) b := by
  intro rest
  cases b <;> rfl

/-! ### Lengths and texts -/

theorem readVarInt_eq (r) :
    readVarInt.run r = match Leb128.decode VarInt.MAX_SIZE r with
      | .done v used => .ok (BitVec.ofNat 32 v, r.drop used)
      | .short => .error (.io .unexpectedEof)
      | .long => .error (.invalid "VarInt too large (> 5 bytes)") := by
  have hloop : VarInt.IsLoop (fun left i val r => (readVarIntLoop left i val).run r)
      (fun v _ r => .ok (v, r)) (.error (.io .unexpectedEof))
      (.error (.invalid "VarInt too large (> 5 bytes)")) := by
    refine ⟨by decide, fun _ _ _ => rfl, fun _ _ _ => rfl, fun left i val byte r => ?_⟩
    show StateT.run (readU8 >>= _) ([byte] ++ r) = _
    rw [(reads_readU8 byte).run_bind]
    split <;> rfl
  exact hloop.eq _ r

theorem reads_readVarInt (v) : Reads readVarInt (VarInt.encode v) v := by
  intro rest
  rw [readVarInt_eq, VarInt.leb128_decode_encode]
  simp

theorem reads_readLength (h : n < 2 ^ 31) :
    Reads readLength (VarInt.encode (BitVec.ofNat 32 n)) n := by
  intro rest
  have hnat : (BitVec.ofNat 32 n).toNat = n := by
    rw [BitVec.toNat_ofNat]
    omega
  have hint : ¬ (BitVec.ofNat 32 n).toInt < 0 := by
    rw [BitVec.toInt_eq_toNat_cond, hnat, if_pos (by omega)]
    omega
  rw [readLength, (reads_readVarInt _).run_bind, if_neg hint, hnat]
  rfl

theorem toList_loop_eq {bytes i r} :
    ByteArray.toList.loop bytes i r = r.reverse ++ bytes.data.toList.drop i := by
  rw [ByteArray.toList.loop]
  by_cases h : i < bytes.size
  · have hdrop : bytes.data.toList.drop i = bytes.get! i :: bytes.data.toList.drop (i + 1) := by
      have hi : i < bytes.data.toList.length := by simpa using h
      rw [drop_eq_getElem_cons hi]
      congr 1
      exact (getElem!_pos bytes.data i h).symm
    rw [if_pos h, toList_loop_eq, hdrop]
    simp
  · have hdrop : bytes.data.toList.drop i = [] :=
      drop_eq_nil_of_le (by simpa using h)
    rw [if_neg h, hdrop, append_nil]
termination_by bytes.size - i

/-- The bytes of a text give the text back. -/
theorem fromUTF8_toList {s : String} :
    String.fromUTF8? (ByteArray.mk s.toByteArray.toList.toArray) = some s := by
  have hlist : s.toByteArray.toList = s.toByteArray.data.toList := by
    rw [ByteArray.toList, toList_loop_eq]
    rfl
  rw [hlist, Array.toArray_toList, String.fromUTF8?]
  exact dif_pos s.isValidUTF8

theorem length_toList_toByteArray (s : String) : s.toByteArray.toList.length = s.utf8ByteSize := by
  rw [ByteArray.toList, toList_loop_eq]
  rfl

/-- A character has at most four bytes. -/
theorem utf8ByteSize_le (s : String) : s.utf8ByteSize ≤ 4 * s.length := by
  have hchars : ∀ chars : List Char, chars.utf8Encode.size ≤ 4 * chars.length := by
    intro chars
    induction chars with
    | nil => simp
    | cons c chars ih =>
      have hc : [c].utf8Encode.size = c.utf8Size := by
        rw [utf8Encode_singleton, size_toByteArray, String.length_utf8EncodeChar]
      have hfour := c.utf8Size_le_four
      rw [utf8Encode_cons, ByteArray.size_append, length_cons]
      omega
  have hs := hchars s.toList
  rw [String.utf8Encode_toList, String.size_toByteArray, String.length_toList] at hs
  exact hs

theorem exists_string_iff : (∃ bytes, FieldWriter.string s = .ok bytes) ↔ s.length ≤ 32767 := by
  rw [FieldWriter.string]
  split <;> simp <;> omega

/-- A text is read back as it was written, when the reader accepts that many characters. -/
theorem reads_readStringBounded {maxChars} (h : FieldWriter.string s = .ok bytes)
    (hmax : s.length ≤ maxChars) :
    Reads (readStringBounded maxChars) bytes s := by
  rw [FieldWriter.string] at h
  split at h <;> cases h
  case isFalse hlen =>
    intro rest
    have hsize := utf8ByteSize_le s
    have hbytes := length_toList_toByteArray s
    rw [readStringBounded, append_assoc, (reads_readLength (by omega)).run_bind,
      if_neg (by omega), (reads_readExact _).run_bind, fromUTF8_toList]
    show StateT.run (if s.length > maxChars then _ else _) rest = _
    rw [if_neg (by omega)]
    rfl

theorem reads_readString (h : FieldWriter.string s = .ok bytes) : Reads readString bytes s :=
  reads_readStringBounded h (exists_string_iff.mp ⟨bytes, h⟩)

theorem gives_readStringBounded (maxChars) :
    Gives (readStringBounded maxChars) (·.length ≤ maxChars) := by
  refine .bind fun byteLen _ => ?_
  split
  · exact gives_throw _
  · refine .bind fun bytes _ => ?_
    split
    · exact gives_throw _
    · split
      · exact gives_throw _
      · exact gives_pure (by omega)

/-- A text takes its bytes and those of their number. -/
theorem length_of_string (h : FieldWriter.string s = .ok bytes) :
    bytes.length = VarInt.writtenSize (BitVec.ofNat 32 s.utf8ByteSize) + s.utf8ByteSize := by
  rw [FieldWriter.string] at h
  split at h <;> cases h
  rw [length_append, VarInt.writtenSize_eq_length_encode, length_toList_toByteArray]

/-- A text that was read has as many bytes as the length in front of it says. -/
theorem utf8ByteSize_of_readString (hn : n < 2 ^ 31) {rest rest'}
    (h : readString.run (VarInt.encode (BitVec.ofNat 32 n) ++ rest) = .ok (s, rest')) :
    s.utf8ByteSize = n := by
  rw [readString, readStringBounded, (reads_readLength hn).run_bind] at h
  split at h
  · cases h
  rw [StateT.run_bind] at h
  obtain ⟨⟨bytes, left⟩, hread, hnext⟩ := Check.bind_ok_iff.mp h
  obtain ⟨-, ⟨-, hlen⟩, -⟩ := takes_readExact n hread
  -- the text is the one whose bytes were taken
  split at hnext
  · cases hnext
  case h_2 text hutf8 =>
    split at hnext <;> cases hnext
    rw [String.fromUTF8?] at hutf8
    split at hutf8 <;> cases hutf8
    exact hlen

end FieldReader

end Infrarust
