import Infrarust.Protocol.VarInt
import Mathlib.Algebra.Group.Nat.Defs

/-!
# `Infrarust.Protocol.Codec`: reading and writing the fields of a packet

`McBufReadExt` reads fields off a byte slice and advances it, so a reader here is a function
from the slice to a value and the rest. Numbers are big-endian, texts and byte arrays have
their length in front. A slice that is too short is an I/O error, since the source reads with
`read_exact`.
-/

set_option autoImplicit false

namespace Infrarust

/-- A function that reads a field. -/
abbrev FieldReader := StateT Bytes (Except ProtocolError)

namespace FieldReader

/-- `Read::read_exact` for `n` bytes. -/
def readExact (n : Nat) : FieldReader Bytes := fun r =>
  if r.length < n then .error (.io .unexpectedEof) else .ok (r.take n, r.drop n)

/-- The number with the bytes `bytes`, the first one highest. -/
def fromBeBytes (bytes : Bytes) : Nat := bytes.foldl (fun n b => n * 256 + b.toNat) 0

def readU8 : FieldReader UInt8 := do return UInt8.ofNat (fromBeBytes (← readExact 1))

def readU16Be : FieldReader UInt16 := do return UInt16.ofNat (fromBeBytes (← readExact 2))

def readI16Be : FieldReader (BitVec 16) := do return BitVec.ofNat 16 (fromBeBytes (← readExact 2))

def readI32Be : FieldReader I32 := do return BitVec.ofNat 32 (fromBeBytes (← readExact 4))

def readI64Be : FieldReader (BitVec 64) := do return BitVec.ofNat 64 (fromBeBytes (← readExact 8))

def readBool : FieldReader Bool := do
  match ← readU8 with
  | 0 => return false
  | 1 => return true
  | _ => throw (.invalid "bool value must be 0 or 1")

/-- The loop of `read_varint_from_reader`, with `left` iterations to go. -/
def readVarIntLoop : (left i : Nat) → I32 → FieldReader I32
  | 0, _, _ => throw (.invalid "VarInt too large (> 5 bytes)")
  | left + 1, i, val => do
    let byte ← readU8
    let val := VarInt.accumulate val byte i
    if byte &&& 0x80 = 0 then return val else readVarIntLoop left (i + 1) val

def readVarInt : FieldReader I32 := readVarIntLoop VarInt.MAX_SIZE 0 0#32

/-- The loop of `read_varlong_from_reader`, with `left` iterations to go. -/
def readVarLongLoop : (left i : Nat) → BitVec 64 → FieldReader (BitVec 64)
  | 0, _, _ => throw (.invalid "VarLong too large (> 10 bytes)")
  | left + 1, i, val => do
    let byte ← readU8
    let val := val ||| ((BitVec.ofNat 64 byte.toNat &&& 0x7F#64) <<< (i * 7))
    if byte &&& 0x80 = 0 then return val else readVarLongLoop left (i + 1) val

def readVarLong : FieldReader (BitVec 64) := readVarLongLoop VarLong.MAX_SIZE 0 0#64

/-- A length that is not negative. -/
def readLength : FieldReader Nat := do
  let rawLen ← readVarInt
  if rawLen.toInt < 0 then throw (.invalid "negative length") else return rawLen.toNat

/-- `read_string_bounded`. A character has at most four bytes. -/
def readStringBounded (maxChars : Nat) : FieldReader String := do
  let byteLen ← readLength
  if byteLen > maxChars * 4 then throw (.tooLarge (maxChars * 4) byteLen)
  else
    match String.fromUTF8? (ByteArray.mk (← readExact byteLen).toArray) with
    | none => throw (.invalid "invalid UTF-8 in string")
    | some s =>
      if s.length > maxChars then throw (.tooLarge maxChars s.length) else return s

def readString : FieldReader String := readStringBounded 32767

def readRemaining : FieldReader Bytes := do
  let r ← get
  set ([] : Bytes)
  return r

def readUuid : FieldReader (BitVec 128) := do
  return BitVec.ofNat 128 (fromBeBytes (← readExact 16))

def readByteArray (maxLen : Nat) : FieldReader Bytes := do
  let len ← readLength
  if len > maxLen then throw (.tooLarge maxLen len) else readExact len

/-- `read_byte_array_short`, for versions before 1.8. -/
def readByteArrayShort : FieldReader Bytes := do
  let len ← readI16Be
  if len.toInt < 0 then throw (.invalid "negative byte array length") else readExact len.toNat

end FieldReader

namespace FieldWriter

/-- `to_be_bytes` of a number of `n` bytes. -/
def toBeBytes (n : Nat) {w : Nat} (x : BitVec w) : Bytes :=
  ((List.range n).map fun i => UInt8.ofNat (x >>> (8 * i)).toNat).reverse

/-- `write_bool`. -/
def bool (b : Bool) : Bytes := [if b then 1 else 0]

/-- `encode_string`. -/
def string (s : String) : Except ProtocolError Bytes :=
  if s.length > 32767 then .error (.tooLarge 32767 s.length)
  else
    let bytes := s.toByteArray.toList
    .ok (VarInt.encode (BitVec.ofNat 32 bytes.length) ++ bytes)

/-- `write_byte_array`. -/
def byteArray (data : Bytes) : Bytes := VarInt.encode (BitVec.ofNat 32 data.length) ++ data

/-- `write_byte_array_short`, for versions before 1.8. -/
def byteArrayShort (data : Bytes) : Except ProtocolError Bytes :=
  if data.length > 32767 then .error (.tooLarge 32767 data.length)
  else .ok (toBeBytes 2 (BitVec.ofNat 16 data.length) ++ data)

end FieldWriter

/-- `decode_string`, over a slice. -/
def decodeString (r : Bytes) (maxChars : Nat) : Except ProtocolError (String × Bytes) := do
  let (rawLen, r) ← VarInt.decode r
  if rawLen.toInt < 0 then throw (.invalid "negative length")
  let byteLen := rawLen.toNat
  if byteLen > maxChars * 4 then throw (.tooLarge (maxChars * 4) byteLen)
  if r.length < byteLen then throw (.incomplete "String data")
  match String.fromUTF8? (ByteArray.mk (r.take byteLen).toArray) with
  | none => throw (.invalid "invalid UTF-8 in string")
  | some s =>
    if s.length > maxChars then throw (.tooLarge maxChars s.length)
    return (s, r.drop byteLen)

end Infrarust
