import Mathlib.Data.BitVec

/-!
# `Infrarust.Protocol.VarInt`: protocol errors and the `VarInt` codec

`VarInt` is a signed 32-bit number in one to five bytes. The encoder is the branchless one
of the source: it spreads the seven-bit groups over the bytes of a 64-bit word, counts
leading zeros to find how many bytes are needed, and sets the continuation bits with one
mask. The two decoders are loops over at most `MAX_SIZE` bytes. `decode` advances a cursor
and fails when the bytes run out, `decodePartial` leaves the buffer alone and tells a short
buffer from an overlong number.

`VarLong` is the same for 64 bits, with a loop as its encoder. An `i32` is a `BitVec 32` that is
read as signed through `toInt`.
-/

set_option autoImplicit false

namespace Infrarust

/-- A byte string. -/
abbrev Bytes := List UInt8

/-- The source's `i32`. -/
abbrev I32 := BitVec 32

/-- The error kinds of `std::io` that the proxy tells apart. -/
inductive ErrorKind where
  | wouldBlock
  | unexpectedEof
  | connectionReset
  | brokenPipe
  | connectionAborted
  | other
deriving DecidableEq, Repr

inductive ProtocolError where
  | incomplete (context : String)
  | invalid (context : String)
  | tooLarge (max actual : Nat)
  | io (kind : ErrorKind)
deriving DecidableEq, Repr

def ProtocolError.isFatal : ProtocolError → Bool
  | .incomplete _ => false
  | .invalid _ | .tooLarge _ _ => true
  | .io kind => !(kind == .wouldBlock || kind == .unexpectedEof)

/-- `i32::leading_zeros` and `u64::leading_zeros`. -/
def leadingZeros {w : Nat} (x : BitVec w) : Nat :=
  if x = 0#w then w else w - 1 - x.toNat.log2

def toLeBytes (x : BitVec 64) : Bytes :=
  (List.range 8).map fun i => UInt8.ofNat (x >>> (8 * i)).toNat

namespace VarInt

/-- The largest number of bytes of a `VarInt`. -/
def MAX_SIZE : Nat := 5

def writtenSize (v : I32) : Nat :=
  if v = 0#32 then 1 else (31 - leadingZeros v) / 7 + 1

/-- The groups of seven bits of `x`, one to a byte. -/
def stage1 (x : BitVec 64) : BitVec 64 :=
  (x &&& 0x7f#64) ||| ((x &&& 0x3f80#64) <<< 1) ||| ((x &&& 0x001fc000#64) <<< 2)
    ||| ((x &&& 0x0fe00000#64) <<< 3) ||| ((x &&& 0xf0000000#64) <<< 4)

/-- `VarInt::encode`. The cast from `i32` to `u64` sign-extends. -/
def encode (v : I32) : Bytes :=
  let x := v.signExtend 64
  -- The highest used bit of the spread groups tells how many bytes are needed.
  let leading := leadingZeros (stage1 x)
  let unusedBytes := (leading - 1) >>> 3
  let bytesNeeded := 8 - unusedBytes
  -- Every byte but the last gets its continuation bit.
  let msbs := 0x8080808080808080#64
  let msbmask := 0xffffffffffffffff#64 >>> (((8 - bytesNeeded + 1) <<< 3) - 1)
  let merged := stage1 x ||| (msbs &&& msbmask)
  (toLeBytes merged).take bytesNeeded

/-- One group of seven bits added to the value read so far. -/
def accumulate (val : I32) (byte : UInt8) (i : Nat) : I32 :=
  val ||| ((BitVec.ofNat 32 byte.toNat &&& 0x7F#32) <<< (i * 7))

/-- The loop of `VarInt::decode`, with `left` iterations to go. -/
def decodeLoop : (left i : Nat) → I32 → Bytes → Except ProtocolError (I32 × Bytes)
  | 0, _, _, _ => .error (.invalid "VarInt too large (> 5 bytes)")
  | _ + 1, _, _, [] => .error (.incomplete "VarInt")
  | left + 1, i, val, byte :: r =>
    let val := accumulate val byte i
    if byte &&& 0x80 = 0 then .ok (val, r) else decodeLoop left (i + 1) val r

/-- `VarInt::decode`: the value and the advanced cursor. -/
def decode (r : Bytes) : Except ProtocolError (I32 × Bytes) := decodeLoop MAX_SIZE 0 0#32 r

/-- `VarIntDecodeStatus`. -/
inductive DecodeStatus where
  | incomplete
  | tooLarge
deriving DecidableEq, Repr

/-- The loop of `VarInt::decode_partial`, with `left` iterations to go. -/
def decodePartialLoop : (left i : Nat) → I32 → Bytes → Except DecodeStatus (I32 × Nat)
  | 0, _, _, _ => .error .tooLarge
  | _ + 1, _, _, [] => .error .incomplete
  | left + 1, i, val, byte :: r =>
    let val := accumulate val byte i
    if byte &&& 0x80 = 0 then .ok (val, i + 1) else decodePartialLoop left (i + 1) val r

/-- `VarInt::decode_partial`: the value and the number of bytes it takes. -/
def decodePartial (buf : Bytes) : Except DecodeStatus (I32 × Nat) :=
  decodePartialLoop MAX_SIZE 0 0#32 buf

end VarInt

namespace VarLong

def MAX_SIZE : Nat := 10

def writtenSize (v : BitVec 64) : Nat :=
  if v = 0#64 then 1 else (63 - leadingZeros v) / 7 + 1

def encode (val : BitVec 64) : Bytes :=
  let byte := UInt8.ofNat (val &&& 0x7F#64).toNat
  if val >>> 7 = 0#64 then [byte] else (byte ||| 0x80) :: encode (val >>> 7)
termination_by val.toNat
decreasing_by bv_omega

/-- The loop of `VarLong::decode`, with `left` iterations to go. -/
def decodeLoop : (left i : Nat) → BitVec 64 → Bytes → Except ProtocolError (BitVec 64 × Bytes)
  | 0, _, _, _ => .error (.invalid "VarLong too large (> 10 bytes)")
  | _ + 1, _, _, [] => .error (.incomplete "VarLong")
  | left + 1, i, val, byte :: r =>
    let val := val ||| ((BitVec.ofNat 64 byte.toNat &&& 0x7F#64) <<< (i * 7))
    if byte &&& 0x80 = 0 then .ok (val, r) else decodeLoop left (i + 1) val r

def decode (r : Bytes) : Except ProtocolError (BitVec 64 × Bytes) := decodeLoop MAX_SIZE 0 0#64 r

end VarLong

end Infrarust
