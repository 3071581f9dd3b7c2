import Infrarust.Lib.Text
import Infrarust.Protocol.Codec
import Infrarust.Protocol.Version

/-!
# `Infrarust.Protocol.Play`: the dimension of a JoinGame and the Respawn of a switch

Before 1.20.2 a client is moved to another server with a Respawn packet, whose dimension has to
be taken from the JoinGame packet of that server. The packet has a layout for each range of
versions, and from 1.16 on NBT compounds stand before the dimension. These are skipped.
-/

set_option autoImplicit false

namespace Infrarust

open FieldReader

/-! ### NBT -/

namespace Nbt

open FieldReader

/-- The nesting levels of a compound, `MAX_DEPTH` and the outermost one. -/
def MAX_LEVELS : Nat := 513

def skipBytes (n : Nat) : FieldReader Unit := fun r =>
  if r.length < n then .error (.incomplete "NBT skip") else .ok ((), r.drop n)

def skipNbtString : FieldReader Unit := do skipBytes (← readU16Be).toNat

/-- An array whose elements have `size` bytes. -/
def skipArray (negative : String) (size : Nat) : FieldReader Unit := do
  let count ← readI32Be
  if count.toInt < 0 then throw (.invalid negative) else skipBytes (count.toNat * size)

/-- The elements of a list. -/
def skipElements (skip : FieldReader Unit) : Nat → FieldReader Unit
  | 0 => return
  | count + 1 => do
    skip
    skipElements skip count

/-- The loop of `skip_compound_payload`. A child has three bytes or more, so `fuel` above the
number of bytes is enough. -/
def skipChildren (skipPayload : UInt8 → FieldReader Unit) : (fuel : Nat) → FieldReader Unit
  | 0 => throw (.incomplete "NBT skip")
  | fuel + 1 => do
    let childType ← readU8
    if childType = 0 then return
    skipNbtString
    skipPayload childType
    skipChildren skipPayload fuel

/-- `skip_tag_payload`, with `levels` left before the nesting is too deep. -/
def skipTagPayload : (levels : Nat) → (tagType : UInt8) → FieldReader Unit
  | 0, _ => throw (.invalid "NBT nesting depth exceeded")
  | levels + 1, tagType =>
    match tagType with
    | 1 => skipBytes 1
    | 2 => skipBytes 2
    | 3 | 5 => skipBytes 4
    | 4 | 6 => skipBytes 8
    | 7 => skipArray "negative NBT byte array length" 1
    | 8 => skipNbtString
    | 9 => do
      let elementType ← readU8
      let count ← readI32Be
      if count.toInt ≤ 0 then return
      skipElements (skipTagPayload levels elementType) count.toNat
    -- `skip_compound_payload` looks at the depth before it reads
    | 10 =>
      if levels = 0 then throw (.invalid "NBT nesting depth exceeded")
      else do skipChildren (skipTagPayload levels) ((← get).length + 1)
    | 11 => skipArray "negative NBT int array count" 4
    | 12 => skipArray "negative NBT long array count" 8
    | _ => throw (.invalid ("unknown NBT tag type: " ++ toString tagType.toNat))

def skipNbtCompound : FieldReader Unit := do
  let tagType ← readU8
  if tagType ≠ 10 then
    throw (.invalid ("expected NBT Compound (0x0A), got 0x"
      ++ (Text.hex 2 tagType.toNat).map Char.toUpper))
  skipNbtString
  skipChildren (skipTagPayload MAX_LEVELS) ((← get).length + 1)

end Nbt

/-! ### The dimension -/

inductive DimensionInfo where
  | legacy (id : I32)
  | named (name : String)
deriving DecidableEq, Repr

/-- The `raw_payload` of `CJoinGame::decode`, before 1.20.2: what follows the entity id. -/
def CJoinGame.decodeRawPayload : FieldReader Bytes := do
  let _ ← readI32Be
  readRemaining

/-- `CJoinGame::encode`, before 1.20.2. -/
def CJoinGame.encodeRawPayload (entityId : I32) (rawPayload : Bytes) : Bytes :=
  FieldWriter.toBeBytes 4 entityId ++ rawPayload

def extractDimensionFromJoinGame (version : ProtocolVersion) : FieldReader DimensionInfo := do
  if version.noLessThan .V1_20_2 then return .named "minecraft:overworld"
  if version.lessThan .V1_16 then
    let _ ← readU8
    return .legacy (← readI32Be)
  -- hardcore flag and the two game modes
  let _ ← readBool
  let _ ← readU8
  let _ ← readU8
  let worldCount ← readVarInt
  Nbt.skipElements (do let _ ← readString) worldCount.toInt.toNat
  Nbt.skipNbtCompound
  if version.lessThan .V1_16_2 then Nbt.skipNbtCompound
  else do let _ ← readString
  return .named (← readString)

/-- `temp_dimension`: another dimension than the given one. -/
def tempDimension : DimensionInfo → DimensionInfo
  | .legacy id => if id = 0 then .legacy (-1) else .legacy 0
  | .named name =>
    if name = "minecraft:overworld" then .named "minecraft:the_nether"
    else .named "minecraft:overworld"

/-- `dimension_as_i32`. -/
def DimensionInfo.asI32 : DimensionInfo → I32
  | legacy id => id
  | named name =>
    if name = "minecraft:the_nether" then -1
    else if name = "minecraft:the_end" then 1
    else 0

/-- `dimension_as_name`. -/
def DimensionInfo.asName : DimensionInfo → String
  | named name => name
  | legacy id =>
    if id = -1 then "minecraft:the_nether"
    else if id = 1 then "minecraft:the_end"
    else "minecraft:overworld"

/-- `encode_switch_respawn`, the payload of the Respawn of a switch before 1.20.2. -/
def encodeSwitchRespawn (dimension : DimensionInfo) (version : ProtocolVersion) :
    Except ProtocolError Bytes := do
  let id := FieldWriter.toBeBytes 4 dimension.asI32
  let seed := FieldWriter.toBeBytes 8 (0 : BitVec 64)
  -- game mode, previous game mode, and the debug and flat flags
  let modes : Bytes := [0, 0xFF, 0, 0]
  let levelType ← FieldWriter.string "default"
  if version.num < 477 then return id ++ [2, 0] ++ levelType
  if version.num < 573 then return id ++ [0] ++ levelType
  if version.num < 735 then return id ++ seed ++ [0] ++ levelType
  let name ← FieldWriter.string dimension.asName
  -- the dimension type is an empty compound here and the name later
  if version.num < 751 then return [0x0A, 0, 0, 0] ++ name ++ seed ++ modes ++ [1]
  if version.num < 759 then return name ++ name ++ seed ++ modes ++ [1]
  -- the copied metadata, no death location and no portal cooldown
  if version.num < 761 then return name ++ name ++ seed ++ modes ++ [1, 0]
  if version.num < 762 then return name ++ name ++ seed ++ modes ++ [0x01, 0]
  return name ++ name ++ seed ++ modes ++ [0x01, 0] ++ VarInt.encode 0

end Infrarust
