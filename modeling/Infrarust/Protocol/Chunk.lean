import Infrarust.Core.Limbo.RegistryNbt
import Infrarust.Protocol.Version

/-!
# `Infrarust.Protocol.Chunk`: the payload of a chunk of air

The limbo world has one chunk without blocks, whose packet is written by hand. From 1.18 on the
light of the chunk is part of it: four bit sets with one bit for every section and for the two
sections beyond, of which two say where there is no light.
-/

set_option autoImplicit false

namespace Infrarust

namespace Chunk

open FieldWriter (toBeBytes)

/-- `write_varint`, the bytes that are pushed. -/
def writeVarint (val : I32) : Bytes :=
  if val &&& ~~~0x7F#32 = 0#32 then [UInt8.ofNat val.toNat]
  else UInt8.ofNat (val &&& 0x7F#32 ||| 0x80#32).toNat :: writeVarint (val >>> 7)
termination_by val.toNat
decreasing_by
  have hpos : val ≠ 0#32 := by
    rintro rfl
    contradiction
  bv_omega

/-- A number of words that are all zero. -/
def zeroLongs (count : Nat) : Bytes := (List.replicate count (toBeBytes 8 0#64)).flatten

def encodeEmptySection (version : ProtocolVersion) : Bytes :=
  let dataLength := if version.lessThan .V1_21_5 then VarInt.encode 0 else []
  -- the count of the blocks and a palette with air only, then one with plains only
  toBeBytes 2 0#16 ++ [0] ++ VarInt.encode 0 ++ dataLength ++ [0] ++ VarInt.encode 0 ++ dataLength

def encodeEmptyChunkSections (numSections : Nat) (version : ProtocolVersion) : Bytes :=
  (List.replicate numSections (encodeEmptySection version)).flatten

def encodeNbtLongArray (name : String) (count : Nat) : Bytes :=
  RegistryNbt.writeNbtField 0x0C name (toBeBytes 4 (BitVec.ofNat 32 count) ++ zeroLongs count)

def encodeEmptyHeightmapsNbt (version : ProtocolVersion) : Bytes :=
  [0x0A] ++ (if version.lessThan .V1_20_2 then toBeBytes 2 0#16 else [])
  ++ encodeNbtLongArray "MOTION_BLOCKING" 37 ++ encodeNbtLongArray "WORLD_SURFACE" 37 ++ [0x00]

def encodeEmptyHeightmapsMap : Bytes :=
  VarInt.encode 3 ++ [1, 4, 5].flatMap fun index =>
    VarInt.encode index ++ VarInt.encode 37 ++ zeroLongs 37

def encodeEmptyHeightmaps (version : ProtocolVersion) : Bytes :=
  if version.lessThan .V1_21_5 then encodeEmptyHeightmapsNbt version else encodeEmptyHeightmapsMap

/-- `num_longs` of `encode_light_data`. -/
def numLongs (numSections : Nat) : Nat := (numSections + 2 + 63) / 64

/-- The words of `empty_sky_light_mask` and `empty_block_light_mask` in `encode_light_data`. -/
def emptyLightMask (numSections : Nat) : List (BitVec 64) :=
  let totalBits := numSections + 2
  let allSet := if totalBits ≥ 64 then BitVec.allOnes 64 else 1#64 <<< totalBits - 1#64
  allSet :: List.replicate (numLongs numSections - 1) 0#64

def encodeLightData (numSections : Nat) : Bytes :=
  let count := VarInt.encode (BitVec.ofNat 32 (numLongs numSections))
  let light := count ++ zeroLongs (numLongs numSections)
  let empty := count ++ (emptyLightMask numSections).flatMap (toBeBytes 8)
  light ++ light ++ empty ++ empty ++ VarInt.encode 0 ++ VarInt.encode 0

/-- `build_pre_1_14_empty_chunk`, with the `zlib_compress` that is used before 1.8. -/
def buildPre114EmptyChunk (zlibCompress : Bytes → Bytes) (version : ProtocolVersion) : Bytes :=
  let biomeData := List.replicate 256 0
  let compressed := zlibCompress biomeData
  [1] ++
    if version.lessThan .V1_8 then
      toBeBytes 2 0#16 ++ toBeBytes 2 0#16
      ++ toBeBytes 4 (BitVec.ofNat 32 compressed.length) ++ compressed
    else if version.lessThan .V1_9 then
      toBeBytes 2 0#16 ++ VarInt.encode 256 ++ biomeData
    else
      VarInt.encode 0 ++ VarInt.encode 256 ++ biomeData ++ VarInt.encode 0

def buildChunkDataPayload (zlibCompress : Bytes → Bytes) (chunkX chunkZ : I32)
    (numSections : Nat) (version : ProtocolVersion) : Bytes :=
  let position := toBeBytes 4 chunkX ++ toBeBytes 4 chunkZ
  if version.lessThan .V1_14 then position ++ buildPre114EmptyChunk zlibCompress version
  else
    let sections := encodeEmptyChunkSections numSections version
    position ++ encodeEmptyHeightmaps version
    ++ VarInt.encode (BitVec.ofNat 32 sections.length) ++ sections
    -- no block entities
    ++ VarInt.encode 0
    ++ if version.noLessThan .V1_18 then encodeLightData numSections else []

end Chunk

end Infrarust
