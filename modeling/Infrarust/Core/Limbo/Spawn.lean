import Infrarust.Core.Limbo.RegistryNbt
import Infrarust.Protocol.Play

/-!
# `Infrarust.Core.Limbo.Spawn`: the JoinGame of the limbo world

Before 1.20.2 the limbo code writes the payload of its JoinGame by hand, with a layout for
each range of versions. `CJoinGame` carries that payload unread, behind the entity id.
-/

set_option autoImplicit false

namespace Infrarust

open FieldWriter

namespace Limbo

open FieldWriter (toBeBytes)

def LIMBO_DIMENSION_NAME : String := "minecraft:the_end"

/-- `LIMBO_DIM`, the number of the End. -/
def LIMBO_DIM : I32 := 1

variable (version : ProtocolVersion)

def buildPre116JoinGamePayload : Except ProtocolError Bytes := do
  let levelType ← string "default"
  return (
    -- adventure mode
    [2]
    -- the dimension is an `i8` up to 1.8
    ++ (if version.lessThan .V1_9 then [1] else toBeBytes 4 LIMBO_DIM)
    -- the difficulty
    ++ (if version.lessThan .V1_14 then [0] else [])
    -- the hashed seed
    ++ (if version.noLessThan .V1_15 then toBeBytes 8 (0 : BitVec 64) else [])
    -- the number of players, a `VarInt` in 1.14 only
    ++ (if version.noLessThan .V1_14 && version.lessThan .V1_15 then VarInt.encode 1 else [1])
    ++ levelType
    -- the view distance
    ++ (if version.noLessThan .V1_14 then VarInt.encode 2 else [])
    -- the reduced debug info
    ++ (if version.noLessThan .V1_8 then bool false else [])
    -- the respawn screen
    ++ (if version.noLessThan .V1_15 then bool false else []))

def build116To1201JoinGamePayload : Except ProtocolError Bytes := do
  let name ← string LIMBO_DIMENSION_NAME
  return (
    -- up to 1.16.1 the hardcore flag is part of the game mode
    (if 751 ≤ version.num then bool false else [])
    -- adventure mode, and no mode before
    ++ [2, 0xFF]
    -- the names of the worlds
    ++ VarInt.encode 1 ++ name
    ++ RegistryNbt.buildRegistryCodec version.num
    ++ (if 751 ≤ version.num ∧ version.num ≤ 758 then RegistryNbt.buildDimensionCodec version.num
        else [])
    -- the dimension (its type from 1.19 on) and the world
    ++ name ++ name
    -- the hashed seed, the number of players, and the view and simulation distances
    ++ toBeBytes 8 (0 : BitVec 64)
    ++ VarInt.encode 1 ++ VarInt.encode 2
    ++ (if 757 ≤ version.num then VarInt.encode 2 else [])
    -- the reduced debug info, the respawn screen, and the debug and flat flags
    ++ bool false ++ bool true
    ++ bool false ++ bool false
    -- no death location
    ++ (if 759 ≤ version.num then bool false else [])
    -- the portal cooldown
    ++ (if 762 ≤ version.num then VarInt.encode 0 else []))

/-- The `raw_payload` of `build_limbo_join_game`, before 1.20.2. -/
def buildLimboJoinGame : Except ProtocolError Bytes :=
  if version.lessThan .V1_16 then buildPre116JoinGamePayload version
  else build116To1201JoinGamePayload version

/-- The dimension that `build_limbo_join_game` writes: a number before 1.16, then a name. -/
def limboDimension : DimensionInfo :=
  if version.lessThan .V1_16 then .legacy LIMBO_DIM else .named LIMBO_DIMENSION_NAME

end Limbo

end Infrarust
