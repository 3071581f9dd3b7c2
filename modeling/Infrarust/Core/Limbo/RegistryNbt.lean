import Infrarust.Protocol.Codec

/-!
# `Infrarust.Core.Limbo.RegistryNbt`: the registry codec of a limbo JoinGame

From 1.16 to 1.20.1 a JoinGame packet carries the registries of the world as an NBT compound.
The limbo world has the smallest one a client accepts: the End as the only dimension type, one
biome, and later a chat type and a damage type. The source appends to a buffer. A writer here
is the bytes it appends.

A floating-point value is given by its bits.
-/

set_option autoImplicit false

namespace Infrarust

namespace RegistryNbt

open FieldWriter (toBeBytes)

def TAG_END : UInt8 := 0
def TAG_BYTE : UInt8 := 1
def TAG_INT : UInt8 := 3
def TAG_FLOAT : UInt8 := 5
def TAG_DOUBLE : UInt8 := 6
def TAG_STRING : UInt8 := 8
def TAG_LIST : UInt8 := 9
def TAG_COMPOUND : UInt8 := 10

/-! ### Fields -/

/-- `write_nbt_string` and `write_nbt_raw_string`. The length is cast to `u16`. -/
def writeNbtString (s : String) : Bytes :=
  let bytes := s.toByteArray.toList
  toBeBytes 2 (BitVec.ofNat 16 bytes.length) ++ bytes

/-- A child of a compound: its tag, its name and its payload. -/
def writeNbtField (tag : UInt8) (name : String) (payload : Bytes) : Bytes :=
  tag :: (writeNbtString name ++ payload)

def writeNbtStringField (name value : String) : Bytes :=
  writeNbtField TAG_STRING name (writeNbtString value)

variable (name : String)

def writeNbtByteField (value : UInt8) : Bytes := writeNbtField TAG_BYTE name [value]

def writeNbtIntField (value : I32) : Bytes := writeNbtField TAG_INT name (toBeBytes 4 value)

def writeNbtFloatField (value : BitVec 32) : Bytes :=
  writeNbtField TAG_FLOAT name (toBeBytes 4 value)

def writeNbtDoubleField (value : BitVec 64) : Bytes :=
  writeNbtField TAG_DOUBLE name (toBeBytes 8 value)

/-- A compound field, which the source opens and closes by hand. -/
def writeNbtCompoundField (fields : Bytes) : Bytes :=
  writeNbtField TAG_COMPOUND name (fields ++ [TAG_END])

/-- A list field with the elements' tag, their number and their payloads. -/
def writeNbtListField (tag : UInt8) (count : I32) (elements : Bytes) : Bytes :=
  writeNbtField TAG_LIST name (tag :: (toBeBytes 4 count ++ elements))

/-! ### Elements -/

/-- `write_dimension_type_fields` and `end_dimension_type_element`. -/
def writeDimensionTypeFields (pvn : Int) : Bytes :=
  writeNbtByteField "piglin_safe" 0
  ++ writeNbtByteField "natural" 0
  ++ writeNbtFloatField "ambient_light" 0#32
  -- from 1.19 on the name of a block tag has a hash in front
  ++ (if 759 ≤ pvn then writeNbtStringField "infiniburn" "#minecraft:infiniburn_end"
      else writeNbtStringField "infiniburn" "minecraft:infiniburn_end")
  ++ writeNbtByteField "respawn_anchor_works" 0
  ++ writeNbtByteField "has_skylight" 0
  ++ writeNbtByteField "bed_works" 0
  ++ writeNbtStringField "effects" "minecraft:the_end"
  ++ writeNbtByteField "has_raids" 1
  ++ (if 751 ≤ pvn then writeNbtIntField "min_y" 0 ++ writeNbtIntField "height" 256 else [])
  ++ writeNbtIntField "logical_height" 256
  -- 1.0
  ++ writeNbtDoubleField "coordinate_scale" 0x3FF0000000000000#64
  ++ writeNbtByteField "ultrawarm" 0
  ++ writeNbtByteField "has_ceiling" 0
  ++ (if 759 ≤ pvn then
        writeNbtIntField "monster_spawn_block_light_limit" 0
        ++ writeNbtCompoundField "monster_spawn_light_level"
          (writeNbtStringField "type" "minecraft:uniform"
          ++ writeNbtCompoundField "value"
            (writeNbtIntField "max_inclusive" 7 ++ writeNbtIntField "min_inclusive" 0))
      else [])

def plainsBiomeElement (pvn : Int) : Bytes :=
  (if pvn < 759 then writeNbtStringField "precipitation" "rain"
    else writeNbtByteField "has_precipitation" 1)
  ++ writeNbtCompoundField "effects" (writeNbtIntField "sky_color" 7907327
    ++ writeNbtIntField "water_fog_color" 329011
    ++ writeNbtIntField "fog_color" 12638463
    ++ writeNbtIntField "water_color" 4159204
    ++ writeNbtCompoundField "mood_sound" (writeNbtIntField "tick_delay" 6000
      -- 2.0
      ++ writeNbtDoubleField "offset" 0x4000000000000000#64
      ++ writeNbtStringField "sound" "minecraft:ambient.cave"
      ++ writeNbtIntField "block_search_extent" 8))
  -- 0.8 and 0.4
  ++ writeNbtFloatField "temperature" 0x3F4CCCCD#32
  ++ writeNbtFloatField "downfall" 0x3ECCCCCD#32
  ++ (if pvn < 759 then
        -- 0.125 and 0.05
        writeNbtFloatField "depth" 0x3E000000#32
        ++ writeNbtFloatField "scale" 0x3D4CCCCD#32
        ++ writeNbtStringField "category" "plains"
      else [])

/-! ### Registries -/

/-- A registry: its type and a list with one entry. -/
def writeRegistry (key typeId entry : String) (element : Bytes) : Bytes :=
  writeNbtCompoundField key (writeNbtStringField "type" typeId
    ++ writeNbtListField "value" TAG_COMPOUND 1 (writeNbtStringField "name" entry
      ++ writeNbtIntField "id" 0
      ++ writeNbtCompoundField "element" element
      ++ [TAG_END]))

/-- `write_registry_entry_container`. The entry of every registry is called the End. -/
def writeRegistryEntryContainer (key typeId : String) (element : Bytes) : Bytes :=
  writeRegistry key typeId "minecraft:the_end" element

/-- A decoration of `write_chat_type_registry`, with its two parameters. -/
def writeChatDecoration (name translationKey : String) : Bytes :=
  writeNbtCompoundField name (writeNbtStringField "translation_key" translationKey
    ++ writeNbtListField "parameters" TAG_STRING 2
      (writeNbtString "sender" ++ writeNbtString "content"))

def writeChatTypeRegistry : Bytes :=
  writeRegistry "minecraft:chat_type" "minecraft:chat_type" "minecraft:chat"
    (writeChatDecoration "chat" "chat.type.text"
    ++ writeChatDecoration "narration" "chat.type.text.narrate")

def writeDamageTypeRegistry : Bytes :=
  writeRegistry "minecraft:damage_type" "minecraft:damage_type" "minecraft:generic"
    (writeNbtStringField "message_id" "generic"
    ++ writeNbtStringField "scaling" "never"
    ++ writeNbtFloatField "exhaustion" 0#32)

/-- The fields of `build_registry_codec`. -/
def registryFields (pvn : Int) : Bytes :=
  if pvn < 751 then
    writeRegistryEntryContainer "dimension" "minecraft:dimension_type"
      (writeDimensionTypeFields pvn)
  else
    writeRegistryEntryContainer "minecraft:dimension_type" "minecraft:dimension_type"
      (writeDimensionTypeFields pvn)
    ++ writeRegistryEntryContainer "minecraft:worldgen/biome" "minecraft:worldgen/biome"
      (plainsBiomeElement pvn)
    ++ (if 759 ≤ pvn then writeChatTypeRegistry else [])
    ++ (if 762 ≤ pvn then writeDamageTypeRegistry else [])

def buildRegistryCodec (pvn : Int) : Bytes := writeNbtCompoundField "" (registryFields pvn)

def buildDimensionCodec (pvn : Int) : Bytes :=
  writeNbtCompoundField "" (writeDimensionTypeFields pvn)

end RegistryNbt

end Infrarust
