import Infrarust.Core.Limbo.Spawn
import Infrarust.Proofs.Protocol.Nbt

/-!
# `Infrarust.Proofs.Core.Limbo.Spawn`: the dimension of a limbo JoinGame, read back

The writer and the reader of JoinGame branch on the version independently. They agree from 1.9
to 1.15 and from 1.19 on (`readBackDimension_eq_iff`). In the three other eras a field has
another layout on the two sides:

* up to 1.8 the writer has a dimension of one byte and the reader one of four,
* in 1.16 and 1.16.1 only the reader has a hardcore flag,
* from 1.16.2 to 1.18.2 the writer has a compound where the reader has a text.
-/

set_option autoImplicit false

namespace Infrarust

open FieldWriter ProtocolVersion List

namespace Limbo

open Readers (Reads)
open FieldReader Nbt RegistryNbt

/-- The limbo JoinGame of a version, decoded, and its dimension. -/
def readBackDimension (version : ProtocolVersion) : Except ProtocolError DimensionInfo := do
  let payload ← buildLimboJoinGame version
  let raw ← CJoinGame.decodeRawPayload.run' (CJoinGame.encodeRawPayload 0 payload)
  (extractDimensionFromJoinGame version).run' raw

/-- What `extractDimensionFromJoinGame` makes of the payload that was built. -/
theorem readBackDimension_eq {version payload} (h : buildLimboJoinGame version = .ok payload) :
    readBackDimension version = (extractDimensionFromJoinGame version).run' payload := by
  have hdec : CJoinGame.decodeRawPayload.run' (CJoinGame.encodeRawPayload 0 payload)
      = .ok payload := by
    rfl
  simp only [readBackDimension, h, bind, Except.bind]
  rw [hdec]

/-! ### The compounds -/

theorem fields_ite {levels p} [Decidable p] {bytes bytes'}
    (h : Fields levels bytes) (h' : Fields levels bytes') :
    Fields levels (if p then bytes else bytes') := by
  split
  · exact h
  · exact h'

theorem fields_writeRegistry {levels} {key typeId entry : String} {element}
    (hkey : key.utf8ByteSize < 65536) (htype : typeId.utf8ByteSize < 65536)
    (hent : entry.utf8ByteSize < 65536) (h : Fields (levels + 3) element) :
    Fields (levels + 7) (writeRegistry key typeId entry element) := by
  have hfields : Fields (levels + 4) (writeNbtStringField "name" entry ++ writeNbtIntField "id" 0
      ++ writeNbtCompoundField "element" element) := by
    refine .append ?_ (fields_compound (by decide) h)
    exact .append (fields_string (by decide) hent) (fields_int (by decide) _)
  refine fields_compound hkey (.append (fields_string (by decide) htype) ?_)
  refine fields_list (by decide) (by decide) ?_
  -- the list has one element
  have helement := (hfields _ .endTag).compound.element .noElement
  rwa [append_nil] at helement

theorem fields_writeChatTypeRegistry (levels) : Fields (levels + 7) writeChatTypeRegistry := by
  have hparameters : Encodes (levels + 1) (.elements TAG_STRING 2)
      (writeNbtString "sender" ++ (writeNbtString "content" ++ [])) :=
    .element (.string (encodesText_writeNbtString (by decide)))
      (.element (.string (encodesText_writeNbtString (by decide))) .noElement)
  rw [append_nil] at hparameters
  have hdecoration : ∀ {name translationKey : String}, name.utf8ByteSize < 65536 →
      translationKey.utf8ByteSize < 65536 →
      Fields (levels + 3) (writeChatDecoration name translationKey) := by
    intro name translationKey hname htranslation
    refine fields_compound hname (.append (fields_string (by decide) htranslation) ?_)
    exact fields_list (by decide) (by decide) hparameters
  refine fields_writeRegistry (by decide) (by decide) (by decide) ?_
  exact .append (hdecoration (by decide) (by decide)) (hdecoration (by decide) (by decide))

theorem fields_registryFields (levels pvn) : Fields (levels + 7) (registryFields pvn) := by
  simp only [registryFields, writeRegistryEntryContainer, writeDimensionTypeFields,
    plainsBiomeElement, writeDamageTypeRegistry]
  -- the writers put fields side by side and into compounds
  repeat' with_reducible first
    | exact fields_byte (by decide) _
    | exact fields_int (by decide) _
    | exact fields_float (by decide) _
    | exact fields_double (by decide) _
    | exact fields_string (by decide) (by decide)
    | exact fields_writeChatTypeRegistry levels
    | exact .nil
    | refine fields_writeRegistry (by decide) (by decide) (by decide) ?_
    | refine fields_compound (by decide) ?_
    | refine fields_ite ?_ ?_
    | refine .append ?_ ?_

/-! ### Up to 1.15 -/

variable {version other : ProtocolVersion}

theorem not_lessThan (h : other.num ≤ version.num) : ¬ version.lessThan other := by
  rw [lessThan_iff]
  exact Int.not_lt.mpr h

theorem not_noLessThan (h : version.num < other.num) : ¬ version.noLessThan other := by
  rw [noLessThan_iff]
  exact Int.not_le.mpr h

theorem buildLimboJoinGame_of_lt (h : version.num < 735) :
    buildLimboJoinGame version = buildPre116JoinGamePayload version :=
  if_pos (lessThan_iff.mpr h)

theorem extractDimensionFromJoinGame_of_lt_V1_16 (h : version.num < 735) {dimension rest} :
    (extractDimensionFromJoinGame version).run' ([2] ++ (toBeBytes 4 dimension ++ rest))
      = .ok (.legacy dimension) := by
  have hmodern : ¬ version.noLessThan .V1_20_2 := not_noLessThan (h.trans (by decide))
  have hleg : version.lessThan .V1_16 := lessThan_iff.mpr h
  show Prod.fst <$> (extractDimensionFromJoinGame version).run _ = _
  rw [extractDimensionFromJoinGame, if_neg hmodern, if_pos hleg]
  rw [(reads_readU8 2).run_bind, (reads_readI32Be dimension).run_bind]
  rfl

/-- Up to 1.8 the four bytes the reader takes are the dimension and the three fields behind it. -/
theorem readBackDimension_of_lt_V1_9 (h : version.num < 107) :
    readBackDimension version = .ok (.legacy 0x01000107) := by
  have hpay : ∃ rest, buildLimboJoinGame version
      = .ok ([2] ++ (toBeBytes 4 (0x01000107 : I32) ++ rest)) := by
    have hdefault : string "default" = .ok ([7] ++ "default".toByteArray.toList) := by
      decide +kernel
    have h477 : version.num < 477 := by omega
    have h573 : ¬ 573 ≤ version.num := by omega
    have hplayers : ¬ (477 ≤ version.num ∧ version.num < 573) := by omega
    have h735 : version.num < 735 := by omega
    rw [buildLimboJoinGame_of_lt h735, buildPre116JoinGamePayload, hdefault]
    simp only [lessThan_iff, noLessThan_iff, Bool.and_eq_true,
      V1_9, V1_14, V1_15, if_pos h, if_pos h477,
      if_neg h573, if_neg hplayers, append_assoc, nil_append]
    exact ⟨_, rfl⟩
  obtain ⟨rest, hpay⟩ := hpay
  rw [readBackDimension_eq hpay]
  exact extractDimensionFromJoinGame_of_lt_V1_16 (by omega)

/-- From 1.9 to 1.15 the dimension has four bytes on both sides. -/
theorem readBackDimension_of_lt_V1_16 (h : 107 ≤ version.num) (h' : version.num < 735) :
    readBackDimension version = .ok (.legacy LIMBO_DIM) := by
  have hpay : ∃ rest, buildLimboJoinGame version
      = .ok ([2] ++ (toBeBytes 4 LIMBO_DIM ++ rest)) := by
    have hint : ¬ version.lessThan .V1_9 := not_lessThan h
    rw [buildLimboJoinGame_of_lt h', buildPre116JoinGamePayload]
    simp only [if_neg hint, append_assoc]
    exact ⟨_, rfl⟩
  obtain ⟨rest, hpay⟩ := hpay
  rw [readBackDimension_eq hpay]
  exact extractDimensionFromJoinGame_of_lt_V1_16 h'

/-! ### From 1.16 on -/

theorem buildLimboJoinGame_of_le (h : 735 ≤ version.num) :
    buildLimboJoinGame version = build116To1201JoinGamePayload version :=
  if_neg (not_lessThan h)

/-- What the reader does behind the registry codec. -/
def readDimensionName (version : ProtocolVersion) : FieldReader DimensionInfo := do
  if version.lessThan .V1_16_2 then skipNbtCompound
  else do let _ ← readString
  return .named (← readString)

/-- The reader from 1.16 on, over the fields that the writer has in front of the dimension. -/
theorem extractDimensionFromJoinGame_of_le_V1_16 (h : 735 ≤ version.num) (h' : version.num < 764)
    {name} (hname : string LIMBO_DIMENSION_NAME = .ok name) {rest} :
    (extractDimensionFromJoinGame version).run (bool false ++ ([2, 0xFF]
        ++ (VarInt.encode 1 ++ (name ++ (buildRegistryCodec version.num ++ rest)))))
      = (readDimensionName version).run rest := by
  have hmodern : ¬ version.noLessThan .V1_20_2 := not_noLessThan h'
  have hleg : ¬ version.lessThan .V1_16 := not_lessThan h
  have hworlds : Reads (skipElements (do let _ ← readString) (1 : I32).toInt.toNat) name () :=
    ((reads_readString hname).map _).map _
  rw [extractDimensionFromJoinGame, if_neg hmodern, if_neg hleg]
  rw [(reads_readBool false).run_bind]
  show StateT.run (readU8 >>= _) ([2] ++ ([0xFF] ++ _)) = _
  rw [(reads_readU8 2).run_bind, (reads_readU8 0xFF).run_bind, (reads_readVarInt 1).run_bind,
    hworlds.run_bind, buildRegistryCodec,
    (reads_skipNbtCompound (by decide) (fields_registryFields 505 _)).run_bind]
  rfl

/-- In 1.16 and 1.16.1 the reader takes the game mode for the hardcore flag. -/
theorem readBackDimension_of_lt_V1_16_2 (h : 735 ≤ version.num) (h' : version.num < 751) :
    readBackDimension version = .error (.invalid "bool value must be 0 or 1") := by
  have hpay : ∃ rest, buildLimboJoinGame version = .ok ([2] ++ rest) := by
    have hflag : ¬ 751 ≤ version.num := Int.not_le.mpr h'
    rw [buildLimboJoinGame_of_le h, build116To1201JoinGamePayload]
    simp only [if_neg hflag, append_assoc, nil_append]
    exact ⟨_, rfl⟩
  obtain ⟨rest, hpay⟩ := hpay
  have hmodern : ¬ version.noLessThan .V1_20_2 := not_noLessThan (h'.trans (by decide))
  have hleg : ¬ version.lessThan .V1_16 := not_lessThan h
  rw [readBackDimension_eq hpay]
  rw [extractDimensionFromJoinGame, if_neg hmodern, if_neg hleg]
  rfl

/-- The payload from 1.16.2 on. -/
theorem buildLimboJoinGame_of_V1_16_2_le (h : 751 ≤ version.num) {name}
    (hname : string LIMBO_DIMENSION_NAME = .ok name) : ∃ rest,
    buildLimboJoinGame version = .ok (bool false ++ ([2, 0xFF]
        ++ (VarInt.encode 1 ++ (name ++ (buildRegistryCodec version.num
          ++ ((if version.num ≤ 758 then buildDimensionCodec version.num else [])
            ++ (name ++ (name ++ rest)))))))) := by
  have hcodec : (751 ≤ version.num ∧ version.num ≤ 758) = (version.num ≤ 758) := by
    simp [h]
  rw [buildLimboJoinGame_of_le (by omega), build116To1201JoinGamePayload, hname]
  simp only [if_pos h, hcodec, append_assoc]
  exact ⟨_, rfl⟩

/-- The dimension codec begins like a text of ten bytes and the length of one of 110 bytes: the
tag of the compound, the head of its first field, and a letter of the field's name. -/
theorem buildDimensionCodec_eq {pvn} : ∃ rest, buildDimensionCodec pvn
    = [10, 0, 0, 1, 0, 11, 112, 105, 103, 108, 105] ++ (VarInt.encode 110#32 ++ rest) := by
  have hfst : [TAG_COMPOUND] ++ (writeNbtString "" ++ writeNbtByteField "piglin_safe" 0)
      = [10, 0, 0, 1, 0, 11, 112, 105, 103, 108, 105]
        ++ (VarInt.encode 110#32 ++ [95, 115, 97, 102, 101, 0]) := by
    decide +kernel
  obtain ⟨more, hmore⟩ : ∃ more, writeDimensionTypeFields pvn
      = writeNbtByteField "piglin_safe" 0 ++ more := by
    simp only [writeDimensionTypeFields, append_assoc]
    exact ⟨_, rfl⟩
  refine ⟨[95, 115, 97, 102, 101, 0] ++ (more ++ [TAG_END]), ?_⟩
  calc buildDimensionCodec pvn
      = ([TAG_COMPOUND] ++ (writeNbtString "" ++ writeNbtByteField "piglin_safe" 0))
          ++ (more ++ [TAG_END]) := by
        rw [buildDimensionCodec, writeNbtCompoundField, writeNbtField, hmore]
        simp
    _ = _ := by
        rw [hfst]
        simp only [append_assoc]

/-- From 1.16.2 to 1.18.2 the reader takes the beginning of the dimension codec for two texts, and
the second of them is longer than the name that was written. -/
theorem readBackDimension_of_lt_V1_19 (h : 751 ≤ version.num) (h' : version.num < 759) :
    readBackDimension version ≠ .ok (.named LIMBO_DIMENSION_NAME) := by
  obtain ⟨name, hname⟩ : ∃ bytes, string LIMBO_DIMENSION_NAME = .ok bytes := ⟨_, rfl⟩
  obtain ⟨rest, hpay⟩ := buildLimboJoinGame_of_V1_16_2_le h hname
  obtain ⟨codec, hcodec⟩ := buildDimensionCodec_eq
  have hcomp : ¬ version.lessThan .V1_16_2 := not_lessThan h
  have htext : string "\x00\x00\x01\x00\x0bpigli"
      = .ok [10, 0, 0, 1, 0, 11, 112, 105, 103, 108, 105] := by
    decide +kernel
  rw [if_pos (by omega), hcodec, append_assoc, append_assoc] at hpay
  intro hread
  rw [readBackDimension_eq hpay] at hread
  change Prod.fst <$> (extractDimensionFromJoinGame version).run _ = _ at hread
  rw [extractDimensionFromJoinGame_of_le_V1_16 (by omega) (by omega) hname, readDimensionName,
    if_neg hcomp, (reads_readString htext).run_bind, StateT.run_bind] at hread
  cases hsnd : readString.run (VarInt.encode 110#32 ++ (codec ++ (name ++ (name ++ rest)))) with
  | error e =>
      rw [hsnd] at hread
      cases hread
  | ok result =>
      obtain ⟨text, left⟩ := result
      have hsize : text.utf8ByteSize = 110 := utf8ByteSize_of_readString (by decide) hsnd
      rw [hsnd] at hread
      cases hread
      exact absurd hsize (by decide)

/-- From 1.19 on two texts follow the registry codec on both sides. -/
theorem readBackDimension_of_V1_19_le (h : 759 ≤ version.num) (h' : version.num < 764) :
    readBackDimension version = .ok (.named LIMBO_DIMENSION_NAME) := by
  obtain ⟨name, hname⟩ : ∃ bytes, string LIMBO_DIMENSION_NAME = .ok bytes := ⟨_, rfl⟩
  obtain ⟨rest, hpay⟩ := buildLimboJoinGame_of_V1_16_2_le (show 751 ≤ version.num by omega) hname
  have hcomp : ¬ version.lessThan .V1_16_2 := not_lessThan (Int.le_trans (by decide) h)
  have htext := reads_readString hname
  rw [if_neg (by omega), nil_append] at hpay
  rw [readBackDimension_eq hpay]
  show Prod.fst <$> (extractDimensionFromJoinGame version).run _ = _
  rw [extractDimensionFromJoinGame_of_le_V1_16 (by omega) h' hname, readDimensionName,
    if_neg hcomp, htext.run_bind, htext.run_bind]
  rfl

/-! ### All versions -/

/-- Writer and reader agree on the dimension exactly from 1.9 to 1.15 and from 1.19 on. -/
theorem readBackDimension_eq_iff (version : ProtocolVersion) (h : version.lessThan .V1_20_2) :
    readBackDimension version = .ok (limboDimension version)
      ↔ (V1_9.num ≤ version.num ∧ version.num < V1_16.num) ∨ V1_19.num ≤ version.num := by
  have h764 : version.num < 764 := lessThan_iff.mp h
  have hleg : version.num < 735 → limboDimension version = .legacy LIMBO_DIM :=
    fun hlt => if_pos (lessThan_iff.mpr hlt)
  have hnamed : 735 ≤ version.num → limboDimension version = .named LIMBO_DIMENSION_NAME :=
    fun hle => if_neg (not_lessThan hle)
  show _ ↔ (107 ≤ version.num ∧ version.num < 735) ∨ 759 ≤ version.num
  constructor
  · intro hread
    by_contra hera
    -- the three eras in which the layouts differ
    rcases Int.lt_or_le version.num 107 with h107 | h107
    · rw [readBackDimension_of_lt_V1_9 h107, hleg (by omega)] at hread
      exact absurd hread (by decide)
    · rcases Int.lt_or_le version.num 751 with h751 | h751
      · rw [readBackDimension_of_lt_V1_16_2 (by omega) h751] at hread
        cases hread
      · rw [hnamed (by omega)] at hread
        exact readBackDimension_of_lt_V1_19 h751 (by omega) hread
  · rintro (⟨h107, h735⟩ | h759)
    · rw [readBackDimension_of_lt_V1_16 h107 h735, hleg h735]
    · rw [readBackDimension_of_V1_19_le h759 h764, hnamed (by omega)]

/-- The JoinGame of 1.19 is read back. -/
theorem readBackDimension_V1_19 : readBackDimension .V1_19 = .ok (limboDimension .V1_19) :=
  (readBackDimension_eq_iff .V1_19 (by decide)).2 (by decide)

/-- The JoinGame of 1.8 is read back with another dimension. -/
theorem readBackDimension_V1_8 : ¬ ∀ version : ProtocolVersion, version.lessThan .V1_20_2 →
    readBackDimension version = .ok (limboDimension version) := by
  intro h
  have h8 := h .V1_8 (by decide)
  rw [readBackDimension_of_lt_V1_9 (by decide)] at h8
  exact absurd h8 (by decide)

end Limbo

end Infrarust
