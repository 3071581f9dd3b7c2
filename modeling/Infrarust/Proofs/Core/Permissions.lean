import Mathlib
import Infrarust.Core.Commands

/-!
# `Infrarust.Proofs.Core.Permissions`: three answers to one question

The root command asks `is_command_allowed`, the command tree and the tab completion have the names
in `visible_subcommands`, and plugins ask `has_permission`. Only the first puts the name in lower
case, and only the first two leave out the subcommands that stay with the admins.

`answers_agree_iff` says for which names the three agree. They differ for every other spelling of a
subcommand that may be used, and for a subcommand of the admins that the configuration opens to
players (`answers_differ`).
-/

set_option autoImplicit false

namespace Infrarust.PermissionService

variable (strings : Strings) (service : PermissionService) (playerUuid : Uuid) (name : String)

/-- The level that the checker of the player reports. -/
def levelOf : PermissionLevel := if playerUuid ∈ service.adminUuids then .admin else .player

/-- The root command, the command tree and the permission checker give the player the same answer
about a subcommand. -/
def AnswersAgree : Prop :=
  let allowed := service.isCommandAllowed strings name (service.levelOf playerUuid)
  allowed = decide (name ∈ service.visibleSubcommands (service.levelOf playerUuid)) ∧
    allowed = service.hasPermission playerUuid ("infrarust.command." ++ name)
deriving Decidable

theorem hasPermission_command :
    service.hasPermission playerUuid ("infrarust.command." ++ name) =
      (decide (playerUuid ∈ service.adminUuids) || decide (name ∈ service.playerCommands)) := by
  have hadmin : "infrarust.command." ++ name ≠ "infrarust.admin" := by
    intro h
    have hlist := congrArg (fun s => s.toList.drop 10) h
    rw [String.toList_append] at hlist
    cases hlist
  have hdrop : ("infrarust.command." ++ name).toList.dropPrefix? "infrarust.command.".toList =
      some name.toList := by
    rw [String.toList_append]
    exact List.dropPrefix?_append_of_beq _ (beq_self_eq_true _)
  unfold hasPermission
  rw [if_neg hadmin, hdrop]
  simp only [String.ofList_toList]

section Configured

variable {strings playerUuid name} {playerCommands : List String} {adminUuids : Finset Uuid}
  {info : SubcommandInfo}

/-- For an admin the answers agree about a name as it was registered. For a player they agree about
a name in lower case that is not both opened and the admins', and about another spelling of one
that the player may not use. -/
theorem answers_agree_iff
    (hidempotent : ∀ s, strings.toLowercase (strings.toLowercase s) = strings.toLowercase s) :
    let service : PermissionService :=
      (build strings playerCommands adminUuids).registerSubcommands info
    service.AnswersAgree strings playerUuid name ↔
      if playerUuid ∈ adminUuids then name ∈ info.all
      else if strings.toLowercase name = name then
        ¬(name ∈ service.playerCommands ∧ name ∈ info.adminOnly)
      else ¬(strings.toLowercase name ∈ service.playerCommands ∧
        strings.toLowercase name ∉ info.adminOnly) := by
  intro service
  have hinfo : service.subcommandInfo = some info := rfl
  have hadmins : service.adminUuids = adminUuids := rfl
  unfold AnswersAgree levelOf
  rw [hasPermission_command, hadmins]
  by_cases hadmin : playerUuid ∈ adminUuids
  · simp [isCommandAllowed, visibleSubcommands, hinfo, hadmin]
  · rw [if_neg hadmin, if_neg hadmin]
    simp only [isCommandAllowed, visibleSubcommands, hinfo, hadmin, Option.any_some,
      Option.all_some, Finset.mem_filter, decide_eq_true_eq, decide_false, Bool.false_or]
    by_cases hlower : strings.toLowercase name = name
    · -- the first two answers are the same
      rw [if_pos hlower, hlower]
      by_cases hopen : name ∈ service.playerCommands <;> by_cases hrestricted : name ∈ info.adminOnly
        <;> simp [hopen, hrestricted]
    · -- the name is not among the opened ones, as they are in lower case
      have hother : name ∉ service.playerCommands := by
        intro h
        obtain ⟨command, -, rfl⟩ := List.mem_map.mp (List.mem_toFinset.mp h)
        exact hlower (hidempotent command)
      rw [if_neg hlower]
      by_cases hrestricted : strings.toLowercase name ∈ info.adminOnly <;>
        simp [hother, hrestricted]

end Configured

theorem toLowercase_toLowercase_ascii (s) :
    asciiStrings.toLowercase (asciiStrings.toLowercase s) = asciiStrings.toLowercase s := by
  simp only [asciiStrings, String.toList_ofList, List.map_map]
  refine congrArg String.ofList (List.map_congr_left fun c _ => ?_)
  unfold Char.toLower
  grind

/-- A proxy with one admin whose players may use two subcommands, one of them an admin's. -/
def openedKick : PermissionService :=
  (build asciiStrings ["list", "kick"] {0x1#128}).registerSubcommands Subcommand.info

/-- A player has the permission for a subcommand of the admins and may not use it, and may use one
under a spelling for which they have no permission and that is not shown. -/
theorem answers_differ :
    ¬openedKick.AnswersAgree asciiStrings 0x2#128 "kick" ∧
      ¬openedKick.AnswersAgree asciiStrings 0x2#128 "LIST" ∧
      ¬openedKick.AnswersAgree asciiStrings 0x1#128 "LIST" := by
  decide

theorem answers_agree_list :
    "list" ∈ openedKick.playerCommands ∧ openedKick.AnswersAgree asciiStrings 0x2#128 "list" :=
  ⟨by decide, (answers_agree_iff toLowercase_toLowercase_ascii).mpr (by decide)⟩

end Infrarust.PermissionService
