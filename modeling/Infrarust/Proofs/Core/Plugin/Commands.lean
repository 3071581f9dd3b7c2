import Infrarust.Core.Plugin.Context
import Infrarust.Proofs.Core.Services.CommandManager

/-!
# `Infrarust.Proofs.Core.Plugin.Commands`: a cleanup and the commands of the other plugins

A context records names, and a cleanup unregisters the command of each name, whoever it belongs to
now. With a command go its aliases, even one that has come to stand for the command of another
plugin. And an alias that goes may have hidden a command whose name it was.

`cleanup_keeps_commands_iff` compares the inputs that run a command of a plugin before and after the
cleanup of another one. They are the same if and only if every word that can be typed is `Spared`,
which is a condition on the two maps and the recorded names before the cleanup.
-/

set_option autoImplicit false

namespace Infrarust

namespace CommandManager

variable {strings : Strings}

/-- The handler, if the command belongs to the plugin. -/
def handlerOf (pluginId : String) (command : Option RegisteredCommand) : Option CommandHandler :=
  (command.filter fun c => !c.isBuiltin && c.pluginId = pluginId).map (·.handler)

/-- The handler that an input runs, if it is of the plugin. -/
def runsFor (strings : Strings) (manager : CommandManager) (pluginId input : String) :
    Option CommandHandler :=
  handlerOf pluginId (manager.commandAt (typedWord strings input))

theorem dispatch_of_runsFor {manager : CommandManager} {pluginId input handler} (h : manager.runsFor strings pluginId input = some handler)
    {playerId} :
    (manager.dispatch strings playerId input).map Prod.fst = some handler := by
  obtain ⟨command, hcmd, rfl⟩ := Option.map_eq_some_iff.mp h
  rw [dispatch_map_fst, (Option.filter_eq_some_iff.mp hcmd).1]
  rfl

/-- The word is an alias of a command that goes with the names. -/
abbrev Leaving (strings : Strings) (manager : CommandManager) (names : List String)
    (word : String) : Prop :=
  ∃ name ∈ names, word ∈ manager.aliasesOf (strings.toLowercase name)

/-- The word runs the same command of the plugin without the commands of the names. If it does not
go itself, then no command of the plugin goes from under it. If it goes, then it stood for what the
command of that name is. -/
structure Spared (strings : Strings) (manager : CommandManager) (names : List String)
    (pluginId word : String) : Prop where
  stays : ¬Leaving strings manager names word →
    manager.canonical word ∈ names.map strings.toLowercase →
      handlerOf pluginId (manager.commandAt word) = none
  leaves : Leaving strings manager names word →
    handlerOf pluginId (manager.commandAt word) =
      if word ∈ names.map strings.toLowercase then none
      else handlerOf pluginId (manager.commands.lookup word)

section Loop

variable (names : List String) (manager : CommandManager) (word : String)

/-- The manager after the loop of a cleanup. -/
private abbrev afterLoop (strings : Strings) : CommandManager :=
  names.foldl (fun manager name => manager.unregister strings name) manager

variable {names manager word}

theorem commandAt_of_leaving (h : Leaving strings manager names word) :
    (afterLoop names manager strings).commandAt word =
      if word ∈ names.map strings.toLowercase then none else manager.commands.lookup word := by
  have hcanon : (afterLoop names manager strings).canonical word = word := by
    rw [canonical, (lookup_foldl_unregister names manager word).2, if_pos h]
    rfl
  rw [commandAt, hcanon, (lookup_foldl_unregister names manager word).1]

theorem commandAt_of_not_leaving (h : ¬Leaving strings manager names word) :
    (afterLoop names manager strings).commandAt word =
      if manager.canonical word ∈ names.map strings.toLowercase then none
      else manager.commandAt word := by
  have hcanon : (afterLoop names manager strings).canonical word = manager.canonical word := by
    rw [canonical, (lookup_foldl_unregister names manager word).2, if_neg h]
    rfl
  rw [commandAt, hcanon, (lookup_foldl_unregister names manager _).1]
  rfl

/-- The loop of a cleanup, for one word. -/
theorem handlerOf_afterLoop (pluginId) :
    handlerOf pluginId ((afterLoop names manager strings).commandAt word) =
        handlerOf pluginId (manager.commandAt word) ↔
      Spared strings manager names pluginId word := by
  by_cases hleaving : Leaving strings manager names word
  · rw [commandAt_of_leaving hleaving, apply_ite (handlerOf pluginId)]
    exact ⟨fun h => ⟨fun hstays => absurd hleaving hstays, fun _ => h.symm⟩,
      fun h => (h.leaves hleaving).symm⟩
  · rw [commandAt_of_not_leaving hleaving]
    by_cases hname : manager.canonical word ∈ names.map strings.toLowercase
    · rw [if_pos hname]
      exact ⟨fun h => ⟨fun _ _ => h.symm, fun hleaves => absurd hleaves hleaving⟩,
        fun h => (h.stays hleaving hname).symm⟩
    · rw [if_neg hname]
      exact ⟨fun _ => ⟨fun _ hmem => absurd hmem hname, fun hleaves => absurd hleaves hleaving⟩,
        fun _ => rfl⟩

end Loop

end CommandManager

namespace PluginHost

open CommandManager (typedWord)

/-- The cleanup of a plugin leaves the commands of `other` and the words that run them as they are,
if and only if every word that can be typed is spared. -/
theorem cleanup_keeps_commands_iff (strings : Strings) (orders : HostOrders) (host : PluginHost)
    (pluginId other : String) :
    (∀ input, (host.cleanup strings orders pluginId).commands.runsFor strings other input =
      host.commands.runsFor strings other input) ↔
    ∀ input, host.commands.Spared strings (host.contexts pluginId).registeredCommands other
      (typedWord strings input) :=
  forall_congr' fun _ => CommandManager.handlerOf_afterLoop other

/-- `essentials` has registered `home` and `warp`, and then `teleport` registers a `home` of its own
and an alias that `warp` has. -/
private def homeTwice : List Label :=
  [.perform "essentials" (.registerCommand "home" [] "Goes home" 1),
    .perform "essentials" (.registerCommand "warp" ["w"] "Goes to a warp" 2),
    .perform "teleport" (.registerCommand "home" [] "Goes home" 3),
    .perform "teleport" (.registerCommand "world" ["w"] "Changes the world" 4)]

/-- Without `essentials`, the `home` of `teleport` and its alias `w` are gone. -/
theorem cleanup_takes_home :
    ∃ host, Machine.Run (Step asciiStrings fun _ => .ok []) (start asciiStrings .new fun _ => [])
        homeTwice host ∧
      (host.commands.runsFor asciiStrings "teleport" "home" = some (.plugin 3) ∧
        host.commands.runsFor asciiStrings "teleport" "w nether" = some (.plugin 4)) ∧
      (host.cleanup asciiStrings .entries "essentials").commands.runsFor asciiStrings "teleport"
        "home" = none ∧
      (host.cleanup asciiStrings .entries "essentials").commands.runsFor asciiStrings "teleport"
        "w nether" = none := by
  exact Machine.exists_run (f := step asciiStrings (fun _ => .ok []) .entries)
    (fun _ _ _ h => ⟨_, h⟩) (by decide)

end PluginHost

end Infrarust
