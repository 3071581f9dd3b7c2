import Infrarust.Core.Services.CommandManager

/-!
# `Infrarust.Proofs.Core.Services.CommandManager`: names, aliases and the built-in command

`dispatch` asks the aliases first and then the commands. Registration refuses the name of a
built-in command, and nothing else: an alias may be any word, and `unregister` removes whatever
command has the name, built-in or not.

`root_always_runs_iff` is about any sequence of calls that plugins make. The built-in command stays
in reach under its name and its alias if and only if no accepted registration has one of these two
words as an alias and no call unregisters the built-in name.
-/

set_option autoImplicit false

namespace Infrarust

open List Dict

namespace CommandManager

variable {strings : Strings}

/-! ### What a word stands for -/

/-- The word that `dispatch` looks up for an input. -/
def typedWord (strings : Strings) (input : String) : String :=
  let input := Text.trim input
  strings.toLowercase ((Text.splitOnce ' ' input).getD (input, "")).1

variable (manager : CommandManager)

/-- The name that a word stands for. -/
def canonical (word : String) : String := (manager.aliases.lookup word).getD word

/-- The command that a word stands for. -/
def commandAt (word : String) : Option RegisteredCommand :=
  manager.commands.lookup (manager.canonical word)

theorem dispatch_map_fst (playerId input) :
    (manager.dispatch strings playerId input).map Prod.fst =
      (manager.commandAt (typedWord strings input)).map RegisteredCommand.handler := by
  rw [dispatch, Option.map_map]
  rfl

/-! ### The maps after one call -/

variable {aliases : Dict String String} {word name : String}

theorem lookup_foldl_erase {words : List String} :
    (words.foldl (fun aliases name => aliases.erase name) aliases).lookup word =
      if word ∈ words then none else aliases.lookup word := by
  induction words generalizing aliases with
  | nil => simp
  | cons first words ih =>
    rw [foldl_cons, ih, lookup_erase_eq]
    by_cases hword : word = first <;> simp [hword]

theorem lookup_foldl_alias {words : List String} :
    (words.foldl (fun aliases word => aliases.insert word name) aliases).lookup word =
      if word ∈ words then some name else aliases.lookup word := by
  rcases lookup_foldl_insert_cases id (fun _ => name) words aliases word with
    ⟨found, hmem, hfound, hget⟩ | ⟨hnone, hget⟩
  · rw [if_pos (show word ∈ words from hfound ▸ hmem)]
    exact hget
  · rw [if_neg fun hmem => hnone word hmem rfl]
    exact hget

theorem lookup_commands_unregister {manager : CommandManager} :
    (manager.unregister strings name).commands.lookup word =
      if word = strings.toLowercase name then none else manager.commands.lookup word :=
  lookup_erase_eq _ _ _

/-- The aliases of the command of a name. -/
def aliasesOf (name : String) : List String :=
  ((manager.commands.lookup name).map (·.aliases)).getD []

variable {manager : CommandManager}

theorem mem_aliasesOf :
    word ∈ manager.aliasesOf name ↔
      ∃ command, manager.commands.lookup name = some command ∧ word ∈ command.aliases := by
  rw [aliasesOf]
  cases manager.commands.lookup name with
  | none | some command => simp

theorem lookup_aliases_unregister {manager : CommandManager} :
    (manager.unregister strings name).aliases.lookup word =
      if word ∈ manager.aliasesOf (strings.toLowercase name) then none
      else manager.aliases.lookup word :=
  lookup_foldl_erase

/-- What a loop over names leaves. The aliases that go are those of the commands at the start. -/
theorem lookup_foldl_unregister (names : List String) (manager : CommandManager) (word) :
    ((names.foldl (fun manager name => manager.unregister strings name)
        manager).commands.lookup word =
      if word ∈ names.map strings.toLowercase then none else manager.commands.lookup word) ∧
    ((names.foldl (fun manager name => manager.unregister strings name)
        manager).aliases.lookup word =
      if ∃ name ∈ names, word ∈ manager.aliasesOf (strings.toLowercase name) then none
      else manager.aliases.lookup word) := by
  induction names generalizing manager with
  | nil => simp
  | cons name names ih =>
    obtain ⟨hcmds, haliases⟩ := ih (manager.unregister strings name)
    -- another name has the aliases that it had before, and the same name has none left
    have hothers : ∀ other, word ∈ (manager.unregister strings name).aliasesOf other ↔
        other ≠ strings.toLowercase name ∧ word ∈ manager.aliasesOf other := by
      intro other
      simp only [mem_aliasesOf, lookup_commands_unregister]
      by_cases hother : other = strings.toLowercase name <;> simp [hother]
    rw [foldl_cons, hcmds, haliases, lookup_commands_unregister, lookup_aliases_unregister]
    refine ⟨?_, ?_⟩
    · by_cases hname : word = strings.toLowercase name <;> simp [hname]
    · by_cases hname : word ∈ manager.aliasesOf (strings.toLowercase name)
      · simp [hname]
      · have hiff : (∃ other ∈ names,
            word ∈ (manager.unregister strings name).aliasesOf (strings.toLowercase other)) ↔
            ∃ other ∈ name :: names, word ∈ manager.aliasesOf (strings.toLowercase other) := by
          simp only [hothers, exists_mem_cons_iff, hname, false_or]
          refine exists_congr fun other => and_congr_right fun _ => ?_
          exact and_iff_right_of_imp fun hmem heq => hname (heq ▸ hmem)
        simp only [hiff, hname, if_false]

/-- The name belongs to a built-in command, so a plugin cannot register it. -/
def refuses (strings : Strings) (manager : CommandManager) (name : String) : Prop :=
  (manager.commands.lookup (strings.toLowercase name)).any (·.isBuiltin) = true

section Register

variable {manager : CommandManager} {name : String} {aliases : List String} {description : String}
  {handler : CommandHandler} {pluginId : String}

theorem registerWithPluginId_of_refuses (h : manager.refuses strings name) :
    manager.registerWithPluginId strings name aliases description handler pluginId = manager :=
  if_pos h

theorem registerWithPluginId_of_not_refuses (h : ¬manager.refuses strings name) :
    manager.registerWithPluginId strings name aliases description handler pluginId =
      (manager.unregister strings name).insertCommand (strings.toLowercase name)
        ⟨handler, aliases.map strings.toLowercase, description, false, pluginId⟩ :=
  if_neg h

theorem lookup_commands_register (h : ¬manager.refuses strings name) (word) :
    (manager.registerWithPluginId strings name aliases description handler
        pluginId).commands.lookup word =
      if word = strings.toLowercase name then
        some ⟨handler, aliases.map strings.toLowercase, description, false, pluginId⟩
      else manager.commands.lookup word := by
  rw [registerWithPluginId_of_not_refuses h, insertCommand, lookup_insert_eq,
    lookup_commands_unregister]
  by_cases hword : word = strings.toLowercase name
  · rw [if_pos hword, if_pos hword]
  · rw [if_neg hword, if_neg hword, if_neg hword]

theorem lookup_aliases_register (h : ¬manager.refuses strings name) :
    (manager.registerWithPluginId strings name aliases description handler
        pluginId).aliases.lookup word =
      if word ∈ aliases.map strings.toLowercase then some (strings.toLowercase name)
      else if word ∈ manager.aliasesOf (strings.toLowercase name) then none
      else manager.aliases.lookup word := by
  rw [registerWithPluginId_of_not_refuses h, insertCommand, lookup_foldl_alias,
    lookup_aliases_unregister]

end Register

/-! ### The built-in command -/

/-- A call that a plugin makes. -/
inductive PluginCommandOp where
  | register (name : String) (aliases : List String) (description : String) (handler : Nat)
    (pluginId : String)
  | unregister (name : String)
deriving DecidableEq, Repr

def applyOp (strings : Strings) (manager : CommandManager) : PluginCommandOp → CommandManager
  | .register name aliases description handler pluginId =>
    manager.registerWithPluginId strings name aliases description (.plugin handler) pluginId
  | .unregister name => manager.unregister strings name

/-- The manager after `register_builtin_commands` and calls of plugins. -/
def afterOps (strings : Strings) (ops : List PluginCommandOp) : CommandManager :=
  ops.foldl (applyOp strings) (new.registerBuiltinCommands strings)

/-- The words of the built-in command: its name and its alias. -/
def rootWords (strings : Strings) : List String :=
  [strings.toLowercase "infrarust", strings.toLowercase "ir"]

/-- An input with one of these words runs the built-in handler. -/
def RootRuns (strings : Strings) (manager : CommandManager) : Prop :=
  ∀ playerId input, typedWord strings input ∈ rootWords strings →
    (manager.dispatch strings playerId input).map Prod.fst = some .infrarustRoot

/-- The call leaves the words of the built-in command alone. A registration under the built-in name
is refused, with its aliases. -/
def PluginCommandOp.SparesRoot (strings : Strings) : PluginCommandOp → Prop
  | .register name aliases _ _ _ =>
    strings.toLowercase name = strings.toLowercase "infrarust" ∨
      ∀ word ∈ aliases.map strings.toLowercase, word ∉ rootWords strings
  | .unregister name => strings.toLowercase name ≠ strings.toLowercase "infrarust"

/-- The built-in command is in place, and no other command has one of its words as an alias. -/
structure RootIntact (strings : Strings) (manager : CommandManager) : Prop where
  command : ∃ root, manager.commands.lookup (strings.toLowercase "infrarust") = some root ∧
    root.isBuiltin = true ∧ root.handler = .infrarustRoot
  canonical : ∀ word ∈ rootWords strings, manager.canonical word = strings.toLowercase "infrarust"
  others : ∀ name command, manager.commands.lookup name = some command →
    name ≠ strings.toLowercase "infrarust" →
      command.isBuiltin = false ∧ ∀ word ∈ command.aliases, word ∉ rootWords strings

theorem rootIntact_start : RootIntact strings (new.registerBuiltinCommands strings) where
  command := ⟨_, AList.lookup_insert _, rfl, rfl⟩
  canonical word hword := by
    have hget : (new.registerBuiltinCommands strings).aliases.lookup word =
        if word = strings.toLowercase "ir" then some (strings.toLowercase "infrarust")
        else none := lookup_insert_eq _ _ _ _
    rw [CommandManager.canonical, hget]
    split
    case isTrue => rfl
    case isFalse hir =>
      exact (mem_cons.mp hword).resolve_right fun hmem => hir (mem_singleton.mp hmem)
  others name command hget hname := by
    rcases lookup_insert_inv hget with ⟨hname', -⟩ | ⟨-, hget⟩
    · exact absurd hname' hname
    · cases hget

/-- Both words can be typed. -/
theorem exists_typedWord (h : word ∈ rootWords strings) :
    ∃ input, typedWord strings input = word := by
  rcases mem_cons.mp h with rfl | h
  · exact ⟨"infrarust", rfl⟩
  · exact ⟨"ir", (mem_singleton.mp h).symm⟩

theorem RootIntact.rootRuns (h : RootIntact strings manager) : RootRuns strings manager := by
  intro playerId input hword
  obtain ⟨root, hroot, -, hhdlr⟩ := h.command
  rw [dispatch_map_fst, commandAt, h.canonical _ hword, hroot, Option.map_some, hhdlr]

/-- One call. -/
theorem RootIntact.applyOp (h : RootIntact strings manager) {op : PluginCommandOp}
    (hop : op.SparesRoot strings) : RootIntact strings (applyOp strings manager op) := by
  obtain ⟨root, hroot, hblt, hhdlr⟩ := h.command
  cases op with
  | unregister name =>
    -- a command with another name has none of the words as an alias
    have haliases : ∀ word ∈ rootWords strings,
        word ∉ manager.aliasesOf (strings.toLowercase name) := by
      intro word hword hmem
      obtain ⟨command, hcmd, halias⟩ := mem_aliasesOf.mp hmem
      exact (h.others _ command hcmd hop).2 word halias hword
    refine ⟨⟨root, ?_, hblt, hhdlr⟩, fun word hword => ?_, fun other command hother => ?_⟩
    · rw [CommandManager.applyOp, lookup_commands_unregister, if_neg fun heq => hop heq.symm, hroot]
    · rw [CommandManager.canonical, CommandManager.applyOp, lookup_aliases_unregister,
        if_neg (haliases word hword)]
      exact h.canonical word hword
    · rw [CommandManager.applyOp, lookup_commands_unregister] at hother
      split at hother
      · cases hother
      · exact h.others other command hother
  | register name aliases description handler pluginId =>
    by_cases href : manager.refuses strings name
    · rw [CommandManager.applyOp, registerWithPluginId_of_refuses href]
      exact h
    · have hname : strings.toLowercase name ≠ strings.toLowercase "infrarust" := by
        intro heq
        refine href ?_
        rw [refuses, heq, hroot]
        exact hblt
      have hfresh := hop.resolve_left hname
      have haliases : ∀ word ∈ rootWords strings,
          word ∉ manager.aliasesOf (strings.toLowercase name) := by
        intro word hword hmem
        obtain ⟨command, hcmd, halias⟩ := mem_aliasesOf.mp hmem
        exact (h.others _ command hcmd hname).2 word halias hword
      refine ⟨⟨root, ?_, hblt, hhdlr⟩, fun word hword => ?_, fun other command hother hne => ?_⟩
      · rw [CommandManager.applyOp, lookup_commands_register href,
          if_neg fun heq => hname heq.symm, hroot]
      · rw [CommandManager.canonical, CommandManager.applyOp, lookup_aliases_register href,
          if_neg fun hmem => hfresh word hmem hword, if_neg (haliases word hword)]
        exact h.canonical word hword
      · rw [CommandManager.applyOp, lookup_commands_register href] at hother
        split at hother
        · cases hother
          exact ⟨rfl, hfresh⟩
        · exact h.others other command hother hne

/-- Only the built-in name is refused. -/
theorem RootIntact.refuses_iff (h : RootIntact strings manager) :
    manager.refuses strings name ↔ strings.toLowercase name = strings.toLowercase "infrarust" := by
  obtain ⟨root, hroot, hblt, -⟩ := h.command
  constructor
  · intro href
    by_contra hname
    obtain ⟨command, hcmd, hblt'⟩ := (Option.any_eq_true _ _).mp href
    rw [(h.others _ command hcmd hname).1] at hblt'
    cases hblt'
  · intro hname
    rw [refuses, hname, hroot]
    exact hblt

/-- A call that does not leave the words alone breaks one of them. -/
theorem RootIntact.not_rootRuns (h : RootIntact strings manager) {op : PluginCommandOp}
    (hop : ¬op.SparesRoot strings) :
    ¬RootRuns strings (CommandManager.applyOp strings manager op) := by
  intro hruns
  cases op with
  | unregister name =>
    have hname : strings.toLowercase name = strings.toLowercase "infrarust" := not_not.mp hop
    have hrun := hruns none "infrarust" mem_cons_self
    have hcanon : (CommandManager.applyOp strings manager (.unregister name)).canonical
        (strings.toLowercase "infrarust") = strings.toLowercase "infrarust" := by
      rw [CommandManager.canonical, CommandManager.applyOp, lookup_aliases_unregister]
      split
      · rfl
      · exact h.canonical _ mem_cons_self
    rw [dispatch_map_fst, show typedWord strings "infrarust" = strings.toLowercase "infrarust"
      from rfl, commandAt, hcanon, CommandManager.applyOp, lookup_commands_unregister,
      if_pos hname.symm] at hrun
    cases hrun
  | register name aliases description handler pluginId =>
    obtain ⟨hname, hword⟩ := not_or.mp hop
    push Not at hword
    obtain ⟨word, hmem, hword⟩ := hword
    have href : ¬manager.refuses strings name := fun href => hname (h.refuses_iff.mp href)
    obtain ⟨input, rfl⟩ := exists_typedWord hword
    have hrun := hruns none input hword
    rw [dispatch_map_fst, commandAt, CommandManager.canonical, CommandManager.applyOp,
      lookup_aliases_register href, if_pos hmem, Option.getD_some,
      lookup_commands_register href, if_pos rfl] at hrun
    cases hrun

/-- The built-in command runs after every sequence of calls up to any point, if and only if every
call leaves its words alone. -/
theorem root_always_runs_iff (strings : Strings) (ops : List PluginCommandOp) :
    (∀ before, before <+: ops → RootRuns strings (afterOps strings before)) ↔
      ∀ op ∈ ops, op.SparesRoot strings := by
  -- generalised over the manager, which is intact before every call
  have hloop : ∀ manager, RootIntact strings manager →
      ((∀ before, before <+: ops →
        RootRuns strings (before.foldl (CommandManager.applyOp strings) manager)) ↔
          ∀ op ∈ ops, op.SparesRoot strings) := by
    induction ops with
    | nil =>
      intro manager h
      refine ⟨fun _ _ hmem => absurd hmem not_mem_nil, fun _ before hpre => ?_⟩
      rw [prefix_nil.mp hpre]
      exact h.rootRuns
    | cons op ops ih =>
      intro manager h
      rw [forall_mem_cons]
      constructor
      · intro hruns
        have hop : op.SparesRoot strings := by
          by_contra hop
          exact h.not_rootRuns hop (hruns [op] (cons_prefix_cons.mpr ⟨rfl, nil_prefix⟩))
        refine ⟨hop, (ih _ (h.applyOp hop)).mp fun before hpre => ?_⟩
        exact hruns (op :: before) (cons_prefix_cons.mpr ⟨rfl, hpre⟩)
      · rintro ⟨hop, hops⟩ before hpre
        cases before with
        | nil => exact h.rootRuns
        | cons first before =>
          obtain ⟨rfl, hrest⟩ := cons_prefix_cons.mp hpre
          exact (ih _ (h.applyOp hop)).mpr hops before hrest
  exact hloop _ rootIntact_start

/-- A plugin registers `hello` with the alias `ir`. The alias now runs the plugin's handler. -/
theorem alias_taken_by_plugin :
    (afterOps asciiStrings
        [.register "hello" ["ir"] "Says hello" 7 "greeter"]).dispatch asciiStrings none "ir list" =
      some (.plugin 7, ⟨none, ["list"], "ir list"⟩) ∧
    ¬RootRuns asciiStrings
      (afterOps asciiStrings [.register "hello" ["ir"] "Says hello" 7 "greeter"]) := by
  have hdispatch : (afterOps asciiStrings
      [.register "hello" ["ir"] "Says hello" 7 "greeter"]).dispatch asciiStrings none "ir list" =
        some (.plugin 7, ⟨none, ["list"], "ir list"⟩) := by
    decide
  refine ⟨hdispatch, fun h => ?_⟩
  have hrun := h none "ir list" (by decide)
  cases hrun

end CommandManager

end Infrarust
