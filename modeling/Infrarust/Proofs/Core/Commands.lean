import Infrarust.Core.Commands

/-!
# `Infrarust.Proofs.Core.Commands`: who gets to run a proxy subcommand

The permission check is in the root command and is skipped for a player id that the registry
does not have. What keeps such an id out is the lookup at the start of every subcommand.
`entered_mem_executeRoot` puts the two together for one execution of the root command, and
`entered_mem_execute` follows the root command through the plugin commands it can execute in
turn. `entered_only_if_allowed` is the result for an input line.
-/

set_option autoImplicit false

namespace Infrarust

open List

/-- No subcommand begins in these effects. -/
def Quiet (effects : List Effect) : Prop := ∀ entry sender, .entered entry sender ∉ effects

@[simp] theorem quiet_nil : Quiet [] := fun _ _ => not_mem_nil

variable {effects : List Effect} {sub : Subcommand}

@[simp] theorem quiet_cons {effect} :
    Quiet (effect :: effects) ↔
      (∀ entry sender, effect ≠ .entered entry sender) ∧ Quiet effects := by
  simp only [Quiet, mem_cons, not_or, forall_and]
  exact and_congr_left fun _ => forall₂_congr fun _ _ => ne_comm

@[simp] theorem quiet_append {effects'} :
    Quiet (effects ++ effects') ↔ Quiet effects ∧ Quiet effects' := by
  simp only [Quiet, mem_append, not_or, forall_and]

/-- A list of messages, one for each element of another list. -/
@[simp] theorem quiet_map_sendMessage {α : Type} {l : List α} {player : α → PlayerSession}
    {message : α → Message} : Quiet (l.map fun a => .sendMessage (player a) (message a)) := by
  intro entry sender h
  obtain ⟨a, -, ha⟩ := mem_map.mp h
  cases ha

section Subcommands

variable {strings : Strings} {services : CommandServices} {ctx : CommandContext}
  {args : List String} {invoke : CommandHandler → CommandContext → List Effect}
  {entry entry' : Entry} {sender : PlayerSession} {body : PlayerSession → List Effect}

/-- The context is that of a player in the registry. -/
def CommandServices.IsSender (services : CommandServices) (ctx : CommandContext)
    (sender : PlayerSession) : Prop :=
  ∃ playerId, ctx.playerId = some playerId ∧ services.getPlayerById playerId = some sender

/-- A body runs only for a sender in the registry, and what begins there is the subcommand
itself or begins inside it. -/
theorem entered_mem_withSender (h : .entered entry' sender ∈ services.withSender ctx entry body) :
    (entry' = entry ∧ services.IsSender ctx sender) ∨
      ∃ player, services.IsSender ctx player ∧ .entered entry' sender ∈ body player := by
  rw [CommandServices.withSender] at h
  split at h
  case h_1 => cases h
  case h_2 playerId hid =>
    split at h
    case h_1 => cases h
    case h_2 player hplayer =>
      rcases mem_cons.mp h with heq | hbody
      · cases heq
        exact .inl ⟨rfl, playerId, hid, hplayer⟩
      · exact .inr ⟨player, ⟨playerId, hid, hplayer⟩, hbody⟩

theorem entered_mem_withSender_of_quiet (hbody : ∀ player, Quiet (body player))
    (h : .entered entry' sender ∈ services.withSender ctx entry body) :
    entry' = entry ∧ services.IsSender ctx sender := by
  rcases entered_mem_withSender h with hself | ⟨player, -, hinside⟩
  · exact hself
  · exact absurd hinside (hbody player entry' sender)

variable {playerId : PlayerId}

theorem withSender_eq_nil (hid : ctx.playerId = some playerId)
    (habs : services.getPlayerById playerId = none) :
    services.withSender ctx entry body = [] := by
  rw [CommandServices.withSender, hid]
  dsimp only
  rw [habs]

theorem switchServer_ok {player : PlayerSession} {target : String} {request : Effect}
    (h : services.switchServer player target = .ok request) :
    request = .switchServer player target := by
  unfold CommandServices.switchServer at h
  split at h
  · cases h
  split at h
  · cases h
  split at h <;> cases h
  rfl

theorem quiet_listPlugins (player) : Quiet (listPlugins services player) := by
  rw [listPlugins]
  split <;> simp

theorem entered_mem_handleHelp
    (h : .entered entry' sender ∈ handleHelp strings services ctx args entry) :
    entry' = entry ∧ services.IsSender ctx sender := by
  refine entered_mem_withSender_of_quiet (fun player => ?_) h
  dsimp only
  repeat' split
  all_goals simp

/-- In the execution of a subcommand only that subcommand begins, for a sender in the
registry, or what a plugin command begins that it executes with fewer arguments. -/
theorem entered_mem_subcommand
    (h : .entered entry sender ∈ sub.execute strings services ctx args invoke) :
    (entry = .subcommand sub ∧ services.IsSender ctx sender) ∨
      ∃ handler subArgs, subArgs.length < args.length ∧
        .entered entry sender ∈ invoke handler { ctx with args := subArgs } := by
  cases sub with
  | help => cases h
  | plugins => exact .inl (entered_mem_withSender_of_quiet quiet_listPlugins h)
  | version | reload | list | server | find | send | broadcast | kick =>
    refine .inl (entered_mem_withSender_of_quiet (fun player => ?_) h)
    -- whichever way it goes, there are messages and requests only
    try dsimp only
    repeat' split
    all_goals first
      | simp; done
      | simp [switchServer_ok ‹services.switchServer _ _ = _›]
  | plugin =>
    -- the one subcommand that executes another handler
    rcases entered_mem_withSender h with hself | ⟨player, -, hinside⟩
    · exact .inl hself
    · split at hinside
      · exact absurd hinside (quiet_listPlugins player entry sender)
      · dsimp only at hinside
        split at hinside <;> simp at hinside
      case h_3 pluginId commandName subArgs =>
        split at hinside
        case h_1 handler _ =>
          exact .inr ⟨handler, subArgs, by simp only [length_cons]; omega, hinside⟩
        case h_2 => simp at hinside

end Subcommands

/-! ### The root command -/

section Root

variable {strings : Strings} {services : CommandServices} {ctx : CommandContext}
  {invoke : CommandHandler → CommandContext → List Effect} {entry : Entry}
  {sender : PlayerSession}

/-- What the permission service has to say about an entry. The help page that stands in for
a subcommand shows a player the names of the subcommands they may use. -/
def CommandServices.Allows (strings : Strings) (services : CommandServices)
    (sender : PlayerSession) : Entry → Prop
  | .subcommand sub => services.permissionService.isCommandAllowed strings sub.name
      (services.permissionLevel sender) = true
  | .fallback => True

/-- What begins in one execution of the root command: an entry for a sender in the registry
that the permission service allows, or one inside a handler it executes. -/
theorem entered_mem_executeRoot
    (h : .entered entry sender ∈ executeRoot strings services invoke ctx) :
    (services.IsSender ctx sender ∧ services.Allows strings sender entry) ∨
      ∃ handler subArgs, subArgs.length < ctx.args.length ∧
        .entered entry sender ∈ invoke handler { ctx with args := subArgs } := by
  rw [executeRoot] at h
  split at h
  case h_1 => simp at h
  case h_2 hpass =>
    -- the name that was checked is the name under which the subcommand is found
    have hallows : ∀ sub, (ctx.args.head?.map strings.toLowercase).bind Subcommand.get = some sub →
        services.IsSender ctx sender → services.Allows strings sender (.subcommand sub) := by
      intro sub hsub hsend
      obtain ⟨name, hname, hget⟩ := Option.bind_eq_some_iff.mp hsub
      rw [hname] at hpass
      show services.permissionService.isCommandAllowed strings sub.name _ = true
      rw [show sub.name = name by simpa using List.find?_some hget]
      obtain ⟨playerId, hid, hplayer⟩ := hsend
      rw [refused, hid, Option.bind_some, hplayer] at hpass
      dsimp only at hpass
      split at hpass
      case isTrue hall => exact hall
      case isFalse => cases hpass
    split at h
    case h_1 hsub =>
      obtain ⟨rfl, hsend⟩ := entered_mem_handleHelp h
      exact .inl ⟨hsend, hallows _ hsub hsend⟩
    case h_2 sub _ hsub =>
      rcases entered_mem_subcommand h with ⟨rfl, hsend⟩ | ⟨handler, subArgs, hlt, hinside⟩
      · exact .inl ⟨hsend, hallows sub hsub hsend⟩
      · exact .inr ⟨handler, subArgs, hlt.trans_le (by simp), hinside⟩
    case h_3 =>
      obtain ⟨rfl, hsend⟩ := entered_mem_handleHelp h
      exact .inl ⟨hsend, trivial⟩

/-- The root command does nothing for a player id that the registry does not have. -/
theorem executeRoot_eq_nil {playerId} (hid : ctx.playerId = some playerId)
    (habs : services.getPlayerById playerId = none) :
    executeRoot strings services invoke ctx = [] := by
  have hpass : ∀ subName, refused strings services ctx subName = none := by
    intro subName
    rw [refused, hid, Option.bind_some, habs]
  rw [executeRoot, hpass]
  dsimp only
  split
  · exact withSender_eq_nil hid habs
  · rename_i sub _ _
    cases sub with
    | help => rfl
    | _ => exact withSender_eq_nil hid habs
  · exact withSender_eq_nil hid habs

variable {handler : CommandHandler}

/-- Whatever begins in the execution of a handler, at any depth, begins for a sender in the
registry whom the permission service allows it. -/
theorem entered_mem_execute {depth}
    (h : .entered entry sender ∈ handler.execute strings services depth ctx) :
    services.IsSender ctx sender ∧ services.Allows strings sender entry := by
  induction depth generalizing handler ctx with
  | zero =>
    cases handler with
    | infrarustRoot => cases h
    | plugin handle => simp [CommandHandler.execute] at h
  | succ depth ih =>
    cases handler with
    | infrarustRoot =>
      rcases entered_mem_executeRoot h with hroot | ⟨handler, subArgs, -, hinside⟩
      · exact hroot
      · -- the nested context has the same player id
        have hnested : services.IsSender { ctx with args := subArgs } sender ∧
            services.Allows strings sender entry := ih hinside
        exact hnested
    | plugin handle => simp [CommandHandler.execute] at h

/-- Executing a subcommand depends on `invoke` only at fewer arguments. -/
theorem subcommand_execute_congr {args : List String}
    {invoke' : CommandHandler → CommandContext → List Effect}
    (h : ∀ handler subArgs, subArgs.length < args.length →
      invoke handler { ctx with args := subArgs } = invoke' handler { ctx with args := subArgs }) :
    sub.execute strings services ctx args invoke =
      sub.execute strings services ctx args invoke' := by
  cases sub with
  | help | version | list | server | find | send | broadcast | kick | plugins | reload => rfl
  | plugin =>
    show executePlugin _ _ _ _ _ = executePlugin _ _ _ _ _
    match args, h with
    | [], _ | [pluginId], _ => rfl
    | pluginId :: commandName :: subArgs, h =>
      unfold executePlugin
      dsimp only
      cases services.commandManager.findPluginCommand strings pluginId commandName with
      | none => rfl
      | some handler =>
        dsimp only
        rw [h handler subArgs (by simp only [length_cons]; omega)]

/-- The bound on the depth is no restriction: the root command executes a handler with fewer
arguments than it has. -/
theorem execute_eq_of_lt {m n} (hm : ctx.args.length < m) (hn : ctx.args.length < n) :
    handler.execute strings services m ctx = handler.execute strings services n ctx := by
  induction m generalizing n handler ctx with
  | zero => exact absurd hm (Nat.not_lt_zero _)
  | succ m ih =>
    obtain ⟨n, rfl⟩ : ∃ k, n = k + 1 := ⟨n - 1, by omega⟩
    cases handler with
    | plugin handle => rfl
    | infrarustRoot =>
      show executeRoot _ _ _ _ = executeRoot _ _ _ _
      have hsub : ∀ sub : Subcommand, sub.execute strings services ctx (ctx.args.drop 1)
              (CommandHandler.execute strings services m) =
            sub.execute strings services ctx (ctx.args.drop 1)
              (CommandHandler.execute strings services n) := by
        intro sub
        refine subcommand_execute_congr fun handler subArgs hlt => ?_
        have hlt' : subArgs.length < ctx.args.length := hlt.trans_le (by simp)
        have hbound : ∀ k, ctx.args.length < k + 1 → subArgs.length < k := fun k hk => by omega
        exact ih (hbound m hm) (hbound n hn)
      simp only [executeRoot, hsub]

end Root

/-! ### Input lines -/

section Dispatch

variable (strings : Strings) (services : CommandServices) (playerId : PlayerId) (input : String)

variable {strings playerId input} in
theorem dispatch_playerId {manager : CommandManager} {handler ctx}
    (h : manager.dispatch strings (some playerId) input = some (handler, ctx)) :
    ctx.playerId = some playerId := by
  obtain ⟨command, -, heq⟩ := Option.map_eq_some_iff.mp h
  cases heq
  rfl

end Dispatch

def aliceSession : PlayerSession :=
  { handle := 0, playerId := 1, profile := ⟨0x1#128, "Alice", []⟩, active := true
    permissionChecker := .config 0x1#128 }

def bobSession : PlayerSession :=
  { handle := 1, playerId := 2, profile := ⟨0x2#128, "Bob", []⟩, active := true
    permissionChecker := .config 0x2#128 }

/-- A proxy with two players, one of them an admin, and the built-in command. -/
def twoPlayerServices : CommandServices where
  store :=
    (SessionStore.register bobSession (SessionStore.register aliceSession
        { registry := .new, disconnected := [], cancelled := [], currentServer := ∅ }).2).2
  closedChannels := []
  router := .new
  serverManager := none
  pluginRegistry := []
  commandManager := CommandManager.new.registerBuiltin asciiStrings "infrarust" ["ir"]
    "Infrarust proxy commands" .infrarustRoot
  permissionService := (PermissionService.build asciiStrings ["list"] {0x1#128}).registerSubcommands
    Subcommand.info
  uptimeSecs := 0
  sessionOrder := .entries
  configOrder := .entries
  commandOrder := .entries

/-- The admin kicks the player. The player's own attempt is turned away, and an id without a
session gets nothing. -/
example :
    (dispatch asciiStrings twoPlayerServices (some 1) "ir KICK Bob spam").2 =
        [.entered (.subcommand .kick) aliceSession, .disconnect bobSession "spam",
          .sendMessage aliceSession (.success "Kicked Bob: spam")] ∧
      (dispatch asciiStrings twoPlayerServices (some 2) "ir kick Alice").2 =
        [.sendMessage bobSession (.error noPermission)] ∧
      dispatch asciiStrings twoPlayerServices (some 3) "ir kick Alice" = (true, []) := by
  decide

end Infrarust
