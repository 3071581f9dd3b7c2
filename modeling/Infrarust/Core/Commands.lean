import Infrarust.Core.Permissions
import Infrarust.Core.Services.CommandManager

/-!
# `Infrarust.Core.Commands`: the built-in proxy commands

`/infrarust` (alias `/ir`) is one root command with eleven subcommands. Executing one reads
the state of the proxy and has effects: messages to players, kicks, server switches and calls
of plugin commands. Here it returns the list of its effects in order. Chat components are
the text together with the function of `ProxyMessage` that styles it.

A subcommand starts by looking its sender up. An `entered` effect marks that it has got past
that point; nothing in the source corresponds to it.
-/

set_option autoImplicit false

namespace Infrarust

/-- The subcommands of the root command. -/
inductive Subcommand where
  | help
  | version
  | list
  | server
  | find
  | send
  | broadcast
  | kick
  | plugins
  | plugin
  | reload
deriving DecidableEq, Repr

namespace Subcommand

def subList : List Subcommand :=
  [help, version, list, server, find, send, broadcast, kick, plugins, plugin, reload]

def name : Subcommand → String
  | help => "help"
  | version => "version"
  | list => "list"
  | server => "server"
  | find => "find"
  | send => "send"
  | broadcast => "broadcast"
  | kick => "kick"
  | plugins => "plugins"
  | plugin => "plugin"
  | reload => "reload"

def description : Subcommand → String
  | help => "Show help for proxy commands"
  | version => "Show proxy version and status"
  | list => "List all servers"
  | server => "Show or switch current server"
  | find => "Find which server a player is on"
  | send => "Send a player to a server"
  | broadcast => "Broadcast a message to all players"
  | kick => "Kick a player from the proxy"
  | plugins => "List loaded plugins"
  | plugin => "Run a plugin command by namespace"
  | reload => "Configuration reload info"

def usage : Subcommand → String
  | help => "/ir help [command]"
  | version => "/ir version"
  | list => "/ir list"
  | server => "/ir server [name]"
  | find => "/ir find <player>"
  | send => "/ir send <player> <server>"
  | broadcast => "/ir broadcast <message> [--server <name>]"
  | kick => "/ir kick <player> [reason]"
  | plugins => "/ir plugins"
  | plugin => "/ir plugin <plugin_id> <command> [args...]"
  | reload => "/ir reload"

def requiredLevel : Subcommand → PermissionLevel
  | send | broadcast | kick | plugins | plugin | reload => .admin
  | help | version | list | server | find => .player

/-- `subcommands.get(name)`. -/
def get (name : String) : Option Subcommand := subList.find? (·.name = name)

/-- What `register_builtin_commands` tells the permission service. -/
def info : SubcommandInfo where
  all := (subList.map name).toFinset
  adminOnly := ((subList.filter (·.requiredLevel = .admin)).map name).toFinset

end Subcommand

/-- `PluginInfo`, the fields that are shown. -/
structure PluginInfo where
  name : String
  version : String
  description : Option String
deriving DecidableEq, Repr

/-- `CommandServices`. `closedChannels` are the sessions whose command receiver is gone, and
the orders are those in which the hash maps are visited. -/
structure CommandServices where
  store : SessionStore
  closedChannels : List Nat
  router : DomainRouter
  serverManager : Option (List (String × ServerState))
  pluginRegistry : List PluginInfo
  commandManager : CommandManager
  permissionService : PermissionService
  uptimeSecs : Nat
  sessionOrder : Dict.Order Uuid PlayerSession
  configOrder : ConfigOrder
  commandOrder : Dict.Order String RegisteredCommand

/-- A message to a player: the functions of `ProxyMessage`, and `Component::from_legacy`. -/
inductive Message where
  | success (text : String)
  | error (text : String)
  | info (text : String)
  | detail (text : String)
  | fromLegacy (text : String)
deriving DecidableEq, Repr

/-- What the root command calls: a subcommand that the input names, or the help page in its
place. -/
inductive Entry where
  | subcommand (sub : Subcommand)
  | fallback
deriving DecidableEq, Repr

/-- What executing a command does. -/
inductive Effect where
  | entered (entry : Entry) (sender : PlayerSession)
  | sendMessage (player : PlayerSession) (message : Message)
  | disconnect (player : PlayerSession) (reason : String)
  | switchServer (player : PlayerSession) (target : String)
  | pluginCommand (handle : Nat) (ctx : CommandContext)
deriving DecidableEq, Repr

/-- `PlayerError`, the cases a switch request can return. -/
inductive PlayerError where
  | notActive
  | disconnected
  | sendFailed (cause : String)
deriving DecidableEq, Repr

/-- `PlayerError` as text. -/
def PlayerError.toString : PlayerError → String
  | notActive => "player is not active — operation requires an active proxy connection"
  | disconnected => "player is disconnected"
  | sendFailed cause => s!"send failed: {cause}"

/-- `{count} {noun}{s}` is printed with `plural` after the noun. -/
def plural (count : Nat) : String := if count = 1 then "" else "s"

namespace CommandServices

variable (services : CommandServices)

def getPlayerById (id : PlayerId) : Option PlayerSession := services.store.registry.findById id

def getPlayer (username : String) : Option PlayerSession :=
  services.store.registry.findByUsername services.sessionOrder username

/-- `current_server` of a session. -/
def currentServer (session : PlayerSession) : Option String :=
  services.store.currentServer.lookup session.handle

/-- `permission_level` of a session. -/
def permissionLevel (session : PlayerSession) : PermissionLevel :=
  services.permissionService.permissionLevel session

/-- `get_server_config(server).is_some()`. -/
def hasServer (server : String) : Bool :=
  (services.router.findByServerId services.configOrder server).isSome

/-- `switch_server`: the request that is sent, or the error. -/
def switchServer (player : PlayerSession) (target : String) : Except PlayerError Effect :=
  if !player.active then .error .notActive
  else if player.handle ∈ services.store.disconnected then .error .disconnected
  else if player.handle ∈ services.closedChannels then .error (.sendFailed "channel closed")
  else .ok (.switchServer player target)

/-- The lookups every subcommand starts with. Without a player id, or with one that the
registry does not have, it returns at once. -/
def withSender (ctx : CommandContext) (entry : Entry) (body : PlayerSession → List Effect) :
    List Effect :=
  match ctx.playerId with
  | none => []
  | some playerId =>
    match services.getPlayerById playerId with
    | none => []
    -- from here on the subcommand has a sender
    | some sender => .entered entry sender :: body sender

end CommandServices

/-! ### The subcommands -/

section Subcommands

variable (strings : Strings) (services : CommandServices) (ctx : CommandContext)
  (args : List String)

def noPermission : String := "You don't have permission."

/-- `{:<12}`. -/
def padRight (width : Nat) (s : String) : String :=
  s ++ String.ofList (List.replicate (width - s.length) ' ')

def handleHelp (entry : Entry) : List Effect :=
  services.withSender ctx entry fun player =>
    let level := services.permissionLevel player
    match args with
    | cmdName :: _ =>
      let lower := strings.toLowercase cmdName
      match Subcommand.get lower with
      | some sub =>
        if services.permissionService.isCommandAllowed strings lower level then
          [.sendMessage player (.info s!"{sub.usage} — {sub.description}")]
        else [.sendMessage player (.error noPermission)]
      | none =>
        [.sendMessage player (.error s!"Unknown command: '{cmdName}'. Use /ir help for a list.")]
    | [] =>
      -- the page lists what the player may use, by name
      let sorted := Subcommand.subList.mergeSort (·.name ≤ ·.name)
      let visible := sorted.filter fun sub =>
        services.permissionService.isCommandAllowed strings sub.name level
      .sendMessage player (.info "Available commands:") ::
        visible.map (fun sub =>
          .sendMessage player (.detail s!"  {padRight 12 sub.name} - {sub.description}"))
        ++ [.sendMessage player (.detail "Use /ir help <command> for details.")]

def cargoPkgVersion : String := "2.0.0-alpha.7"

def formatUptime (secs : Nat) : String :=
  let days := secs / 86400
  let hours := secs % 86400 / 3600
  let mins := secs % 3600 / 60
  if days > 0 then s!"{days}d {hours}h {mins}m"
  else if hours > 0 then s!"{hours}h {mins}m"
  else s!"{mins}m"

def executeVersion : List Effect :=
  services.withSender ctx (.subcommand .version) fun player =>
    [.sendMessage player (.info s!"Infrarust v{cargoPkgVersion}"),
      .sendMessage player (.detail s!"  Players online: {services.store.registry.count}"),
      .sendMessage player (.detail s!"  Uptime: {formatUptime services.uptimeSecs}")]

def formatStateIndicator : ServerState → String
  | .online | .starting | .stopping => "●"
  | .sleeping => "○"
  | .crashed => "✗"
  | .unknown => "?"

def executeList : List Effect :=
  services.withSender ctx (.subcommand .list) fun player =>
    let configs := services.router.listAll services.configOrder
    if configs.isEmpty then [.sendMessage player (.info "No servers configured.")]
    else
      -- a server that nobody manages is shown with a dash
      let managedStates : Dict String ServerState :=
        Dict.collect Prod.fst (some ·.2) (services.serverManager.getD [])
      .sendMessage player (.info s!"Servers ({configs.length}):") :: configs.map fun cfg =>
        let id := cfg.effectiveId
        let players := services.store.countByServer services.sessionOrder id
        let stateStr := ((managedStates.lookup id).map formatStateIndicator).getD "-"
        .sendMessage player (.detail s!"  {stateStr} {id}  ({players} player{plural players})")

def executeServer : List Effect :=
  services.withSender ctx (.subcommand .server) fun player =>
    match args with
    | [] =>
      match services.currentServer player with
      | some server => [.sendMessage player (.info s!"You are connected to: {server}")]
      | none => [.sendMessage player (.info "You are not connected to any server.")]
    | name :: _ =>
      if services.hasServer name then
        match services.switchServer player name with
        | .ok request =>
          [request, .sendMessage player (.success s!"Switching to server '{name}'...")]
        | .error e => [.sendMessage player (.error s!"Failed to switch: {e.toString}")]
      else [.sendMessage player (.error s!"Server '{name}' not found.")]

def executeFind : List Effect :=
  services.withSender ctx (.subcommand .find) fun sender =>
    match args with
    | [] => [.sendMessage sender (.error "Usage: /ir find <player>")]
    | targetName :: _ =>
      match services.getPlayer targetName with
      | some target =>
        match services.currentServer target with
        | some server => [.sendMessage sender (.success s!"{targetName} is on server: {server}")]
        | none =>
          [.sendMessage sender (.info s!"{targetName} is online but not on any server.")]
      | none => [.sendMessage sender (.error s!"Player '{targetName}' is not online.")]

def executeSend : List Effect :=
  services.withSender ctx (.subcommand .send) fun sender =>
    match args with
    | targetName :: serverName :: _ =>
      match services.getPlayer targetName with
      | none => [.sendMessage sender (.error s!"Player '{targetName}' is not online.")]
      | some target =>
        if services.hasServer serverName then
          match services.switchServer target serverName with
          | .ok request =>
            [request, .sendMessage sender (.success s!"Sending {targetName} to '{serverName}'...")]
          | .error e =>
            [.sendMessage sender (.error s!"Failed to send {targetName}: {e.toString}")]
        else [.sendMessage sender (.error s!"Server '{serverName}' not found.")]
    | _ => [.sendMessage sender (.error "Usage: /ir send <player> <server>")]

/-- The loop of `BroadcastSubcommand::execute` over its arguments: the words of the message
and the server after the last `--server`. -/
def broadcastArgs (messageParts : List String) (targetServer : Option String) :
    List String → List String × Option String
  | [] => (messageParts, targetServer)
  -- a `--server` at the end has no name and is swallowed
  | [arg] => (if arg = "--server" then messageParts else messageParts ++ [arg], targetServer)
  | arg :: next :: rest =>
    if arg = "--server" then broadcastArgs messageParts (some next) rest
    else broadcastArgs (messageParts ++ [arg]) targetServer (next :: rest)

def executeBroadcast : List Effect :=
  services.withSender ctx (.subcommand .broadcast) fun sender =>
    if args.isEmpty then
      [.sendMessage sender (.error "Usage: /ir broadcast <message> [--server <name>]")]
    else
      let (messageParts, targetServer) := broadcastArgs [] none args
      if messageParts.isEmpty then [.sendMessage sender (.error "No message provided.")]
      else
        let message := " ".intercalate messageParts
        let send (recipients : List PlayerSession) (scope : String) : List Effect :=
          let count := recipients.length
          recipients.map (.sendMessage · (.fromLegacy message)) ++
            [.sendMessage sender
              (.success s!"Broadcast sent to {count} player{plural count}{scope}.")]
        match targetServer with
        | none => send (services.store.registry.all services.sessionOrder) ""
        | some serverName =>
          if services.hasServer serverName then
            send (services.store.findByServer services.sessionOrder serverName)
              s!" on '{serverName}'"
          else [.sendMessage sender (.error s!"Server '{serverName}' not found.")]

def executeKick : List Effect :=
  services.withSender ctx (.subcommand .kick) fun sender =>
    match args with
    | [] => [.sendMessage sender (.error "Usage: /ir kick <player> [reason]")]
    | targetName :: words =>
      match services.getPlayer targetName with
      | none => [.sendMessage sender (.error s!"Player '{targetName}' is not online.")]
      | some target =>
        let reason := if words.isEmpty then "Kicked by proxy" else " ".intercalate words
        [.disconnect target reason,
          .sendMessage sender (.success s!"Kicked {targetName}: {reason}")]

/-- The list of the loaded plugins, which two subcommands show. -/
def listPlugins (player : PlayerSession) : List Effect :=
  let plugins := services.pluginRegistry
  if plugins.isEmpty then [.sendMessage player (.info "No plugins loaded.")]
  else
    .sendMessage player (.info s!"Plugins ({plugins.length}):") :: plugins.map fun info =>
      let desc := info.description.getD "No description"
      .sendMessage player (.detail s!"  {info.name} v{info.version} - {desc}")

def executePlugins : List Effect :=
  services.withSender ctx (.subcommand .plugins) fun player => listPlugins services player

/-- `PluginSubcommand::execute`. Executing the handler of a plugin command is `invoke`. -/
def executePlugin (invoke : CommandHandler → CommandContext → List Effect) : List Effect :=
  services.withSender ctx (.subcommand .plugin) fun player =>
    match args with
    | [] => listPlugins services player
    | [pluginId] =>
      let cmds := services.commandManager.commandsForPlugin services.commandOrder pluginId
      if cmds.isEmpty then
        [.sendMessage player (.error s!"Plugin '{pluginId}' not found or has no commands.")]
      else
        .sendMessage player (.info s!"Commands for plugin '{pluginId}':") ::
          cmds.map fun cmd => .sendMessage player (.detail s!"  /{cmd.1} - {cmd.2}")
    | pluginId :: commandName :: subArgs =>
      match services.commandManager.findPluginCommand strings pluginId commandName with
      -- the handler runs under the player id of this context
      | some handler => invoke handler { ctx with args := subArgs }
      | none =>
        [.sendMessage player
          (.error s!"Command '{commandName}' not found for plugin '{pluginId}'.")]

def executeReload : List Effect :=
  services.withSender ctx (.subcommand .reload) fun player =>
    [.sendMessage player (.info "Configuration auto-reloads when files change."),
      .sendMessage player (.detail "  No manual reload is needed.")]

/-- `SubcommandHandler::execute`. The root command never calls it for `help`. -/
def Subcommand.execute (invoke : CommandHandler → CommandContext → List Effect) :
    Subcommand → List Effect
  | help => []
  | version => executeVersion services ctx
  | list => executeList services ctx
  | server => executeServer services ctx args
  | find => executeFind services ctx args
  | send => executeSend services ctx args
  | broadcast => executeBroadcast services ctx args
  | kick => executeKick services ctx args
  | plugins => executePlugins services ctx
  | plugin => executePlugin strings services ctx args invoke
  | reload => executeReload services ctx

end Subcommands

/-! ### The root command -/

section Root

variable (strings : Strings) (services : CommandServices)

/-- The permission check of `InfrarustRootCommand::execute`: the player it turns away. It is
skipped if the registry does not have the player. -/
def refused (ctx : CommandContext) (subName : Option String) : Option PlayerSession :=
  match ctx.playerId.bind services.getPlayerById with
  | none => none
  | some player =>
    let level := services.permissionLevel player
    let allowed := match subName with
      | some name => services.permissionService.isCommandAllowed strings name level
      -- without a name the help page is meant, for whoever may use anything at all
      | none => decide (services.permissionService.visibleSubcommands level ≠ ∅)
    if allowed then none else some player

def executeRoot (invoke : CommandHandler → CommandContext → List Effect) (ctx : CommandContext) :
    List Effect :=
  let subName := ctx.args.head?.map strings.toLowercase
  let remainingArgs := ctx.args.drop 1
  match refused strings services ctx subName with
  | some player => [.sendMessage player (.error noPermission)]
  | none =>
    match subName.bind Subcommand.get with
    | some .help => handleHelp strings services ctx remainingArgs (.subcommand .help)
    | some sub => sub.execute strings services ctx remainingArgs invoke
    -- no name, or one that no subcommand has
    | none => handleHelp strings services ctx [] .fallback

/-- `CommandHandler::execute`. The root command can execute a handler in turn, with fewer
arguments; `depth` bounds how often. -/
def CommandHandler.execute : (depth : Nat) → CommandHandler → CommandContext → List Effect
  | _, .plugin handle, ctx => [.pluginCommand handle ctx]
  | 0, .infrarustRoot, _ => []
  | depth + 1, .infrarustRoot, ctx =>
    executeRoot strings services (CommandHandler.execute depth) ctx

/-- `CommandManagerImpl::dispatch`: whether the command was found, and the effects. -/
def dispatch (playerId : Option PlayerId) (input : String) : Bool × List Effect :=
  match services.commandManager.dispatch strings playerId input with
  | some (handler, ctx) =>
    (true, handler.execute strings services (ctx.args.length + 1) ctx)
  | none => (false, [])

end Root

end Infrarust
