import Infrarust.Core.ConnectionRegistry
import Infrarust.Core.Routing.DomainRouter

/-!
# `Infrarust.Core.Services.CommandManager`: registered commands and their names

Commands are kept under their lower-case name, with a second map from aliases to names. What
a handler does when it is executed is not the manager's business: `dispatch` here finds the
handler and builds its context.
-/

set_option autoImplicit false

namespace Infrarust

structure CommandContext where
  playerId : Option PlayerId
  args : List String
  raw : String
deriving DecidableEq, Repr

/-- `dyn CommandHandler`: the built-in root command, or an object of a plugin, by its place in
memory. -/
inductive CommandHandler where
  | infrarustRoot
  | plugin (handle : Nat)
deriving DecidableEq, Repr

structure RegisteredCommand where
  handler : CommandHandler
  aliases : List String
  description : String
  isBuiltin : Bool
  pluginId : String
deriving DecidableEq, Repr

/-- `CommandManagerImpl`. -/
structure CommandManager where
  commands : Dict String RegisteredCommand
  aliases : Dict String String

namespace CommandManager

def new : CommandManager := { commands := ∅, aliases := ∅ }

/-- The end that `register_builtin` and `register_with_plugin_id` share: the aliases, then
the command. -/
def insertCommand (nameLower : String) (command : RegisteredCommand) (manager : CommandManager) :
    CommandManager :=
  { commands := manager.commands.insert nameLower command
    aliases := command.aliases.foldl (fun aliases name => aliases.insert name nameLower)
      manager.aliases }

variable (strings : Strings) (manager : CommandManager)

def registerBuiltin (name : String) (aliases : List String)
    (description : String) (handler : CommandHandler) (manager : CommandManager) :
    CommandManager :=
  manager.insertCommand (strings.toLowercase name)
    { handler := handler, aliases := aliases.map strings.toLowercase
      description := description, isBuiltin := true, pluginId := "" }

def unregister (name : String) (manager : CommandManager) : CommandManager :=
  let nameLower := strings.toLowercase name
  let aliasList := ((manager.commands.lookup nameLower).map (·.aliases)).getD []
  { commands := manager.commands.erase nameLower
    aliases := aliasList.foldl (fun aliases name => aliases.erase name) manager.aliases }

/-- `register_with_plugin_id`: a built-in command is not replaced. -/
def registerWithPluginId (name : String) (aliases : List String)
    (description : String) (handler : CommandHandler) (pluginId : String)
    (manager : CommandManager) : CommandManager :=
  let nameLower := strings.toLowercase name
  if (manager.commands.lookup nameLower).any (·.isBuiltin) then manager
  else
    (manager.unregister strings name).insertCommand nameLower
      { handler := handler, aliases := aliases.map strings.toLowercase
        description := description, isBuiltin := false, pluginId := pluginId }

/-- `register_builtin_commands`, the call on the manager. -/
def registerBuiltinCommands : CommandManager :=
  manager.registerBuiltin strings "infrarust" ["ir"] "Infrarust proxy commands" .infrarustRoot

/-- The first half of `dispatch`: the handler that is executed for the input and the context
it gets, if the command is known. -/
def dispatch (playerId : Option PlayerId)
    (input : String) : Option (CommandHandler × CommandContext) :=
  let input := Text.trim input
  let (name, argsStr) := (Text.splitOnce ' ' input).getD (input, "")
  let nameLower := strings.toLowercase name
  let canonical := (manager.aliases.lookup nameLower).getD nameLower
  (manager.commands.lookup canonical).map fun command =>
    (command.handler,
      { playerId := playerId
        args := if argsStr = "" then [] else Text.splitWhitespace argsStr
        raw := input })

def findPluginCommand
    (pluginId commandName : String) : Option CommandHandler :=
  ((manager.commands.lookup (strings.toLowercase commandName)).filter
    (·.pluginId = pluginId)).map (·.handler)

def isPluginCommand (name : String) : Bool :=
  (manager.commands.lookup (strings.toLowercase name)).any (!·.isBuiltin)

/-- `commands_for_plugin`: the names and descriptions. -/
def commandsForPlugin (order : Dict.Order String RegisteredCommand) (manager : CommandManager)
    (pluginId : String) : List (String × String) :=
  ((order.iter manager.commands).filter (·.2.pluginId = pluginId)).map fun entry =>
    (entry.1, entry.2.description)

end CommandManager

end Infrarust
