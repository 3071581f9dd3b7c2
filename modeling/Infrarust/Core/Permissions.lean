import Mathlib.Data.Finset.Basic
import Infrarust.Core.ConnectionRegistry
import Infrarust.Core.Routing.DomainRouter

/-!
# `Infrarust.Core.Permissions`: who may use which subcommand

The service holds the UUIDs of the admins, the subcommands that are open to players, and,
once the built-in command has been registered, which subcommands there are and which of them
stay with the admins.
-/

set_option autoImplicit false

namespace Infrarust

structure SubcommandInfo where
  all : Finset String
  adminOnly : Finset String

structure PermissionService where
  adminUuids : Finset Uuid
  playerCommands : Finset String
  subcommandInfo : Option SubcommandInfo

namespace PermissionService

def build (strings : Strings) (playerCommands : List String) (adminUuids : Finset Uuid) :
    PermissionService :=
  { adminUuids := adminUuids
    playerCommands := (playerCommands.map strings.toLowercase).toFinset
    subcommandInfo := none }

/-- `register_subcommands`: only the first call sets them. -/
def registerSubcommands (info : SubcommandInfo) (service : PermissionService) : PermissionService :=
  { service with subcommandInfo := service.subcommandInfo <|> some info }

def isCommandAllowed (strings : Strings) (service : PermissionService) (command : String) :
    PermissionLevel → Bool
  | .admin => true
  | .player =>
    let cmdLower := strings.toLowercase command
    if service.subcommandInfo.any (cmdLower ∈ ·.adminOnly) then false
    else decide (cmdLower ∈ service.playerCommands)

def visibleSubcommands (service : PermissionService) : PermissionLevel → Finset String
  | .admin => (service.subcommandInfo.map (·.all)).getD ∅
  | .player => service.playerCommands.filter fun cmd =>
      service.subcommandInfo.all (cmd ∉ ·.adminOnly)

/-- `permission_level` of the permission checker of a session. The one built from the
configuration reads the set of admins each time it is asked. -/
def permissionLevel (service : PermissionService) (session : PlayerSession) : PermissionLevel :=
  match session.permissionChecker with
  | .default => .player
  | .config playerUuid => if playerUuid ∈ service.adminUuids then .admin else .player
  | .custom level => level

/-- `has_permission` of the checker that is built from the configuration for a player. -/
def hasPermission (service : PermissionService) (playerUuid : Uuid) (permission : String) : Bool :=
  let isAdmin := decide (playerUuid ∈ service.adminUuids)
  if permission = "infrarust.admin" then isAdmin
  else
    match permission.toList.dropPrefix? "infrarust.command.".toList with
    -- the name is looked up as it is written, and not among the admins' subcommands
    | some cmd => isAdmin || decide (String.ofList cmd ∈ service.playerCommands)
    | none => isAdmin

end PermissionService

end Infrarust
