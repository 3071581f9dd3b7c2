import Infrarust.Lib.Dict

/-!
# `Infrarust.Core.ConnectionRegistry`: the registry of player sessions

A session is shared by its handler, the registry and whoever looked it up. `PlayerSession`
has what is fixed when it is created, with a `handle` for its place in memory. What changes
later (whether it counts as connected, whether its token is cancelled, which server it is on)
is in `SessionStore`, next to the two maps of the registry.
-/

set_option autoImplicit false

namespace Infrarust

abbrev Uuid := BitVec 128

abbrev PlayerId := BitVec 64

structure ProfileProperty where
  name : String
  value : String
  signature : Option String
deriving DecidableEq, Repr

structure GameProfile where
  uuid : Uuid
  username : String
  properties : List ProfileProperty
deriving DecidableEq, Repr

def GameProfile.isMojangAuthenticated (profile : GameProfile) : Bool :=
  profile.properties.any fun p => p.name = "textures" && p.signature.isSome

inductive PermissionLevel where
  | player
  | admin
deriving DecidableEq, Repr

/-- The permission checkers a session can have: the default one, the one that looks the
player up among the admins, or one that a plugin has supplied, with the level it answers. -/
inductive PermissionChecker where
  | default
  | config (playerUuid : Uuid)
  | custom (level : PermissionLevel)
deriving DecidableEq, Repr

/-- `PlayerSession`, the fields that do not change. -/
structure PlayerSession where
  handle : Nat
  playerId : PlayerId
  profile : GameProfile
  active : Bool
  permissionChecker : PermissionChecker
deriving DecidableEq, Repr

/-- `next_player_id`: the counter starts at one and wraps around. -/
def nextPlayerId (taken : Nat) : PlayerId := BitVec.ofNat 64 (taken + 1)

structure ConnectionRegistry where
  sessions : Dict Uuid PlayerSession
  idIndex : Dict PlayerId Uuid

def ConnectionRegistry.new : ConnectionRegistry := { sessions := ∅, idIndex := ∅ }

namespace ConnectionRegistry

def get (registry : ConnectionRegistry) (uuid : Uuid) : Option PlayerSession :=
  registry.sessions.lookup uuid

def findById (registry : ConnectionRegistry) (id : PlayerId) : Option PlayerSession :=
  (registry.idIndex.lookup id).bind registry.get

def findByUsername (order : Dict.Order Uuid PlayerSession) (registry : ConnectionRegistry)
    (username : String) : Option PlayerSession :=
  ((order.iter registry.sessions).map Prod.snd).find? (·.profile.username = username)

def all (order : Dict.Order Uuid PlayerSession) (registry : ConnectionRegistry) :
    List PlayerSession :=
  (order.iter registry.sessions).map Prod.snd

def count (registry : ConnectionRegistry) : Nat := registry.sessions.entries.length

end ConnectionRegistry

/-- The registry and the changing part of the sessions, by handle. -/
structure SessionStore where
  registry : ConnectionRegistry
  disconnected : List Nat
  cancelled : List Nat
  currentServer : Dict Nat String

namespace SessionStore

variable (session : PlayerSession) (store : SessionStore)

def setDisconnected : SessionStore :=
  { store with disconnected := session.handle :: store.disconnected }

/-- `shutdown_token().cancel()`. -/
def cancel : SessionStore := { store with cancelled := session.handle :: store.cancelled }

/-- `id_index.insert(session.id(), uuid)`. -/
def indexInsert : SessionStore :=
  { store with
    registry.idIndex := store.registry.idIndex.insert session.playerId session.profile.uuid }

/-- `id_index.remove(&session.id())`. -/
def indexRemove : SessionStore :=
  { store with registry.idIndex := store.registry.idIndex.erase session.playerId }

/-- `sessions.insert(uuid, session)`. -/
def sessionsInsert : SessionStore :=
  { store with
    registry.sessions := store.registry.sessions.insert session.profile.uuid session }

/-- `sessions.remove(uuid)`. -/
def sessionsRemove (uuid : Uuid) (store : SessionStore) : SessionStore :=
  { store with registry.sessions := store.registry.sessions.erase uuid }

/-- `ConnectionRegistry::register`, which returns the UUID of the session. -/
def register : Uuid × SessionStore :=
  let uuid := session.profile.uuid
  let previous := store.registry.sessions.lookup uuid
  let store := (store.indexInsert session).sessionsInsert session
  match previous with
  | none => (uuid, store)
  | some previous =>
    -- a session registered twice keeps its index entry
    let store := if previous.playerId ≠ session.playerId then store.indexRemove previous else store
    (uuid, (store.cancel previous).setDisconnected previous)

def unregister (uuid : Uuid) (store : SessionStore) : Option PlayerSession × SessionStore :=
  match store.registry.sessions.lookup uuid with
  | none => (none, store)
  -- whoever's session it is
  | some session =>
    (some session, ((store.sessionsRemove uuid).indexRemove session).setDisconnected session)

def findByServer (order : Dict.Order Uuid PlayerSession) (store : SessionStore)
    (serverId : String) : List PlayerSession :=
  (store.registry.all order).filter fun session =>
    store.currentServer.lookup session.handle = some serverId

def countByServer (order : Dict.Order Uuid PlayerSession) (store : SessionStore)
    (serverId : String) : Nat :=
  (store.findByServer order serverId).length

end SessionStore

/-! ### Lifetimes -/

/-- Where the handler of a session is. A handler creates its session, registers it, and
unregisters the UUID it got at its end. Each step is one access to a map or a flag. -/
inductive Phase where
  /-- Created and not yet in `register`. -/
  | created
  /-- In `register`, after the insertion into `id_index`. -/
  | indexed
  /-- In `register`, which has replaced `previous`. -/
  | unindexing (previous : PlayerSession)
  | cancelling (previous : PlayerSession)
  | marking (previous : PlayerSession)
  /-- Between `register` and `unregister`. -/
  | registered
  /-- In `unregister`, which has removed `removed`. -/
  | dropping (removed : PlayerSession)
  | dropMarking (removed : PlayerSession)
  | finished
deriving DecidableEq, Repr

/-- The store, the handlers by session handle, and the sessions in the order in which they
entered the map of sessions, the last one first. -/
structure Lifetimes where
  store : SessionStore
  handlers : Dict Nat (PlayerSession × Phase)
  count : Nat
  log : List PlayerSession

/-- What can happen next: a new session, or a step of the handler of one. -/
inductive LifetimeEvent where
  | create (profile : GameProfile) (active : Bool) (permissionChecker : PermissionChecker)
  | step (handle : Nat)

namespace Lifetimes

def new : Lifetimes where
  store := { registry := .new, disconnected := [], cancelled := [], currentServer := ∅ }
  handlers := ∅
  count := 0
  log := []

/-- The next access of the handler of `session`: the changed store, where the handler is
then, and the log. -/
def access (session : PlayerSession) (store : SessionStore) (log : List PlayerSession) :
    Phase → Option (SessionStore × Phase × List PlayerSession)
  | .created => some (store.indexInsert session, .indexed, log)
  -- `insert` returns what was under the key, so this is one access
  | .indexed =>
    let phase := match store.registry.sessions.lookup session.profile.uuid with
      | none => .registered
      | some previous => .unindexing previous
    some (store.sessionsInsert session, phase, session :: log)
  | .unindexing previous =>
    let store := if previous.playerId ≠ session.playerId then store.indexRemove previous else store
    some (store, .cancelling previous, log)
  | .cancelling previous => some (store.cancel previous, .marking previous, log)
  | .marking previous => some (store.setDisconnected previous, .registered, log)
  -- the handler only has the UUID, and takes out whatever session is under it
  | .registered =>
    let phase := match store.registry.sessions.lookup session.profile.uuid with
      | none => .finished
      | some removed => .dropping removed
    some (store.sessionsRemove session.profile.uuid, phase, log)
  | .dropping removed => some (store.indexRemove removed, .dropMarking removed, log)
  | .dropMarking removed => some (store.setDisconnected removed, .finished, log)
  | .finished => none

def next (s : Lifetimes) : LifetimeEvent → Option Lifetimes
  | .create profile active permissionChecker =>
    let session : PlayerSession :=
      { handle := s.count, playerId := nextPlayerId s.count, profile := profile,
        active := active, permissionChecker := permissionChecker }
    some { s with
      handlers := s.handlers.insert s.count (session, .created)
      count := s.count + 1 }
  | .step handle => do
    let (session, phase) ← s.handlers.lookup handle
    let (store, phase, log) ← access session s.store s.log phase
    some { s with
      store := store, handlers := s.handlers.insert handle (session, phase), log := log }

end Lifetimes

end Infrarust
