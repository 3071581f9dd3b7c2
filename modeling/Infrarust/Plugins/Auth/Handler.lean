import Infrarust.Plugins.Auth.Password

/-!
# `Infrarust.Plugins.Auth.Handler`: the auth limbo handler

A player in the limbo types `/login` or `/register` until the handler completes the limbo
session with a result. The handler's callbacks read and write its own map of sessions, the
account storage and the limbo session they are called for. A callback that has to hash or
verify a password first does what it can and leaves a `Task`, which runs when the hash
function is done; the limbo loop reads no further input of the player until then. `next` is
the system of all limbo sessions, with the storage calls and forced logins that come from
elsewhere.

A message is the name of its template in the configuration, with the values that go into it.
The `evidence` of a limbo session is not in the source: it notes what happened in the session
that speaks for accepting the player.
-/

set_option autoImplicit false

namespace Infrarust.Auth

structure PasswordPolicyConfig where
  minLength : Nat := 8
  maxLength : Nat := 128
  checkUsername : Bool := true
deriving DecidableEq, Repr

/-- `AuthConfig`, what the handler reads. -/
structure AuthConfig where
  hashing : HashingConfig := {}
  passwordPolicy : PasswordPolicyConfig := {}
  maxLoginAttempts : Nat := 5
  loginTimeoutSeconds : Nat := 60
  premiumEnabled : Bool := false
deriving DecidableEq, Repr

/-- What the handler shows to a player. -/
inductive AuthMessage where
  | loginTitle
  | loginUsage
  | loginSuccess
  | loginFail (attemptsLeft maxAttempts : Nat)
  | loginMaxAttempts
  | loginTimeout
  | registerTitle (username : String)
  | registerUsage
  | registerSuccess
  | registerPasswordMismatch
  | registerPasswordTooShort (minLength : Nat)
  | registerPasswordTooLong (maxLength : Nat)
  | registerPasswordIsUsername
  | registerPasswordBlocked
  | registerAccountExists
  | premiumLogin (username : String)
  | unknownCommand
  | clearTitle
  | error (text : String)
deriving DecidableEq, Repr

/-- `HandlerResult`, the cases this handler uses. -/
inductive HandlerResult where
  | accept
  | deny (reason : AuthMessage)
  | hold
  | holdWithTimeout (afterSecs : Nat) (onTimeout : AuthMessage)
deriving DecidableEq, Repr

/-- The rest of a command, which waits for a hash function. -/
inductive Task where
  | login (username : Username) (password : String) (hash : PasswordHash)
  | register (username : Username) (displayName password : String)
deriving DecidableEq, Repr

/-- What speaks for accepting a player: a login command with its password and the account the
storage held when the command read it, an account that a register command created, or a
forced login. -/
inductive Evidence where
  | login (password : String) (account : Option AuthAccount)
  | registered (account : AuthAccount)
  | forced
deriving DecidableEq, Repr

/-- `LimboSession`: the player, the rest of the command it is busy with, the results it was
given, and what it was sent. The lists have the last element first. -/
structure LimboSession where
  profile : GameProfile
  running : Option Task
  results : List HandlerResult
  sent : List AuthMessage
  evidence : List Evidence
deriving DecidableEq, Repr

namespace LimboSession

variable (session : LimboSession)

/-- `send_message` and `send_title`. -/
def send (message : AuthMessage) : LimboSession := { session with sent := message :: session.sent }

/-- `complete`, or the result of `on_player_enter`. -/
def complete (result : HandlerResult) : LimboSession :=
  { session with results := result :: session.results }

def start (task : Task) : LimboSession := { session with running := some task }

def note (evidence : Evidence) : LimboSession :=
  { session with evidence := evidence :: session.evidence }

end LimboSession

structure AuthSessionState where
  failedAttempts : Nat
  needsRegister : Bool
  username : Username
  forceCompleted : Bool
deriving DecidableEq, Repr

/-- What the callbacks of the handler change besides the limbo session: the storage, the
handler's sessions, and the storage calls that were spawned and have not run yet. -/
structure Plugin where
  storage : JsonFileStorage
  sessions : Dict PlayerId AuthSessionState
  spawned : List StorageTask

namespace Plugin

variable (plugin : Plugin)

def cleanupSession (playerId : PlayerId) : Plugin :=
  { plugin with sessions := plugin.sessions.erase playerId }

/-- `tokio::spawn` of a storage call. -/
def spawn (tasks : List StorageTask) : Plugin := { plugin with spawned := plugin.spawned ++ tasks }

def forceCompleteSession (playerId : PlayerId) : Plugin × Bool :=
  match plugin.sessions.lookup playerId with
  | some entry =>
    ({ plugin with
      sessions := plugin.sessions.insert playerId { entry with forceCompleted := true } }, true)
  | none => (plugin, false)

/-- The end of every successful branch: the message, the cleanup and the result. -/
def acceptSession (playerId : PlayerId) (message : AuthMessage) (session : LimboSession) :
    Plugin × LimboSession :=
  (plugin.cleanupSession playerId, ((session.send message).send .clearTitle).complete .accept)

end Plugin

/-- What a callback takes from elsewhere: the time, the address the registry has for the
player, the salt of a new hash, and whether the blocking task fails. -/
structure Env where
  now : Nat
  ip : Option IpAddr
  salt : String
  blockingFailed : Bool
deriving DecidableEq, Repr

/-- `AuthHandler`, what does not change. -/
structure AuthHandler where
  strings : Strings
  crypto : Crypto
  config : AuthConfig
  dummyHash : PasswordHash
  blockedPasswords : List String

namespace AuthHandler

variable (handler : AuthHandler)

/-- `validate_password`: the message, if the password is not good enough. -/
def validatePassword (password : String) (username : Username) : Option AuthMessage :=
  let policy := handler.config.passwordPolicy
  let lower := handler.strings.toLowercase password
  -- the lengths are those of the UTF-8 text
  if Text.byteLen password.toList < policy.minLength then
    some (.registerPasswordTooShort policy.minLength)
  else if Text.byteLen password.toList > policy.maxLength then
    some (.registerPasswordTooLong policy.maxLength)
  else if policy.checkUsername && lower = username.value then some .registerPasswordIsUsername
  else if !handler.blockedPasswords.isEmpty && handler.blockedPasswords.contains lower then
    some .registerPasswordBlocked
  else none

/-- The branch of `on_player_enter` for a player whom Mojang has authenticated. -/
def enterPremium (env : Env) (plugin : Plugin) (session : LimboSession) : Plugin × LimboSession :=
  let profile := session.profile
  let username := Username.new handler.strings profile.username
  -- the account is written later, by a task of its own
  let task := match plugin.storage.getAccount username with
    | some existing => .updatePremiumInfo username (some
        { mojangUuid := profile.uuid, forceCracked := false
          firstPremiumLogin := (existing.premiumInfo.map (·.firstPremiumLogin)).getD env.now
          lastPremiumLogin := some env.now })
    | none => .createAccount
        { username := username, displayName := profile.username, passwordHash := none
          registeredAt := env.now, lastLogin := some env.now, lastIp := env.ip, loginCount := 1
          premiumInfo := some
            { mojangUuid := profile.uuid, forceCracked := false
              firstPremiumLogin := env.now, lastPremiumLogin := some env.now } }
  (plugin.spawn [task], (session.send (.premiumLogin profile.username)).complete .accept)

variable (playerId : PlayerId)

def onPlayerEnter (env : Env) (plugin : Plugin) (session : LimboSession) : Plugin × LimboSession :=
  let profile := session.profile
  if handler.config.premiumEnabled && profile.isMojangAuthenticated then
    handler.enterPremium env plugin session
  else
    let username := Username.new handler.strings profile.username
    -- decided once, and not again when the storage changes
    let needsRegister := !plugin.storage.hasAccount username
    let session := if needsRegister then
        (session.send (.registerTitle profile.username)).send .registerUsage
      else (session.send .loginTitle).send .loginUsage
    let timeoutSecs := handler.config.loginTimeoutSeconds
    ({ plugin with
        sessions := plugin.sessions.insert playerId
          { failedAttempts := 0, needsRegister := needsRegister, username := username
            forceCompleted := false } }, session.complete
        (if timeoutSecs = 0 then .hold else .holdWithTimeout timeoutSecs .loginTimeout))

/-- The `login` branch of `on_command`, up to the verification. -/
def onLogin (args : List String) (plugin : Plugin) (session : LimboSession) : LimboSession :=
  match plugin.sessions.lookup playerId with
  | none => session
  | some entry =>
    if entry.needsRegister then session.send .registerUsage
    else
      match args with
      | [] => session.send .loginUsage
      | password :: _ =>
        -- the one read of the storage in this command
        let read := plugin.storage.getAccount entry.username
        let session := session.note (.login password read)
        match read with
        | some account =>
          match account.passwordHash with
          | some hash => session.start (.login entry.username password hash)
          | none => session.send (.error (if account.premiumInfo.isSome then
              "This is a premium account. Use your official Minecraft launcher."
            else "This account has no password set. Contact an administrator."))
        -- as long as a real verification, so that the time does not tell that there is no account
        | none => session.start (.login entry.username password handler.dummyHash)

/-- The `register` branch of `on_command`, up to the hashing. -/
def onRegister (args : List String) (plugin : Plugin) (session : LimboSession) : LimboSession :=
  match plugin.sessions.lookup playerId with
  | none => session
  | some entry =>
    if !entry.needsRegister then session.send .loginUsage
    else
      match args with
      | password :: confirm :: _ =>
        if password ≠ confirm then session.send .registerPasswordMismatch
        else
          match handler.validatePassword password entry.username with
          | some message => session.send message
          | none => session.start (.register entry.username session.profile.username password)
      | _ => session.send .registerUsage

def onCommand (command : String) (args : List String) (plugin : Plugin)
    (session : LimboSession) : Plugin × LimboSession :=
  -- a forced login takes effect at the next input, whatever it is
  if (plugin.sessions.lookup playerId).any (·.forceCompleted) then
    plugin.acceptSession playerId .loginSuccess session
  else if command = "login" || command = "l" then
    (plugin, handler.onLogin playerId args plugin session)
  else if command = "register" || command = "reg" then
    (plugin, handler.onRegister playerId args plugin session)
  else (plugin, session.send .unknownCommand)

def onChat (plugin : Plugin) (session : LimboSession) : Plugin × LimboSession :=
  if (plugin.sessions.lookup playerId).any (·.forceCompleted) then
    plugin.acceptSession playerId .loginSuccess session
  else (plugin, session.send .unknownCommand)

def internalError : AuthMessage := .error "An internal error occurred. Please try again."

/-- A wrong password: the attempt counts, and the last one ends the session. -/
def loginFailed (plugin : Plugin) (session : LimboSession) : Plugin × LimboSession :=
  let maxAttempts := handler.config.maxLoginAttempts
  match plugin.sessions.lookup playerId with
  | some entry =>
    let failedAttempts := entry.failedAttempts + 1
    let plugin := { plugin with
      sessions := plugin.sessions.insert playerId { entry with failedAttempts := failedAttempts } }
    if failedAttempts ≥ maxAttempts then
      (plugin.cleanupSession playerId, session.complete (.deny .loginMaxAttempts))
    else (plugin, session.send (.loginFail (maxAttempts - failedAttempts) maxAttempts))
  -- the session was cleaned up while the hash function ran
  | none => (plugin, session.send (.loginFail 0 maxAttempts))

/-- The rest of `login`, when the verification is done. -/
def finishLogin (env : Env) (username : Username) (password : String)
    (hash : PasswordHash) (plugin : Plugin) (session : LimboSession) : Plugin × LimboSession :=
  let result := if env.blockingFailed then .error .hashing
    else verifyAndMigrate handler.crypto handler.config.hashing env.salt password hash
  match result with
  | .ok (true, migratedHash) =>
    -- the answer does not wait for the storage
    let plugin := plugin.spawn (migratedHash.toList.map (.updatePasswordHash username ·) ++
      env.ip.toList.map (.updateLastLogin username · env.now))
    plugin.acceptSession playerId .loginSuccess session
  | .ok (false, _) => handler.loginFailed playerId plugin session
  | .error _ => (plugin, session.send internalError)

/-- The rest of `register`, when the hash is done. -/
def finishRegister (env : Env) (username : Username)
    (displayName password : String) (plugin : Plugin) (session : LimboSession) :
    Plugin × LimboSession :=
  let hashed := if env.blockingFailed then .error .hashing
    else hashPassword handler.crypto handler.config.hashing env.salt password
  match hashed with
  | .error _ => (plugin, session.send internalError)
  | .ok hash =>
    let account : AuthAccount :=
      { username := username, displayName := displayName, passwordHash := some hash
        registeredAt := env.now, lastLogin := none, lastIp := env.ip, loginCount := 0
        premiumInfo := none }
    -- somebody else may have created the account since the player entered
    match plugin.storage.createAccount account with
    | .ok storage =>
      { plugin with storage := storage }.acceptSession playerId .registerSuccess
        (session.note (.registered account))
    | .error (.accountAlreadyExists _) => (plugin, session.send .registerAccountExists)
    | .error _ => (plugin, session.send internalError)

/-- Goes on with the task of a limbo session. -/
def resume (env : Env) (task : Task) (plugin : Plugin)
    (session : LimboSession) : Plugin × LimboSession :=
  let session := { session with running := none }
  match task with
  | .login username password hash =>
    handler.finishLogin playerId env username password hash plugin session
  | .register username displayName password =>
    handler.finishRegister playerId env username displayName password plugin session

end AuthHandler

/-! ### All limbo sessions -/

/-- The plugin and the limbo session of every player, by player id. -/
structure AuthWorld where
  plugin : Plugin
  limbo : Dict PlayerId LimboSession

/-- What can happen next. -/
inductive AuthEvent where
  /-- A player enters the limbo. -/
  | enter (playerId : PlayerId) (profile : GameProfile) (env : Env)
  | command (playerId : PlayerId) (command : String) (args : List String)
  | chat (playerId : PlayerId)
  /-- The hash function of the player's task is done. -/
  | resume (playerId : PlayerId) (env : Env)
  /-- `on_session_end`; a task is dropped with its session. -/
  | sessionEnd (playerId : PlayerId)
  /-- An admin forces the login of the player. -/
  | forceComplete (playerId : PlayerId)
  /-- A spawned storage call runs. -/
  | spawned (index : Nat)
  /-- A storage call from elsewhere. -/
  | storage (task : StorageTask)

namespace AuthWorld

variable (handler : AuthHandler) (world : AuthWorld)

/-- The world after a callback for a player. -/
def put (playerId : PlayerId) (result : Plugin × LimboSession) : AuthWorld :=
  { plugin := result.1, limbo := world.limbo.insert playerId result.2 }

/-- A callback with the limbo session of a player who is not busy with a command. -/
def idle (playerId : PlayerId) (callback : LimboSession → Plugin × LimboSession) :
    Option AuthWorld :=
  match world.limbo.lookup playerId with
  | some session =>
    if session.running = none then some (world.put playerId (callback session)) else none
  | none => none

def next : AuthEvent → Option AuthWorld
  | .enter playerId profile env =>
    let session : LimboSession :=
      { profile := profile, running := none, results := [], sent := [], evidence := [] }
    some (world.put playerId (handler.onPlayerEnter playerId env world.plugin session))
  | .command playerId command args =>
    world.idle playerId fun session =>
      handler.onCommand playerId command args world.plugin session
  | .chat playerId =>
    world.idle playerId fun session => AuthHandler.onChat playerId world.plugin session
  | .resume playerId env => do
    let session ← world.limbo.lookup playerId
    let task ← session.running
    some (world.put playerId (handler.resume playerId env task world.plugin session))
  | .sessionEnd playerId => do
    let session ← world.limbo.lookup playerId
    some (world.put playerId
      (world.plugin.cleanupSession playerId, { session with running := none }))
  | .forceComplete playerId => do
    let session ← world.limbo.lookup playerId
    -- without a session of the handler the admin is told so, and nothing is forced
    let (plugin, found) := world.plugin.forceCompleteSession playerId
    some (world.put playerId (plugin, if found then session.note .forced else session))
  | .spawned index => do
    -- spawned calls run in any order
    let task ← world.plugin.spawned[index]?
    some { world with
      plugin.storage := task.run world.plugin.storage
      plugin.spawned := world.plugin.spawned.eraseIdx index }
  | .storage task => some { world with plugin.storage := task.run world.plugin.storage }

/-- Nobody is in the limbo. -/
def new (storage : JsonFileStorage) : AuthWorld :=
  { plugin := { storage := storage, sessions := ∅, spawned := [] }, limbo := ∅ }

end AuthWorld

end Infrarust.Auth
