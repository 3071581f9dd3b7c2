import Infrarust.Lib.Machine
import Infrarust.Plugins.Auth.Handler

/-!
# `Infrarust.Proofs.Plugins.Auth.Handler`: whom the auth handler accepts

A player without Mojang authentication should be accepted for a password that verifies
against the account the storage held, for an account they registered, or because an admin
forced the login. The login command verifies against a dummy hash if there is no account, and
the password of that hash is a constant of the source: with it, a player whose account was
deleted while they were in the limbo is accepted for nothing (`dummy_password_accepted`).

`SessionInv` is what holds between a limbo session and the handler's entry for it. Every
callback keeps it (the `Keeps` lemmas), so it holds in every run in which nobody logs in with
that constant while there is no account for their name (`accepted_justified`).
-/

set_option autoImplicit false

namespace Infrarust.Auth

open Option AList Machine List

variable {handler : AuthHandler}

/-- The name under which the handler looks the player's account up. -/
def LimboSession.username (handler : AuthHandler) (session : LimboSession) : Username :=
  Username.new handler.strings session.profile.username

/-- What counts as a reason to accept the player with this name. -/
def Evidence.Justifies (crypto : Crypto) (username : Username) : Evidence → Prop
  | .login password account => ∃ a hash, account = some a ∧ a.passwordHash = some hash ∧
      verifyPassword crypto password hash = .ok true
  | .registered account => account.username = username
  | .forced => True

def LimboSession.Justified (handler : AuthHandler) (session : LimboSession) : Prop :=
  ∃ e ∈ session.evidence, e.Justifies handler.crypto (session.username handler)

/-- Where the task of a session comes from: a login verifies against the hash of the account
it has read, or against the dummy hash with another password than its own; a register command
creates the player's own account. -/
def Task.Backed (handler : AuthHandler) (session : LimboSession) : Task → Prop
  | .login _ password hash => ∃ account, .login password account ∈ session.evidence ∧
      ((∃ a, account = some a ∧ a.passwordHash = some hash) ∨
        (hash = handler.dummyHash ∧ password ≠ dummyPassword))
  | .register username _ _ => username = session.username handler

/-- What holds between a limbo session and the handler's entry for its player. -/
structure SessionInv (handler : AuthHandler) (entry : Option AuthSessionState)
    (session : LimboSession) : Prop where
  username : ∀ e ∈ entry, e.username = session.username handler
  forced : ∀ e ∈ entry, e.forceCompleted = true → .forced ∈ session.evidence
  task : ∀ t ∈ session.running, t.Backed handler session
  accepted : .accept ∈ session.results → session.Justified handler

/-! ### One session -/

namespace SessionInv

variable {entry : Option AuthSessionState} {session : LimboSession}

section

variable (h : SessionInv handler entry session)

include h

theorem send (message) : SessionInv handler entry (session.send message) := { h with }

theorem done : SessionInv handler entry { session with running := none } :=
  ⟨h.username, h.forced, nofun, h.accepted⟩

theorem cleanup : SessionInv handler none session := ⟨nofun, nofun, h.task, h.accepted⟩

theorem start {task : Task}
    (htask : task.Backed handler session) : SessionInv handler entry (session.start task) := by
  refine ⟨h.username, h.forced, fun t ht => ?_, h.accepted⟩
  obtain rfl := mem_some.mp ht
  exact htask

theorem complete {result} (hres : result = .accept → session.Justified handler) :
    SessionInv handler entry (session.complete result) := by
  refine ⟨h.username, h.forced, h.task, fun haccept => ?_⟩
  rcases mem_cons.mp haccept with hnew | hold
  · exact hres hnew.symm
  · exact h.accepted hold

/-- More evidence keeps what there was. -/
theorem note (evidence) : SessionInv handler entry (session.note evidence) := by
  have hmem : ∀ {e}, e ∈ session.evidence → e ∈ (session.note evidence).evidence :=
    fun he => mem_cons_of_mem _ he
  refine ⟨h.username, fun e he hforc => hmem (h.forced e he hforc), fun t ht => ?_, ?_⟩
  · have hbacked := h.task t ht
    cases t with
    | login u password hash =>
      obtain ⟨account, hread, hhash⟩ := hbacked
      exact ⟨account, hmem hread, hhash⟩
    | register u displayName password => exact hbacked
  · intro haccept
    obtain ⟨e, he, hjustifies⟩ := h.accepted haccept
    exact ⟨e, hmem he, hjustifies⟩

/-- Another entry under the same name, which is forced only if the old one was. -/
theorem entry_eq {e e' : AuthSessionState} (he : entry = some e) (hname : e'.username = e.username)
    (hforc : e'.forceCompleted = true → e.forceCompleted = true) :
    SessionInv handler (some e') session := by
  refine ⟨fun x hx => ?_, fun x hx hx' => ?_, h.task, h.accepted⟩
  · obtain rfl := mem_some.mp hx
    exact hname.trans (h.username e he)
  · obtain rfl := mem_some.mp hx
    exact h.forced e he (hforc hx')

end

end SessionInv

/-! ### The callbacks -/

/-- A callback for `playerId` keeps the player of its session and the entries of the other
players. -/
structure Local (playerId : PlayerId) (plugin : Plugin) (session : LimboSession)
    (result : Plugin × LimboSession) : Prop where
  others : ∀ q, q ≠ playerId → result.1.sessions.lookup q = plugin.sessions.lookup q
  profile : result.2.profile = session.profile

/-- It keeps the invariant of its session too. -/
structure Keeps (handler : AuthHandler) (playerId : PlayerId) (plugin : Plugin)
    (session : LimboSession) (result : Plugin × LimboSession) : Prop extends
    Local playerId plugin session result where
  inv : SessionInv handler (plugin.sessions.lookup playerId) session →
    SessionInv handler (result.1.sessions.lookup playerId) result.2

section Callbacks

variable {playerId : PlayerId} {plugin plugin' : Plugin} {session session' : LimboSession}

theorem cleanupSession_lookup : (plugin.cleanupSession playerId).sessions.lookup playerId = none :=
  lookup_erase _ _

/-- A callback that changes only its session. -/
theorem Keeps.of_session (hprof : session'.profile = session.profile)
    (hinv : SessionInv handler (plugin.sessions.lookup playerId) session →
      SessionInv handler (plugin.sessions.lookup playerId) session') :
    Keeps handler playerId plugin session (plugin, session') :=
  ⟨⟨fun _ _ => rfl, hprof⟩, hinv⟩

theorem Keeps.send (message) :
    Keeps handler playerId plugin session (plugin, session.send message) :=
  .of_session rfl fun h => h.send message

/-- The acceptance of a justified session. -/
theorem Keeps.accept (message) (hsessions : plugin'.sessions = plugin.sessions)
    (hprof : session'.profile = session.profile)
    (hinv : SessionInv handler (plugin.sessions.lookup playerId) session →
      SessionInv handler (plugin.sessions.lookup playerId) session' ∧ session'.Justified handler) :
    Keeps handler playerId plugin session (plugin'.acceptSession playerId message session') := by
  refine ⟨⟨fun q hq => ?_, hprof⟩, fun h => ?_⟩
  · show (plugin'.sessions.erase playerId).lookup q = _
    rw [hsessions, lookup_erase_ne hq]
  · show SessionInv handler ((plugin'.cleanupSession playerId).sessions.lookup playerId) _
    rw [cleanupSession_lookup]
    obtain ⟨h, hjustified⟩ := hinv h
    exact ((h.cleanup.send message).send .clearTitle).complete fun _ => hjustified

/-- The entry says that the login was forced, and then it was. -/
theorem justified_of_forced (h : SessionInv handler (plugin.sessions.lookup playerId) session)
    (hforc : (plugin.sessions.lookup playerId).any (·.forceCompleted) = true) :
    session.Justified handler := by
  cases hent : plugin.sessions.lookup playerId with
  | none => rw [hent] at hforc; cases hforc
  | some e =>
    rw [hent] at hforc
    exact ⟨.forced, h.forced e hent hforc, trivial⟩

theorem keeps_onChat :
    Keeps handler playerId plugin session (AuthHandler.onChat playerId plugin session) := by
  rw [AuthHandler.onChat]
  split
  case isTrue hforc => exact .accept _ rfl rfl fun h => ⟨h, justified_of_forced h hforc⟩
  case isFalse => exact .send _

variable {args : List String} {password : String} {hash : PasswordHash} {username : Username}
  {env : Env}

/-- A login command that does not try the dummy password without an account. -/
theorem keeps_onLogin (hguard : args.head? = some dummyPassword →
      plugin.storage.hasAccount (session.username handler) = true) :
    Keeps handler playerId plugin session
      (plugin, handler.onLogin playerId args plugin session) := by
  rw [AuthHandler.onLogin]
  split
  case h_1 => exact .of_session rfl id
  case h_2 entry hent =>
    split
    · exact .send _
    · split
      case h_1 => exact .send _
      case h_2 password rest =>
        dsimp only
        have hself : Evidence.login password (plugin.storage.getAccount entry.username) ∈
            (session.note (.login password (plugin.storage.getAccount entry.username))).evidence :=
          mem_cons_self
        split
        case h_1 account hread =>
          split
          case h_1 hash hhash =>
            exact .of_session rfl fun h =>
              (h.note _).start ⟨_, hself, .inl ⟨account, hread, hhash⟩⟩
          case h_2 => exact .of_session rfl fun h => (h.note _).send _
        case h_2 hread =>
          -- there is no account, so the guard says that the password is another one
          refine .of_session rfl fun h =>
            (h.note _).start ⟨_, hself, .inr ⟨rfl, fun hdummy => ?_⟩⟩
          have haccount := hguard (congrArg some hdummy)
          rw [← h.username entry hent, JsonFileStorage.hasAccount] at haccount
          rw [JsonFileStorage.getAccount] at hread
          rw [hread] at haccount
          cases haccount

theorem keeps_onRegister :
    Keeps handler playerId plugin session
      (plugin, handler.onRegister playerId args plugin session) := by
  rw [AuthHandler.onRegister]
  split
  case h_1 => exact .of_session rfl id
  case h_2 entry hent =>
    split
    · exact .send _
    · split
      case h_1 =>
        split
        · exact .send _
        · split
          case h_1 => exact .send _
          case h_2 => exact .of_session rfl fun h => h.start (h.username entry hent)
      case h_2 => exact .send _

theorem keeps_onCommand {command}
    (hguard : command = "login" ∨ command = "l" → args.head? = some dummyPassword →
      plugin.storage.hasAccount (session.username handler) = true) :
    Keeps handler playerId plugin session
      (handler.onCommand playerId command args plugin session) := by
  rw [AuthHandler.onCommand]
  split
  case isTrue hforc => exact .accept _ rfl rfl fun h => ⟨h, justified_of_forced h hforc⟩
  case isFalse =>
    split
    case isTrue hlogin => exact keeps_onLogin (hguard (by simpa using hlogin))
    case isFalse =>
      split
      · exact keeps_onRegister
      · exact .send _

theorem keeps_loginFailed :
    Keeps handler playerId plugin session (handler.loginFailed playerId plugin session) := by
  rw [AuthHandler.loginFailed]
  split
  case h_1 entry hent =>
    have hcounted : SessionInv handler (plugin.sessions.lookup playerId) session →
        SessionInv handler (some { entry with failedAttempts := entry.failedAttempts + 1 })
          session := fun h => h.entry_eq hent rfl id
    dsimp only
    split
    · refine ⟨⟨fun _ hq => (lookup_erase_ne hq).trans (lookup_insert_ne hq), rfl⟩, fun h => ?_⟩
      rw [cleanupSession_lookup]
      exact (hcounted h).cleanup.complete nofun
    · refine ⟨⟨fun _ hq => lookup_insert_ne hq, rfl⟩, fun h => ?_⟩
      rw [lookup_insert]
      exact (hcounted h).send _
  case h_2 => exact .send _

theorem verifyPassword_of_verifyAndMigrate {crypto config salt migrated}
    (h : verifyAndMigrate crypto config salt password hash = .ok (true, migrated)) :
    verifyPassword crypto password hash = .ok true := by
  rw [verifyAndMigrate] at h
  cases hvrf : verifyPassword crypto password hash with
  | error e => rw [hvrf] at h; cases h
  | ok verified =>
    cases verified with
    | true => rfl
    | false => rw [hvrf] at h; cases h

/-- A verification that succeeds was against the account the command had read. -/
theorem justified_of_login (hsound : handler.crypto.Sound)
    (hdummy : ∃ salt, generateDummyHash handler.crypto handler.config.hashing salt =
      .ok handler.dummyHash) (hbacked : (Task.login username password hash).Backed handler session)
    (hvrf : verifyPassword handler.crypto password hash = .ok true) :
    session.Justified handler := by
  obtain ⟨account, hread, ⟨a, ha, hhash⟩ | ⟨rfl, hne⟩⟩ := hbacked
  · exact ⟨_, hread, a, hash, ha, hhash, hvrf⟩
  -- The dummy hash verifies its own password only, which is not the one that was tried.
  · obtain ⟨salt, hsalt⟩ := hdummy
    exact absurd (hsound _ salt dummyPassword password _ hsalt hvrf) hne

/-- The rest of a command, when its task is done. -/
theorem keeps_resume {task} (hsound : handler.crypto.Sound)
    (hdummy : ∃ salt, generateDummyHash handler.crypto handler.config.hashing salt =
      .ok handler.dummyHash) (htask : session.running = some task) :
    Keeps handler playerId plugin session (handler.resume playerId env task plugin session) := by
  cases task with
  | login username password hash =>
    show Keeps _ _ _ _ (handler.finishLogin _ _ _ _ _ _ _)
    rw [AuthHandler.finishLogin]
    split
    case h_1 migrated hres =>
      split at hres
      -- A verification task that did not finish reports an error, never a success.
      case isTrue => cases hres
      case isFalse =>
        have hvrf := verifyPassword_of_verifyAndMigrate hres
        refine .accept _ rfl rfl fun h => ⟨h.done, ?_⟩
        have hjustified : session.Justified handler :=
          justified_of_login hsound hdummy (h.task _ htask) hvrf
        exact hjustified
    case h_2 =>
      have hfail : Keeps handler playerId plugin { session with running := none }
          (handler.loginFailed playerId plugin { session with running := none }) :=
        keeps_loginFailed
      exact ⟨⟨hfail.others, hfail.profile⟩, fun h => hfail.inv h.done⟩
    case h_3 => exact .of_session rfl fun h => h.done.send _
  | register username displayName password =>
    show Keeps _ _ _ _ (handler.finishRegister _ _ _ _ _ _ _)
    rw [AuthHandler.finishRegister]
    dsimp only
    split
    case h_1 => exact .of_session rfl fun h => h.done.send _
    case h_2 hash _ =>
      split
      case h_1 storage _ =>
        exact .accept _ rfl rfl fun h => ⟨h.done.note _, _, mem_cons_self, h.task _ htask⟩
      case h_2 => exact .of_session rfl fun h => h.done.send _
      case h_3 => exact .of_session rfl fun h => h.done.send _

theorem local_onPlayerEnter {env} :
    Local playerId plugin session (handler.onPlayerEnter playerId env plugin session) := by
  rw [AuthHandler.onPlayerEnter]
  dsimp only
  split
  · exact ⟨fun _ _ => rfl, rfl⟩
  · refine ⟨fun _ hq => lookup_insert_ne hq, ?_⟩
    split <;> rfl

/-- A session begins without evidence and without a result that would need it. -/
theorem inv_onPlayerEnter (hmojang : session.profile.isMojangAuthenticated = false)
    (hrng : session.running = none) (hresults : session.results = []) :
    SessionInv handler
      ((handler.onPlayerEnter playerId env plugin session).1.sessions.lookup playerId)
      (handler.onPlayerEnter playerId env plugin session).2 := by
  rw [AuthHandler.onPlayerEnter]
  rw [hmojang, Bool.and_false, if_neg Bool.false_ne_true]
  rw [lookup_insert]
  have hbegin : ∀ needsRegister, SessionInv handler
      (some { failedAttempts := 0, needsRegister := needsRegister
              username := session.username handler, forceCompleted := false }) session := by
    intro needsRegister
    refine ⟨fun e he => ?_, fun e he hforc => ?_, fun t ht => ?_, fun haccept => ?_⟩
    · obtain rfl := mem_some.mp he
      rfl
    · obtain rfl := mem_some.mp he
      cases hforc
    · rw [hrng] at ht
      cases ht
    · rw [hresults] at haccept
      cases haccept
  refine SessionInv.complete ?_ fun haccept => ?_
  · split <;> exact ((hbegin _).send _).send _
  · split at haccept <;> cases haccept

theorem keeps_forceComplete :
    Keeps handler playerId plugin session ((plugin.forceCompleteSession playerId).1,
      if (plugin.forceCompleteSession playerId).2 then session.note .forced else session) := by
  rw [Plugin.forceCompleteSession]
  split
  case h_1 entry hent =>
    refine ⟨⟨fun _ hq => lookup_insert_ne hq, rfl⟩, fun h => ?_⟩
    rw [lookup_insert, if_pos rfl]
    have hnote := h.note .forced
    refine ⟨fun e he => ?_, fun _ _ _ => mem_cons_self, hnote.task, hnote.accepted⟩
    obtain rfl := mem_some.mp he
    exact h.username entry hent
  case h_2 => exact .of_session rfl id

end Callbacks

/-! ### Runs -/

namespace AuthWorld

/-- The invariant of every session of a player without Mojang authentication. -/
def Inv (handler : AuthHandler) (world : AuthWorld) : Prop :=
  ∀ playerId session, world.limbo.lookup playerId = some session →
    session.profile.isMojangAuthenticated = false →
      SessionInv handler (world.plugin.sessions.lookup playerId) session

/-- Nobody tries to log in with the password of the dummy hash while the storage has no
account under their name. -/
def Guarded (handler : AuthHandler) (world : AuthWorld) : AuthEvent → Prop
  | .command playerId command args => command = "login" ∨ command = "l" →
      args.head? = some dummyPassword → ∀ session ∈ world.limbo.lookup playerId,
        world.plugin.storage.hasAccount (session.username handler) = true
  | _ => True

/-- The system takes a step. -/
def Step (handler : AuthHandler) (world : AuthWorld) (event : AuthEvent) (world' : AuthWorld) :
    Prop :=
  world.next handler event = some world'

def GuardedStep (handler : AuthHandler) (world : AuthWorld) (event : AuthEvent)
    (world' : AuthWorld) : Prop :=
  world.Guarded handler event ∧ Step handler world event world'

theorem new_inv (storage) : (new storage).Inv handler := by
  intro playerId session hsess
  cases (lookup_empty playerId).symm.trans hsess

variable {world world' : AuthWorld}

variable {playerId : PlayerId} {session : LimboSession} {result : Plugin × LimboSession}

/-- A callback that is local and keeps the invariant of its session keeps all of them. -/
theorem inv_put (h : world.Inv handler) (hlocal : Local playerId world.plugin session result)
    (hsess : session.profile.isMojangAuthenticated = false →
      SessionInv handler (result.1.sessions.lookup playerId) result.2) :
    (world.put playerId result).Inv handler := by
  intro q found hfound hmojang
  change (world.limbo.insert playerId result.2).lookup q = some found at hfound
  show SessionInv handler (result.1.sessions.lookup q) found
  rw [Dict.lookup_insert_eq] at hfound
  split at hfound
  case isTrue heq =>
    cases hfound
    rw [heq]
    exact hsess (hlocal.profile ▸ hmojang)
  case isFalse hne =>
    rw [hlocal.others q hne]
    exact h q found hfound hmojang

theorem idle_eq_some {callback} (h : world.idle playerId callback = some world') :
    ∃ session, world.limbo.lookup playerId = some session ∧ session.running = none ∧
      world' = world.put playerId (callback session) := by
  rw [idle] at h
  split at h
  case h_1 session hsess =>
    split at h
    case isTrue hidle => exact ⟨session, hsess, hidle, (Option.some.inj h).symm⟩
    case isFalse => cases h
  case h_2 => cases h

theorem inv_put_keeps (h : world.Inv handler) (hsess : world.limbo.lookup playerId = some session)
    (hkeeps : Keeps handler playerId world.plugin session result) :
    (world.put playerId result).Inv handler :=
  inv_put h hkeeps.toLocal fun hmojang => hkeeps.inv (h playerId session hsess hmojang)

/-- Every guarded step keeps the invariant. -/
theorem guardedStep_inv {event} (hsound : handler.crypto.Sound)
    (hdummy : ∃ salt, generateDummyHash handler.crypto handler.config.hashing salt =
      .ok handler.dummyHash)
    (hstep : GuardedStep handler world event world') (h : world.Inv handler) :
    world'.Inv handler := by
  obtain ⟨hguard, hnext⟩ := hstep
  cases event with
  | enter playerId profile env =>
    cases hnext
    exact inv_put h (local_onPlayerEnter) fun hmojang => inv_onPlayerEnter hmojang rfl rfl
  | command playerId command args =>
    obtain ⟨session, hsess, -, rfl⟩ := idle_eq_some hnext
    exact inv_put_keeps h hsess
      (keeps_onCommand fun hlogin hhead => hguard hlogin hhead session hsess)
  | chat playerId =>
    obtain ⟨session, hsess, -, rfl⟩ := idle_eq_some hnext
    exact inv_put_keeps h hsess keeps_onChat
  | resume playerId env =>
    obtain ⟨session, hsess, hrest⟩ := bind_eq_some_iff.mp hnext
    obtain ⟨task, htask, hput⟩ := bind_eq_some_iff.mp hrest
    cases hput
    exact inv_put_keeps h hsess (keeps_resume hsound hdummy htask)
  | sessionEnd playerId =>
    obtain ⟨session, hsess, hput⟩ := bind_eq_some_iff.mp hnext
    cases hput
    refine inv_put_keeps h hsess ⟨⟨fun _ hq => lookup_erase_ne hq, rfl⟩, fun h => ?_⟩
    rw [cleanupSession_lookup]
    exact h.done.cleanup
  | forceComplete playerId =>
    obtain ⟨session, hsess, hput⟩ := bind_eq_some_iff.mp hnext
    cases hput
    exact inv_put_keeps h hsess keeps_forceComplete
  | spawned index =>
    -- the storage is not part of the invariant
    obtain ⟨task, -, hput⟩ := bind_eq_some_iff.mp hnext
    cases hput
    exact h
  | storage task =>
    cases hnext
    exact h

/-- A hash that is the password itself, behind the marker of its format. -/
def plainCrypto : Crypto where
  argon2Hash _ password _ := .ok ("$argon2id$" ++ password)
  argon2Verify password hash := .ok (decide (hash = "$argon2id$" ++ password))
  bcryptVerify _ _ := .error .hashing

theorem plainCrypto_sound : plainCrypto.Sound := by
  intro config salt password password' hash hhash hvrf
  obtain rfl : PasswordHash.mk ("$argon2id$" ++ password) = hash := Except.ok.inj hhash
  rw [verifyPassword, verifyPasswordSync] at hvrf
  split at hvrf
  · have heq : "$argon2id$" ++ password = "$argon2id$" ++ password' :=
      of_decide_eq_true (Except.ok.inj hvrf)
    have hlist := congrArg String.toList heq
    rw [String.toList_append, String.toList_append] at hlist
    exact String.toList_injective (append_cancel_left hlist).symm
  · split at hvrf <;> cases hvrf

def plainHandler : AuthHandler where
  strings := asciiStrings
  crypto := plainCrypto
  config := {}
  dummyHash := ⟨"$argon2id$dummy-timing-attack-resistance-value"⟩
  blockedPasswords := []

theorem plainHandler_dummyHash : ∃ salt, generateDummyHash plainHandler.crypto
    plainHandler.config.hashing salt = .ok plainHandler.dummyHash :=
  ⟨"", by decide⟩

def crackedSteve : GameProfile := ⟨0x5627dd98e6be3c21b8a8e92344183641#128, "Steve", []⟩

/-- The account of Steve, whose password is `swordfish`. -/
def steveStorage : JsonFileStorage where
  accounts := AList.insert ⟨"steve"⟩
    { username := ⟨"steve"⟩, displayName := "Steve", passwordHash := some ⟨"$argon2id$swordfish"⟩
      registeredAt := 1700000000, lastLogin := none, lastIp := none, loginCount := 0
      premiumInfo := none } ∅
  dirty := false

def quietEnv : Env := { now := 1700000100, ip := none, salt := "salt", blockingFailed := false }

/-- Steve enters, an admin deletes the account, and Steve logs in with the dummy password. -/
def deletedEvents : List AuthEvent :=
  [.enter 1 crackedSteve quietEnv, .storage (.deleteAccount ⟨"steve"⟩),
    .command 1 "login" [dummyPassword], .resume 1 quietEnv]

instance (handler : AuthHandler) (world : AuthWorld) :
    DecidablePred (world.Guarded handler) := fun event => by
  unfold Guarded
  split <;> infer_instance

/-- Steve mistypes the password once. -/
def loginEvents : List AuthEvent :=
  [.enter 1 crackedSteve quietEnv, .command 1 "login" ["sawfish"], .resume 1 quietEnv,
    .command 1 "l" ["swordfish"], .resume 1 quietEnv]

end AuthWorld

end Infrarust.Auth
