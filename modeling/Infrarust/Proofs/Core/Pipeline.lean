import Infrarust.Core.Server

/-!
# `Infrarust.Proofs.Core.Pipeline`: what the middlewares have checked

`isBanned` and `checkPlayer` remove expired entries while they look. The lemmas on the storage
say what they answer in terms of `BanView.Banned`, which does not mention that clean-up:
`checkPlayer_fst_eq_none` is the one the handlers use. After that come the middlewares, each
with what is known once it lets a connection go on, and the two pipelines put together from
them (`commonPipeline_proceed`, `commonPipeline_shortCircuit`, `loginPipeline_proceed`).
-/

set_option autoImplicit false

namespace Infrarust

open Pipeline

variable {strings : Strings}

/-! ### The storage -/

/-- There is an entry for the target that has not expired. -/
def BanView.Banned (strings : Strings) (view : BanView) (target : BanTarget) : Prop :=
  ∃ entry, view.storage.find strings target = some entry ∧ entry.isExpired view.now = false

section Storage

variable {view : BanView} {target : BanTarget} {ip : IpAddr} {username : String}
  {uuid : Option Uuid} {now : Nat} {storage : FileBanStorage}

theorem isBanned_eq_some {persist} (h : view.Banned strings target) :
    ∃ entry, (view.storage.isBanned strings view.now persist target).1 = .ok (some entry) := by
  obtain ⟨entry, hfind, hexp⟩ := h
  refine ⟨entry, ?_⟩
  rw [FileBanStorage.isBanned, hfind]
  simp [hexp]

theorem isBanned_eq_none (h : ¬view.Banned strings target) :
    (view.storage.isBanned strings view.now (.ok ()) target).1 = .ok none := by
  rw [FileBanStorage.isBanned]
  cases hfind : view.storage.find strings target with
  | none => rfl
  | some entry =>
    have hexp : entry.isExpired view.now = true := by
      by_contra hne
      exact h ⟨entry, hfind, Bool.eq_false_iff.mpr hne⟩
    simp only [hexp, if_true]
    rfl

theorem checkTarget_fst_eq_none :
    (storage.checkTarget strings now target).1 = none ↔
      ¬BanView.Banned strings ⟨storage, now⟩ target := by
  rw [FileBanStorage.checkTarget]
  cases hfind : storage.find strings target with
  | none => simp [BanView.Banned, hfind]
  | some entry => cases hexp : entry.isExpired now <;> simp [BanView.Banned, hfind, hexp]

/-- Whether a target is banned depends on its entry only. -/
theorem banned_congr {storage' : FileBanStorage}
    (h : storage'.find strings target = storage.find strings target) :
    BanView.Banned strings ⟨storage', now⟩ target ↔
      BanView.Banned strings ⟨storage, now⟩ target := by
  show (∃ entry, storage'.find strings target = some entry ∧ _) ↔ _
  rw [h]
  rfl

/-- A check of an address cleans up among the addresses only. -/
theorem checkTarget_ip_find {other} (hother : ∀ addr, other ≠ .ip addr) :
    (storage.checkTarget strings now (.ip ip)).2.find strings other =
      storage.find strings other := by
  rw [FileBanStorage.checkTarget]
  cases other with
  | ip addr => exact absurd rfl (hother addr)
  | username name | uuid u =>
    split
    · rfl
    · split <;> rfl

theorem checkTarget_username_find {u} :
    (storage.checkTarget strings now (.username username)).2.find strings (.uuid u) =
      storage.find strings (.uuid u) := by
  rw [FileBanStorage.checkTarget]
  split
  · rfl
  · split <;> rfl

/-- `check_player` lets a player pass exactly if none of what it is given is banned. -/
theorem checkPlayer_fst_eq_none :
    (storage.checkPlayer strings now ip username uuid).1 = none ↔
      ¬BanView.Banned strings ⟨storage, now⟩ (.ip ip) ∧
        ¬BanView.Banned strings ⟨storage, now⟩ (.username username) ∧
        ∀ u ∈ uuid, ¬BanView.Banned strings ⟨storage, now⟩ (.uuid u) := by
  -- the clean-up of one check does not change what the next one finds
  obtain ⟨first, hfst⟩ : ∃ s, s = (storage.checkTarget strings now (.ip ip)).2 := ⟨_, rfl⟩
  obtain ⟨second, hsnd⟩ : ∃ s, s = (first.checkTarget strings now (.username username)).2 :=
    ⟨_, rfl⟩
  have hname : BanView.Banned strings ⟨first, now⟩ (.username username) ↔
      BanView.Banned strings ⟨storage, now⟩ (.username username) := by
    refine banned_congr ?_
    rw [hfst]
    exact checkTarget_ip_find nofun
  have huuid : ∀ u, BanView.Banned strings ⟨second, now⟩ (.uuid u) ↔
      BanView.Banned strings ⟨storage, now⟩ (.uuid u) := by
    intro u
    refine banned_congr ?_
    rw [hsnd, checkTarget_username_find, hfst]
    exact checkTarget_ip_find nofun
  rw [← checkTarget_fst_eq_none, ← hname, ← checkTarget_fst_eq_none, FileBanStorage.checkPlayer]
  cases hip : storage.checkTarget strings now (.ip ip) with
  | mk found s =>
    cases found with
    | some entry => simp
    | none =>
      rw [hip] at hfst
      subst hfst
      cases hcheck : first.checkTarget strings now (.username username) with
      | mk found' s' =>
        cases found' with
        | some entry => simp [hcheck]
        | none =>
          rw [hcheck] at hsnd
          subst hsnd
          cases uuid with
          | none => simp [hcheck]
          | some u => simp [hcheck, checkTarget_fst_eq_none, huuid]

end Storage

/-! ### The pipelines -/

section Pipelines

variable {env : ProxyEnv} {offlineUuid : String → Uuid} {bans : Checkpoint → BanView}
  {ctx ctx' : ConnectionContext} {middleware : Middleware} {rest : List Middleware}

/-- A pipeline that is passed was passed at its first middleware. -/
theorem execute_cons_proceed (h : execute (middleware :: rest) ctx = .ok (.proceed, ctx')) :
    ∃ next, middleware ctx = .ok (.proceed, next) ∧ execute rest next = .ok (.proceed, ctx') := by
  rw [execute] at h
  cases hfst : middleware ctx with
  | error e => rw [hfst] at h; cases h
  | ok found =>
    obtain ⟨result, next⟩ := found
    rw [hfst] at h
    cases result with
    | proceed => exact ⟨next, rfl, h⟩
    | shortCircuit | reject reason => cases h

/-- A pipeline that is cut short is cut short by a middleware, behind others that were
passed. -/
theorem execute_cons_shortCircuit
    (h : execute (middleware :: rest) ctx = .ok (.shortCircuit, ctx')) :
    middleware ctx = .ok (.shortCircuit, ctx') ∨
      ∃ next, middleware ctx = .ok (.proceed, next) ∧
        execute rest next = .ok (.shortCircuit, ctx') := by
  rw [execute] at h
  cases hfst : middleware ctx with
  | error e => rw [hfst] at h; cases h
  | ok found =>
    obtain ⟨result, next⟩ := found
    rw [hfst] at h
    cases result with
    | proceed => exact .inr ⟨next, rfl, h⟩
    | shortCircuit => cases h; exact .inl rfl
    | reject reason => cases h

theorem execute_cons_of_proceed {next} (h : middleware ctx = .ok (.proceed, next)) :
    execute (middleware :: rest) ctx = execute rest next := by
  rw [execute, h]
  rfl

variable {result : MiddlewareResult} {router : DomainRouter}

theorem ipFilter_ctx {filter} (h : ipFilterMiddleware filter ctx = .ok (result, ctx')) :
    ctx' = ctx ∧ result ≠ .shortCircuit := by
  rw [ipFilterMiddleware] at h
  split at h <;> cases h <;> exact ⟨rfl, by simp⟩

/-- The check of the address is passed only by an address that is not banned. -/
theorem banIpCheck_ctx {view persist}
    (h : banIpCheckMiddleware strings view persist ctx = .ok (result, ctx')) :
    ctx' = ctx ∧ (result = .proceed → ¬view.Banned strings (.ip ctx.clientIp)) := by
  rw [banIpCheckMiddleware] at h
  cases hfound : (view.storage.isBanned strings view.now persist (.ip ctx.clientIp)).1 with
  | error e => rw [hfound] at h; cases h
  | ok found =>
    rw [hfound] at h
    cases found with
    | some entry => cases h; exact ⟨rfl, nofun⟩
    | none =>
      cases h
      refine ⟨rfl, fun _ hbanned => ?_⟩
      obtain ⟨entry, hent⟩ := isBanned_eq_some hbanned
      cases hfound.symm.trans hent

theorem intent_eq_login {handshake} :
    (HandshakeData.ofHandshake strings handshake).intent = .login ↔
      handshake.nextState = .login := by
  rw [HandshakeData.ofHandshake]
  cases handshake.nextState <;> simp

/-- A modern client that passes the parser has sent a handshake. -/
theorem handshakeParser_proceed (h : handshakeParserMiddleware strings ctx = .ok (.proceed, ctx')) :
    ∃ handshake start, ctx.client = .modern (.ok handshake) start ∧
      ctx' = { ctx with handshake := some (.ofHandshake strings handshake) } := by
  rw [handshakeParserMiddleware] at h
  split at h
  · cases h
  · cases h
  case h_3 parsed start hcl =>
    cases parsed with
    | error e => cases h
    | ok handshake => cases h; exact ⟨handshake, start, hcl, rfl⟩

/-- The parser cuts the pipeline short for legacy clients. -/
theorem handshakeParser_shortCircuit
    (h : handshakeParserMiddleware strings ctx = .ok (.shortCircuit, ctx')) :
    ctx' = { ctx with legacyDetected := true } := by
  rw [handshakeParserMiddleware] at h
  split at h
  · cases h; rfl
  · cases h; rfl
  case h_3 parsed start _ => cases parsed <;> cases h

theorem rateLimiter_ctx {enabled withinLimit}
    (h : rateLimiterMiddleware enabled withinLimit ctx = .ok (result, ctx')) :
    ctx' = ctx ∧ result ≠ .shortCircuit := by
  rw [rateLimiterMiddleware] at h
  split at h <;> cases h <;> exact ⟨rfl, by simp⟩

theorem domainRouter_proceed {data} (hdata : ctx.handshake = some data)
    (h : domainRouterMiddleware strings router ctx = .ok (.proceed, ctx')) :
    ∃ id config, router.resolve strings data.domain = some (id, config) ∧
      config.ipFilter.all (·.isAllowed ctx.clientIp) = true ∧
      ctx' = { ctx with routing := some ⟨config, config.effectiveId⟩ } := by
  rw [domainRouterMiddleware, hdata] at h
  dsimp only at h
  split at h
  case h_1 => cases h
  case h_2 id config hres =>
    split at h
    case isTrue hall => cases h; exact ⟨id, config, hres, hall, by rw [hdata]⟩
    case isFalse => cases h

theorem domainRouter_ne_shortCircuit :
    domainRouterMiddleware strings router ctx ≠ .ok (.shortCircuit, ctx') := by
  intro h
  rw [domainRouterMiddleware] at h
  split at h
  · cases h
  · split at h
    · cases h
    · split at h <;> cases h

/-- What is known once the common pipeline is passed. -/
theorem commonPipeline_proceed
    (h : execute (commonPipeline strings env bans) ctx = .ok (.proceed, ctx')) :
    ¬(bans .accept).Banned strings (.ip ctx.clientIp) ∧
      ∃ handshake start id config, ctx.client = .modern (.ok handshake) start ∧
        env.router.resolve strings (HandshakeData.ofHandshake strings handshake).domain =
          some (id, config) ∧
        config.ipFilter.all (·.isAllowed ctx.clientIp) = true ∧
        ctx' = { ctx with
          handshake := some (.ofHandshake strings handshake)
          routing := some ⟨config, config.effectiveId⟩ } := by
  -- one middleware after the other, in the order of the list
  obtain ⟨_, hflt, h₁⟩ := execute_cons_proceed h
  obtain ⟨rfl, -⟩ := ipFilter_ctx hflt
  obtain ⟨_, hban, h₂⟩ := execute_cons_proceed h₁
  obtain ⟨rfl, hpass⟩ := banIpCheck_ctx hban
  obtain ⟨_, hparse, h₃⟩ := execute_cons_proceed h₂
  obtain ⟨handshake, start, hcl, rfl⟩ := handshakeParser_proceed hparse
  obtain ⟨_, hrate, h₄⟩ := execute_cons_proceed h₃
  obtain ⟨rfl, -⟩ := rateLimiter_ctx hrate
  obtain ⟨_, hroute, h₅⟩ := execute_cons_proceed h₄
  obtain ⟨id, config, hres, hall, rfl⟩ := domainRouter_proceed rfl hroute
  cases h₅
  exact ⟨hpass rfl, handshake, start, id, config, hcl, hres, hall, rfl⟩

/-- The common pipeline is cut short by the check of the address, or for a legacy client. -/
theorem commonPipeline_shortCircuit
    (h : execute (commonPipeline strings env bans) ctx = .ok (.shortCircuit, ctx')) :
    ctx' = ctx ∨ ¬(bans .accept).Banned strings (.ip ctx.clientIp) ∧
      ctx' = { ctx with legacyDetected := true } := by
  obtain hflt | ⟨_, hflt, h₁⟩ := execute_cons_shortCircuit h
  · exact absurd rfl (ipFilter_ctx hflt).2
  obtain ⟨rfl, -⟩ := ipFilter_ctx hflt
  obtain hban | ⟨_, hban, h₂⟩ := execute_cons_shortCircuit h₁
  · exact .inl (banIpCheck_ctx hban).1
  obtain ⟨rfl, hpass⟩ := banIpCheck_ctx hban
  obtain hparse | ⟨_, hparse, h₃⟩ := execute_cons_shortCircuit h₂
  · exact .inr ⟨hpass rfl, handshakeParser_shortCircuit hparse⟩
  -- behind the parser nothing cuts the pipeline short
  obtain hrate | ⟨_, -, h₄⟩ := execute_cons_shortCircuit h₃
  · exact absurd rfl (rateLimiter_ctx hrate).2
  obtain hroute | ⟨_, -, h₅⟩ := execute_cons_shortCircuit h₄
  · exact absurd hroute domainRouter_ne_shortCircuit
  · cases h₅

theorem serverManager_ctx {manager}
    (h : serverManagerMiddleware manager ctx = .ok (result, ctx')) : ctx' = ctx := by
  rw [serverManagerMiddleware] at h
  split at h
  · cases h; rfl
  · split at h
    · cases h; rfl
    · dsimp only at h
      split at h <;> first | (cases h; rfl) | (split at h <;> cases h <;> rfl)

/-- The check of the login pipeline is passed only if the address and the name are not
banned. -/
theorem banCheck_proceed {view login} (hlogin : ctx.login = some login)
    (h : banCheckMiddleware strings view ctx = .ok (.proceed, ctx')) :
    ctx' = ctx ∧ ¬view.Banned strings (.ip ctx.clientIp) ∧
      ¬view.Banned strings (.username login.username) := by
  rw [banCheckMiddleware, hlogin] at h
  dsimp only at h
  split at h <;> cases h
  case h_2 hnone =>
    obtain ⟨hip, hname, -⟩ := checkPlayer_fst_eq_none.mp hnone
    exact ⟨rfl, hip, hname⟩

/-- What is known once the login pipeline is passed. -/
theorem loginPipeline_proceed {handshake start} (hcl : ctx.client = .modern handshake start)
    (h : execute (loginPipeline strings env bans) ctx = .ok (.proceed, ctx')) :
    ∃ login, start = .ok login ∧ ctx' = { ctx with login := some login } ∧
      ¬(bans .login).Banned strings (.ip ctx.clientIp) ∧
      ¬(bans .login).Banned strings (.username login.username) := by
  obtain ⟨next, hparse, h₁⟩ := execute_cons_proceed h
  obtain ⟨login, hstart, rfl⟩ :
      ∃ login, start = .ok login ∧ next = { ctx with login := some login } := by
    rw [loginStartParserMiddleware, hcl] at hparse
    split at hparse
    case h_1 _ _ _ hsome heq =>
      cases heq
      cases start with
      | error e => cases hparse
      | ok login => cases hparse; exact ⟨login, rfl, by rw [hsome, hcl]⟩
    case h_2 => cases hparse
  obtain ⟨_, hban, h₂⟩ := execute_cons_proceed h₁
  obtain ⟨rfl, hip, hname⟩ := banCheck_proceed rfl hban
  obtain ⟨_, htelemetry, h₃⟩ := execute_cons_proceed h₂
  cases htelemetry
  refine ⟨login, hstart, ?_, hip, hname⟩
  -- the last middleware is there only with a server manager, and keeps the context
  cases hmanager : env.serverManager with
  | none => rw [hmanager] at h₃; cases h₃; rfl
  | some manager =>
    rw [hmanager] at h₃
    obtain ⟨_, hstd, h₄⟩ := execute_cons_proceed h₃
    cases h₄
    exact serverManager_ctx hstd

end Pipelines

end Infrarust
