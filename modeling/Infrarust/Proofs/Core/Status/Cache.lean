import Infrarust.Core.Status.Cache
import Infrarust.Proofs.Core.Status.Handler

/-!
# `Infrarust.Proofs.Core.Status.Cache`: which configuration is a cached response from?

A request keeps the configuration that it was routed with. The backend may answer after the
router has changed and the cache was emptied for that, and the answer is then put into the cache
as if it were new. `fresh_current` is about the runs in which this does not happen: whatever is
fresh was relayed under a configuration at least as new as the last change that the cache was
emptied for. `fresh_of_stale_put` says that nothing less would do. After a put of a request from
before that change, the cache returns what was put.
-/

set_option autoImplicit false

namespace Infrarust

open Option Machine

variable {latency : Nat}

namespace StatusCache

variable {R : Type} {cache : StatusCache R}

/-- A fresh response is one of the entries. -/
theorem lookup_of_getFresh {now serverId response}
    (h : cache.getFresh now serverId = some (response, latency)) :
    ∃ entry, cache.entries.lookup serverId = some entry ∧ entry.response = response := by
  rw [getFresh] at h
  split at h
  case h_1 => cases h
  case h_2 entry hent =>
    split at h <;> cases h
    exact ⟨entry, hent, rfl⟩

/-- What was just put is fresh. -/
theorem getFresh_put {now serverId response} (httl : 0 < cache.defaultTtl) :
    (cache.put now serverId response latency none).getFresh now serverId =
      some (response, latency) := by
  rw [getFresh, put]
  simp only [Dict.lookup_insert_eq, if_true, Nat.sub_self, getD_none, if_pos httl]

end StatusCache

/-- The request can still put a response into the cache. -/
def StatusRequest.Underway (request : StatusRequest) : Prop :=
  request.phase = .started ∨ request.phase = .waiting ∨ request.phase = .relaying

namespace StatusSystem

variable {strings : Strings} {handler : StatusHandler} {s s' : StatusSystem} {label : StatusLabel}

variable {request : StatusRequest}

theorem requestIn_eq_some {id phase} :
    s.requestIn id phase = some request ↔
      s.requests.lookup id = some request ∧ request.phase = phase := by
  rw [requestIn, filter_eq_some_iff, decide_eq_true_iff]

/-! ### What a step does -/

/-- Everything that a step can do. -/
inductive Effect (s : StatusSystem) : StatusLabel → StatusSystem → Prop where
  | routed (id domain config) :
    Effect s (.route id domain)
      { s with requests := s.requests.insert id
                { config, version := s.version, phase := .started } }
  /-- A request goes on, without a new response. -/
  | moved (label : StatusLabel) (id) (request : StatusRequest) (phase)
    (inflightLocks : Dict String Nat) (hget : s.requests.lookup id = some request)
    (hway : request.Underway) :
    Effect s label
      { s with requests := s.requests.insert id { request with phase }, inflightLocks }
  | relayed (id response) (latency : Nat) (request : StatusRequest)
    (hreq : s.requestIn id .relaying = some request) :
    Effect s (.relayOk id response latency)
      { s with
        requests := s.requests.insert id { request with phase := .answered response }
        inflightLocks := s.inflightLocks.erase request.configId
        cache := s.cache.put s.now request.configId ⟨response, request.version⟩ latency none }
  | aborted (id inflightLocks) :
    Effect s (.abort id) { s with requests := s.requests.erase id, inflightLocks }
  | changed (event removeOrder addOrder router) :
    Effect s (.change event removeOrder addOrder)
      { s with router, version := s.version + 1, pending := some (s.version + 1) }
  | emptied (change) (hpend : s.pending = some change) :
    Effect s .invalidate
      { s with cache := s.cache.invalidateAll, pending := none, invalidated := change }
  | activated (pc order router) :
    Effect s (.activate pc order) { s with router, version := s.version + 1 }
  | waited (duration) : Effect s (.wait duration) { s with now := s.now + duration }

theorem effect_of_step (h : Step strings handler s label s') : Effect s label s' := by
  cases label with
  | route id domain =>
    rw [Step, next] at h
    split at h <;> cases h
    exact .routed id domain _
  | look id =>
    obtain ⟨request, hreq, h⟩ := bind_eq_some_iff.mp h
    obtain ⟨hget, hph⟩ := requestIn_eq_some.mp hreq
    split at h <;> cases h <;> exact .moved _ id request _ s.inflightLocks hget (.inl hph)
  | lock id =>
    obtain ⟨request, hreq, h⟩ := bind_eq_some_iff.mp h
    obtain ⟨hget, hph⟩ := requestIn_eq_some.mp hreq
    split at h
    case isTrue => cases h
    case isFalse =>
      split at h <;> cases h <;> exact .moved _ id request _ _ hget (.inr (.inl hph))
  | relayOk id response latency =>
    obtain ⟨request, hreq, h⟩ := bind_eq_some_iff.mp h
    cases h
    exact .relayed id response latency request hreq
  | relayFails id =>
    obtain ⟨request, hreq, h⟩ := bind_eq_some_iff.mp h
    obtain ⟨hget, hph⟩ := requestIn_eq_some.mp hreq
    cases h
    exact .moved _ id request _ _ hget (.inr (.inr hph))
  | abort id =>
    obtain ⟨request, -, h⟩ := bind_eq_some_iff.mp h
    cases h
    split
    case isTrue => exact .aborted id _
    case isFalse => exact .aborted id s.inflightLocks
  | change event removeOrder addOrder =>
    rw [Step, next] at h
    split at h <;> cases h
    exact .changed event removeOrder addOrder _
  | invalidate =>
    obtain ⟨change, hpend, h⟩ := bind_eq_some_iff.mp h
    cases h
    exact .emptied change hpend
  | activate pc order =>
    cases h
    exact .activated pc order _
  | wait duration =>
    cases h
    exact .waited duration

/-! ### Runs without a put from before the last emptying -/

/-- A relay that succeeds belongs to a request that was routed after the last change the cache was
emptied for. -/
def CurrentPut (s : StatusSystem) : StatusLabel → Prop
  | .relayOk id _ _ =>
    ∀ request ∈ s.requestIn id .relaying, s.invalidated ≤ request.version
  | _ => True

instance (s : StatusSystem) (label : StatusLabel) : Decidable (s.CurrentPut label) := by
  unfold CurrentPut
  cases label <;> infer_instance

/-- The steps that put no older response into the cache. -/
def CurrentStep (strings : Strings) (handler : StatusHandler) (s : StatusSystem)
    (label : StatusLabel) (s' : StatusSystem) : Prop :=
  s.CurrentPut label ∧ Step strings handler s label s'

/-- Every response in the cache was relayed after the last change that the cache was emptied
for. -/
def Current (s : StatusSystem) : Prop :=
  ∀ serverId entry, s.cache.entries.lookup serverId = some entry →
    s.invalidated ≤ entry.response.version

theorem Current.step (h : s.Current) (hstep : CurrentStep strings handler s label s') :
    s'.Current := by
  obtain ⟨hput, hstep⟩ := hstep
  cases effect_of_step hstep with
  | relayed id response latency request hreq =>
    -- the new entry is the one the condition is about
    exact Dict.forall_insert h (hput request hreq)
  | emptied change hpend =>
    intro serverId entry hent
    cases hent
  | routed | moved | aborted | changed | activated | waited => exact h

/-- In a run in which no relay from before the last emptying succeeds, the cache returns as fresh
only what was relayed under a configuration at least as new as every change that the cache was
emptied for. -/
theorem fresh_current {router : DomainRouter} {defaultTtl : Nat} {labels : List StatusLabel}
    (hrun : Run (CurrentStep strings handler) (init router defaultTtl) labels s)
    {serverId : String} {relayed : RelayedStatus} {latency : Nat}
    (hfresh : s.cache.getFresh s.now serverId = some (relayed, latency)) :
    s.invalidated ≤ relayed.version := by
  have hinit : (init router defaultTtl).Current := by
    intro serverId entry hent
    cases hent
  have hcur : s.Current := hrun.invariant (fun _ _ _ hstep h => h.step hstep) hinit
  obtain ⟨entry, hent, rfl⟩ := StatusCache.lookup_of_getFresh hfresh
  exact hcur serverId entry hent

/-- Nothing less would do: after an older request has put its response, the cache returns it. -/
theorem fresh_of_stale_put {id response}
    (hstep : Step strings handler s (.relayOk id response latency) s')
    (hput : ¬s.CurrentPut (.relayOk id response latency)) (httl : 0 < s.cache.defaultTtl) :
    ∃ serverId relayed, s'.cache.getFresh s'.now serverId = some (relayed, latency) ∧
      relayed.version < s'.invalidated := by
  obtain ⟨request, hreq, h⟩ := bind_eq_some_iff.mp hstep
  cases h
  have hold : request.version < s.invalidated := by
    by_contra hge
    refine hput fun request' hreq' => ?_
    cases hreq.symm.trans hreq'
    omega
  exact ⟨request.configId, ⟨response, request.version⟩, StatusCache.getFresh_put httl, hold⟩

/-! ### A condition on when the cache is emptied -/

/-! ### A relay that comes too late, and one in time -/

/-- A server under one domain. -/
def survival (address : String) : ServerConfig where
  id := some "survival"
  domains := ["mc.example.com"]
  addresses := [⟨address, 25565⟩]

def survivalId : ProviderId := .file "survival.toml"

/-- The system with the server, and with responses that are fresh for five seconds. -/
def survivalSystem : StatusSystem :=
  init (DomainRouter.new.add asciiStrings .entries survivalId (survival "10.0.0.5")) 5000

def oldMotd : ServerPingResponse := .synthetic "old server" none none none

def newMotd : ServerPingResponse := .synthetic "new server" none none none

/-- The server gets another address. -/
def moveServer : StatusLabel :=
  .change (.updated ⟨survivalId, survival "10.0.0.6"⟩) .entries .entries

/-- A request is routed, and its backend answers after the move. -/
def lateRelay : List StatusLabel :=
  [.route 0 "mc.example.com", .look 0, .lock 0, moveServer, .invalidate, .relayOk 0 oldMotd 20]

/-- The response of the old server is in the cache after the cache was emptied, and every request
gets it. -/
theorem old_response_fresh :
    ∃ s, Run (Step asciiStrings plainHandler) survivalSystem lateRelay s ∧
      ∃ relayed latency, s.cache.getFresh s.now "survival" = some (relayed, latency) ∧
        relayed.response = oldMotd ∧ relayed.version < s.invalidated := by
  refine exists_run_imp (fun _ _ _ h => h)
    (P := fun s => (s.cache.getFresh s.now "survival").any (fun found =>
      found.1.response = oldMotd ∧ found.1.version < s.invalidated) = true) (by decide) ?_
  intro s _ hfresh
  obtain ⟨⟨relayed, latency⟩, hfound, hold⟩ := (any_eq_true _ _).mp hfresh
  exact ⟨relayed, latency, hfound, of_decide_eq_true hold⟩

/-- A request is routed after the move. -/
def relayInTime : List StatusLabel :=
  [moveServer, .invalidate, .route 0 "mc.example.com", .look 0, .lock 0, .relayOk 0 newMotd 20]

theorem new_response_current :
    ∃ s, Run (CurrentStep asciiStrings plainHandler) survivalSystem relayInTime s ∧
      ∃ relayed latency, s.cache.getFresh s.now "survival" = some (relayed, latency) ∧
        s.invalidated = 1 ∧ s.invalidated ≤ relayed.version := by
  refine exists_run_guarded
    (P := fun s => (s.cache.getFresh s.now "survival").isSome = true ∧ s.invalidated = 1)
    (by decide +kernel) ?_
  rintro s hrun ⟨hfresh, hinv⟩
  obtain ⟨⟨relayed, latency⟩, hfound⟩ := isSome_iff_exists.mp hfresh
  exact ⟨relayed, latency, hfound, hinv, fresh_current hrun hfound⟩

end StatusSystem

end Infrarust
