import Infrarust.Core.Provider.Registry
import Infrarust.Core.Status.Handler

/-!
# `Infrarust.Core.Status.Cache`: status responses that are kept for a while

`StatusCache` has the last response of each server. `relay_or_cache` looks into the cache, and if
it finds nothing fresh it asks the backend, one request per server at a time, and puts the answer
into the cache. When a configuration changes, the event loop changes the router first and empties
the cache then.

`StatusSystem` has all of these together, with any number of requests. A step goes from one
`await` to the next, or to the next access to the router or the cache. Configurations are
numbered, and the numbers are history: the router's configuration has the number of changes so
far, a request the number of the configuration that it was routed with, and a response in the
cache the number of the request that has relayed it. Nothing decides by them.

Times are in milliseconds.
-/

set_option autoImplicit false

namespace Infrarust

/-! ### The cache -/

/-- `CachedStatus`, over what is stored as the response. -/
structure CachedStatus (R : Type) where
  response : R
  latency : Nat
  fetchedAt : Nat
  ttl : Nat

structure StatusCache (R : Type) where
  entries : Dict String (CachedStatus R)
  defaultTtl : Nat

namespace StatusCache

variable {R : Type}

def new (defaultTtl : Nat) : StatusCache R := { entries := ∅, defaultTtl }

def getFresh (cache : StatusCache R) (now : Nat) (serverId : String) : Option (R × Nat) :=
  match cache.entries.lookup serverId with
  | none => none
  | some entry =>
    if now - entry.fetchedAt < entry.ttl then some (entry.response, entry.latency) else none

def getStale (cache : StatusCache R) (serverId : String) : Option (R × Nat) :=
  (cache.entries.lookup serverId).map fun entry => (entry.response, entry.latency)

def put (cache : StatusCache R) (now : Nat) (serverId : String) (response : R) (latency : Nat)
    (ttl : Option Nat) : StatusCache R :=
  { cache with
    entries := cache.entries.insert serverId
      { response, latency, fetchedAt := now, ttl := ttl.getD cache.defaultTtl } }

def invalidateAll (cache : StatusCache R) : StatusCache R := { cache with entries := ∅ }

end StatusCache

/-! ### Requests and changes -/

/-- What a backend has answered, and the number of the configuration it was asked with. -/
structure RelayedStatus where
  response : ServerPingResponse
  version : Nat

/-- Where a request is in `relay_or_cache`. -/
inductive RequestPhase where
  /-- It was routed and has not looked into the cache. -/
  | started
  /-- It has found nothing and waits for the lock of the server. -/
  | waiting
  /-- It has the lock and asks the backend. -/
  | relaying
  | answered (response : ServerPingResponse)
deriving DecidableEq

/-- A status request for a server. -/
structure StatusRequest where
  config : ServerConfig
  version : Nat
  phase : RequestPhase

/-- The `config_id` that the request was routed with. -/
def StatusRequest.configId (request : StatusRequest) : String := request.config.effectiveId

/-- The router, the cache, the requests and the event loop. -/
structure StatusSystem where
  router : DomainRouter
  cache : StatusCache RelayedStatus
  /-- `inflight_locks`, with the request that holds each. -/
  inflightLocks : Dict String Nat
  requests : Dict Nat StatusRequest
  now : Nat
  /-- The change after which the event loop has still to empty the cache. -/
  pending : Option Nat
  /-- The number of changes of the router. -/
  version : Nat
  /-- The last change after which the event loop has emptied the cache. -/
  invalidated : Nat

/-- What happens in the system. -/
inductive StatusLabel where
  /-- A request is routed by its domain. -/
  | route (id : Nat) (domain : String)
  /-- A request looks into the cache for the first time. -/
  | look (id : Nat)
  /-- A request gets the lock and looks into the cache again. -/
  | lock (id : Nat)
  | relayOk (id : Nat) (response : ServerPingResponse) (latency : Nat)
  | relayFails (id : Nat)
  /-- A request is given up. -/
  | abort (id : Nat)
  /-- The event loop hands an event to the router. -/
  | change (event : ProviderEvent) (removeOrder addOrder : ConfigOrder)
  /-- The event loop empties the cache. -/
  | invalidate
  /-- The activation of a plugin adds a configuration without the event loop. -/
  | activate (pc : ProviderConfig) (order : ConfigOrder)
  | wait (duration : Nat)

namespace StatusSystem

/-- The system with the configurations of the initial loads. -/
def init (router : DomainRouter) (defaultTtl : Nat) : StatusSystem where
  router
  cache := .new defaultTtl
  inflightLocks := ∅
  requests := ∅
  now := 0
  pending := none
  version := 0
  invalidated := 0

/-- A request is in another phase. -/
def setPhase (s : StatusSystem) (id : Nat) (request : StatusRequest) (phase : RequestPhase) :
    StatusSystem :=
  { s with requests := s.requests.insert id { request with phase } }

/-- The guard of a lock is dropped. -/
def unlock (s : StatusSystem) (configId : String) : StatusSystem :=
  { s with inflightLocks := s.inflightLocks.erase configId }

/-- A request that is in a phase. -/
def requestIn (s : StatusSystem) (id : Nat) (phase : RequestPhase) : Option StatusRequest :=
  (s.requests.lookup id).filter (·.phase = phase)

variable (strings : Strings) (handler : StatusHandler)

/-- One step. -/
def next (s : StatusSystem) : StatusLabel → Option StatusSystem
  | .route id domain =>
    match s.requests.lookup id, s.router.resolve strings domain with
    | none, some (_, config) =>
      let request : StatusRequest := { config, version := s.version, phase := .started }
      some { s with requests := s.requests.insert id request }
    | _, _ => none
  | .look id => do
    let request ← s.requestIn id .started
    match s.cache.getFresh s.now request.configId with
    | some (relayed, _) => some (s.setPhase id request (.answered relayed.response))
    | none => some (s.setPhase id request .waiting)
  | .lock id => do
    let request ← s.requestIn id .waiting
    if (s.inflightLocks.lookup request.configId).isSome then none
    else
      match s.cache.getFresh s.now request.configId with
      -- the guard is dropped with the return
      | some (relayed, _) => some (s.setPhase id request (.answered relayed.response))
      | none =>
        some { s.setPhase id request .relaying with
          inflightLocks := s.inflightLocks.insert request.configId id }
  | .relayOk id response latency => do
    let request ← s.requestIn id .relaying
    let relayed : RelayedStatus := { response, version := request.version }
    some { (s.unlock request.configId).setPhase id request (.answered response) with
      cache := s.cache.put s.now request.configId relayed latency none }
  | .relayFails id => do
    let request ← s.requestIn id .relaying
    let response := match s.cache.getStale request.configId with
      | some (relayed, _) => relayed.response
      | none => handler.buildUnreachableMotd request.config request.configId
    some ((s.unlock request.configId).setPhase id request (.answered response))
  | .abort id => do
    let request ← s.requests.lookup id
    let s := if request.phase = .relaying then s.unlock request.configId else s
    some { s with requests := s.requests.erase id }
  | .change event removeOrder addOrder =>
    if s.pending.isSome then none
    else
      some { s with
        router := handleEvent strings removeOrder addOrder event s.router
        version := s.version + 1
        pending := some (s.version + 1) }
  | .invalidate => do
    let change ← s.pending
    some { s with cache := s.cache.invalidateAll, pending := none, invalidated := change }
  | .activate pc order =>
    some { s with
      router := s.router.add strings order pc.id pc.config
      version := s.version + 1 }
  | .wait duration => some { s with now := s.now + duration }

/-- The steps of the system. -/
def Step (s : StatusSystem) (label : StatusLabel) (s' : StatusSystem) : Prop :=
  s.next strings handler label = some s'

end StatusSystem

end Infrarust
