import Infrarust.Core.Provider.Plugin

/-!
# `Infrarust.Plugins.AdminApi.Servers`: servers that are created over the REST interface

The admin plugin is a provider of the servers that its REST interface creates. A handler checks
the request and makes a configuration of it, which it stores and sends to the core. The functions
here go up to that configuration.
-/

set_option autoImplicit false

namespace Infrarust.AdminApi

/-- `ApiError`, the cases that these handlers return. -/
inductive ApiError where
  | badRequest (message : String)
  | forbidden (message : String)
  | conflict (message : String)
deriving DecidableEq, Repr

structure CreateServerRequest where
  id : String
  domains : List String
  addresses : List String
  proxyMode : String := "passthrough"
  limboHandlers : List String := []
deriving DecidableEq, Repr

structure UpdateServerRequest where
  domains : Option (List String)
  addresses : Option (List String)
  proxyMode : Option String
  limboHandlers : Option (List String)
deriving DecidableEq, Repr

/-- The port of `parse_address`. -/
def parsePort (s portStr : String) : Except ApiError UInt16 :=
  match Text.parseU16 portStr with
  | some port => .ok port
  | none => .error (.badRequest s!"invalid port in '{s}'")

def parseAddress (s : String) : Except ApiError ServerAddress :=
  match s.toList with
  | '[' :: rest =>
    match Text.splitOnceStr "]:".toList rest with
    | none => .error (.badRequest s!"invalid IPv6 address '{s}': expected [host]:port")
    | some (host, portStr) => do
      let port ← parsePort s (String.ofList portStr)
      pure { host := String.ofList host, port }
  | _ =>
    match Text.rsplitOnce ':' s with
    | none => .error (.badRequest s!"invalid address '{s}': expected host:port")
    | some (host, portStr) => do
      let port ← parsePort s portStr
      pure { host, port }

def parseProxyMode (s : String) : Except ApiError ApiProxyMode :=
  if s = "passthrough" then .ok .passthrough
  else if s = "zero_copy" ∨ s = "zerocopy" then .ok .zeroCopy
  else if s = "client_only" then .ok .clientOnly
  else if s = "offline" then .ok .offline
  else if s = "server_only" then .ok .serverOnly
  else
    .error (.badRequest (s!"Invalid proxy mode '{s}'. Expected: " ++
      "passthrough, zero_copy, client_only, offline, server_only"))

def MAX_SERVER_ID_LEN : Nat := 64

def validateServerId (id : String) : Except ApiError Unit := do
  if id.isEmpty then
    throw (.badRequest "server ID cannot be empty")
  if Text.byteLen id.toList > MAX_SERVER_ID_LEN then
    throw (.badRequest (s!"server ID too long ({Text.byteLen id.toList} chars, " ++
      s!"max {MAX_SERVER_ID_LEN})"))
  unless id.toList.all fun c => c.isAlphanum || c = '-' || c = '_' do
    throw (.badRequest "server ID must be alphanumeric with dashes/underscores")

/-- `create`, the configuration that is stored and sent. `taken` says which ids the core has a
configuration for. -/
def create (taken : String → Bool) (req : CreateServerRequest) :
    Except ApiError ApiServerConfig := do
  validateServerId req.id
  if req.domains.isEmpty then
    throw (.badRequest "At least one domain is required")
  if req.addresses.isEmpty then
    throw (.badRequest "At least one address is required")
  if taken req.id then
    throw (.conflict s!"Server '{req.id}' already exists")
  let addresses ← req.addresses.mapM parseAddress
  let proxyMode ← parseProxyMode req.proxyMode
  pure {
    id := req.id
    network := none
    addresses
    domains := req.domains
    proxyMode
    limboHandlers := req.limboHandlers
    maxPlayers := 0
    disconnectMessage := none
    sendProxyProtocol := false
    hasServerManager := false }

/-- The addresses of `update`. -/
def updatedAddresses (existing : List ServerAddress) :
    Option (List String) → Except ApiError (List ServerAddress)
  | none => .ok existing
  | some addrs =>
    if addrs.isEmpty then .error (.badRequest "At least one address is required")
    else addrs.mapM parseAddress

/-- The domains of `update`. -/
def updatedDomains (existing : List String) :
    Option (List String) → Except ApiError (List String)
  | none => .ok existing
  | some domains =>
    if domains.isEmpty then .error (.badRequest "At least one domain is required")
    else .ok domains

/-- The mode of `update`. -/
def updatedProxyMode (existing : ApiProxyMode) : Option String → Except ApiError ApiProxyMode
  | none => .ok existing
  | some mode => parseProxyMode mode

/-- `update`, the configuration that is stored and sent. `stored` is what the store has for the
id. -/
def update (stored : Option ApiServerConfig) (id : String) (req : UpdateServerRequest) :
    Except ApiError ApiServerConfig := do
  let some existing := stored | throw (.forbidden "Only API-created servers can be edited")
  let addresses ← updatedAddresses existing.addresses req.addresses
  let domains ← updatedDomains existing.domains req.domains
  let proxyMode ← updatedProxyMode existing.proxyMode req.proxyMode
  pure { existing with
    id
    addresses
    domains
    proxyMode
    limboHandlers := req.limboHandlers.getD existing.limboHandlers }

end Infrarust.AdminApi
