import Infrarust.Lib.Files
import Infrarust.Plugins.AdminApi.Servers

/-!
# `Infrarust.Plugins.AdminApi.ServerStore`: the store, its file and the provider

A server that is created over the REST interface is in three places: the store of the plugin, the
file `servers.json`, and the router of the core. A request changes the store, writes the file and
sends an event, one after the other and with a lock for each. The core is told only if the provider
has left its sender in a slot, which it does at the end of its activation: the core loads what the
store has, adds it to the router and starts the `watch` of the provider.

The steps of requests, of the activation and of the event loop may interleave in any way. Whether a
request fails is not followed further; a request that changes nothing is over at once.
-/

set_option autoImplicit false

namespace Infrarust.AdminApi

open Files (FileSystem Writing)

/-! ### The store -/

def proxyModeStr : ApiProxyMode → String
  | .passthrough => "passthrough"
  | .zeroCopy => "zero_copy"
  | .clientOnly => "client_only"
  | .offline => "offline"
  | .serverOnly => "server_only"

structure StoredServer where
  id : String
  domains : List String
  addresses : List String
  proxyMode : String
  limboHandlers : List String
deriving DecidableEq, Repr

def StoredServer.fromConfig (config : ApiServerConfig) : StoredServer where
  id := config.id
  domains := config.domains
  addresses := config.addresses.map fun a => s!"{a.host}:{a.port}"
  proxyMode := proxyModeStr config.proxyMode
  limboHandlers := config.limboHandlers

/-- An address of `to_config`. -/
def storedAddress (address : String) : Option ServerAddress := do
  let (host, portStr) ← Text.rsplitOnce ':' address
  let port ← Text.parseU16 portStr
  some { host, port }

/-- The mode of `to_config`. -/
def storedProxyMode (mode : String) : ApiProxyMode :=
  if mode = "zero_copy" ∨ mode = "zerocopy" then .zeroCopy
  else if mode = "client_only" then .clientOnly
  else if mode = "offline" then .offline
  else if mode = "server_only" then .serverOnly
  else .passthrough

def StoredServer.toConfig (stored : StoredServer) : ApiServerConfig where
  id := stored.id
  network := none
  addresses := stored.addresses.filterMap storedAddress
  domains := stored.domains
  proxyMode := storedProxyMode stored.proxyMode
  limboHandlers := stored.limboHandlers
  maxPlayers := 0
  disconnectMessage := none
  sendProxyProtocol := false
  hasServerManager := false

/-- `serde_json` for the stored servers: `to_string_pretty` and `from_str`. -/
abbrev ServersJson := Files.Format (List StoredServer)

/-- The servers of `ApiServerStore`. -/
abbrev ApiServerStore := Dict String ApiServerConfig

/-- An order in which the servers are visited. -/
abbrev StoreOrder := Dict.Order String ApiServerConfig

namespace ApiServerStore

/-- `ApiServerStore::load`, with a file that can be read. The only path is that of `servers.json`.
A file that is not understood counts as empty. -/
def load (json : ServersJson) (disk : FileSystem Unit) : ApiServerStore :=
  match disk.read () with
  | none => ∅
  | some content =>
    match json.fromText content with
    | .ok stored => stored.foldl (fun servers s => servers.insert s.id s.toConfig) ∅
    | .error _ => ∅

def all (order : StoreOrder) (store : ApiServerStore) : List ApiServerConfig :=
  (order.iter store).map Prod.snd

/-- What `persist` writes. -/
def stored (order : StoreOrder) (store : ApiServerStore) : List StoredServer :=
  (store.all order).map .fromConfig

end ApiServerStore

/-! ### Requests and the activation -/

/-- Where a request is that will change the store or has done so. -/
inductive Request where
  /-- `create` and `update` have their configuration. -/
  | inserting (config : ApiServerConfig) (event : PluginProviderEvent)
  /-- The store is changed, and `persist` comes next. -/
  | persisting (event : PluginProviderEvent)
  | opening (content : List UInt8) (event : PluginProviderEvent)
  | writing (progress : Writing) (event : PluginProviderEvent)
  /-- The slot of the sender comes next. -/
  | sending (event : PluginProviderEvent)
deriving DecidableEq, Repr

/-- Where the activation of the provider is. -/
inductive Activation where
  | inactive
  /-- `load_initial` has returned. These are still to be added to the router. -/
  | loading (remaining : List ApiServerConfig)
  /-- The `watch` has put the sender into the slot. -/
  | watching
deriving DecidableEq, Repr

/-- The plugin and the part of the core that it talks to. -/
structure ApiSystem where
  store : ApiServerStore
  disk : FileSystem Unit
  requests : Dict Nat Request
  activation : Activation
  router : DomainRouter
  channel : List ProviderEvent

/-- The orders in which the maps are visited. -/
structure ApiOrders where
  store : StoreOrder
  configs : ConfigOrder

namespace ApiSystem

/-- The type of the ids of the servers. -/
def apiProviderType : String := pluginProviderType "admin_api" "api"

/-- What happens. -/
inductive Label where
  /-- The checks of `create`. -/
  | create (request : Nat) (body : CreateServerRequest)
  /-- The checks of `update`. -/
  | update (request : Nat) (id : String) (body : UpdateServerRequest)
  /-- `insert` of the store. -/
  | insert (request : Nat)
  /-- `delete` up to the change of the store. -/
  | delete (request : Nat) (id : String)
  /-- `persist` has the text of the store. -/
  | persist (request : Nat)
  /-- `persist` does not get the text. -/
  | failPersist (request : Nat)
  | openFile (request : Nat)
  | write (request count : Nat)
  | closeFile (request : Nat)
  /-- Opening or writing the file fails. -/
  | failWrite (request : Nat)
  /-- The event goes to the sender, if there is one, and the request is over. -/
  | send (request : Nat)
  | loadInitial
  /-- A configuration of the initial load goes to the router. -/
  | addInitial
  /-- `watch` puts the sender into the slot. -/
  | setSender
  /-- Another provider sends an event. -/
  | otherSend (event : ProviderEvent)
  /-- One turn of the event loop. -/
  | handle

variable (strings : Strings) (json : ServersJson)

/-- One step. -/
def step (orders : ApiOrders) (system : ApiSystem) : Label → Option ApiSystem
  | .create request body =>
    if (system.requests.lookup request).isSome then none
    else
      let taken id := (system.router.findByServerId orders.configs id).isSome
      match AdminApi.create taken body with
      | .ok config =>
        some { system with
          requests := system.requests.insert request (.inserting config (.added config)) }
      | .error _ => some system
  | .update request id body =>
    if (system.requests.lookup request).isSome then none
    else
      match AdminApi.update (system.store.lookup id) id body with
      | .ok config =>
        some { system with
          requests := system.requests.insert request (.inserting config (.updated config)) }
      | .error _ => some system
  | .insert request =>
    match system.requests.lookup request with
    | some (.inserting config event) =>
      some { system with
        store := system.store.insert config.id config
        requests := system.requests.insert request (.persisting event) }
    | _ => none
  | .delete request id =>
    if (system.requests.lookup request).isSome then none
    else if (system.store.lookup id).isSome then
      some { system with
        store := system.store.erase id
        requests := system.requests.insert request (.persisting (.removed id)) }
    else some system
  | .persist request =>
    match system.requests.lookup request with
    | some (.persisting event) =>
      match json.toText (system.store.stored orders.store) with
      | .ok content =>
        some { system with requests := system.requests.insert request (.opening content event) }
      | .error _ => none
    | _ => none
  | .failPersist request =>
    match system.requests.lookup request with
    | some (.persisting event) =>
      match json.toText (system.store.stored orders.store) with
      | .ok _ => none
      | .error _ =>
        some { system with requests := system.requests.insert request (.sending event) }
    | _ => none
  | .openFile request =>
    match system.requests.lookup request with
    | some (.opening content event) =>
      let (disk, file) := system.disk.create ()
      some { system with
        disk
        requests := system.requests.insert request (.writing ⟨file, content, 0⟩ event) }
    | _ => none
  | .write request count =>
    match system.requests.lookup request with
    | some (.writing progress event) =>
      let (disk, progress) := progress.advance system.disk count
      some { system with
        disk
        requests := system.requests.insert request (.writing progress event) }
    | _ => none
  | .closeFile request =>
    match system.requests.lookup request with
    | some (.writing progress event) =>
      if progress.written = progress.content.length then
        some { system with requests := system.requests.insert request (.sending event) }
      else none
    | _ => none
  | .failWrite request =>
    match system.requests.lookup request with
    | some (.opening _ event) | some (.writing _ event) =>
      some { system with requests := system.requests.insert request (.sending event) }
    | _ => none
  | .send request =>
    match system.requests.lookup request with
    | some (.sending event) =>
      let system := { system with requests := system.requests.erase request }
      match system.activation with
      | .watching =>
        some { system with channel := system.channel ++ [event.toCore apiProviderType] }
      | _ => some system
    | _ => none
  | .loadInitial =>
    match system.activation with
    | .inactive => some { system with activation := .loading (system.store.all orders.store) }
    | _ => none
  | .addInitial =>
    match system.activation with
    | .loading (config :: remaining) =>
      let pc := config.toProviderConfig apiProviderType
      some { system with
        router := system.router.add strings orders.configs pc.id pc.config
        activation := .loading remaining }
    | _ => none
  | .setSender =>
    match system.activation with
    | .loading [] => some { system with activation := .watching }
    | _ => none
  | .otherSend event =>
    if event.id.providerType = apiProviderType then none
    else some { system with channel := system.channel ++ [event] }
  | .handle =>
    match system.channel with
    | [] => none
    | event :: rest =>
      some { system with
        router := handleEvent strings orders.configs orders.configs event system.router
        channel := rest }

/-- A step with the maps visited in some order. -/
def Step (system : ApiSystem) (label : Label) (system' : ApiSystem) : Prop :=
  ∃ orders, step strings json orders system label = some system'

/-- The system when the plugin is enabled. The router has no server of the provider. -/
def start (disk : FileSystem Unit) (router : DomainRouter) : ApiSystem where
  store := .load json disk
  disk := disk
  requests := ∅
  activation := .inactive
  router := router
  channel := []

end ApiSystem

end Infrarust.AdminApi
