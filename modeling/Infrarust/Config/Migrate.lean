import Infrarust.Core.Provider.File

/-!
# `Infrarust.Config.Migrate`: configurations of version 1

What the migration makes of the server files of version 1. Parsing is an argument, and so is
whether a file can be written. The warnings are only printed and are left out.
-/

set_option autoImplicit false

namespace Infrarust

structure V1IpFilter where
  enabled : Bool
  whitelist : List String
  blacklist : List String
deriving DecidableEq

/-- `V1ServerConfig`. The messages of the day and the server manager are here as `convert_motds`
and `convert_server_manager` return them. -/
structure V1ServerConfig where
  domains : List String := []
  addresses : List String := []
  proxyMode : Option String := none
  sendProxyProtocol : Option Bool := none
  backendDomain : Option String := none
  rewriteDomain : Option Bool := none
  configId : Option String := none
  ipFilter : Option V1IpFilter := none
  motd : MotdConfig := {}
  maxPlayers : UInt32 := 0
  serverManager : Option ServerManagerConfig := none
deriving DecidableEq

structure V1Parsers where
  yaml : String → Option V1ServerConfig
  address : String → Option ServerAddress
  ipNet : String → Option IpNet
  ipAddr : String → Option IpAddr

variable (strings : Strings) (parsers : V1Parsers)

/-- `IpNet::from`. -/
def IpNet.ofAddr (addr : IpAddr) : IpNet :=
  match addr with
  | .v4 _ => ⟨addr, 32⟩
  | .v6 _ => ⟨addr, 128⟩

/-- An entry of a list of addresses and networks. -/
def V1Parsers.ipEntry (s : String) : Option IpNet :=
  (parsers.ipNet s).or ((parsers.ipAddr s).map .ofAddr)

def convertIpFilter (ip : V1IpFilter) : Option IpFilterConfig :=
  if ip.enabled then
    let whitelist := ip.whitelist.filterMap parsers.ipEntry
    let blacklist := ip.blacklist.filterMap parsers.ipEntry
    if whitelist.isEmpty && blacklist.isEmpty then none else some { whitelist, blacklist }
  else none

/-- The text that the name of a server comes from: the id up to an `@`, or the name of the file. -/
def V1ServerConfig.nameText (v1 : V1ServerConfig) (filename : String) : String :=
  match v1.configId with
  | some id => String.ofList (id.toList.takeWhile (· ≠ '@'))
  | none =>
    let name := filename.toList
    if ".yaml".toList.isSuffixOf name then String.ofList (name.take (name.length - 5))
    else if ".yml".toList.isSuffixOf name then String.ofList (name.take (name.length - 4))
    else filename

/-- The name with every character replaced that a name cannot have. -/
def sanitizedName (text : String) : String :=
  String.ofList ((strings.toLowercase text).toList.map fun c =>
    if c.isAlphanum || c = '-' || c = '_' then c else '-')

def convertV1ToV2 (v1 : V1ServerConfig) (filename : String) : ServerConfig where
  name := some (sanitizedName strings (v1.nameText filename))
  domains := v1.domains
  addresses := v1.addresses.filterMap parsers.address
  proxyMode := match v1.proxyMode with
    | some "zerocopy_passthrough" => .zeroCopy
    | some "offline" => .offline
    | some "client_only" => .clientOnly
    | some "server_only" => .serverOnly
    | _ => .passthrough
  sendProxyProtocol := v1.sendProxyProtocol.getD false
  domainRewrite := match v1.backendDomain with
    | some domain => .explicit domain
    | none => if v1.rewriteDomain = some true then .fromBackend else .none
  motd := v1.motd
  serverManager := v1.serverManager
  maxPlayers := v1.maxPlayers
  ipFilter := v1.ipFilter.bind (convertIpFilter parsers)

namespace OsName

/-- The extension is `yaml` or `yml`. -/
def isYaml : OsName → Bool
  | text name => [some "yaml".toList, some "yml".toList].contains (extension '.' name.toList)
  | bytes name =>
    [some [121, 97, 109, 108], some [121, 109, 108]].contains (extension (46 : UInt8) name)

/-- The file that the migration writes. -/
def migratedPath (name : OsName) : String := name.stem.getD "unknown" ++ ".toml"

def migratedName (name : OsName) : String := name.toStr.getD "unknown"

end OsName

/-- The files that are converted. `writes` says whether the result can be printed and written. -/
def v1Servers (writes : DirEntry → ServerConfig → Bool) (dir : Directory) :
    List (DirEntry × V1ServerConfig) :=
  dir.entries.filterMap fun entry => do
    guard entry.name.isYaml
    let v1 ← entry.content.bind parsers.yaml
    guard (¬(v1.domains.isEmpty && v1.addresses.isEmpty))
    guard (writes entry (convertV1ToV2 strings parsers v1 entry.name.migratedName))
    return (entry, v1)

/-- What `migrate_directory` writes, file by file. -/
def migrateDirectory (writes : DirEntry → ServerConfig → Bool) (dir : Directory) :
    List (String × ServerConfig) :=
  (v1Servers strings parsers writes dir).map fun (entry, v1) =>
    (entry.name.migratedPath, convertV1ToV2 strings parsers v1 entry.name.migratedName)

/-- `validate_server_configs`, with the id that is there twice. -/
def validateServerConfigs (configs : List ServerConfig) (seen : List String) : Except String Unit :=
  match configs with
  | [] => .ok ()
  | config :: rest =>
    if config.effectiveId ∈ seen then .error config.effectiveId
    else validateServerConfigs rest (config.effectiveId :: seen)

end Infrarust
