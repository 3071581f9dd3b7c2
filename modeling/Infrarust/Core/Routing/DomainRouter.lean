import Infrarust.Config.Server
import Infrarust.Lib.Dict

/-!
# `Infrarust.Core.Routing.DomainRouter`: from a domain to a server configuration

The router keeps three tables: the configurations by provider id, the owner of every exact
domain, and the list of wildcard patterns. The concurrent maps of the source are finite maps
here, and a traversal of one takes its order as an argument, since the source's maps are
hashed. Every function is one uninterrupted call; `Core.Routing.Concurrent` has the table
accesses a concurrent reader can see between.
-/

set_option autoImplicit false

namespace Infrarust

/-- `ProviderId`: which provider a configuration comes from, and its key there. -/
structure ProviderId where
  providerType : String
  uniqueId : String
deriving DecidableEq, Repr

def ProviderId.file (filename : String) : ProviderId := ⟨"file", filename⟩

/-- The string functions the router takes from libraries: `str::to_lowercase` and
`WildMatch::new(pattern).matches(text)`. -/
structure Strings where
  toLowercase : String → String
  wildMatch : (pattern text : String) → Bool

/-- `*` stands for any text and `?` for one character. -/
def globMatch : (pattern text : List Char) → Bool
  | [], text => text.isEmpty
  | '*' :: pattern, text => text.tails.any (globMatch pattern)
  | c :: pattern, text =>
    match text with
    | [] => false
    | t :: rest => (c = '?' || c = t) && globMatch pattern rest

/-- The string functions on ASCII text. -/
def asciiStrings : Strings where
  toLowercase s := String.ofList (s.toList.map Char.toLower)
  wildMatch pattern text := globMatch pattern.toList text.toList

structure RouterEntry where
  config : ServerConfig
  domains : List String
deriving DecidableEq, Repr

/-- `WildcardEntry`. The compiled matcher is a function of the pattern. -/
structure WildcardEntry where
  raw : String
  providerId : ProviderId
deriving DecidableEq, Repr

def normalizeHandshake (domain : String) : String :=
  Text.trimEndMatches '.' (String.ofList (domain.toList.takeWhile (· ≠ '\x00')))

def isWildcard (domain : String) : Bool := domain.toList.contains '*' || domain.toList.contains '?'

structure DomainRouter where
  configs : Dict ProviderId RouterEntry
  exactDomains : Dict String ProviderId
  wildcardPatterns : List WildcardEntry

/-- The order in which one call visits `configs`. -/
abbrev ConfigOrder := Dict.Order ProviderId RouterEntry

namespace DomainRouter

def new : DomainRouter := { configs := ∅, exactDomains := ∅, wildcardPatterns := [] }

def rebuildWildcards (order : ConfigOrder) (router : DomainRouter) : DomainRouter :=
  { router with
    wildcardPatterns := (order.iter router.configs).flatMap fun entry =>
      (entry.2.domains.filter isWildcard).map fun domain => ⟨domain, entry.1⟩ }

/-- The loop of `add` over the normalized domains of the configuration: every exact one goes
to `id`, whoever owned it before. -/
def insertDomains (id : ProviderId) (domains : List String) (router : DomainRouter) :
    DomainRouter :=
  { router with
    exactDomains := domains.foldl (fun owners domain =>
      if isWildcard domain then owners else owners.insert domain id) router.exactDomains }

def add (strings : Strings) (order : ConfigOrder) (id : ProviderId) (config : ServerConfig)
    (router : DomainRouter) : DomainRouter :=
  let registeredDomains := config.domains.map strings.toLowercase
  let hasWildcards := registeredDomains.any isWildcard
  let router := router.insertDomains id registeredDomains
  let router := { router with configs := router.configs.insert id ⟨config, registeredDomains⟩ }
  -- patterns of a replaced entry stay if the new configuration has no wildcard
  if hasWildcards then router.rebuildWildcards order else router

/-- The loop of `remove` over the domains of the removed entry: an exact one goes only if
`id` still owns it. -/
def removeDomains (id : ProviderId) (domains : List String) (router : DomainRouter) :
    DomainRouter :=
  { router with
    exactDomains := domains.foldl (fun owners domain =>
      if isWildcard domain then owners else owners.removeIf domain (· = id))
      router.exactDomains }

def remove (order : ConfigOrder) (id : ProviderId) (router : DomainRouter) : DomainRouter :=
  match router.configs.lookup id with
  | none => router
  | some entry =>
    let router := { router with configs := router.configs.erase id }
    let hadWildcards := entry.domains.any isWildcard
    let router := router.removeDomains id entry.domains
    if hadWildcards then router.rebuildWildcards order else router

/-- `DomainRouter::update`. The two halves rebuild the wildcard list in orders of their
own. -/
def update (strings : Strings) (removeOrder addOrder : ConfigOrder) (id : ProviderId)
    (config : ServerConfig) (router : DomainRouter) : DomainRouter :=
  (router.remove removeOrder id).add strings addOrder id config

/-- The sequential scan of `resolve` over the wildcard patterns. A pattern whose provider
has no configuration is passed over. -/
def matchWildcard (strings : Strings) (router : DomainRouter) (domain : String) :
    Option (ProviderId × ServerConfig) :=
  router.wildcardPatterns.findSome? fun pattern =>
    if strings.wildMatch pattern.raw domain then
      (router.configs.lookup pattern.providerId).map fun entry =>
        (pattern.providerId, entry.config)
    else none

/-- The lookup of `resolve` in the exact domains. -/
def matchExact (router : DomainRouter) (domain : String) : Option (ProviderId × ServerConfig) :=
  match router.exactDomains.lookup domain with
  | none => none
  | some id => (router.configs.lookup id).map fun entry => (id, entry.config)

def resolve (strings : Strings) (router : DomainRouter) (domain : String) :
    Option (ProviderId × ServerConfig) :=
  let normalized := strings.toLowercase (normalizeHandshake domain)
  match router.matchExact normalized with
  | some found => some found
  | none => router.matchWildcard strings normalized

/-- `DomainRouter::list_all`, the configurations. -/
def listAll (order : ConfigOrder) (router : DomainRouter) : List ServerConfig :=
  (order.iter router.configs).map (·.2.config)

def findByServerId (order : ConfigOrder) (router : DomainRouter) (serverId : String) :
    Option ServerConfig :=
  (router.listAll order).find? (·.effectiveId = serverId)

end DomainRouter

end Infrarust
