import Infrarust.Core.Routing.DomainRouter

/-!
# `Infrarust.Core.Routing.Concurrent`: a reader beside an update

The tables of the router are concurrent maps and a locked list. A call takes one access to
one of them at a time, and a call on another thread may come between two accesses. Here
`update` is the list of its accesses and `resolve` a machine that makes one access per step.
A state is the tables, what is left of one update, and one reader.

A reader that has looked up an owner holds a read guard on the shard of that domain until it
has looked up the configuration, and a reader that scans the patterns holds their read lock.
Accesses that need the same shard or lock wait.
-/

set_option autoImplicit false

namespace Infrarust

/-- One access of a writer to one table. Nobody else writes meanwhile, so the traversal of
`configs` and the replacement of the list in `rebuild_wildcards` are one. -/
inductive TableAccess where
  | configsRemove (id : ProviderId)
  | exactRemoveIf (domain : String) (id : ProviderId)
  | exactInsert (domain : String) (id : ProviderId)
  | configsInsert (id : ProviderId) (entry : RouterEntry)
  | rebuildWildcards (order : ConfigOrder)

/-- What an access does to the tables. -/
def TableAccess.run : TableAccess → DomainRouter → DomainRouter
  | .configsRemove id, router => { router with configs := router.configs.erase id }
  | .exactRemoveIf domain id, router =>
    { router with exactDomains := router.exactDomains.removeIf domain (· = id) }
  | .exactInsert domain id, router =>
    { router with exactDomains := router.exactDomains.insert domain id }
  | .configsInsert id entry, router =>
    { router with configs := router.configs.insert id entry }
  | .rebuildWildcards order, router => router.rebuildWildcards order

namespace DomainRouter

/-- The accesses of `add`. -/
def addAccesses (strings : Strings) (order : ConfigOrder) (id : ProviderId)
    (config : ServerConfig) : List TableAccess :=
  let registeredDomains := config.domains.map strings.toLowercase
  (registeredDomains.filter (!isWildcard ·)).map (.exactInsert · id)
    ++ [.configsInsert id ⟨config, registeredDomains⟩]
    ++ if registeredDomains.any isWildcard then [.rebuildWildcards order] else []

/-- The accesses of `remove`. The first one returns the entry whose domains the others
take out. -/
def removeAccesses (order : ConfigOrder) (id : ProviderId) (router : DomainRouter) :
    List TableAccess :=
  .configsRemove id :: match router.configs.lookup id with
    | none => []
    | some entry =>
      (entry.domains.filter (!isWildcard ·)).map (.exactRemoveIf · id)
        ++ if entry.domains.any isWildcard then [.rebuildWildcards order] else []

/-- The accesses of `update`. -/
def updateAccesses (strings : Strings) (removeOrder addOrder : ConfigOrder) (id : ProviderId)
    (config : ServerConfig) (router : DomainRouter) : List TableAccess :=
  router.removeAccesses removeOrder id ++ addAccesses strings addOrder id config

end DomainRouter

/-- Where a call of `resolve` is. -/
inductive Reader where
  | start
  /-- The exact lookup found an owner; the guard on its shard is held. -/
  | owner (id : ProviderId)
  /-- The exact lookup gave nothing. -/
  | wildcards
  /-- The lock on the patterns is held and these are still to be tried. -/
  | scan (patterns : List WildcardEntry)
  | done (result : Option (ProviderId × ServerConfig))

/-- The next access of `resolve` for a normalized domain. -/
def Reader.step (strings : Strings) (domain : String) (router : DomainRouter) : Reader → Reader
  | .start =>
    match router.exactDomains.lookup domain with
    | some id => .owner id
    | none => .wildcards
  -- the owner was read before, and may have lost its configuration since
  | .owner id =>
    match router.configs.lookup id with
    | some entry => .done (some (id, entry.config))
    | none => .wildcards
  | .wildcards => .scan router.wildcardPatterns
  | .scan [] => .done none
  | .scan (pattern :: rest) =>
    if strings.wildMatch pattern.raw domain then
      match router.configs.lookup pattern.providerId with
      | some entry => .done (some (pattern.providerId, entry.config))
      -- a pattern can outlive its configuration for a moment
      | none => .scan rest
    else .scan rest
  | .done result => .done result

/-- The guard or the lock of the reader keeps a writer's access waiting. `shard` is the
shard of the exact domains a domain is kept in. -/
def Reader.blocks (shard : String → Nat) (domain : String) : Reader → TableAccess → Bool
  | .owner _, .exactRemoveIf d _ | .owner _, .exactInsert d _ => shard d = shard domain
  | .scan _, .rebuildWildcards _ => true
  | _, _ => false

/-- The tables, the accesses an update has still to make, and a reader. -/
structure SharedRouter where
  router : DomainRouter
  pending : List TableAccess
  reader : Reader

/-- Which of the two calls goes on. -/
inductive Thread where
  | writer
  | reader
deriving DecidableEq, Repr

/-- The call makes its next access. A writer that has to wait makes none. -/
inductive SharedRouter.Step (strings : Strings) (shard : String → Nat) (domain : String) :
    SharedRouter → Thread → SharedRouter → Prop where
  | writer {router access rest reader} (hfree : reader.blocks shard domain access = false) :
    Step strings shard domain ⟨router, access :: rest, reader⟩ .writer
      ⟨access.run router, rest, reader⟩
  | reader (router : DomainRouter) (pending : List TableAccess) (reader : Reader) :
    Step strings shard domain ⟨router, pending, reader⟩ .reader
      ⟨router, pending, reader.step strings domain router⟩

end Infrarust
