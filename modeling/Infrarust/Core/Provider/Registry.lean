import Infrarust.Core.Routing.DomainRouter
import Infrarust.Lib.Machine

/-!
# `Infrarust.Core.Provider.Registry`: provider events and the event loop

A provider reports configurations as events, and one task takes the events of all providers
from a channel and hands each to the router. The caches that the task also refreshes are not
part of the router's state and are left out.
-/

set_option autoImplicit false

namespace Infrarust

structure ProviderConfig where
  id : ProviderId
  config : ServerConfig
deriving DecidableEq, Repr

inductive ProviderEvent where
  | added (pc : ProviderConfig)
  | updated (pc : ProviderConfig)
  | removed (id : ProviderId)
deriving DecidableEq, Repr

/-- The id an event is about. -/
def ProviderEvent.id : ProviderEvent → ProviderId
  | .added pc => pc.id
  | .updated pc => pc.id
  | .removed id => id

/-- One turn of `event_loop`. The orders are those of the wildcard rebuilds. -/
def handleEvent (strings : Strings) (removeOrder addOrder : ConfigOrder) :
    ProviderEvent → DomainRouter → DomainRouter
  | .added pc, router => router.add strings addOrder pc.id pc.config
  | .updated pc, router => router.update strings removeOrder addOrder pc.id pc.config
  | .removed id, router => router.remove removeOrder id

/-- One turn of `event_loop`, with rebuilds in some order. -/
def EventStep (strings : Strings) (router : DomainRouter) (event : ProviderEvent)
    (router' : DomainRouter) : Prop :=
  ∃ removeOrder addOrder, router' = handleEvent strings removeOrder addOrder event router

/-- The first phase of `ProviderRegistry::start` for one provider: every configuration of
the initial load is added, in its order. -/
def Starts (strings : Strings) (configs : List ProviderConfig) (router : DomainRouter) : Prop :=
  Machine.Run (EventStep strings) DomainRouter.new (configs.map .added) router

end Infrarust
