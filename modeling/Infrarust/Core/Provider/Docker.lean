import Infrarust.Core.Provider.Registry

/-!
# `Infrarust.Core.Provider.Docker`: containers and their events

The Docker provider lists the running containers once for the initial load. Then it opens an
event stream and follows it, and when the stream breaks it lists the containers again and opens
another one. The daemon sends a stream the events from its opening on.

`DockerSystem` is the daemon and the provider together. A container changes together with the
event that tells about it, and each call of the provider to the daemon is a step of its own, so
containers can change between any two of them. Calls can fail. Containers keep their names, and
a running container keeps what an inspection shows of it.

`DockerSystem.unseen` is a history variable. It has the containers of which the provider can have
missed something since its last list, and nothing reads it.
-/

set_option autoImplicit false

namespace Infrarust

def ProviderId.docker (containerName : String) : ProviderId := ⟨"docker", containerName⟩

/-! ### Containers -/

/-- What an inspection shows of a container, as far as a configuration is made from it. -/
structure ContainerInfo where
  labels : Option (Dict String String)
  /-- The address of the container in its network. -/
  address : String

/-- A container. A paused one is not running. -/
structure Container where
  id : String
  running : Bool
  info : ContainerInfo

/-- The label `infrarust.enable` is `true`. -/
def ContainerInfo.enabled (info : ContainerInfo) : Bool :=
  (info.labels.bind (·.lookup "infrarust.enable")) = some "true"

/-- The filters of `list_containers`. -/
def Container.listed (container : Container) : Bool := container.running && container.info.enabled

variable (toConfig : String → ContainerInfo → ServerConfig)

/-- `inspect_and_build` for a container that was found. `toConfig` is `labels_to_server_config`
with the address of the container. -/
def inspectAndBuild (containerName : String) (info : ContainerInfo) : Option ProviderConfig :=
  if info.enabled then
    let config := toConfig containerName info
    match validateServerConfig config with
    | .error _ => none
    | .ok () => some { id := .docker containerName, config }
  else none

/-- `scan_containers`, if nothing changes meanwhile. -/
def scanContainers (order : Dict.Order String Container) (containers : Dict String Container) :
    List ProviderConfig :=
  ((order.iter containers).filter (·.2.listed)).filterMap fun (name, container) =>
    inspectAndBuild toConfig name container.info

/-- The actions that the event stream is asked for. -/
inductive DockerAction where
  | start
  | stop
  | die
  | destroy
  | pause
  | unpause
deriving DecidableEq, Repr

/-- The action after which a container runs. -/
def DockerAction.starts : DockerAction → Bool
  | start | unpause => true
  | stop | die | destroy | pause => false

/-- `EventMessage`: the action, and the id and the name of the container. -/
structure DockerEvent where
  action : DockerAction
  id : String
  name : String
deriving DecidableEq, Repr

/-- The events that the daemon sends when a container changes. A container is started when it
does not run, and does not run after one of the other events. -/
def DockerEvent.Fits (event : DockerEvent) (before after : Option Container) : Prop :=
  if event.action.starts then
    (before.all fun c => !c.running) ∧ (after.any fun c => c.running && c.id = event.id)
  else after.all fun c => !c.running

instance (event : DockerEvent) (before after : Option Container) :
    Decidable (event.Fits before after) := by
  unfold DockerEvent.Fits
  infer_instance

/-! ### Resynchronisation -/

/-- What the receiver of the provider's events has after an event. -/
def ProviderEvent.publish (published : Dict ProviderId ServerConfig) :
    ProviderEvent → Dict ProviderId ServerConfig
  | .added pc | .updated pc => published.insert pc.id pc.config
  | .removed id => published.erase id

/-- What the provider knows, and what it has published. -/
structure DockerView where
  known : Dict String ServerConfig
  published : Dict ProviderId ServerConfig

namespace DockerView

/-- A configuration is known from now on, and `event` tells about it. -/
def learnBy (event : ProviderConfig → ProviderEvent) (view : DockerView) (pc : ProviderConfig) :
    DockerView where
  known := view.known.insert pc.id.uniqueId pc.config
  published := (event pc).publish view.published

/-- A configuration is known from now on, as an update if there was one before. -/
def learn (view : DockerView) (pc : ProviderConfig) : DockerView :=
  view.learnBy (if (view.known.lookup pc.id.uniqueId).isSome then .updated else .added) pc

/-- A container is not known any more. -/
def forget (view : DockerView) (name : String) : DockerView :=
  if (view.known.lookup name).isSome then
    { known := view.known.erase name
      published := (ProviderEvent.removed (.docker name)).publish view.published }
  else view

/-- `resync_containers`, with what the scan has found. -/
def resyncContainers (currentOrder : Dict.Order String ProviderConfig)
    (knownOrder : Dict.Order String ServerConfig) (current : List ProviderConfig)
    (view : DockerView) : DockerView :=
  let currentNames := Dict.collect (fun pc : ProviderConfig => pc.id.uniqueId) some current
  let view := ((currentOrder.iter currentNames).map Prod.snd).foldl learn view
  let removed := ((knownOrder.iter view.known).map Prod.fst).filter fun name =>
    (currentNames.lookup name).isNone
  removed.foldl forget view

/-- The end of `load_initial`. The caller adds what is returned. -/
def loadInitial (configs : List ProviderConfig) (view : DockerView) : DockerView :=
  configs.foldl (learnBy .added) view

end DockerView

/-! ### The daemon and the provider -/

/-- Where the provider is. -/
inductive DockerPhase where
  /-- Before `load_initial`. -/
  | starting
  /-- In `scan_containers`: the containers that are still to be inspected, and what was found. -/
  | scanning (resync : Bool) (rest : List (String × String)) (found : List ProviderConfig)
  /-- At the head of the loop of `watch_with_reconnect`. -/
  | connecting
  /-- In `watch_events`. -/
  | watching
  /-- In `handle_docker_event`, with an event after which a container runs. -/
  | inspecting (event : DockerEvent)
  /-- After a stream has failed. -/
  | waiting
deriving DecidableEq

/-- The daemon and the provider. -/
structure DockerSystem where
  containers : Dict String Container
  /-- The open stream, with the events that the provider has not received. -/
  stream : Option (List DockerEvent)
  phase : DockerPhase
  view : DockerView
  /-- The containers of which something can have been missed. -/
  unseen : List String

/-- What happens in the system. -/
inductive DockerLabel where
  /-- A container changes. -/
  | change (event : DockerEvent) (after : Option Container)
  | list (order : Dict.Order String Container)
  /-- No connection to the daemon, or no answer to the list. -/
  | listFails
  | inspect (answered : Bool)
  | finishScan (currentOrder : Dict.Order String ProviderConfig)
      (knownOrder : Dict.Order String ServerConfig)
  | connectFails
  | subscribe
  | receive
  | inspectEvent (answered : Bool)
  | streamFails

namespace DockerSystem

/-- The system before the provider starts. -/
def init (containers : Dict String Container) : DockerSystem where
  containers
  stream := none
  phase := .starting
  view := { known := ∅, published := ∅ }
  unseen := containers.keys

/-- The daemon without or with another container under a name. -/
def setContainer (containers : Dict String Container) (name : String) :
    Option Container → Dict String Container
  | none => containers.erase name
  | some container => containers.insert name container

variable (s : DockerSystem)

/-- `inspect_container` by id. -/
def inspectContainer (name id : String) : Option ContainerInfo :=
  match s.containers.lookup name with
  | some container => if container.id = id then some container.info else none
  | none => none

/-- `inspect_and_build`, or nothing if the container is gone. -/
def inspectAndBuild (name id : String) : Option ProviderConfig :=
  (s.inspectContainer name id).bind (Infrarust.inspectAndBuild toConfig name)

/-- A container changes, and an open stream tells about it. -/
def change (event : DockerEvent) (after : Option Container) : DockerSystem :=
  let s' := { s with containers := setContainer s.containers event.name after }
  match s.stream with
  | none => { s' with unseen := event.name :: s.unseen }
  | some queue =>
    { s' with
      stream := some (queue ++ [event])
      -- whatever was missed before, the provider will forget the container
      unseen := if event.action.starts then s.unseen else s.unseen.filter (· ≠ event.name) }

/-- One step. A call that fails is logged. -/
def next : DockerLabel → Option DockerSystem
  | .change event after =>
    if event.Fits (s.containers.lookup event.name) after then some (s.change event after) else none
  | .list order =>
    let rest := ((order.iter s.containers).filter (·.2.listed)).map fun (name, c) => (name, c.id)
    match s.phase with
    | .starting => some { s with phase := .scanning false rest [], unseen := [] }
    | .waiting => some { s with phase := .scanning true rest [], unseen := [] }
    | _ => none
  | .listFails =>
    match s.phase with
    | .starting | .waiting => some { s with phase := .connecting }
    | _ => none
  | .inspect answered =>
    match s.phase with
    | .scanning resync ((name, id) :: rest) found =>
      if answered then
        let found := found ++ (s.inspectAndBuild toConfig name id).toList
        some { s with phase := .scanning resync rest found }
      else some { s with phase := .scanning resync rest found, unseen := name :: s.unseen }
    | _ => none
  | .finishScan currentOrder knownOrder =>
    match s.phase with
    | .scanning false [] found =>
      some { s with phase := .connecting, view := s.view.loadInitial found }
    | .scanning true [] found =>
      some { s with phase := .connecting
                    view := s.view.resyncContainers currentOrder knownOrder found }
    | _ => none
  | .connectFails => if s.phase = .connecting then some s else none
  | .subscribe =>
    if s.phase = .connecting then some { s with phase := .watching, stream := some [] } else none
  | .receive =>
    match s.phase, s.stream with
    | .watching, some (event :: queue) =>
      if event.action.starts then
        some { s with phase := .inspecting event, stream := some queue }
      else some { s with view := s.view.forget event.name, stream := some queue }
    | _, _ => none
  | .inspectEvent answered =>
    match s.phase with
    | .inspecting event =>
      if answered then
        let view := match s.inspectAndBuild toConfig event.name event.id with
          | some pc => s.view.learn pc
          | none => s.view
        some { s with phase := .watching, view }
      else some { s with phase := .watching, unseen := event.name :: s.unseen }
    | _ => none
  | .streamFails =>
    match s.phase, s.stream with
    | .watching, some queue =>
      -- the events that were not received are lost
      some { s with phase := .waiting, stream := none
                    unseen := queue.map DockerEvent.name ++ s.unseen }
    | _, _ => none

/-- The steps of the system. -/
def Step (label : DockerLabel) (s' : DockerSystem) : Prop := s.next toConfig label = some s'

/-- The provider watches, and there is no event that it has not handled. -/
def Quiescent : Prop := s.phase = .watching ∧ s.stream = some []

end DockerSystem

end Infrarust
