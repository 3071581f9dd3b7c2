import Infrarust.Core.ProxyLoop
import Infrarust.Lib.Dict

/-!
# `Infrarust.Core.Limbo.RegistryCache`: configuration frames that are kept for the limbo

The cache has the frames of a configuration phase for every protocol version. All sessions of a
version add to one list until a `FinishConfig` of any of them finalizes it, and from then on the
list stays as it is.

`CaptureSystem` has the cache and any number of loops, each between one client and one backend.
An iteration of a loop makes its calls on the cache under the version of its client. A loop that
takes no step any more is one whose session was aborted. For every loop, `configFrames` and
`finished` say what its backend has sent, and `collector` says which loop was the first to add a
frame for a version. They are history, and no function reads them.
-/

set_option autoImplicit false

namespace Infrarust

/-! ### The cache -/

structure CapturedFrames where
  registryFrames : List PacketFrame
  knownPacksFrame : Option PacketFrame
  finalized : Bool

/-- What `or_insert_with` puts for a version. -/
def CapturedFrames.new : CapturedFrames where
  registryFrames := []
  knownPacksFrame := none
  finalized := false

/-- `RegistryCodecCache`, without the provider of the data for versions that were not captured. -/
structure RegistryCodecCache where
  captured : Dict ProtocolVersion CapturedFrames

namespace RegistryCodecCache

def new : RegistryCodecCache := { captured := ∅ }

variable (cache : RegistryCodecCache) (version : ProtocolVersion)

/-- `map.entry(version).or_insert_with(..)`, and a change of the entry unless it is finalized. -/
def collect (change : CapturedFrames → CapturedFrames) : RegistryCodecCache :=
  let entry := (cache.captured.lookup version).getD .new
  { captured := cache.captured.insert version (if entry.finalized then entry else change entry) }

def collectRegistryFrame (frame : PacketFrame) : RegistryCodecCache :=
  cache.collect version fun entry =>
    { entry with registryFrames := entry.registryFrames ++ [frame] }

def collectKnownPacksFrame (frame : PacketFrame) : RegistryCodecCache :=
  cache.collect version fun entry => { entry with knownPacksFrame := some frame }

def finalize : RegistryCodecCache :=
  match cache.captured.lookup version with
  | none => cache
  | some entry => { captured := cache.captured.insert version { entry with finalized := true } }

def hasCaptured : Bool := (cache.captured.lookup version).any (·.finalized)

/-- A call that a session makes. -/
def call (cache : RegistryCodecCache) :
    RegistryCacheCall → RegistryCodecCache
  | .collectKnownPacksFrame frame => cache.collectKnownPacksFrame version frame
  | .collectRegistryFrame frame => cache.collectRegistryFrame version frame
  | .finalize => cache.finalize version

end RegistryCodecCache

/-! ### Sessions -/

/-- The frame is the `FinishConfig` of the version. -/
def isFinishConfig (registry : PacketRegistry) (version : ProtocolVersion) (frame : PacketFrame) :
    Bool :=
  registry.getPacketId .finishConfig .config .clientbound version = some frame.id

/-- The frame is the `KnownPacks` of the version. -/
def isKnownPacks (registry : PacketRegistry) (version : ProtocolVersion) (frame : PacketFrame) :
    Bool :=
  registry.getPacketId .knownPacks .config .clientbound version = some frame.id

/-- A loop, and what its backend has sent in the configuration phase. -/
structure CaptureLink (ι : Type) where
  session : Session ι
  /-- The loop has ended. -/
  ended : Bool
  /-- The frames other than `KnownPacks` before the first `FinishConfig`. -/
  configFrames : List PacketFrame
  /-- There was a `FinishConfig`. -/
  finished : Bool

namespace CaptureLink

variable {ι : Type}

/-- The version under which the loop uses the cache. -/
def version (link : CaptureLink ι) : ProtocolVersion := link.session.client.protocolVersion

/-- A frame of the configuration phase, before its end. -/
def observe (registry : PacketRegistry) (link : CaptureLink ι) (frame : PacketFrame) :
    CaptureLink ι :=
  if link.finished then link
  else if isFinishConfig registry link.version frame then { link with finished := true }
  else if isKnownPacks registry link.version frame then link
  else { link with configFrames := link.configFrames ++ [frame] }

/-- The frame of the configuration phase that an iteration is about. -/
def configFrame (link : CaptureLink ι) : ProxyLoop.LoopEvent → Option PacketFrame
  | .backend (.ok (some frame)) _ =>
    if link.session.backend.state = .config then some frame else none
  | _ => none

/-- What is known of the backend after an iteration. -/
def observeEvent (registry : PacketRegistry) (link : CaptureLink ι) (event : ProxyLoop.LoopEvent) :
    CaptureLink ι :=
  match link.configFrame event with
  | some frame => link.observe registry frame
  | none => link

end CaptureLink

/-- The cache and the loops. -/
structure CaptureSystem (ι : Type) where
  cache : RegistryCodecCache
  links : Dict Nat (CaptureLink ι)
  /-- The loop that was the first to add a frame for the version. -/
  collector : Dict ProtocolVersion Nat

/-- What happens in the system. -/
inductive CaptureLabel (ι : Type) where
  /-- A loop begins. -/
  | start (id : Nat) (session : Session ι)
  /-- One iteration of a loop. -/
  | iterate (id : Nat) (event : ProxyLoop.LoopEvent)

namespace CaptureSystem

variable {ι : Type}

/-- Before the first session. -/
def init : CaptureSystem ι := { cache := .new, links := ∅, collector := ∅ }

/-- The first of the calls that adds a frame makes the loop the collector. -/
def collects (calls : List RegistryCacheCall) : Bool :=
  calls.any fun
    | .collectRegistryFrame _ => true
    | _ => false

/-- The calls of a loop on the cache. -/
def applyCalls (s : CaptureSystem ι) (version : ProtocolVersion) (id : Nat)
    (calls : List RegistryCacheCall) : CaptureSystem ι :=
  { s with
    cache := calls.foldl (RegistryCodecCache.call version) s.cache
    collector :=
      if collects calls && (s.collector.lookup version).isNone then s.collector.insert version id
      else s.collector }

variable [CodecFilterInstance ι] (registry : PacketRegistry)

/-- One iteration of a loop, with its calls on the cache. -/
def iterate (s : CaptureSystem ι) (id : Nat) (link : CaptureLink ι)
    (event : ProxyLoop.LoopEvent) : CaptureSystem ι :=
  let (session, outcome) := ProxyLoop.proxyStep registry link.session event
  let calls := session.cacheCalls.drop link.session.cacheCalls.length
  { s.applyCalls link.version id calls with
    links := s.links.insert id
      { link.observeEvent registry event with session, ended := outcome.isSome } }

/-- One step. -/
def next (s : CaptureSystem ι) : CaptureLabel ι → Option (CaptureSystem ι)
  | .start id session =>
    if (s.links.lookup id).isSome then none
    else
      let link := { session, ended := false, configFrames := [], finished := false }
      some { s with links := s.links.insert id link }
  | .iterate id event =>
    match s.links.lookup id with
    | none => none
    | some link => if link.ended then none else some (s.iterate registry id link event)

/-- The steps of the system. -/
def Step (s : CaptureSystem ι) (label : CaptureLabel ι) (s' : CaptureSystem ι) : Prop :=
  s.next registry label = some s'

end CaptureSystem

end Infrarust
