import Infrarust.Lib.Text
import Infrarust.Core.Bridge
import Infrarust.Core.CodecFilter

/-!
# `Infrarust.Core.ProxyLoop`: forwarding packets between client and backend

The loop waits for a frame from the client, a frame from the backend, a command of a plugin
or the proxy's shutdown, and handles one of them at a time. `proxyStep` is one iteration.
What the wait produced is a `LoopEvent`, so that a run is a list of events and any
interleaving is a run.

The two handlers forward a frame to the other side. In the Login and Config states they
decode it to follow compression and state changes. In the Play state the codec filters, the
proxy's own commands and the packet events come first.

The services of the proxy (commands, events, the Play packets' codecs) are shared with other
sessions and with plugins. What they answer during an iteration is part of its event, as
`ProxyServices`. The calls that run a command or that a listener sees are recorded in
`Session.serviceCalls`, and those on the registry cache, which is shared too, in
`Session.cacheCalls`.
-/

set_option autoImplicit false

namespace Infrarust

inductive ChatMessageResult where
  | allow
  | deny
  | modify
deriving DecidableEq, Repr

inductive RawPacketResult where
  | pass
  | modify (packet : RawPacket)
  | drop
deriving DecidableEq, Repr

/-- The frame to go on with after a packet event, or `none` when a listener dropped it. -/
def RawPacketResult.apply (frame : PacketFrame) : RawPacketResult → Option PacketFrame
  | pass => some frame
  | modify packet => some (rawToFrame packet)
  | drop => none

/-- `CTabCompleteResponse`. -/
structure TabCompleteResponse where
  transactionId : I32
  start : Nat
  length : Nat
  suggestions : List String

/-- What the proxy's services answer while one event is handled. -/
structure ProxyServices where
  isPluginCommand : String → Bool
  /-- `command_manager.tab_complete_for_player` for the session's player. -/
  tabCompleteForPlayer : String → List String
  /-- `command_manager.dispatch` for the session's player: whether a command took the input. -/
  dispatch : String → Bool
  /-- The result of the `ChatMessageEvent`. -/
  chatMessage : String → ChatMessageResult
  hasPacketListeners : I32 → ConnectionState → Direction → Bool
  /-- The result of the `RawPacketEvent`. -/
  firePacketEvent : RawPacket → Direction → RawPacketResult
  announceProxyCommands : Bool
  /-- `inject_proxy_commands` on a command tree, re-encoded. -/
  injectProxyCommands : Bytes → ProtocolVersion → Except ProtocolError Bytes
  /-- `SChatCommand::decode`. -/
  decodeChatCommand : Bytes → ProtocolVersion → Except ProtocolError String
  /-- `SChatMessage::decode`. -/
  decodeChatMessage : Bytes → ProtocolVersion → Except ProtocolError String
  /-- `CTabCompleteResponse::encode`. -/
  encodeTabComplete : TabCompleteResponse → ProtocolVersion → Except ProtocolError Bytes

/-- The calls a session makes on the proxy's services that have an effect outside of it. -/
inductive ServiceCall where
  | tabComplete (input : String)
  | dispatch (input : String)
  | chatMessage (text : String)
  | packetEvent (packet : RawPacket) (direction : Direction)
deriving DecidableEq, Repr

/-- The calls a session makes on the registry cache. -/
inductive RegistryCacheCall where
  | collectKnownPacksFrame (frame : PacketFrame)
  | collectRegistryFrame (frame : PacketFrame)
  | finalize

/-- The state of one session in the loop. -/
structure Session (ι : Type) where
  client : ClientBridge
  backend : BackendBridge
  clientCodecChain : CodecFilterChain ι
  serverCodecChain : CodecFilterChain ι
  serviceCalls : List ServiceCall
  cacheCalls : List RegistryCacheCall

/-- A part of the loop. A failure keeps what was done before it. -/
abbrev LoopM (ι : Type) := EStateM CoreError (Session ι)

namespace ProxyLoop

variable {ι : Type}

/-- `client.write_frame(&frame).await?`. -/
def clientWrite (frame : PacketFrame) : LoopM ι Unit := fun s =>
  match s.client.writeFrame frame with
  | (.ok (), client) => .ok () { s with client }
  | (.error e, client) => .error e { s with client }

/-- `backend.write_frame(&frame).await?`. -/
def backendWrite (frame : PacketFrame) : LoopM ι Unit := fun s =>
  match s.backend.writeFrame frame with
  | (.ok (), backend) => .ok () { s with backend }
  | (.error e, backend) => .error e { s with backend }

/-- `set_state` on both bridges. -/
def setStates (state : ConnectionState) : LoopM ι Unit :=
  modify fun s => { s with client := s.client.setState state, backend := s.backend.setState state }

/-- The codec chain of a side. -/
def chainOf (s : Session ι) : ConnectionSide → CodecFilterChain ι
  | .clientSide => s.clientCodecChain
  | .serverSide => s.serverCodecChain

/-- A change of the codec chain of a side. -/
def modifyChain (side : ConnectionSide) (f : CodecFilterChain ι → CodecFilterChain ι) :
    LoopM ι Unit :=
  modify fun s => match side with
    | .clientSide => { s with clientCodecChain := f s.clientCodecChain }
    | .serverSide => { s with serverCodecChain := f s.serverCodecChain }

/-- A call on the services. -/
def serviceCall (call : ServiceCall) : LoopM ι Unit :=
  modify fun s => { s with serviceCalls := s.serviceCalls ++ [call] }

/-- A call on the registry cache. -/
def cacheCall (call : RegistryCacheCall) : LoopM ι Unit :=
  modify fun s => { s with cacheCalls := s.cacheCalls ++ [call] }

def sendInjectedFrames (write : PacketFrame → LoopM ι Unit) (output : FrameOutput)
    (sendBefore sendAfter : Bool) : LoopM ι Unit := do
  if sendBefore then output.framesBefore.forM fun raw => write (rawToFrame raw)
  if sendAfter then output.framesAfter.forM fun raw => write (rawToFrame raw)

variable [CodecFilterInstance ι]

/-- `apply_codec_filter`: the frame to go on with, or `none` when the filters consumed it. -/
def applyCodecFilter (side : ConnectionSide) (frame : PacketFrame)
    (write : PacketFrame → LoopM ι Unit) : LoopM ι (Option PacketFrame) := do
  let s ← get
  if (chainOf s side).instances.isEmpty then
    return some frame
  else
    let (result, raw, chain) := (chainOf s side).process (frameToRaw frame)
    modifyChain side fun _ => chain
    match result with
    | .pass => return some (rawToFrame raw)
    | .dropped => return none
    -- What the filters injected stands in for the packet.
    | .replaced output =>
      sendInjectedFrames write output true true
      return none
    -- The packet is written here, between the two halves of what was injected, and the rest
    -- of the handler does not see it.
    | .passWithInjections output =>
      sendInjectedFrames write output true false
      write (rawToFrame raw)
      sendInjectedFrames write output false true
      return none

/-- The raw packet event of a Play frame: the frame to go on with, or `none` when a listener
dropped it. -/
def rawPacketEvent (services : ProxyServices) (direction : Direction) (frame : PacketFrame) :
    LoopM ι (Option PacketFrame) := do
  if services.hasPacketListeners frame.id .play direction then
    serviceCall (.packetEvent (frameToRaw frame) direction)
    return (services.firePacketEvent (frameToRaw frame) direction).apply frame
  else return some frame

/-- Whether a text that the client wants completed is the proxy's business. -/
def shouldIntercept (services : ProxyServices) (text : String) : Bool :=
  if Text.startsWith text "/infrarust " || Text.startsWith text "/ir " then true
  -- The first word, without its slashes, may be the command of a plugin.
  else
    let cmdName := (Text.splitWhitespace (Text.trimStartMatches '/' text)).head?.getD ""
    cmdName ≠ "" && services.isPluginCommand cmdName

variable (registry : PacketRegistry) (services : ProxyServices) (version : ProtocolVersion)
  (frame : PacketFrame)

/-- A tab-completion request that the proxy intercepts: its number and its text. -/
def interceptedTabComplete : Option (I32 × String) :=
  if some frame.id = registry.getPacketId .tabCompleteRequest .play .serverbound version then
    match registry.decodeFrame frame .play .serverbound version with
    | .ok (.typed _ (.tabCompleteRequest transactionId requested)) =>
      let text := Text.trimStart requested
      if shouldIntercept services text then some (transactionId, text) else none
    | _ => none
  else none

/-- The response to an intercepted request. -/
def tabCompleteResponse (transactionId : I32) (text : String) : TabCompleteResponse :=
  -- Offsets count bytes. Without a space the completion starts behind the slash.
  let lastSpace := (Text.rfind ' ' text).getD 0 + 1
  { transactionId
    start := lastSpace
    length := Text.byteLen text.toList - lastSpace
    suggestions := services.tabCompleteForPlayer (Text.trimStartMatches '/' text) }

/-- The packet of the response. A version without the packet has none. -/
def tabCompleteAnswer (transactionId : I32) (text : String) : Option PacketFrame :=
  match registry.getPacketId .tabCompleteResponse .play .clientbound version with
  | none => none
  | some respId =>
    match services.encodeTabComplete (tabCompleteResponse services transactionId text) version with
    | .ok payload => some { id := respId, payload }
    | .error _ => none

inductive ChatAction where
  | command (input : String)
  | message (text : String)
deriving DecidableEq, Repr

/-- The chat packet of all versions. A leading slash makes it a command. -/
def detectChatMessage : Option ChatAction :=
  if some frame.id = registry.getPacketId .chatMessage .play .serverbound version then
    match services.decodeChatMessage frame.payload version with
    | .ok message =>
      match message.toList with
      | '/' :: rest => some (.command (String.ofList rest))
      | _ => some (.message message)
    | .error _ => none
  else none

def detectChatOrCommand : Option ChatAction :=
  if some frame.id = registry.getPacketId .chatCommand .play .serverbound version then
    match services.decodeChatCommand frame.payload version with
    | .ok command => some (.command command)
    -- A packet that cannot be decoded may still be the older one.
    | .error _ => detectChatMessage registry services version frame
  else detectChatMessage registry services version frame

/-- Whether a command or a chat listener takes a chat packet out of the stream. -/
def chatConsumed : Option ChatAction → LoopM ι Bool
  | some (.command input) => do
    serviceCall (.dispatch input)
    return services.dispatch input
  | some (.message text) => do
    serviceCall (.chatMessage text)
    return services.chatMessage text = .deny
  | none => return false

/-- The end of `handle_client_to_backend` in the Play state: chat, the packet event and the
backend. -/
def forwardServerbound : LoopM ι Unit := do
  if ← chatConsumed services (detectChatOrCommand registry services version frame) then return
  else
    match ← rawPacketEvent services .serverbound frame with
    | none => return
    | some frame => backendWrite frame

/-- `handle_client_to_backend` in the Play state, behind the codec filters. -/
def interceptServerbound : LoopM ι Unit := do
  -- Offline backends cannot validate signatures, so the chat session is dropped.
  if some frame.id = registry.getPacketId .chatSessionUpdate .play .serverbound version then
    return
  else
    match interceptedTabComplete registry services version frame with
    | none => forwardServerbound registry services version frame
    | some (transactionId, text) =>
      serviceCall (.tabComplete (Text.trimStartMatches '/' text))
      match tabCompleteAnswer registry services version transactionId text with
      | some answer => clientWrite answer
      -- A request that cannot be answered is left to the backend.
      | none => forwardServerbound registry services version frame

/-- `handle_client_to_backend` in the Play state. -/
def handleClientPlay (received : PacketFrame) : LoopM ι Unit := do
  match ← applyCodecFilter .clientSide received backendWrite with
  | none => return
  | some frame => interceptServerbound registry services version frame

/-- `handle_client_to_backend` in the other states: the client's two acknowledgements move
both sides to the next state. -/
def handleClientLogin (state : ConnectionState) (frame : PacketFrame) : LoopM ι Unit :=
  match registry.decodeFrame frame state .serverbound version with
  | .ok (.typed _ .loginAcknowledged) => do
    backendWrite frame
    setStates .config
    modifyChain .clientSide (·.notifyStateChange .config)
  | .ok (.typed _ .acknowledgeFinishConfig) => do
    backendWrite frame
    setStates .play
    modifyChain .clientSide (·.notifyStateChange .play)
  | _ => backendWrite frame

def handleClientToBackend : LoopM ι Unit := do
  let s ← get
  if s.client.state = .play then
    handleClientPlay registry services s.client.protocolVersion frame
  else handleClientLogin registry s.client.protocolVersion s.client.state frame

/-- Why a backend connection ended. -/
inductive DisconnectReason where
  | text (reason : String)
  | ofError (e : CoreError)
deriving DecidableEq, Repr

inductive BackendAction where
  | continue
  | disconnected (reason : String)
deriving DecidableEq, Repr

/-- The frame that goes to the client in place of a command tree. -/
def announcedCommands (id : I32) (tree : Bytes) : PacketFrame :=
  if services.announceProxyCommands then
    match services.injectProxyCommands tree version with
    | .ok payload => { id, payload }
    -- A tree that cannot be changed goes through as it came.
    | .error _ => frame
  else frame

/-- The end of `handle_backend_to_client` in the Play state: the disconnect detection, the
command tree and the client. -/
def forwardClientbound : LoopM ι BackendAction :=
  match registry.decodeFrame frame .play .clientbound version with
  | .ok (.typed _ (.disconnect reason)) => do
    clientWrite frame
    return .disconnected reason
  | .ok (.typed id (.commands tree)) => do
    clientWrite (announcedCommands services version frame id tree)
    return .continue
  | _ => do
    clientWrite frame
    return .continue

/-- `handle_backend_to_client` in the Play state, behind the codec filters. -/
def interceptClientbound (received : PacketFrame) : LoopM ι BackendAction := do
  match ← rawPacketEvent services .clientbound received with
  | none => return .continue
  | some frame => forwardClientbound registry services version frame

/-- `handle_backend_to_client` in the Play state. -/
def handleBackendPlay (received : PacketFrame) : LoopM ι BackendAction := do
  match ← applyCodecFilter .serverSide received clientWrite with
  | none => return .continue
  | some frame => interceptClientbound registry services version frame

/-- `handle_backend_to_client` in the other states. -/
def handleBackendLogin (state : ConnectionState) (frame : PacketFrame) : LoopM ι BackendAction :=
  match registry.decodeFrame frame state .clientbound version with
  | .ok (.typed _ (.setCompression threshold)) => do
    modify fun s => { s with backend := s.backend.setCompression threshold }
    -- The client's side changes before the frame that tells the client so is written.
    modify fun s => { s with client := s.client.setCompression threshold }
    clientWrite frame
    modifyChain .serverSide (·.notifyCompressionChange threshold)
    return .continue
  | .ok (.typed _ .loginSuccess) => do
    clientWrite frame
    -- From 1.20.2 on the state changes when the client acknowledges.
    if version.lessThan .V1_20_2 then
      setStates .play
      modifyChain .serverSide (·.notifyStateChange .play)
    return .continue
  | .ok (.typed _ (.loginDisconnect reason)) => do
    clientWrite frame
    return .disconnected reason
  -- The outcome does not have the reason that this packet gives.
  | .ok (.typed _ (.disconnect _)) => do
    clientWrite frame
    return .disconnected "backend disconnect"
  | .ok (.typed _ .finishConfig) => do
    cacheCall .finalize
    clientWrite frame
    return .continue
  -- In the Config state the cache collects what a limbo will need later.
  | .ok (.typed _ _) => do
    if state = .config then
      if registry.getPacketId .knownPacks .config .clientbound version = some frame.id then
        cacheCall (.collectKnownPacksFrame frame)
      else cacheCall (.collectRegistryFrame frame)
    clientWrite frame
    return .continue
  | .ok (.opaqueFrame _ _) => do
    if state = .config then cacheCall (.collectRegistryFrame frame)
    clientWrite frame
    return .continue
  -- A packet the proxy cannot read is not its business.
  | .error _ => do
    clientWrite frame
    return .continue

def handleBackendToClient : LoopM ι BackendAction := do
  let s ← get
  if s.backend.state = .play then
    handleBackendPlay registry services s.client.protocolVersion frame
  else handleBackendLogin registry s.client.protocolVersion s.backend.state frame

/-- `PlayerCommand`. A command that shows something carries the frames that the packet
builders made for it, or their error. -/
inductive PlayerCommand where
  | sendMessage (built : Except CoreError PacketFrame)
  | sendActionBar (built : Except CoreError PacketFrame)
  | sendTitle (built : Except CoreError (List PacketFrame))
  | sendPacket (rawPacket : RawPacket)
  | kick (built : Except CoreError PacketFrame)
  | switchServer (target : String)

inductive CommandResult where
  | continue
  | kick
  | switch (target : String)
deriving DecidableEq, Repr

/-- The result of a packet builder, with `?`. -/
def built {α : Type} : Except CoreError α → LoopM ι α
  | .ok a => pure a
  | .error e => throw e

def handlePlayerCommand : PlayerCommand → LoopM ι CommandResult
  | .sendMessage frame => do
    clientWrite (← built frame)
    return .continue
  | .sendActionBar frame => do
    clientWrite (← built frame)
    return .continue
  | .sendTitle frames => do
    (← built frames).forM clientWrite
    return .continue
  | .sendPacket rawPacket => do
    clientWrite (rawToFrame rawPacket)
    return .continue
  | .kick frame => do
    clientWrite (← built frame)
    return .kick
  | .switchServer target => return .switch target

/-- What the `select!` of the loop produced. -/
inductive LoopEvent where
  /-- `client.read_frame()` returned. -/
  | client (read : Except CoreError (Option PacketFrame)) (services : ProxyServices)
  /-- `backend.read_frame()` returned. -/
  | backend (read : Except CoreError (Option PacketFrame)) (services : ProxyServices)
  /-- A plugin sent a command. -/
  | command (cmd : PlayerCommand)
  /-- The proxy shuts down. -/
  | shutdown

inductive ProxyLoopOutcome where
  | clientDisconnected
  | backendDisconnected (reason : Option DisconnectReason)
  | shutdown
  | error (e : CoreError)
  | switchRequested (target : String)
deriving DecidableEq, Repr

/-- One iteration of `proxy_loop`: the session afterwards and, when the loop breaks, its
outcome. -/
def proxyStep (s : Session ι) :
    LoopEvent → Session ι × Option ProxyLoopOutcome
  | .client (.ok (some frame)) services =>
    match handleClientToBackend registry services frame s with
    | .ok () s' => (s', none)
    -- This handler writes to the backend, so an end of the stream is the backend's.
    | .error e s' =>
      if e.isExpectedDisconnect then (s', some (.backendDisconnected (some (.ofError e))))
      else (s', some (.error e))
  | .client (.ok none) _ => (s, some .clientDisconnected)
  | .client (.error e) _ => (s, some (.error e))
  | .backend (.ok (some frame)) services =>
    match handleBackendToClient registry services frame s with
    | .ok .continue s' => (s', none)
    | .ok (.disconnected reason) s' => (s', some (.backendDisconnected (some (.text reason))))
    | .error e s' => (s', some (.error e))
  | .backend (.ok none) _ => (s, some (.backendDisconnected none))
  | .backend (.error e) _ => (s, some (.error e))
  | .command cmd =>
    match handlePlayerCommand cmd s with
    | .ok .continue s' => (s', none)
    | .ok .kick s' => (s', some .clientDisconnected)
    | .ok (.switch target) s' => (s', some (.switchRequested target))
    -- A failed command is logged and the loop goes on.
    | .error _ s' => (s', none)
  | .shutdown => (s, some .shutdown)

end ProxyLoop

end Infrarust
