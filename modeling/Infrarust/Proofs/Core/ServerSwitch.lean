import Infrarust.Core.ServerSwitch
import Infrarust.Proofs.Core.Passthrough
import Infrarust.Proofs.Core.ProxyLoop

/-!
# `Infrarust.Proofs.Core.ServerSwitch`: where a switch leads, and what a failed one leaves behind

A switch is validated against the network of the requested target. The plugins may then name
another server, which is not validated, so a switch can leave its network
(`switch_across_networks`). `performSwitch_validated_iff` says when the destination of a
successful switch passes the validation.

A switch that fails should leave the client alone, since the session goes on with the old
backend. It does up to the first byte that goes to the client (`performSwitch_untouched_iff`).
From there on nothing is taken back: what was sent only grows (`keeps_afterStart`).
-/

set_option autoImplicit false

namespace Infrarust

open SwitchState List ClientBridge ProxyLoop

/-! ### The destination -/

/-- Both servers name a network, and not the same. -/
def ServerConfig.Isolated (a b : ServerConfig) : Prop :=
  ∃ m n, a.network = some m ∧ b.network = some n ∧ m ≠ n

theorem validateSwitchAllowed_ok_iff {current target} :
    validateSwitchAllowed current target = .ok () ↔ ¬current.Isolated target := by
  rw [validateSwitchAllowed, ServerConfig.Isolated]
  cases current.network <;> cases target.network <;> simp

/-- The plugins send the player to another server than the requested one, in another network
than the current one. -/
def SwitchWorld.RedirectsAcross (world : SwitchWorld) (current target : String) : Prop :=
  ∃ redirect currentConfig config, world.preConnect = .connectTo redirect ∧ redirect ≠ target ∧
    world.currentView.find current = some currentConfig ∧
    world.redirectView.find redirect = some config ∧ currentConfig.Isolated config

section Switch

variable {services : SwitchServices} {player : SwitchPlayer} {world : SwitchWorld}
  {current target serverId : String} {config : ServerConfig} {client client' : ClientBridge}

/-- Every way to a backend: the requested server, which was validated, or a redirection. -/
theorem resolveSwitch_backend
    (h : resolveSwitch services world current target = .ok (.backend serverId config)) :
    ∃ currentConfig, world.currentView.find current = some currentConfig ∧
      (validateSwitchAllowed currentConfig config = .ok () ∧
          world.targetView.find target = some config ∧
          (∀ redirect, world.preConnect = .connectTo redirect → redirect = target) ∨
        world.preConnect = .connectTo serverId ∧ serverId ≠ target ∧
          world.redirectView.find serverId = some config) := by
  rw [resolveSwitch] at h
  cases htgt : world.targetView.find target with
  | none => simp [htgt] at h
  | some serverConfig =>
    cases hcur : world.currentView.find current with
    | none => simp [htgt, hcur] at h
    | some currentConfig =>
      refine ⟨currentConfig, rfl, ?_⟩
      cases hval : validateSwitchAllowed currentConfig serverConfig with
      | error e => simp [htgt, hcur, hval] at h
      | ok _ =>
        simp only [htgt, hcur, hval] at h
        cases hev : world.preConnect with
        | allowed | virtualBackend =>
          simp only [hev, Except.ok.injEq, SwitchRoute.backend.injEq] at h
          obtain ⟨-, rfl⟩ := h
          exact .inl ⟨hval, rfl, by simp⟩
        | denied | sendToLimbo names => simp [hev] at h
        | connectTo redirect =>
          simp only [hev] at h
          split_ifs at h with heq
          · obtain ⟨-, rfl⟩ := h
            exact .inl ⟨hval, rfl, by simp [heq]⟩
          · cases hredirect : world.redirectView.find redirect with
            | none => simp [hredirect] at h
            | some found =>
              simp only [hredirect, Except.ok.injEq, SwitchRoute.backend.injEq] at h
              obtain ⟨rfl, rfl⟩ := h
              exact .inr ⟨rfl, heq, hredirect⟩

/-- A switch that succeeds has gone to the server that was found for it. -/
theorem performSwitch_backend {newBackend}
    (h : performSwitch services player world current target client
      = (.ok (.backend newBackend serverId), client')) :
    ∃ config, resolveSwitch services world current target = .ok (.backend serverId config) := by
  rw [performSwitch] at h
  split at h
  case h_1 => simp at h
  case h_2 => simp at h
  case h_3 config hroute =>
    refine ⟨config, ?_⟩
    split at h
    · simp at h
    · split at h
      · simp at h
      · simp only [Prod.mk.injEq, Except.ok.injEq, SwitchResult.backend.injEq] at h
        rw [← h.1.2]
        exact hroute

end Switch

/-- Three servers, one of them in a network of its own. -/
def networkView : RouterView where
  router := DomainRouter.new
    |>.add asciiStrings .entries (.file "lobby.toml")
      { name := some "lobby", network := some "main", addresses := [⟨"10.0.1.10", 25565⟩] }
    |>.add asciiStrings .entries (.file "survival.toml")
      { name := some "survival", network := some "main", addresses := [⟨"10.0.1.11", 25565⟩] }
    |>.add asciiStrings .entries (.file "staff.toml")
      { name := some "staff", network := some "staff", addresses := [⟨"10.0.1.12", 25565⟩] }
  order := .entries

/-- A proxy without forwarding and without a limbo. -/
def plainServices : SwitchServices where
  registry := buildDefaultRegistry bareDecoders
  forwardingMode := .none
  forwardingSecret := none
  limboRegistry := []
  texts := plainTexts
  offlineUuid _ := 1#128
  deflate := Flate2.compressor StoredZlib.deflate
  inflate := Flate2.decompressor StoredZlib.inflate

/-- The player `Steve`. -/
def steve (version : ProtocolVersion) : SwitchPlayer where
  handshake := ⟨"mc.example.com", 25565, version, .login⟩
  rawHandshake := []
  username := "Steve"
  profile := ⟨1#128, "Steve", []⟩
  peerIp := .v4 0xC0A80114#32
  realIp := none
  version

/-- A connection to a peer that takes everything and sends the given bytes. -/
def streamSending (incoming : Bytes) : TcpStream :=
  { sent := [], budget := none, failure := .other, incoming := [incoming] }

/-- The bridge of a client that plays and sends the given bytes. -/
def playing (version : ProtocolVersion) (incoming : Bytes) : ClientBridge :=
  { ClientBridge.new plainServices.deflate plainServices.inflate (streamSending incoming) []
      version with state := .play }

/-- A switch between the three servers, with the plugins' answer, what the new backend sends and
how the configuration phase goes. -/
def networkSwitch (preConnect : ServerPreConnectResult) (incoming : Bytes)
    (schedule : List ConnectionSide) : SwitchWorld where
  targetView := networkView
  currentView := networkView
  redirectView := networkView
  preConnect
  denial := ""
  connect := .ok (streamSending incoming)
  loginTurns := 1
  schedule
  cut := 0

/-- The LoginSuccess and the JoinGame of a 1.8 backend. -/
def joinGame18 : Bytes := [0x01, 0x02, 0x0A, 0x01, 0, 0, 0, 1, 0, 0, 0, 0, 0]

/-- The server that a switch has moved the player to. -/
def SwitchResult.movedTo : SwitchResult → Option String
  | backend _ serverId => some serverId
  | limbo _ _ => none

theorem exists_of_movedTo {result : Except CoreError SwitchResult × ClientBridge}
    {serverId} (h : result.1.toOption.bind SwitchResult.movedTo = some serverId) :
    ∃ newBackend client', result = (.ok (.backend newBackend serverId), client') := by
  obtain ⟨_ | ⟨newBackend, id⟩ | _, client'⟩ := result
  case ok.backend =>
    obtain rfl : id = serverId := by simpa [Except.toOption, SwitchResult.movedTo] using h
    exact ⟨newBackend, client', rfl⟩
  all_goals simp [Except.toOption, SwitchResult.movedTo] at h

theorem TcpStream.sent_writeAll_ne {s : TcpStream} {data} (hdata : data ≠ [])
    (hbud : s.budget ≠ some 0) : (s.writeAll data).2.sent ≠ s.sent := by
  rcases writeAll_cases s data with ⟨budget, h⟩ | ⟨n, -, hn, h⟩
  · simpa [h] using hdata
  · have hpos : n ≠ 0 := by
      rintro rfl
      exact hbud hn
    simpa [h, take_eq_nil_iff, hpos] using hdata

variable {frame : PacketFrame}

/-- An encoder that takes a frame has bytes to send. -/
theorem PacketEncoder.buf_ne_nil_of_appendFrame {e e' : PacketEncoder}
    (h : e.appendFrame frame = .ok e') : e'.buf ≠ [] := by
  obtain ⟨data, hbody, -, rfl⟩ := appendRaw_cases h
  have hpos := length_pos_iff.mp hbody.length_pos
  simp [hpos]

variable {c c' : ClientBridge}

namespace ClientBridge

/-- A write of the frame gets a byte to the client. -/
def Sends (c : ClientBridge) (frame : PacketFrame) : Prop :=
  (c.encoder.appendFrame frame).isOk = true ∧ c.stream.budget ≠ some 0
deriving Decidable

/-- Neither a byte was sent nor a frame read, and the state is the same. -/
structure Untouched (c c' : ClientBridge) : Prop where
  sent : c'.stream.sent = c.stream.sent
  consumed : c.inlet.consumed c'.inlet = []
  state : c'.state = c.state

/-- What a write changes: the stream takes some data, and only if the encoder takes the frame. -/
structure Writes (c : ClientBridge) (data : Bytes) (c' : ClientBridge) : Prop where
  stream : c'.stream = (c.stream.writeAll data).2
  decoder : c'.decoder = c.decoder
  queued : c'.queued = c.queued
  state : c'.state = c.state

variable {data : Bytes} {frame : PacketFrame}

theorem Writes.untouched (h : c.Writes data c') (hsent : c'.stream.sent = c.stream.sent) :
    c.Untouched c' where
  sent := hsent
  consumed := by
    simp only [Inlet.consumed, Inlet.offset, inlet, h.decoder, h.queued]
    exact drop_eq_nil_of_le (length_take_le _ _)
  state := h.state

theorem writes_nil (c : ClientBridge) : c.Writes [] c where
  stream := by
    rw [TcpStream.writeAll]
    cases hb : c.stream.budget <;> simp [← hb]
  decoder := rfl
  queued := rfl
  state := rfl

theorem untouched_rfl (c : ClientBridge) : c.Untouched c := c.writes_nil.untouched rfl

/-- A write leaves what was sent alone if there is nothing to send or the stream takes
nothing. -/
theorem Writes.sent_eq_iff (h : c.Writes data c') :
    c'.stream.sent = c.stream.sent ↔ data = [] ∨ c.stream.budget = some 0 := by
  rw [h.stream]
  constructor
  · intro hsame
    by_contra hne
    rw [not_or] at hne
    exact TcpStream.sent_writeAll_ne hne.1 hne.2 hsame
  · rintro (rfl | hbud)
    · rw [← c.writes_nil.stream]
    · rcases data with _ | ⟨b, data⟩
      · rw [← c.writes_nil.stream]
      · rw [writeAll_of_exhausted hbud (by simp)]

theorem Writes.untouched_iff (h : c.Writes data c') :
    c.Untouched c' ↔ data = [] ∨ c.stream.budget = some 0 :=
  ⟨fun hunt => h.sent_eq_iff.mp hunt.sent, fun hnone =>
    h.untouched (h.sent_eq_iff.mpr hnone)⟩

/-- The bytes that a frame is sent as, none if the encoder does not take it. -/
def outgoing (c : ClientBridge) (frame : PacketFrame) : Bytes :=
  match c.encoder.appendFrame frame with
  | .error _ => []
  | .ok encoder => (encryptWith c.encryptCipher encoder.take.1).1

theorem outgoing_eq_nil_iff :
    c.outgoing frame = [] ↔ ¬(c.encoder.appendFrame frame).isOk = true := by
  rw [outgoing]
  cases happ : c.encoder.appendFrame frame with
  | error e => simp [Except.isOk, Except.toBool]
  | ok encoder =>
    have hbuf := length_pos_iff.mpr (PacketEncoder.buf_ne_nil_of_appendFrame happ)
    have hlen := length_encryptWith c.encryptCipher encoder.take.1
    rw [← length_eq_zero_iff]
    simp only [Except.isOk, Except.toBool, not_true_eq_false, iff_false]
    rw [hlen]
    exact Nat.ne_of_gt hbuf

theorem writes_writeFrame (c : ClientBridge) (frame) :
    c.Writes (c.outgoing frame) (c.writeFrame frame).2 := by
  rw [outgoing, writeFrame]
  cases c.encoder.appendFrame frame with
  | error e => exact c.writes_nil
  | ok encoder =>
    dsimp only
    rcases hwr : c.stream.writeAll (encryptWith c.encryptCipher encoder.take.1).1
      with ⟨_ | _, stream⟩ <;>
    · exact ⟨by rw [hwr], rfl, rfl, rfl⟩

theorem writes_cancelledWrite (c : ClientBridge) (frame cut) :
    c.Writes ((c.outgoing frame).take cut) (ConfigPhase.cancelledWrite c frame cut).2 := by
  rw [outgoing, ConfigPhase.cancelledWrite]
  cases c.encoder.appendFrame frame with
  | error e => simpa using c.writes_nil
  | ok encoder => exact ⟨rfl, rfl, rfl, rfl⟩

/-- A write that returns has got a byte to the client. -/
theorem sends_of_writeFrame_ok (h : c.writeFrame frame = (.ok (), c')) : c.Sends frame := by
  rw [writeFrame] at h
  cases happ : c.encoder.appendFrame frame with
  | error e => simp [happ] at h
  | ok encoder =>
    refine ⟨by simp [happ, Except.isOk, Except.toBool], fun hbud => ?_⟩
    have hdata : 0 < (encryptWith c.encryptCipher encoder.take.1).1.length := by
      rw [length_encryptWith]
      exact length_pos_iff.mpr (PacketEncoder.buf_ne_nil_of_appendFrame happ)
    simp [happ, writeAll_of_exhausted hbud hdata] at h

end ClientBridge

theorem ClientBridge.Writes.sent {data : Bytes} (h : c.Writes data c') :
    c.stream.sent <+: c'.stream.sent := by
  rw [h.stream]
  rcases writeAll_cases c.stream data with ⟨budget, h⟩ | ⟨n, -, -, h⟩ <;>
  · rw [h]
    exact prefix_append _ _

theorem ClientBridge.sent_readFrame (c : ClientBridge) :
    c.readFrame.2.stream.sent = c.stream.sent := by
  obtain ⟨incoming, hstr⟩ := c.inlet.stream_readFrameLoop _ _
  exact (congrArg (·.stream.sent) c.inlet_readFrame).trans (congrArg TcpStream.sent hstr)

/-- Something was sent. -/
def ClientBridge.Grown (c c' : ClientBridge) : Prop :=
  c.stream.sent <+: c'.stream.sent ∧ c'.stream.sent ≠ c.stream.sent

theorem ClientBridge.writeFrame_error {e} (h : c.writeFrame frame = (.error e, c')) :
    c.Untouched c' ↔ ¬c.Sends frame := by
  have hiff := (c.writes_writeFrame frame).untouched_iff
  rw [h, outgoing_eq_nil_iff] at hiff
  rw [hiff, Sends]
  tauto

theorem ClientBridge.writeFrame_ok (h : c.writeFrame frame = (.ok (), c')) :
    c.Sends frame ∧ c.Grown c' := by
  have hsends := sends_of_writeFrame_ok h
  have hwrites := c.writes_writeFrame frame
  have hiff := hwrites.sent_eq_iff
  rw [outgoing_eq_nil_iff] at hiff
  rw [h] at hwrites hiff
  refine ⟨hsends, hwrites.sent, fun hsame => ?_⟩
  exact (hiff.mp hsame).elim (fun hnot => hnot hsends.1) hsends.2

/-! ### Programs that write to the client -/

section Programs

open Hoare

variable {σ α β : Type} (client : σ → ClientBridge)

/-- The client has been sent `base`, and maybe more. -/
def SentSince (base : Bytes) (s : σ) : Prop := base <+: (client s).stream.sent

/-- The program fails and has left the client alone just if `reaches` does not hold, or
`reaches` holds and it has sent something. -/
def Opens (reaches : Prop) (m : EStateM CoreError σ α) (s : σ) : Prop :=
  (∃ e s', m s = .error e s' ∧ ((client s).Untouched (client s') ↔ ¬reaches)) ∨
    reaches ∧ (client s).Grown (client (final m s))

variable {client} {reaches : Prop} {m : EStateM CoreError σ α} {s s' : σ}

/-- The first write decides, when what follows takes nothing back. -/
theorem Opens.bind {f : α → EStateM CoreError σ β} (hm : Opens client reaches m s)
    (hf : ∀ a base, Keeps (SentSince client base) (f a)) :
    Opens client reaches (m >>= f) s := by
  rcases hm with ⟨e, s', herr, hiff⟩ | ⟨hreach, hprefix, hne⟩
  · refine .inl ⟨e, s', ?_, hiff⟩
    show EStateM.bind m f s = .error e s'
    rw [EStateM.bind, herr]
  · have hkeeps : (client (final m s)).stream.sent
        <+: (client (final (m >>= f) s)).stream.sent := by
      show _ <+: (client (final (EStateM.bind m f) s)).stream.sent
      unfold final EStateM.bind
      cases hms : m s with
      | error e s' => exact prefix_rfl
      | ok a s' => exact hf a _ s' prefix_rfl
    refine .inr ⟨hreach, hprefix.trans hkeeps, fun hsame => hne ?_⟩
    -- what was sent cannot have shrunk back to what it was
    exact (hkeeps.trans (hsame ▸ prefix_rfl)).eq_of_length_le hprefix.length_le

theorem Opens.untouched_iff {e : CoreError} (h : Opens client reaches m s)
    (herr : m s = .error e s') : (client s).Untouched (client s') ↔ ¬reaches := by
  rcases h with ⟨e', s'', herr', hiff⟩ | ⟨hreach, -, hne⟩
  · rw [herr] at herr'
    cases herr'
    exact hiff
  · refine iff_of_false (fun hunt => hne ?_) (fun hnot => hnot hreach)
    rw [final, herr]
    exact hunt.sent

theorem Opens.grown {a : α} (h : Opens client reaches m s) (hok : m s = .ok a s') :
    reaches ∧ (client s).Grown (client s') := by
  rcases h with ⟨e, s'', herr, -⟩ | ⟨hreach, hgrown⟩
  · rw [hok] at herr
    cases herr
  · rw [final, hok] at hgrown
    exact ⟨hreach, hgrown⟩

end Programs

/-! ### The configuration phase -/

namespace ConfigPhase

open Hoare

variable {base : Bytes}

theorem keeps_await : Keeps (SentSince client base) await := by
  intro s hs
  rw [final, await]
  cases s.schedule <;> exact hs

theorem keeps_readClient : Keeps (SentSince client base) readClient := by
  intro s hs
  have hsent := s.client.sent_readFrame
  rw [final, readClient]
  rcases hread : s.client.readFrame with ⟨_ | _ | frame, client⟩ <;> rw [hread] at hsent <;>
  · show base <+: client.stream.sent
    rw [hsent]
    exact hs

theorem keeps_readBackend : Keeps (SentSince client base) readBackend := by
  intro s hs
  rw [final, readBackend]
  rcases s.backend.readFrame with ⟨_ | _ | frame, backend⟩ <;> exact hs

theorem keeps_writeClient : Keeps (SentSince client base) (writeClient frame) := by
  intro s hs
  rw [final, writeClient]
  cases s.schedule with
  | nil => exact List.IsPrefix.trans hs (s.client.writes_cancelledWrite frame s.cut).sent
  | cons side schedule =>
    have hsent := (s.client.writes_writeFrame frame).sent
    rcases hwr : s.client.writeFrame frame with ⟨_ | _, client⟩ <;> rw [hwr] at hsent <;>
      exact List.IsPrefix.trans hs hsent

theorem keeps_writeBackend : Keeps (SentSince client base) (writeBackend frame) := by
  refine keeps_await.bind fun _ s hs => ?_
  unfold final
  rcases hwr : s.backend.writeFrame frame with ⟨_ | _, backend⟩ <;> simp only [hwr] <;>
    exact hs

theorem keeps_setStates (state) : Keeps (SentSince client base) (setStates state) :=
  Keeps.modify fun _ hs => hs

theorem keeps_absorbUntil {id} :
    ∀ fuel, Keeps (SentSince client base) (absorbUntil id fuel)
  | 0 => Keeps.throw _
  | fuel + 1 => by
    refine keeps_await.bind fun _ => keeps_readClient.bind fun frame => ?_
    split_ifs
    · exact Keeps.pure _
    · exact keeps_absorbUntil fuel

theorem keeps_forwardConfig {id} :
    ∀ fuel, Keeps (SentSince client base) (forwardConfig id fuel)
  | 0 => Keeps.throw _
  | fuel + 1 => by
    refine keeps_await.bind fun side => ?_
    cases side with
    | serverSide =>
      refine keeps_readBackend.bind fun frame => keeps_writeClient.bind fun _ => ?_
      split_ifs
      · exact Keeps.pure _
      · exact keeps_forwardConfig fuel
    | clientSide =>
      exact keeps_readClient.bind fun frame => keeps_writeBackend.bind fun _ =>
        keeps_forwardConfig fuel

variable (registry : PacketRegistry)

/-- What was sent up to the end of the StartConfiguration packet stays sent. -/
theorem keeps_afterStart (version : ProtocolVersion) :
    Keeps (SentSince client base) (afterStart registry version) := by
  have hget : Keeps (SentSince client base) (get : SwitchM SwitchState) := fun _ hs => hs
  refine hget.bind fun _ => (keeps_absorbUntil _).bind fun _ => ?_
  refine (keeps_setStates _).bind fun _ => hget.bind fun _ => ?_
  refine (keeps_forwardConfig _).bind fun _ => hget.bind fun _ => ?_
  refine (keeps_absorbUntil _).bind fun ack => keeps_writeBackend.bind fun _ => ?_
  exact (keeps_setStates _).bind fun _ => keeps_await.bind fun _ => keeps_readBackend

/-- A write within the timer gets a byte to the client. -/
def Reaches (s : SwitchState) (frame : PacketFrame) : Prop :=
  s.client.Sends frame ∧ (s.schedule ≠ [] ∨ s.cut ≠ 0)

theorem opens_writeClient (frame s) : Opens client (Reaches s frame) (writeClient frame) s := by
  rw [Opens, final, writeClient]
  cases hschedule : s.schedule with
  | nil =>
    refine .inl ⟨(cancelledWrite s.client frame s.cut).1,
      { s with client := (cancelledWrite s.client frame s.cut).2, schedule := [] }, rfl, ?_⟩
    rw [(s.client.writes_cancelledWrite frame s.cut).untouched_iff, take_eq_nil_iff,
      outgoing_eq_nil_iff]
    simp only [Reaches, ClientBridge.Sends, hschedule]
    tauto
  | cons side schedule =>
    have hreach : Reaches s frame ↔ s.client.Sends frame := by simp [Reaches, hschedule]
    rw [hreach]
    rcases hwr : s.client.writeFrame frame with ⟨e | ⟨⟩, client⟩
    case error =>
      exact .inl ⟨e, { s with client, schedule }, rfl, writeFrame_error hwr⟩
    case ok => exact .inr (writeFrame_ok hwr)

/-- The frame that the configuration phase starts with reaches the client. -/
def StartReaches (s : SwitchState) : Prop :=
  ∃ id, registry.getPacketId .startConfiguration s.client.state .clientbound
    s.client.protocolVersion = some id ∧ Reaches s { id, payload := [] }

theorem opens_sendStartConfiguration (s) :
    Opens client (StartReaches registry s) (sendStartConfiguration registry) s := by
  cases hid : registry.getPacketId .startConfiguration s.client.state .clientbound
      s.client.protocolVersion with
  | none =>
    -- the phase fails before it writes
    have hrun : ∃ e, sendStartConfiguration registry s = .error e s := by
      rw [sendStartConfiguration, Hoare.run_get_bind]
      simp only [hid]
      exact ⟨_, rfl⟩
    obtain ⟨e, hrun⟩ := hrun
    refine .inl ⟨e, s, hrun, iff_of_true s.client.untouched_rfl ?_⟩
    rintro ⟨id, hsome, -⟩
    cases hid.symm.trans hsome
  | some id =>
    have hrun : sendStartConfiguration registry s = writeClient { id, payload := [] } s := by
      rw [sendStartConfiguration, Hoare.run_get_bind]
      simp only [hid]
    have hiff : StartReaches registry s ↔ Reaches s { id, payload := [] } := by
      simp [StartReaches, hid]
    rw [hiff]
    have hopens := opens_writeClient { id, payload := [] } s
    unfold Opens final at hopens ⊢
    rw [hrun]
    exact hopens

end ConfigPhase

/-! ### The packets for the client -/

section SwitchPackets

open Hoare

variable {base : Bytes} (registry : PacketRegistry) (version : ProtocolVersion)

theorem opens_writeToClient : Opens id (c.Sends frame) (writeToClient frame) c := by
  rw [Opens, final, writeToClient]
  rcases hwr : c.writeFrame frame with ⟨e | ⟨⟩, c'⟩
  case error => exact .inl ⟨e, c', rfl, writeFrame_error hwr⟩
  case ok => exact .inr (writeFrame_ok hwr)

theorem keeps_writeToClient : Keeps (SentSince id base) (writeToClient frame) := by
  intro c hc
  have hsent := (c.writes_writeFrame frame).sent
  rw [final, writeToClient]
  rcases hwr : c.writeFrame frame with ⟨_ | _, c'⟩ <;> rw [hwr] at hsent <;>
    exact List.IsPrefix.trans hc hsent

theorem keeps_sendRespawn (dimension) :
    Keeps (SentSince id base) (sendRespawn registry version dimension) := by
  rw [sendRespawn]
  split
  · exact Keeps.throw _
  · split
    · exact Keeps.throw _
    · exact keeps_writeToClient

/-- What follows the JoinGame. -/
theorem keeps_afterJoinGame (joinGame) :
    Keeps (SentSince id base)
      (if version.noLessThan .V1_20_2 then return else sendRespawns registry version joinGame) := by
  split_ifs
  · exact Keeps.pure _
  · rw [sendRespawns]
    split
    · exact Keeps.throw _
    · split_ifs
      · exact (keeps_sendRespawn registry version _).bind fun _ =>
          keeps_sendRespawn registry version _
      · exact keeps_sendRespawn registry version _

theorem keeps_sendSwitchPackets (joinGame) :
    Keeps (SentSince id base) (sendSwitchPackets registry version joinGame) :=
  keeps_writeToClient.bind fun _ => keeps_afterJoinGame registry version joinGame

theorem opens_sendSwitchPackets (joinGame) (c : ClientBridge) :
    Opens id (c.Sends joinGame) (sendSwitchPackets registry version joinGame) c :=
  opens_writeToClient.bind fun _ _ => keeps_afterJoinGame registry version joinGame

end SwitchPackets

/-! ### The switch -/

/-- The frame that a switch writes to the client first, once the new backend has let the player
in. -/
def firstFrame (registry : PacketRegistry) (version : ProtocolVersion) (backend : BackendBridge)
    (client : ClientBridge) : Option PacketFrame :=
  if version.noLessThan .V1_20_2 then
    (registry.getPacketId .startConfiguration client.state .clientbound
      client.protocolVersion).map fun id => { id, payload := [] }
  else
    match backend.readFrame with
    | (.ok (some joinGame), _) => some joinGame
    | _ => none

/-- The first write of the takeover gets a byte to the client. The timer of the configuration
phase may be over at once. -/
def TakeoverReaches (registry : PacketRegistry) (version : ProtocolVersion) (world : SwitchWorld)
    (backend : BackendBridge) (client : ClientBridge) : Prop :=
  ∃ frame, firstFrame registry version backend client = some frame ∧ client.Sends frame ∧
    (version.noLessThan .V1_20_2 → world.schedule ≠ [] ∨ world.cut ≠ 0)

/-- The switch finds a backend that lets the player in, and gets a byte to the client. -/
def ReachesClient (services : SwitchServices) (player : SwitchPlayer) (world : SwitchWorld)
    (current target : String) (client : ClientBridge) : Prop :=
  ∃ serverId config backend,
    resolveSwitch services world current target = .ok (.backend serverId config) ∧
    connectToTarget services player world serverId config = .ok backend ∧
    TakeoverReaches services.registry player.version world backend client

section Untouched

variable {registry : PacketRegistry} {version : ProtocolVersion} {world : SwitchWorld}
  {backend : BackendBridge} {client client' : ClientBridge} {joinGame : PacketFrame}
  {e : CoreError}

theorem finishSwitch_untouched_iff
    (h : finishSwitch registry version joinGame backend client = (.error e, client')) :
    client.Untouched client' ↔ ¬client.Sends joinGame := by
  rw [finishSwitch] at h
  split at h <;> cases h
  case h_2 herr =>
    exact (opens_sendSwitchPackets registry version joinGame client).untouched_iff herr

theorem finishSwitch_sent
    (h : finishSwitch registry version joinGame backend client = (.error e, client')) :
    client.stream.sent <+: client'.stream.sent := by
  have hkeeps := keeps_sendSwitchPackets registry version joinGame client prefix_rfl
  rw [finishSwitch] at h
  split at h <;> cases h
  case h_2 herr =>
    rw [Hoare.final, herr] at hkeeps
    exact hkeeps

theorem enterBackend_untouched_iff
    (h : enterBackend registry version world backend client = (.error e, client')) :
    client.Untouched client' ↔ ¬TakeoverReaches registry version world backend client := by
  rw [enterBackend] at h
  by_cases hver : version.noLessThan .V1_20_2 = true
  · -- the configuration phase starts with the first write
    have hopens := (ConfigPhase.opens_sendStartConfiguration registry
      { client, backend, schedule := world.schedule, cut := world.cut }).bind fun _ _ =>
        ConfigPhase.keeps_afterStart registry version
    have hreach : ConfigPhase.StartReaches registry
          { client, backend, schedule := world.schedule, cut := world.cut } ↔
        TakeoverReaches registry version world backend client := by
      simp [ConfigPhase.StartReaches, ConfigPhase.Reaches, TakeoverReaches, firstFrame, hver]
    rw [if_pos hver] at h
    split at h
    case h_1 herr =>
      cases h
      rw [← hreach]
      exact hopens.untouched_iff herr
    case h_2 hok =>
      obtain ⟨hstart, hprefix, hne⟩ := hopens.grown hok
      refine iff_of_false (fun hunt => hne ?_) (fun hnot => hnot (hreach.mp hstart))
      have hsent := finishSwitch_sent h
      rw [hunt.sent] at hsent
      exact hsent.eq_of_length_le hprefix.length_le
  · rw [if_neg hver] at h
    rcases hread : backend.readFrame with ⟨_ | _ | frame, backend'⟩ <;> rw [hread] at h
    case ok.some =>
      rw [finishSwitch_untouched_iff h]
      simp [TakeoverReaches, firstFrame, hver, hread]
    all_goals
      cases h
      refine iff_of_true client.untouched_rfl ?_
      simp [TakeoverReaches, firstFrame, hver, hread]

/-- A switch that fails has left the client alone, unless a byte of its first write has got
through. -/
theorem performSwitch_untouched_iff {services player current target}
    (h : performSwitch services player world current target client = (.error e, client')) :
    client.Untouched client' ↔ ¬ReachesClient services player world current target client := by
  rw [performSwitch] at h
  split at h
  case h_1 hroute =>
    cases h
    exact iff_of_true client.untouched_rfl (by simp [ReachesClient, hroute])
  case h_2 => simp at h
  case h_3 serverId config hroute =>
    split at h
    case h_1 hconn =>
      cases h
      exact iff_of_true client.untouched_rfl (by simp [ReachesClient, hroute, hconn])
    case h_2 backend hconn =>
      have hreach : ReachesClient services player world current target client ↔
          TakeoverReaches services.registry player.version world backend client := by
        simp [ReachesClient, hroute, hconn]
      split at h
      case h_1 herr =>
        cases h
        rw [hreach]
        exact enterBackend_untouched_iff herr
      case h_2 => simp at h

end Untouched

end Infrarust
