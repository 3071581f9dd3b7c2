import Infrarust.Protocol.Phases

/-!
# `Infrarust.Proofs.Protocol.Phases`: a relay that follows acknowledgements

A relay stands between a client and a server that follow the protocol. It keeps one state, in
which it interprets the frames of both, and moves on when it forwards an acknowledgement of
Login or Config. It does not follow what happens in the Play state.

A frame carries the state its sender was in. `Relay.Inv` says that the relay interprets every
frame in that state. A request and its acknowledgement make one round: from the server over
the relay to the client and back. While a round is under way its token is in one place
(`Round`), and until it is back the server sends nothing. `RelayStep` has what a step may do
for this to hold: nothing asks the client to leave the Play state, and what the relay adds to
the stream does not look like a request.
-/

set_option autoImplicit false

namespace Infrarust

open ClientPeer List

variable {version : ProtocolVersion}

/-! ### What a relay follows -/

/-- The acknowledgement that moves a relay on. -/
def followedAck (version : ProtocolVersion) : ConnectionState → Option I32
  | .login => version.ackId .login
  | .config => version.ackId .config
  | _ => none

/-- The state of a relay after it has forwarded a frame of the client. -/
def follow (version : ProtocolVersion) (state : ConnectionState) (frame : PacketFrame) :
    ConnectionState :=
  if some frame.id = followedAck version state then state.next else state

variable {state : ConnectionState} {frame : PacketFrame} {frames : List PacketFrame}
  {states : List ConnectionState}

theorem follow_of_ne (h : some frame.id ≠ followedAck version state) :
    follow version state frame = state :=
  if_neg h

theorem follow_of_eq (h : some frame.id = followedAck version state) :
    follow version state frame = state.next :=
  if_pos h

/-- None of the frames has the id. -/
def Lacks (id : Option I32) (frames : List PacketFrame) : Prop :=
  ∀ frame ∈ frames, some frame.id ≠ id
deriving Decidable

@[simp] theorem lacks_nil (id) : Lacks id [] := nofun

@[simp] theorem lacks_none : Lacks none frames := fun _ _ => Option.some_ne_none _

variable {id : Option I32} {frames' : List PacketFrame}

@[simp] theorem lacks_append : Lacks id (frames ++ frames') ↔ Lacks id frames ∧ Lacks id frames' :=
  forall_mem_append

@[simp] theorem lacks_cons : Lacks id (frame :: frames) ↔ some frame.id ≠ id ∧ Lacks id frames :=
  forall_mem_cons

theorem Lacks.snoc (h : Lacks id frames) (hne : some frame.id ≠ id) :
    Lacks id (frames ++ [frame]) :=
  lacks_append.mpr ⟨h, lacks_cons.mpr ⟨hne, lacks_nil id⟩⟩

/-- None of the frames asks the client to leave one of the states. -/
def Silent (version : ProtocolVersion) (states : List ConnectionState)
    (frames : List PacketFrame) : Prop :=
  ∀ state ∈ states, Lacks (version.requestId state) frames
deriving Decidable

theorem Silent.append (h : Silent version states frames) (h' : Silent version states frames') :
    Silent version states (frames ++ frames') :=
  fun state hst => lacks_append.mpr ⟨h state hst, h' state hst⟩

theorem Silent.tail (h : Silent version states (frame :: frames)) : Silent version states frames :=
  fun state hst => (lacks_cons.mp (h state hst)).2

/-! ### The client's stream -/

/-- Frames of a client, each with the state it was sent in, that lead a relay in the state
`start` to the client's own state `goal`. -/
def ClientPath (version : ProtocolVersion) :
    ConnectionState → List (ConnectionState × PacketFrame) → ConnectionState → Prop
  | start, [], goal => goal = start
  | start, (state, frame) :: rest, goal =>
    state = start ∧ ClientPath version (follow version start frame) rest goal

variable {start goal : ConnectionState} {c : ClientPeer}
  {fromBackend : List (ConnectionState × PacketFrame)}

theorem ClientPath.snoc {frames} (h : ClientPath version start frames goal) (frame) :
    ClientPath version start (frames ++ [(goal, frame)]) (follow version goal frame) := by
  induction frames generalizing start with
  | nil =>
    obtain rfl : goal = start := h
    exact ⟨rfl, rfl⟩
  | cons x rest ih => exact ⟨h.1, ih h.2⟩

/-- Login, Config and Play in their order. -/
def ConnectionState.rank : ConnectionState → Nat
  | .login => 0
  | .config => 1
  | _ => 2

theorem rank_le_follow : state.rank ≤ (follow version state frame).rank := by
  unfold follow
  split
  case isFalse => exact Nat.le_refl _
  case isTrue h => cases state <;> first | cases h | decide

theorem ClientPath.rank_le {frames}
    (h : ClientPath version start frames goal) : start.rank ≤ goal.rank := by
  induction frames generalizing start with
  | nil =>
    obtain rfl : goal = start := h
    exact Nat.le_refl _
  | cons x rest ih => exact Nat.le_trans (rank_le_follow) (ih h.2)

/-- A path that leads nowhere has no acknowledgement. -/
theorem ClientPath.not_ack {x rest} (h : ClientPath version state (x :: rest) state) :
    some x.2.id ≠ followedAck version state := by
  intro hack
  have hrest : ClientPath version (follow version state x.2) rest state := h.2
  rw [follow_of_eq hack] at hrest
  have hle := hrest.rank_le
  cases state <;> first | cases hack | exact absurd hle (by decide)

/-! ### The relay -/

/-- A relay between two peers: the frames on their way to it, oldest first, each with the
state its sender was in, and the frames it has written that the peers have not read. -/
structure Relay where
  state : ConnectionState
  client : ClientPeer
  backend : BackendPeer
  fromClient : List (ConnectionState × PacketFrame)
  fromBackend : List (ConnectionState × PacketFrame)
  toClient : List PacketFrame
  toBackend : List PacketFrame

/-- What a step may do. -/
inductive RelayStep (version : ProtocolVersion) : Relay → Relay → Prop where
  | clientSends {r frame client} :
    r.client.send version frame = some client →
    RelayStep version r
      { r with client, fromClient := r.fromClient ++ [(r.client.state, frame)] }
  | clientReads {r frame rest} :
    r.toClient = frame :: rest →
    RelayStep version r { r with client := r.client.read version frame, toClient := rest }
  /-- A server that does not configure a playing client again. -/
  | backendSends {r frame backend} :
    r.backend.send version frame = some backend →
    (r.backend.state = .play → some frame.id ≠ version.requestId .play) →
    RelayStep version r
      { r with backend, fromBackend := r.fromBackend ++ [(r.backend.state, frame)] }
  | backendReads {r frame rest} :
    r.toBackend = frame :: rest →
    RelayStep version r { r with backend := r.backend.read version frame, toBackend := rest }
  /-- The relay forwards a frame of the client in the Login or the Config state. -/
  | forwardClient {r x rest} :
    r.fromClient = x :: rest → r.state ≠ .play →
    RelayStep version r
      { r with
        state := follow version r.state x.2
        fromClient := rest
        toBackend := r.toBackend ++ [x.2] }
  | forwardBackend {r x rest} :
    r.fromBackend = x :: rest → r.state ≠ .play →
    RelayStep version r { r with fromBackend := rest, toClient := r.toClient ++ [x.2] }
  /-- In the Play state the relay writes what it likes, except for a request. -/
  | play {r fromClient fromBackend toClient toBackend} :
    r.state = .play → fromClient <:+ r.fromClient → fromBackend <:+ r.fromBackend →
    Lacks (version.requestId .play) toClient →
    RelayStep version r
      { r with
        fromClient, fromBackend
        toClient := r.toClient ++ toClient
        toBackend := r.toBackend ++ toBackend }
  /-- The relay speaks to the client on its own. -/
  | say {r toClient} :
    Silent version (r.state :: r.state.later) toClient →
    RelayStep version r { r with toClient := r.toClient ++ toClient }

/-- A state that a connection leaves only once. -/
def ConnectionState.Early (state : ConnectionState) : Prop := state = .login ∨ state = .config

namespace ConnectionState.Early

variable {state : ConnectionState}

theorem ne_play (h : state.Early) : state ≠ .play := by
  rcases h with rfl | rfl <;> decide

theorem followedAck_eq (h : state.Early) : followedAck version state = version.ackId state := by
  rcases h with rfl | rfl <;> rfl

theorem later_eq (h : state.Early) : state.later = state.next :: state.next.later := by
  rcases h with rfl | rfl <;> rfl

theorem next_mem_later (h : state.Early) : state.next ∈ state.later := by
  rw [h.later_eq]
  exact mem_cons_self

end ConnectionState.Early

/-- Frames that a server has sent in the state, none of them a request. -/
def NoRequest (version : ProtocolVersion) (state : ConnectionState)
    (frames : List (ConnectionState × PacketFrame)) : Prop :=
  ∀ x ∈ frames, x.1 = state ∧ some x.2.id ≠ version.requestId state

theorem NoRequest.snoc {frames}
    (h : NoRequest version state frames) (hne : some frame.id ≠ version.requestId state) :
    NoRequest version state (frames ++ [(state, frame)]) := by
  intro x hx
  obtain hx | hx := mem_append.mp hx
  · exact h x hx
  · cases mem_singleton.mp hx
    exact ⟨rfl, hne⟩

/-- Where the request of a server in the state is, or the answer of the client. No other frame
on its way to the client can be taken for the request. -/
inductive Round (version : ProtocolVersion) (state : ConnectionState) :
    ClientPeer → List (ConnectionState × PacketFrame) → List PacketFrame → Prop where
  /-- The request is the last frame of the server. -/
  | requested {before request toClient} (hpre : NoRequest version state before)
    (hreq : some request.id = version.requestId state)
    (hto : Lacks (version.requestId state) toClient) :
    Round version state ⟨state, false⟩ (before ++ [(state, request)]) toClient
  /-- The request is on its way to the client. -/
  | forwarded {before after request} (hpre : Lacks (version.requestId state) before)
    (hreq : some request.id = version.requestId state)
    (hafter : Silent version state.later after) :
    Round version state ⟨state, false⟩ [] (before ++ request :: after)
  /-- The client has read the request. -/
  | asked {toClient} (hto : Silent version state.later toClient) :
    Round version state ⟨state, true⟩ [] toClient
  /-- The acknowledgement is on its way to the relay. -/
  | answered {toClient} (hto : Silent version state.later toClient) :
    Round version state ⟨state.next, false⟩ [] toClient

/-- The relay interprets every frame in the state its sender was in. No other frame on its way
to the server can be taken for an acknowledgement. -/
inductive Relay.Inv (version : ProtocolVersion) : Relay → Prop where
  /-- No round is under way. -/
  | idle {state fromClient fromBackend toClient toBackend} (hpath : ClientPath version state fromClient state)
    (hfrom : NoRequest version state fromBackend) (hto : Lacks (version.requestId state) toClient)
    (hacks : Lacks (followedAck version state) toBackend) :
    Inv version
      ⟨state, ⟨state, false⟩, ⟨state, false⟩, fromClient, fromBackend, toClient, toBackend⟩
  /-- The server waits for an acknowledgement that the relay has not seen. -/
  | underWay {state client fromClient fromBackend toClient toBackend} (hearly : state.Early)
    (hpath : ClientPath version state fromClient client.state)
    (hround : Round version state client fromBackend toClient)
    (hacks : Lacks (version.ackId state) toBackend) :
    Inv version ⟨state, client, ⟨state, true⟩, fromClient, fromBackend, toClient, toBackend⟩
  /-- The acknowledgement is on its way to the server. -/
  | returning {state fromClient toClient before after ack} (hearly : state.Early)
    (hpath : ClientPath version state.next fromClient state.next)
    (hto : Silent version state.later toClient) (hpre : Lacks (version.ackId state) before)
    (hack : some ack.id = version.ackId state)
    (hafter : Lacks (followedAck version state.next) after) :
    Inv version ⟨state.next, ⟨state.next, false⟩, ⟨state, true⟩, fromClient, [], toClient,
      before ++ ack :: after⟩

/-! ### One step -/

theorem ClientPeer.read_state : (c.read version frame).state = c.state := by
  unfold read
  split <;> rfl

theorem ClientPeer.read_of_ne (h : some frame.id ≠ version.requestId c.state) :
    c.read version frame = c :=
  if_neg h

/-- A client sends an acknowledgement when it is asked. No other frame moves a relay on. -/
theorem ClientPeer.send_cases {c'} (h : c.send version frame = some c') :
    (c' = c ∧ follow version c.state frame = c.state) ∨
      (c.asked = true ∧ c' = ⟨c.state.next, false⟩ ∧ some frame.id = version.ackId c.state) := by
  unfold send at h
  split at h
  case isFalse hother =>
    cases h
    refine .inl ⟨rfl, follow_of_ne ?_⟩
    cases hst : c.state <;> rw [hst] at hother <;>
      first | exact hother | exact Option.some_ne_none _
  case isTrue hack =>
    split at h <;> cases h
    exact .inr ⟨‹_›, rfl, hack⟩

theorem BackendPeer.read_of_ne {b : BackendPeer} (h : some frame.id ≠ version.ackId b.state) :
    b.read version frame = b :=
  if_neg fun hread => h hread.2

/-- The client takes the request for what it is, and nothing else. -/
theorem Round.read {client} (hearly : state.Early)
    (h : Round version state client fromBackend (frame :: frames)) :
    Round version state (client.read version frame) fromBackend frames := by
  generalize htoClient : frame :: frames = toClient at h
  cases h with
  | requested hpre hreq hto =>
    subst htoClient
    rw [lacks_cons] at hto
    rw [read_of_ne hto.1]
    exact .requested hpre hreq hto.2
  | @forwarded before after request hpre hreq hafter =>
    cases before with
    | nil =>
      cases htoClient
      rw [show ClientPeer.read version ⟨state, false⟩ frame = ⟨state, true⟩ from if_pos hreq]
      exact .asked hafter
    | cons first before =>
      cases htoClient
      rw [lacks_cons] at hpre
      rw [read_of_ne hpre.1]
      exact .forwarded hpre.2 hreq hafter
  | asked hto =>
    subst htoClient
    have hread : ClientPeer.read version ⟨state, true⟩ frame = ⟨state, true⟩ := by
      unfold ClientPeer.read
      split <;> rfl
    rw [hread]
    exact .asked hto.tail
  | answered hto =>
    subst htoClient
    have hnext := hto state.next hearly.next_mem_later
    rw [read_of_ne (lacks_cons.mp hnext).1]
    exact .answered hto.tail

namespace Relay.Inv

variable {r : Relay} {rest : List (ConnectionState × PacketFrame)}
  {x : ConnectionState × PacketFrame}

section

variable (hs : r.Inv version)

include hs

theorem clientSends {client} (h : r.client.send version frame = some client) :
    Inv version { r with client, fromClient := r.fromClient ++ [(r.client.state, frame)] } := by
  obtain ⟨rfl, hsame⟩ | ⟨hasked, rfl, hack⟩ := send_cases h
  · have hsnoc {start : ConnectionState} {sent : List (ConnectionState × PacketFrame)}
        (hpath : ClientPath version start sent r.client.state) :
        ClientPath version start (sent ++ [(r.client.state, frame)]) r.client.state := by
      simpa only [hsame] using hpath.snoc frame
    cases hs with
    | idle hpath hfrom hto hacks => exact .idle (hsnoc hpath) hfrom hto hacks
    | underWay hearly hpath hround hacks => exact .underWay hearly (hsnoc hpath) hround hacks
    | returning hearly hpath hto hpre hack hafter =>
      exact .returning hearly (hsnoc hpath) hto hpre hack hafter
  · cases hs with
    | idle | returning => cases hasked
    | underWay hearly hpath hround hacks =>
      cases hround with
      | requested | forwarded | answered => cases hasked
      | asked hto =>
        have hmoved := hpath.snoc frame
        rw [follow_of_eq (hearly.followedAck_eq.symm ▸ hack)] at hmoved
        exact .underWay hearly hmoved (.answered hto) hacks

theorem clientReads (h : r.toClient = frame :: frames) :
    Inv version { r with client := r.client.read version frame, toClient := frames } := by
  cases hs with
  | idle hpath hfrom hto hacks =>
    cases h
    rw [lacks_cons] at hto
    rw [read_of_ne hto.1]
    exact .idle hpath hfrom hto.2 hacks
  | underWay hearly hpath hround hacks =>
    cases h
    refine .underWay hearly ?_ (hround.read hearly) hacks
    rw [read_state]
    exact hpath
  | @returning state _ _ _ _ _ hearly hpath hto hpre hack hafter =>
    cases h
    have hnext := hto state.next hearly.next_mem_later
    rw [read_of_ne (lacks_cons.mp hnext).1]
    exact .returning hearly hpath hto.tail hpre hack hafter

theorem backendSends {backend} (h : r.backend.send version frame = some backend)
    (hplay : r.backend.state = .play → some frame.id ≠ version.requestId .play) :
    Inv version
      { r with backend, fromBackend := r.fromBackend ++ [(r.backend.state, frame)] } := by
  cases hs with
  | underWay | returning => cases h
  | @idle state _ _ _ _ hpath hfrom hto hacks =>
    cases h
    by_cases hreq : some frame.id = version.requestId state
    · have hearly : state.Early := by
        cases state with
        | login => exact .inl rfl
        | config => exact .inr rfl
        | play => exact absurd hreq (hplay rfl)
        | handshake | status => cases hreq
      rw [hearly.followedAck_eq] at hacks
      simp only [hreq, decide_true]
      exact .underWay hearly hpath (.requested hfrom hreq hto) hacks
    · simp only [hreq, decide_false]
      exact .idle hpath (hfrom.snoc hreq) hto hacks

theorem backendReads (h : r.toBackend = frame :: frames) :
    Inv version { r with backend := r.backend.read version frame, toBackend := frames } := by
  cases hs with
  | idle hpath hfrom hto hacks =>
    cases h
    exact .idle hpath hfrom hto (lacks_cons.mp hacks).2
  | underWay hearly hpath hround hacks =>
    cases h
    rw [lacks_cons] at hacks
    rw [BackendPeer.read_of_ne hacks.1]
    exact .underWay hearly hpath hround hacks.2
  | @returning state _ _ before _ _ hearly hpath hto hpre hack hafter =>
    cases before with
    | nil =>
      cases h
      -- The server moves when the acknowledgement arrives.
      rw [show BackendPeer.read version ⟨state, true⟩ frame = ⟨state.next, false⟩ from
        if_pos ⟨rfl, hack⟩]
      exact .idle hpath nofun (hto state.next hearly.next_mem_later) hafter
    | cons first before =>
      cases h
      rw [lacks_cons] at hpre
      rw [BackendPeer.read_of_ne hpre.1]
      exact .returning hearly hpath hto hpre.2 hack hafter

theorem forwardClient (h : r.fromClient = x :: rest) :
    Inv version
      { r with
        state := follow version r.state x.2
        fromClient := rest
        toBackend := r.toBackend ++ [x.2] } := by
  cases hs with
  | idle hpath hfrom hto hacks =>
    cases h
    -- The client has not moved on, so the frame is no acknowledgement.
    have hne := hpath.not_ack
    have hrest := hpath.2
    rw [follow_of_ne hne] at hrest ⊢
    exact .idle hrest hfrom hto (hacks.snoc hne)
  | @underWay state client _ _ _ _ hearly hpath hround hacks =>
    cases h
    have hrest := hpath.2
    by_cases hack : some x.2.id = followedAck version state
    · cases hround with
      | requested | forwarded | asked => exact absurd hack hpath.not_ack
      | answered hto =>
        rw [follow_of_eq hack] at hrest ⊢
        rw [hearly.followedAck_eq] at hack
        exact .returning hearly hrest hto hacks hack (lacks_nil _)
    · rw [follow_of_ne hack] at hrest ⊢
      rw [hearly.followedAck_eq] at hack
      exact .underWay hearly hrest hround (hacks.snoc hack)
  | returning hearly hpath hto hpre hack hafter =>
    cases h
    have hne := hpath.not_ack
    have hrest := hpath.2
    rw [follow_of_ne hne] at hrest ⊢
    rw [append_assoc]
    exact .returning hearly hrest hto hpre hack (hafter.snoc hne)

theorem forwardBackend (h : r.fromBackend = x :: rest) :
    Inv version { r with fromBackend := rest, toClient := r.toClient ++ [x.2] } := by
  cases hs with
  | returning => cases h
  | idle hpath hfrom hto hacks =>
    cases h
    obtain ⟨hx, hrest⟩ := forall_mem_cons.mp hfrom
    exact .idle hpath hrest (hto.snoc hx.2) hacks
  | underWay hearly hpath hround hacks =>
    refine .underWay hearly hpath ?_ hacks
    cases hround with
    | forwarded | asked | answered => cases h
    | @requested before request _ hpre hreq hto =>
      cases before with
      | nil =>
        cases h
        exact .forwarded hto hreq fun _ _ => lacks_nil _
      | cons first before =>
        cases h
        obtain ⟨hx, hrest⟩ := forall_mem_cons.mp hpre
        exact .requested hrest hreq (hto.snoc hx.2)

end

theorem path_suffix {frames frames'}
    (h : ClientPath version .play frames goal) (hsuffix : frames' <:+ frames) :
    ClientPath version .play frames' goal := by
  obtain ⟨before, rfl⟩ := hsuffix
  induction before with
  | nil => exact h
  | cons x before ih =>
    refine ih ?_
    have hrest := h.2
    rwa [follow_of_ne (Option.some_ne_none _)] at hrest

variable {toClient : List PacketFrame}

theorem play {fromClient} {toBackend : List PacketFrame}
    (hs : r.Inv version) (hplay : r.state = .play) (hclients : fromClient <:+ r.fromClient)
    (hbackends : fromBackend <:+ r.fromBackend) (hlacks : Lacks (version.requestId .play) toClient) :
    Inv version
      { r with
        fromClient, fromBackend
        toClient := r.toClient ++ toClient
        toBackend := r.toBackend ++ toBackend } := by
  cases hs with
  | idle hpath hfrom hto hacks =>
    cases hplay
    exact .idle (path_suffix hpath hclients) (fun y hy => hfrom y (hbackends.subset hy))
      (lacks_append.mpr ⟨hto, hlacks⟩) (lacks_none)
  | underWay hearly => exact absurd hplay hearly.ne_play
  | @returning state _ _ _ _ _ hearly hpath hto hpre hack hafter =>
    have hcfg : state = .config := by
      rcases hearly with rfl | rfl
      · cases hplay
      · rfl
    subst hcfg
    have hsilent : Silent version ConnectionState.config.later toClient := by
      simpa [Silent, ConnectionState.later] using hlacks
    cases suffix_nil.mp hbackends
    rw [append_assoc]
    exact .returning hearly (path_suffix hpath hclients) (hto.append hsilent) hpre hack (lacks_none)

theorem say (hs : r.Inv version) (h : Silent version (r.state :: r.state.later) toClient) :
    Inv version { r with toClient := r.toClient ++ toClient } := by
  obtain ⟨hcur, hlater⟩ := forall_mem_cons.mp h
  cases hs with
  | idle hpath hfrom hto hacks =>
    exact .idle hpath hfrom (lacks_append.mpr ⟨hto, hcur⟩) hacks
  | underWay hearly hpath hround hacks =>
    refine .underWay hearly hpath ?_ hacks
    cases hround with
    | requested hpre hreq hto =>
      exact .requested hpre hreq (lacks_append.mpr ⟨hto, hcur⟩)
    | forwarded hpre hreq hafter =>
      rw [append_assoc]
      exact .forwarded hpre hreq (hafter.append hlater)
    | asked hto => exact .asked (hto.append hlater)
    | answered hto => exact .answered (hto.append hlater)
  | returning hearly hpath hto hpre hack hafter =>
    rw [← hearly.later_eq] at h
    exact .returning hearly hpath (hto.append h) hpre hack hafter

theorem step {r'} (hs : r.Inv version) (h : RelayStep version r r') : r'.Inv version := by
  cases h with
  | clientSends h => exact hs.clientSends h
  | clientReads h => exact hs.clientReads h
  | backendSends h hplay => exact hs.backendSends h hplay
  | backendReads h => exact hs.backendReads h
  | forwardClient h _ => exact hs.forwardClient h
  | forwardBackend h _ => exact hs.forwardBackend h
  | play hplay hclients hbackends hlacks => exact hs.play hplay hclients hbackends hlacks
  | say h => exact hs.say h

theorem client_state_eq (hs : r.Inv version) (h : r.fromClient = x :: rest) : x.1 = r.state := by
  cases hs with
  | idle hpath | underWay _ hpath | returning _ hpath =>
    cases h
    exact hpath.1

theorem backend_state_eq (hs : r.Inv version) (h : r.fromBackend = x :: rest) : x.1 = r.state := by
  cases hs with
  | returning => cases h
  | idle hpath hfrom =>
    cases h
    exact (hfrom x mem_cons_self).1
  | underWay hearly hpath hround =>
    cases hround with
    | forwarded | asked | answered => cases h
    | @requested before request _ hpre =>
      cases before with
      | nil => cases h; rfl
      | cons first before =>
        cases h
        exact (hpre x mem_cons_self).1

end Relay.Inv

end Infrarust
