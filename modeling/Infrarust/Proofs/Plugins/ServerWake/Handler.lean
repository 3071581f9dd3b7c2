import Infrarust.Plugins.ServerWake.Handler
import Infrarust.Proofs.ServerManager.Listeners

/-!
# `Infrarust.Proofs.Plugins.ServerWake.Handler`: who releases a waiting player

The handler reads the state of the server, may start it, and enters the player into the table, and
the server manager may change the state at any point in between. If the server comes online before
the player is in the table, nobody releases them. The listener does nothing when a server goes to
sleep, so those who wait for it stay in the table. And `start_server` refuses the second of two
players who have both found the server asleep. `players_left_waiting` has a run for each of these.

`Undisturbed` excludes the three. Under it nobody is left in the table when everything is at rest,
unless their server is still on its way (`no_player_left_waiting`). The invariant is that while a
server is online or crashed, there is somebody for each of its players who will release them: an
operation that is about to tell the listener, or a call of the listener that has read the player
(`Covered`).
-/

set_option autoImplicit false

namespace Infrarust

open Option Dict AList Machine

namespace ServerManager

/-- Nobody tells the listeners anything while everything is at rest. -/
theorem ManagedServer.fires_of_quiescent {s : ManagedServer} (h : s.Quiescent) {source} :
    s.fires source = none := by
  obtain ⟨hmon, hcalls⟩ := h
  cases source with
  | monitor =>
    show s.monitor.phase.fires = none
    revert hmon
    cases s.monitor.phase with
    | idle | sleep wakeAt => exact fun _ => rfl
    | _ => exact nofun
  | call id =>
    show (s.calls.lookup id).bind Call.fires = none
    cases hcall : s.calls.lookup id with
    | none => rfl
    | some call =>
      have hrest := hcalls id call hcall
      cases call with
      | ensureWait since => rfl
      | _ => cases hrest

theorem Event.source_fired {source : Source} : source.fired.source = some source := by
  cases source <;> rfl

end ServerManager

namespace ServerWake

open ServerManager
open Limbo (HandlerResult)

namespace WakeSystem

section Definitions

variable (w : WakeSystem)

/-- No operation of a server, no call of the listener and no call of the handler is in the middle
of its steps. -/
def Quiescent : Prop :=
  (∀ id server, w.servers.lookup id = some server → server.Quiescent) ∧
    (∀ key left, w.listening.lookup key = some left → False) ∧
    ∀ player visit, w.visits.lookup player = some visit → visit = .hold
deriving Decidable

/-- Between the read of the state and the start of the server, and up to the entry into the table,
nobody brings the server into a state that the player would not have waited for. Nobody waits for
a server that goes to sleep. -/
def Undisturbed : WakeEvent → Prop
  | .start player => match w.visits.lookup player with
    | some (.start target found) => found.isStartable = true →
        ∀ state ∈ w.getState target, state.isStartable = true
    | _ => True
  | .insert player => match w.visits.lookup player with
    | some (.insert target) => ∀ state ∈ w.getState target,
        state.releases = false ∧ state ≠ .sleeping
    | _ => True
  | .server id event => ∀ server ∈ w.servers.lookup id, ∀ server' ∈ server.next event,
      server'.entry.state = .sleeping → server.entry.state = .sleeping ∨
        ∀ player target, w.waiting.lookup player = some target → target ≠ id
  | _ => True

instance : DecidablePred w.Undisturbed := fun event => by
  unfold Undisturbed
  repeat' split
  all_goals infer_instance

def UndisturbedStep (event : WakeEvent) (w' : WakeSystem) : Prop :=
  w.Undisturbed event ∧ w.step event = some w'

/-- Somebody will release the player: an operation that has not called the listener yet, or a call
of the listener that has read the player. -/
def Covered (id : String) (player : Nat) : Prop :=
  (∃ source state, w.telling id source = some state ∧
      w.listening.lookup (id, source) = none) ∨
    ∃ source left, w.listening.lookup (id, source) = some left ∧ player ∈ left

structure WakeInv : Prop where
  fresh : ∀ id server, w.servers.lookup id = some server → server.Fresh
  listening : ∀ id source left, w.listening.lookup (id, source) = some left →
    ∃ state, w.telling id source = some state
  asleep : ∀ id, w.getState id = some .sleeping → ∀ player, w.waiting.lookup player ≠ some id
  released : ∀ id state, w.getState id = some state → state.releases = true →
    ∀ player, w.waiting.lookup player = some id → w.Covered id player
  refused : ∀ player found state, (player, found, state) ∈ w.refused → found.isStartable = false

end Definitions

variable {w w' : WakeSystem}

theorem wakeInv_new {config setups} : (new config setups).WakeInv := by
  refine ⟨fun id server => ?_, fun id source left h => ?_, fun id _ player h => ?_,
    fun id state _ _ player h => ?_, fun player found state h => ?_⟩
  · -- the servers that are registered, whatever the table holds already
    have hloop : ∀ servers : Dict String ManagedServer,
        (∀ id server, servers.lookup id = some server → server.Fresh) →
        (setups.foldl (fun servers setup => servers.insert setup.serverId
          (.new setup.serverId setup.shutdownAfter setup.startTimeout setup.pollInterval))
          servers).lookup id = some server → server.Fresh := by
      induction setups with
      | nil => exact fun servers hservers => hservers id server
      | cons setup rest ih =>
        intro servers hservers
        exact ih _ (forall_insert hservers nofun)
    exact hloop ∅ nofun
  all_goals cases h

/-! ### The servers -/

variable {id : String} {source : Source} {state : ServerState} {server : ManagedServer}
  {player : Nat} {target : String} {left : List Nat}

theorem telling_inv (h : w.telling id source = some state) :
    ∃ server, w.servers.lookup id = some server ∧ server.fires source = some state ∧
      state.releases = true := by
  obtain ⟨hfires, hrel⟩ := filter_eq_some_iff.mp h
  obtain ⟨server, hsrv, hfires⟩ := bind_eq_some_iff.mp hfires
  exact ⟨server, hsrv, hfires, hrel⟩

theorem telling_of_fires (hsrv : w.servers.lookup id = some server)
    (hfires : server.fires source = some state) (hrel : state.releases = true) :
    w.telling id source = some state := by
  unfold telling
  rw [hsrv]
  exact filter_eq_some_iff.mpr ⟨hfires, hrel⟩

section Server

variable {id : String} {server server' : ManagedServer} {event : Event} {id' : String}

theorem lookup_listeningAfter {source} :
    (w.listeningAfter id event).lookup (id', source) =
      if id' = id ∧ event.source = some source then none
      else w.listening.lookup (id', source) := by
  unfold listeningAfter
  split
  case h_1 source' hsrc =>
    rw [lookup_erase_eq, hsrc]
    refine if_congr ?_ rfl rfl
    rw [Prod.mk.injEq, some_inj, eq_comm (a := source)]
  case h_2 hsrc =>
    rw [hsrc, if_neg]
    rintro ⟨-, h⟩
    cases h

variable {source : Source} {state : ServerState}

/-- The step does not go on after a call of the listener that has still to release somebody. -/
theorem listening_of_listenerDone (hsrv : w.servers.lookup id = some server)
    (hdone : w.listenerDone id server event = true) (htell : w.telling id source = some state)
    (hsrc : event.source = some source) : w.listening.lookup (id, source) = some [] := by
  obtain ⟨server₁, hsrv₁, hfires, hrel⟩ := telling_inv htell
  cases hsrv.symm.trans hsrv₁
  simp only [listenerDone, hsrc, hfires, hrel] at hdone
  exact of_decide_eq_true hdone

theorem getState_afterServer :
    (w.afterServer id server' event).getState id' =
      if id' = id then some server'.entry.state else w.getState id' := by
  show ((w.servers.insert id server').lookup id').map _ = _
  rw [lookup_insert_eq]
  split <;> rfl

/-- Who was telling the listener something still is, unless the step goes on after that. -/
theorem telling_afterServer (hsrv : w.servers.lookup id = some server)
    (htells : ManagedServer.Tells server event server')
    (htell : w.telling id' source = some state)
    (hother : ¬(id' = id ∧ event.source = some source)) :
    (w.afterServer id server' event).telling id' source = some state := by
  obtain ⟨server₁, hsrv₁, hfires, hrel⟩ := telling_inv htell
  by_cases hid : id' = id
  · subst hid
    cases hsrv.symm.trans hsrv₁
    have hev : event ≠ source.fired := by
      rintro rfl
      exact hother ⟨rfl, Event.source_fired⟩
    exact telling_of_fires (lookup_insert _) (htells.keeps source state hfires hev)
      hrel
  · exact telling_of_fires ((lookup_insert_ne hid).trans hsrv₁) hfires hrel

theorem covered_afterServer (hs : w.WakeInv) (hsrv : w.servers.lookup id = some server)
    (htells : ManagedServer.Tells server event server')
    (hdone : w.listenerDone id server event = true) (h : w.Covered id' player) :
    (w.afterServer id server' event).Covered id' player := by
  obtain ⟨source, state, htell, hnone⟩ | ⟨source, left, hleft, hmem⟩ := h
  · -- an operation that has not called the listener does not go on
    have hother : ¬(id' = id ∧ event.source = some source) := by
      rintro ⟨rfl, hsrc⟩
      have hempty := listening_of_listenerDone hsrv hdone htell hsrc
      cases hnone.symm.trans hempty
    refine .inl ⟨source, state, telling_afterServer hsrv htells htell hother, ?_⟩
    exact lookup_listeningAfter.trans ((if_neg hother).trans hnone)
  · -- nor does one whose listener has still to release the player
    have hother : ¬(id' = id ∧ event.source = some source) := by
      rintro ⟨rfl, hsrc⟩
      obtain ⟨state, htell⟩ := hs.listening id' source left hleft
      have hempty := listening_of_listenerDone hsrv hdone htell hsrc
      cases hleft.symm.trans hempty
      cases hmem
    refine .inr ⟨source, left, ?_, hmem⟩
    exact lookup_listeningAfter.trans ((if_neg hother).trans hleft)

/-- Whoever has just changed the state has not called the listener. -/
theorem covered_of_changed (hs : w.WakeInv) (hsrv : w.servers.lookup id = some server)
    (hnone : server.fires source = none) (hfires : server'.fires source = some server'.entry.state)
    (hrel : server'.entry.state.releases = true) :
    (w.afterServer id server' event).Covered id player := by
  refine .inl ⟨source, _, telling_of_fires (lookup_insert _) hfires hrel, ?_⟩
  refine lookup_listeningAfter.trans ?_
  split
  case isTrue => rfl
  case isFalse =>
    cases hleft : w.listening.lookup (id, source) with
    | none => rfl
    | some left =>
      obtain ⟨state, htell⟩ := hs.listening id source left hleft
      obtain ⟨server₁, hsrv₁, hfires₁, -⟩ := telling_inv htell
      cases hsrv.symm.trans hsrv₁
      cases hnone.symm.trans hfires₁

theorem wakeInv_afterServer (hs : w.WakeInv) (hsrv : w.servers.lookup id = some server)
    (hnext : server.next event = some server') (hdone : w.listenerDone id server event = true)
    (hsleep : server'.entry.state = .sleeping → server.entry.state = .sleeping ∨
      ∀ player target, w.waiting.lookup player = some target → target ≠ id) :
    (w.afterServer id server' event).WakeInv := by
  have htells := ManagedServer.next_tells (hs.fresh id server hsrv) hnext
  have hst : w.getState id = some server.entry.state := by
    rw [getState, hsrv]
    rfl
  refine ⟨?_, ?_, ?_, ?_, hs.refused⟩
  · exact forall_insert hs.fresh htells.fresh
  · intro id' source left h
    change (w.listeningAfter id event).lookup (id', source) = some left at h
    rw [lookup_listeningAfter] at h
    split at h
    case isTrue => cases h
    case isFalse hother =>
      obtain ⟨state, htell⟩ := hs.listening id' source left h
      exact ⟨state, telling_afterServer hsrv htells htell hother⟩
  · intro id' h player
    rw [getState_afterServer] at h
    split at h
    case isTrue hid =>
      subst hid
      obtain hasleep | hnobody := hsleep (Option.some.inj h)
      · exact hs.asleep id' (hst.trans (congrArg some hasleep)) player
      · exact fun hwaits => hnobody player id' hwaits rfl
    case isFalse => exact hs.asleep id' h player
  · intro id' state h hrel player hwaits
    rw [getState_afterServer] at h
    split at h
    case isFalse =>
      exact covered_afterServer hs hsrv htells hdone (hs.released id' state h hrel player hwaits)
    case isTrue hid =>
      subst hid
      cases h
      obtain hsame | ⟨source, hnone, hfires⟩ := htells.changes
      · rw [hsame] at hrel
        exact covered_afterServer hs hsrv htells hdone (hs.released id' _ hst hrel player hwaits)
      · exact covered_of_changed hs hsrv hnone hfires hrel

end Server

/-! ### The handler -/

/-- The invariant says nothing about the visits and the results. -/
theorem WakeInv.same {visits results} (hs : w.WakeInv) : WakeInv { w with visits, results } :=
  { hs with }

/-- Starting a server does not put it to sleep. -/
theorem startServer_state {server'} (h : server.next .startServer = some server')
    (hsleep : server'.entry.state = .sleeping) :
    server.entry.state = .sleeping := by
  cases h
  unfold ManagedServer.startServer at hsleep
  split at hsleep
  · cases hsleep
  · exact hsleep

theorem wakeInv_start {found : ServerState} (hs : w.WakeInv)
    (hsrv : w.servers.lookup target = some server)
    (hcan : found.isStartable = true → server.entry.state.isStartable = true)
    (h : w.start player target found server = some w') : w'.WakeInv := by
  obtain ⟨server', hnext, rfl⟩ := map_eq_some_iff.mp h
  have hafter : (w.afterServer target server' .startServer).WakeInv :=
    wakeInv_afterServer hs hsrv hnext rfl fun hsleep => .inl (startServer_state hnext hsleep)
  refine ⟨hafter.fresh, hafter.listening, hafter.asleep, hafter.released, fun p f st hmem => ?_⟩
  split at hmem
  case isTrue => exact hs.refused p f st hmem
  case isFalse hrefused =>
    obtain heq | hmem := List.mem_cons.mp hmem
    · obtain ⟨-, rfl, -⟩ := heq
      exact Bool.eq_false_iff.mpr (mt hcan hrefused)
    · exact hs.refused p f st hmem

theorem wakeInv_insert (hs : w.WakeInv)
    (hst : ∀ state ∈ w.getState target, state.releases = false ∧ state ≠ .sleeping) :
    (w.insert player target).WakeInv := by
  suffices h : WakeInv { w with waiting := w.waiting.insert player target } by
    unfold insert
    dsimp only
    split <;> exact h.same
  refine ⟨hs.fresh, hs.listening, fun id h p hwaits => ?_, fun id state h hrel p hwaits => ?_,
    hs.refused⟩
  · obtain ⟨-, rfl⟩ | ⟨-, hwaits⟩ := lookup_insert_inv hwaits
    · exact (hst _ h).2 rfl
    · exact hs.asleep id h p hwaits
  · obtain ⟨-, rfl⟩ | ⟨-, hwaits⟩ := lookup_insert_inv hwaits
    · rw [(hst state h).1] at hrel
      cases hrel
    · exact hs.released id state h hrel p hwaits

/-- A player is taken out of the table. -/
theorem WakeInv.eraseWaiting (hs : w.WakeInv) :
    WakeInv { w with waiting := w.waiting.erase player } :=
  { hs with
    asleep := fun id h p hwaits => hs.asleep id h p (lookup_erase_inv hwaits).2
    released := fun id state h hrel p hwaits =>
      hs.released id state h hrel p (lookup_erase_inv hwaits).2 }

/-! ### The listener -/

theorem mem_playersWaitingFor :
    player ∈ w.playersWaitingFor id ↔ w.waiting.lookup player = some id := by
  unfold playersWaitingFor
  rw [List.mem_map, ← mem_def, mem_lookup_iff]
  constructor
  · rintro ⟨⟨p, target⟩, hent, rfl⟩
    obtain ⟨hmem, htgt⟩ := List.mem_filter.mp hent
    obtain rfl := of_decide_eq_true htgt
    exact hmem
  · exact fun h => ⟨⟨player, id⟩, List.mem_filter.mpr ⟨h, decide_eq_true rfl⟩, rfl⟩

theorem wakeInv_scan (hs : w.WakeInv) (htell : w.telling id source = some state) :
    WakeInv { w with
      listening := w.listening.insert (id, source) (w.playersWaitingFor id) } where
  fresh := hs.fresh
  listening id' source' left h := by
    obtain ⟨heq, -⟩ | ⟨-, h⟩ := lookup_insert_inv h
    · obtain ⟨rfl, rfl⟩ := Prod.mk.inj heq
      exact ⟨state, htell⟩
    · exact hs.listening id' source' left h
  asleep := hs.asleep
  released id' state' h hrel player hwaits := by
    by_cases hid : id' = id
    · subst hid
      exact .inr ⟨source, _, lookup_insert _, mem_playersWaitingFor.mpr hwaits⟩
    · have hkey : ∀ source', (id', source') ≠ (id, source) := fun source' heq =>
        hid (Prod.mk.inj heq).1
      obtain ⟨source', state', htell', hnone⟩ | ⟨source', left, hleft, hmem⟩ :=
        hs.released id' state' h hrel player hwaits
      · exact .inl ⟨source', state', htell', (lookup_insert_ne (hkey source')).trans hnone⟩
      · exact .inr ⟨source', left, (lookup_insert_ne (hkey source')).trans hleft, hmem⟩
  refused := hs.refused

/-- The listener takes the next player of its list out of the table. -/
theorem wakeInv_released (hs : w.WakeInv)
    (hleft : w.listening.lookup (id, source) = some (player :: left)) :
    WakeInv { w with
      waiting := w.waiting.erase player
      listening := w.listening.insert (id, source) left } where
  fresh := hs.fresh
  listening id' source' left' h := by
    obtain ⟨heq, -⟩ | ⟨-, h⟩ := lookup_insert_inv h
    · obtain ⟨rfl, rfl⟩ := Prod.mk.inj heq
      exact hs.listening id' source' _ hleft
    · exact hs.listening id' source' left' h
  asleep id' h p hwaits := hs.asleep id' h p (lookup_erase_inv hwaits).2
  released id' state h hrel p hwaits := by
    obtain ⟨hp, hwaits⟩ := lookup_erase_inv hwaits
    obtain ⟨source', state', htell, hnone⟩ | ⟨source', left', hleft', hmem⟩ :=
      hs.released id' state h hrel p hwaits
    · have hkey : (id', source') ≠ (id, source) := by
        intro heq
        rw [heq, hleft] at hnone
        cases hnone
      exact .inl ⟨source', state', htell, (lookup_insert_ne hkey).trans hnone⟩
    · by_cases hkey : (id', source') = (id, source)
      · obtain ⟨rfl, rfl⟩ := Prod.mk.inj hkey
        cases hleft.symm.trans hleft'
        obtain rfl | hmem := List.mem_cons.mp hmem
        · exact absurd rfl hp
        · exact .inr ⟨source', left, lookup_insert _, hmem⟩
      · exact .inr ⟨source', left', (lookup_insert_ne hkey).trans hleft', hmem⟩
  refused := hs.refused

theorem wakeInv_release (hs : w.WakeInv)
    (hleft : w.listening.lookup (id, source) = some (player :: left)) :
    WakeInv ({ w with listening := w.listening.insert (id, source) left }.release player
      state) := by
  have hreleased := wakeInv_released hs hleft
  unfold release
  split
  case h_1 hnone =>
    -- somebody else has taken the player out
    have herase : w.waiting.erase player = w.waiting := erase_of_lookup_eq_none hnone
    rw [herase] at hreleased
    exact hreleased
  case h_2 => exact hreleased.same

/-! ### Runs -/

theorem undisturbedStep_inv {event} (h : w.UndisturbedStep event w')
    (hs : w.WakeInv) : w'.WakeInv := by
  obtain ⟨hcalm, hstep⟩ := h
  cases event <;> simp only [step] at hstep
  case server id event =>
    obtain ⟨server, hsrv, hstep⟩ := bind_eq_some_iff.mp hstep
    unfold serverStep at hstep
    split at hstep
    case isFalse => cases hstep
    case isTrue hdone =>
      obtain ⟨server', hnext, rfl⟩ := map_eq_some_iff.mp hstep
      exact wakeInv_afterServer hs hsrv hnext hdone (hcalm server hsrv server' hnext)
  case enter player context managed =>
    split at hstep <;> cases hstep
    unfold enter
    split
    · exact hs.same
    · exact hs.same
    · exact hs.same
    · split <;> exact hs.same
  case start player =>
    simp only [Undisturbed] at hcalm
    split at hstep
    case h_2 => cases hstep
    case h_1 target found hvisit =>
      rw [hvisit] at hcalm
      obtain ⟨server, hsrv, hstep⟩ := bind_eq_some_iff.mp hstep
      refine wakeInv_start hs hsrv (fun hfound => hcalm hfound _ ?_) hstep
      rw [getState, hsrv]
      rfl
  case started player =>
    split at hstep
    case h_2 => cases hstep
    case h_1 target call _ =>
      obtain ⟨result, -, rfl⟩ := map_eq_some_iff.mp hstep
      cases result <;> exact hs.same
  case insert player =>
    simp only [Undisturbed] at hcalm
    split at hstep <;> cases hstep
    case h_1 target hvisit =>
      rw [hvisit] at hcalm
      exact wakeInv_insert hs hcalm
  case leave player =>
    split at hstep <;> cases hstep
    exact hs.same
  case sessionEnd player =>
    split at hstep <;> cases hstep
    all_goals exact hs.eraseWaiting.same
  case scan id source =>
    split at hstep <;> cases hstep
    case isTrue hscan =>
      obtain ⟨state, htell⟩ := isSome_iff_exists.mp hscan.2
      exact wakeInv_scan hs htell
  case release id source =>
    split at hstep <;> cases hstep
    case h_1 state player left _ hleft => exact wakeInv_release hs hleft

/-- In a run in which nobody disturbs the players on their way into the table, and nobody waits for
a server that goes to sleep: when everything is at rest, no player is in the table whose server is
online, asleep or crashed. And a player whose start was refused had not found the server asleep or
crashed. -/
theorem no_player_left_waiting {config : ServerWakeConfig} {setups : List Setup}
    {events : List WakeEvent}
    (hrun : Run UndisturbedStep (new config setups) events w) :
    (w.Quiescent → ∀ player target state, w.waiting.lookup player = some target →
      w.getState target = some state →
      state ≠ .online ∧ state ≠ .sleeping ∧ state ≠ .crashed) ∧
    ∀ player found state, (player, found, state) ∈ w.refused →
      found ≠ .sleeping ∧ found ≠ .crashed := by
  have hs : w.WakeInv := hrun.invariant (fun _ _ _ hstep => undisturbedStep_inv hstep) (wakeInv_new)
  constructor
  · rintro ⟨hservers, hlistening, -⟩ player target state hwaits hst
    have hrest : state.releases = false := by
      refine Bool.eq_false_iff.mpr fun hrel => ?_
      obtain ⟨source, state', htell, -⟩ | ⟨source, left, hleft, -⟩ :=
        hs.released target state hst hrel player hwaits
      · obtain ⟨server, hsrv, hfires, -⟩ := telling_inv htell
        rw [ManagedServer.fires_of_quiescent (hservers target server hsrv)] at hfires
        cases hfires
      · exact hlistening _ left hleft
    refine ⟨?_, ?_, ?_⟩
    · rintro rfl
      cases hrest
    · rintro rfl
      exact hs.asleep target hst player hwaits
    · rintro rfl
      cases hrest
  · intro player found state hmem
    have hfound := hs.refused player found state hmem
    constructor
    all_goals
      rintro rfl
      cases hfound

/-! ### Players who are left, and players who are not -/

/-- One server, which is polled every thirty seconds. -/
def survivalOnly : WakeSystem := new .default [⟨"survival", none, 120000, 5000⟩]

/-- Somebody starts the server, and the provider accepts. -/
def survivalStarting : List WakeEvent :=
  [.server "survival" .startMonitoring, .server "survival" .startServer,
    .server "survival" (.call 0 .fired), .server "survival" (.call 0 (.started (.ok ())))]

/-- A poll with this status, up to the call of the listener. -/
def survivalPolled (status : ProviderStatus) : List WakeEvent :=
  [.server "survival" (.tick 30000), .server "survival" (.monitor .wake),
    .server "survival" (.monitor .query), .server "survival" (.monitor (.checked (.ok status)))]

def comesToSurvival (player : Nat) : WakeEvent :=
  .enter player (.initialConnection "survival") (some true)

/-- The player finds the server starting. The server comes online, and the listener finds nobody
in the table. Then the player is entered into the table. -/
def lostWakeUp : List WakeEvent :=
  survivalStarting ++ [comesToSurvival 1] ++ survivalPolled .running ++
    [.scan "survival" .monitor, .server "survival" (.monitor .fired),
      .server "survival" (.monitor .notify), .server "survival" (.monitor .answer),
      .server "survival" (.monitor (.count 0)), .insert 1]

/-- The start does not succeed, and a poll finds the server stopped. -/
def backToSleep : List WakeEvent :=
  survivalStarting ++ [comesToSurvival 1, .insert 1] ++ survivalPolled .stopped ++
    [.server "survival" (.monitor .fired), .server "survival" (.monitor .notify),
      .server "survival" (.monitor .answer)]

/-- Two players find the server asleep, and the first one starts it. -/
def startRace : List WakeEvent :=
  [comesToSurvival 1, comesToSurvival 2, .start 1, .start 2, .started 2]

theorem players_left_waiting :
    (∃ w, Run (fun w event w' => w.step event = some w') survivalOnly lostWakeUp w ∧
      w.Quiescent ∧ w.waiting.lookup 1 = some "survival" ∧
      w.getState "survival" = some .online) ∧
    (∃ w, Run (fun w event w' => w.step event = some w') survivalOnly backToSleep w ∧
      w.Quiescent ∧ w.waiting.lookup 1 = some "survival" ∧
      w.getState "survival" = some .sleeping) ∧
    ∃ w, Run (fun w event w' => w.step event = some w') survivalOnly startRace w ∧
      w.refused = [(2, .sleeping, .starting)] ∧
      w.results = [(2, .deny ServerWakeConfig.default.failedKick)] := by
  refine ⟨?_, ?_, ?_⟩ <;> exact exists_run (fun _ _ _ h => h) (by decide)

/-- The first player starts the server and is entered into the table before the second one comes.
Both wait while the server starts. -/
theorem no_player_left_waiting_starting :
    ∃ w, Run UndisturbedStep survivalOnly
        [comesToSurvival 1, .start 1, .server "survival" (.call 0 .fired),
          .server "survival" (.call 0 (.started (.ok ()))), .started 1, .insert 1,
          comesToSurvival 2, .insert 2] w ∧
      w.Quiescent ∧ w.waiting.lookup 2 = some "survival" ∧
      w.getState "survival" = some .starting ∧
      ∀ player target state, w.waiting.lookup player = some target →
        w.getState target = some state →
        state ≠ .online ∧ state ≠ .sleeping ∧ state ≠ .crashed := by
  refine exists_run_guarded (P := fun w => w.Quiescent ∧ w.waiting.lookup 2 = some "survival" ∧
      w.getState "survival" = some .starting) (by decide) ?_
  rintro w hrun ⟨hquiet, hwaits, hst⟩
  exact ⟨hquiet, hwaits, hst, (no_player_left_waiting hrun).1 hquiet⟩

end WakeSystem

end ServerWake

end Infrarust
