import Infrarust.Proofs.ServerManager.Starts

/-!
# `Infrarust.Proofs.ServerManager.Inactivity`: when the monitor stops an idle server

`check_auto_shutdown` keeps the time at which a player was last seen, or at which the server was
first found running without players. A poll that finds the server running without players once
that time is long enough ago stops the server. Only a poll of a running server moves the time, and
only a successful `stop_server` forgets it. If the server goes down by itself and comes back
later, the first poll that finds it running takes the whole time in between for inactivity
(`stopped_after_restart`).

If the time is forgotten whenever a poll does not find the server running (`ForgetsIdle`), the
server is stopped only after a period of at least `shutdown_after` in which all polls found it
running without players (`stopped_only_if_idle`). The history is split at the poll that set the
time, and everything since was quiet.
-/

set_option autoImplicit false

namespace Infrarust.ServerManager

open Machine

/-- The poll found the server running without players. -/
def Poll.quiet (poll : Poll) : Prop := poll.status = some .running ∧ poll.players = some 0

/-- What the provider has answered to the poll that is worked on. -/
def MonitorPhase.reports : MonitorPhase → Option ProviderStatus
  | .fire _ status _ | .notify _ status | .answer _ status _ => some status
  | _ => none

/-- The monitor has decided to stop the server. -/
def MonitorPhase.decided : MonitorPhase → Bool
  | .stopServer _ => true
  | _ => false

namespace ManagedServer

section Definitions

variable (s : ManagedServer)

/-- No time is kept when a poll fails or finds that the server does not run. -/
def ForgetsIdle : Event → Prop
  | .monitor (.checked (.error _)) => s.entry.lastPlayerSeen = none
  | .monitor (.checked (.ok status)) => status ≠ .running → s.entry.lastPlayerSeen = none
  | _ => True

instance : DecidablePred s.ForgetsIdle := fun event => by
  unfold ForgetsIdle
  rcases event with _ | _ | _ | _ | _ | _ | _ | (_ | _ | _ | (_ | _) | _ | _ | _ | _ | _ | _) <;> infer_instance

def ForgettingStep (event : Event) (s' : ManagedServer) : Prop :=
  s.ForgetsIdle event ∧ s.next event = some s'

/-- The last polls, back to some time, were quiet. -/
def QuietSince (t₀ : Nat) : Prop :=
  ∃ recent older, s.history.polls = recent ++ older ∧
    (∀ poll ∈ recent, poll.quiet) ∧ ∀ poll ∈ older, poll.time ≤ t₀

/-- For a period of at least `d`, all polls were quiet. -/
def IdleFor (d : Nat) : Prop :=
  ∃ t₀ recent older, t₀ + d ≤ s.now ∧ s.history.polls = recent ++ older ∧ recent ≠ [] ∧
    (∀ poll ∈ recent, poll.quiet) ∧ ∀ poll ∈ older, poll.time ≤ t₀

structure IdleInv (d : Nat) : Prop where
  shutdownAfter : s.entry.shutdownAfter = some d
  past : ∀ poll ∈ s.history.polls, poll.time ≤ s.now
  quiet : ∀ t₀, s.entry.lastPlayerSeen = some t₀ → s.QuietSince t₀
  reports : ∀ status, s.monitor.phase.reports = some status → status ≠ .running →
    s.entry.lastPlayerSeen = none
  decided : s.monitor.phase.decided = true → s.IdleFor d

end Definitions

variable {s s' : ManagedServer} {id d : Nat}

theorem idleInv_new {serverId startTimeout pollInterval} :
    (new serverId (some d) startTimeout pollInterval).IdleInv d where
  shutdownAfter := rfl
  past := nofun
  quiet := nofun
  reports := nofun
  decided := nofun

namespace IdleInv

/-- A step that polls nothing. It may forget the time. -/
theorem same (hs : s.IdleInv d) (hshutdown : s'.entry.shutdownAfter = s.entry.shutdownAfter)
    (hpolls : s'.history.polls = s.history.polls) (hnow : s.now ≤ s'.now)
    (hseen : s'.entry.lastPlayerSeen = s.entry.lastPlayerSeen ∨ s'.entry.lastPlayerSeen = none)
    (hrep : ∀ status, s'.monitor.phase.reports = some status →
      s.monitor.phase.reports = some status)
    (hdecided : s'.monitor.phase.decided = true → s.monitor.phase.decided = true) :
    s'.IdleInv d where
  shutdownAfter := hshutdown.trans hs.shutdownAfter
  past poll hpoll := Nat.le_trans (hs.past poll (hpolls ▸ hpoll)) hnow
  quiet t₀ ht₀ := by
    obtain hseen | hseen := hseen
    · unfold QuietSince
      rw [hpolls]
      exact hs.quiet t₀ (hseen ▸ ht₀)
    · rw [hseen] at ht₀
      cases ht₀
  reports status hstat hne := by
    obtain hseen | hseen := hseen
    · exact hseen.trans (hs.reports status (hrep status hstat) hne)
    · exact hseen
  decided h := by
    -- the period only gets longer
    obtain ⟨t₀, recent, older, hlong, hsplit, hidle⟩ := hs.decided (hdecided h)
    exact ⟨t₀, recent, older, Nat.le_trans hlong hnow, hpolls.trans hsplit, hidle⟩

/-- A step of a call. -/
theorem keep (hs : s.IdleInv d) (hent : s'.entry.shutdownAfter = s.entry.shutdownAfter)
    (hseen : s'.entry.lastPlayerSeen = s.entry.lastPlayerSeen)
    (hhist : s'.history.polls = s.history.polls) (hnow : s'.now = s.now)
    (hmon : s'.monitor = s.monitor) : s'.IdleInv d :=
  hs.same hent hhist (Nat.le_of_eq hnow.symm) (.inl hseen) (fun _ h => hmon ▸ h)
    fun h => hmon ▸ h

end IdleInv

theorem idleInv_callStep {call event} (hs : s.IdleInv d)
    (h : CallStep s id call event s') : s'.IdleInv d := by
  cases h with
  | stopSucceeded => exact hs.same rfl rfl (Nat.le_refl _) (.inr rfl) (fun _ h => h) fun h => h
  | _ => exact hs.keep rfl rfl rfl rfl rfl

/-! ### Polls -/

/-- A poll that does not find the server running is recorded while no time is kept. -/
theorem idleInv_recordPoll {status fastPoll} (hs : s.IdleInv d)
    (hseen : s.entry.lastPlayerSeen = none) :
    ((s.recordPoll status).sleep fastPoll).IdleInv d where
  shutdownAfter := hs.shutdownAfter
  past poll hpoll := by
    obtain rfl | hpoll := List.mem_cons.mp hpoll
    · exact Nat.le_refl _
    · exact hs.past poll hpoll
  quiet t₀ ht₀ := by
    change s.entry.lastPlayerSeen = some t₀ at ht₀
    rw [hseen] at ht₀
    cases ht₀
  reports _ _ _ := hseen
  decided := nofun

section Count

variable {players : Nat}

theorem past_of_count (hs : s.IdleInv d) :
    ∀ poll ∈ (⟨s.now, some .running, some players⟩ :: s.history.polls : List Poll),
      poll.time ≤ s.now := by
  intro poll hpoll
  obtain rfl | hpoll := List.mem_cons.mp hpoll
  · exact Nat.le_refl _
  · exact hs.past poll hpoll

theorem quiet_cons {now recent} (h : ∀ poll ∈ recent, poll.quiet) :
    ∀ poll ∈ (⟨now, some .running, some 0⟩ :: recent : List Poll), poll.quiet := by
  intro poll hpoll
  obtain rfl | hpoll := List.mem_cons.mp hpoll
  · exact ⟨rfl, rfl⟩
  · exact h poll hpoll

/-- A poll that finds no players does not end a quiet time. -/
theorem quietSince_cons (hs : s.IdleInv d) {t₀} (ht₀ : s.entry.lastPlayerSeen = some t₀) :
    ∃ recent older, (⟨s.now, some .running, some 0⟩ :: s.history.polls : List Poll)
        = recent ++ older ∧ recent ≠ [] ∧
      (∀ poll ∈ recent, poll.quiet) ∧ ∀ poll ∈ older, poll.time ≤ t₀ := by
  obtain ⟨recent, older, hpolls, hrecent, holder⟩ := hs.quiet t₀ ht₀
  exact ⟨⟨s.now, some .running, some 0⟩ :: recent, older, congrArg _ hpolls,
    List.cons_ne_nil _ _, quiet_cons hrecent, holder⟩

/-- The poll found no players. If the monitor has decided to stop the server, this has been so for
long enough. -/
theorem idleInv_quiet {monitor : Monitor} (hs : s.IdleInv d) (hrep : monitor.phase.reports = none)
    (hdecided : monitor.phase.decided = true → ∃ t₀, s.entry.lastPlayerSeen = some t₀ ∧
      t₀ + d ≤ s.now) :
    IdleInv { s with
      monitor, history.polls := ⟨s.now, some .running, some 0⟩ :: s.history.polls } d where
  shutdownAfter := hs.shutdownAfter
  past := past_of_count hs
  quiet t₀ ht₀ := by
    obtain ⟨recent, older, hpolls, -, hquiet⟩ := quietSince_cons hs ht₀
    exact ⟨recent, older, hpolls, hquiet⟩
  reports status hstat _ := by cases hrep.symm.trans hstat
  decided h := by
    obtain ⟨t₀, ht₀, hlong⟩ := hdecided h
    obtain ⟨recent, older, hidle⟩ := quietSince_cons hs ht₀
    exact ⟨t₀, recent, older, hlong, hidle⟩

/-- The poll sets the time. -/
theorem idleInv_seen {fastPoll : Bool} (hs : s.IdleInv d) :
    IdleInv ({ s with
      entry.lastPlayerSeen := some s.now
      history.polls := ⟨s.now, some .running, some players⟩ :: s.history.polls
      }.sleep fastPoll) d where
  shutdownAfter := hs.shutdownAfter
  past := past_of_count hs
  quiet t₀ ht₀ := by
    cases ht₀
    -- there is no poll since
    exact ⟨[], _, rfl, fun _ h => (List.not_mem_nil h).elim, past_of_count hs⟩
  reports := nofun
  decided := nofun

end Count

theorem idleInv_monitorStep {event} (hs : s.IdleInv d) (hforg : s.ForgetsIdle (.monitor event))
    (h : MonitorStep s s.monitor.phase event s') : s'.IdleInv d := by
  have hrep := hs.reports
  generalize hph : s.monitor.phase = phase at h hrep
  cases h with
  | failed queriedAt e => exact idleInv_recordPoll hs hforg
  | same queriedAt status hrng =>
    exact idleInv_recordPoll (hs.keep rfl rfl rfl rfl rfl) (hforg hrng)
  | changed queriedAt status _ =>
    refine ⟨hs.shutdownAfter, hs.past, hs.quiet, fun status' hstat hne => ?_, nofun⟩
    cases hstat
    exact hforg hne
  | firedSleeps queriedAt status _ hrng => exact idleInv_recordPoll hs (hrep _ rfl hrng)
  | answeredSleeps queriedAt status hrng =>
    exact idleInv_recordPoll hs (hrep _ rfl hrng)
  | firedNotifies | notify | answer =>
    exact ⟨hs.shutdownAfter, hs.past, hs.quiet, hrep, nofun⟩
  | countStops queriedAt d' t₀ hd' ht₀ hlong =>
    cases hd'.symm.trans hs.shutdownAfter
    exact idleInv_quiet hs rfl fun _ => ⟨t₀, ht₀, hlong⟩
  | countSeen => exact idleInv_seen hs
  | countQuiet => exact idleInv_quiet hs rfl nofun
  | stopSucceeded =>
    exact hs.same rfl rfl (Nat.le_refl _) (.inr rfl) nofun nofun
  | _ => exact hs.same rfl rfl (Nat.le_refl _) (.inl rfl) nofun nofun

/-! ### Runs -/

theorem forgettingStep_inv {event} (h : s.ForgettingStep event s') (hs : s.IdleInv d) :
    s'.IdleInv d := by
  obtain ⟨hforg, hnext⟩ := h
  obtain ⟨s₁, hstep, rfl⟩ := next_inv hnext
  suffices hs₁ : s₁.IdleInv d from hs₁.keep rfl rfl rfl rfl rfl
  cases hstep with
  | tick ms =>
    exact hs.same rfl rfl (Nat.le_add_right _ _) (.inl rfl) (fun _ h => h) id
  | startMonitoring =>
    exact hs.same rfl rfl (Nat.le_refl _) (.inl rfl) nofun nofun
  | call id call event s₁ hcall hstep =>
    exact idleInv_callStep hs hstep
  | monitor event s₁ hstep => exact idleInv_monitorStep hs hforg hstep
  | _ => exact hs.keep rfl rfl rfl rfl rfl

/-- In a run in which the time is forgotten whenever a poll does not find the server running, the
monitor calls `stop_server` only if for at least `d` all polls have found the server running without
players. -/
theorem stopped_only_if_idle {serverId : String} {startTimeout pollInterval : Nat}
    {events : List Event}
    (hrun : Run ForgettingStep (new serverId (some d) startTimeout pollInterval) events s)
    (hnext : s.next (.monitor .stopServer) = some s') :
    ∃ t₀ recent older, t₀ + d ≤ s.now ∧ s.history.polls = recent ++ older ∧ recent ≠ [] ∧
      (∀ poll ∈ recent, poll.status = some .running ∧ poll.players = some 0) ∧
      ∀ poll ∈ older, poll.time ≤ t₀ := by
  have hs : s.IdleInv d :=
    hrun.invariant (fun _ _ _ hstep => forgettingStep_inv hstep) (idleInv_new)
  obtain ⟨s₁, hstep, -⟩ := next_inv hnext
  cases hstep with | monitor _ _ h =>
  generalize hph : s.monitor.phase = phase at h
  cases h with
  | stopServer queriedAt => exact hs.decided (by rw [hph]; rfl)

/-! ### A server that was down in between, and one that was not -/

/-- A server that is to be stopped after a minute without players. -/
def minigames : ManagedServer := new "minigames" (some 60000) 120000 5000

/-- A poll that finds the server running, as the one before did, without players. -/
def quietPoll : List Event :=
  [.tick 30000, .monitor .wake, .monitor .query, .monitor (.checked (.ok .running)),
    .monitor (.count 0)]

/-- The first poll finds the server running without players. -/
def firstPoll : List Event :=
  .startMonitoring :: poll .running ++ [.monitor .notify, .monitor .answer, .monitor (.count 0)]

/-- The server is down at the second poll, and a player starts it. The third poll, less than a
minute later, finds it running and stops it for inactivity. -/
theorem stopped_after_restart :
    ∃ s, Run Step minigames (firstPoll ++ poll .stopped ++
        [.monitor .notify, .monitor .answer] ++ waking ++ poll .running ++
        [.monitor .notify, .monitor .answer, .monitor .answer, .monitor (.count 0),
          .monitor .stopServer]) s ∧
      s.entry.shutdownAfter = some 60000 ∧ s.monitor.phase = .stop (.fire .online) ∧
      ∃ poll ∈ s.history.polls, s.now < poll.time + 60000 ∧ poll.status = some .stopped := by
  exact exists_run (fun _ _ _ h => h) (by decide)

/-- After three polls without players the server is stopped. -/
theorem stopped_only_if_idle_minute :
    ∃ s s', Run ForgettingStep minigames (firstPoll ++ quietPoll ++ quietPoll) s ∧
      s.next (.monitor .stopServer) = some s' ∧
      ∃ t₀ recent older, t₀ + 60000 ≤ s.now ∧ s.history.polls = recent ++ older ∧ recent ≠ [] ∧
        (∀ poll ∈ recent, poll.status = some .running ∧ poll.players = some 0) ∧
        ∀ poll ∈ older, poll.time ≤ t₀ := by
  obtain ⟨s, hrun, s', hnext⟩ : ∃ s, Run ForgettingStep minigames
      (firstPoll ++ quietPoll ++ quietPoll) s ∧ ∃ s', s.next (.monitor .stopServer) = some s' :=
    exists_run_guarded (P := fun s => (s.next (.monitor .stopServer)).isSome = true)
      (by decide) fun s _ hnext => Option.isSome_iff_exists.mp hnext
  exact ⟨s, s', hrun, hnext, stopped_only_if_idle hrun hnext⟩

end ManagedServer

end Infrarust.ServerManager
