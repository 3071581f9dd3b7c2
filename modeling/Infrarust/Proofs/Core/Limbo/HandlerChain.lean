import Infrarust.Core.Limbo.HandlerChain

/-!
# `Infrarust.Proofs.Core.Limbo.HandlerChain`: who ends a hold, and with what

`complete_scoped` compares the numbers of the holds when it sends. What it has sent stays in the
channel until a hold reads it. If the timeout of a hold wins against its completion, the hold of
the next handler reads the completion (`completion_of_earlier_handler`). The comparison and the
sending are two steps, and `LimboSession::complete` takes the hold that is current when it runs, so
these may be for a later hold as well. `OwnHold` excludes the three, and under it only the handler's
own completions end its hold (`ended_by_own_completion`).

`wait_for_hold` takes the result of a completion through `process_handler_result`, which maps Hold
to a hold. A completion with Hold reaches `unreachable!` (`completed_with_hold`), and only such a
completion does (`never_unreachable`): a timeout never has one.
-/

set_option autoImplicit false

namespace Infrarust.Limbo

open Machine List

/-- The number of a hold that a completion carries is its issuer's. What is about to be sent is for
the current hold. -/
def CompletionTask.Own (task : CompletionTask) (holdSeq : Nat) : Prop :=
  match task.phase with
  | .load => True
  | .check holdId => holdId = task.completion.issuer
  | .send => task.completion.issuer = holdSeq

/-- A result that ends a hold. -/
def HandlerResult.isFinal : HandlerResult → Bool
  | .hold | .holdWithTimeout _ _ => false
  | _ => true

/-- The result of a timeout in this phase. -/
def ChainPhase.onTimeout : ChainPhase → Option HandlerResult
  | .spawn timeout | .hold timeout _ | .callback timeout _ => timeout.map (·.onTimeout)
  | _ => none

/-- The current handler keeps the player. -/
def ChainPhase.keeps : ChainPhase → Bool
  | .enter | .spawn _ | .hold _ _ | .callback _ _ => true
  | _ => false

namespace HandlerChain

/-! ### Steps -/

/-- What happens in a step. -/
inductive Step (s : HandlerChain) : ChainEvent → HandlerChain → Prop where
  | idle (event now keepalive) : Step s event { s with now, keepalive }
  | handleComplete (holdId result) :
    Step s (.handleComplete holdId result) { s with
      tasks := s.tasks.insert s.count ⟨⟨result, holdId⟩, .check holdId⟩, count := s.count + 1 }
  | sessionComplete (handler result) :
    Step s (.sessionComplete handler result) { s with
      tasks := s.tasks.insert s.count ⟨⟨result, handler⟩, .load⟩, count := s.count + 1 }
  | load (id completion) (h : s.tasks.lookup id = some ⟨completion, .load⟩) :
    Step s (.complete id) { s with tasks := s.tasks.insert id ⟨completion, .check s.holdSeq⟩ }
  | check (id completion) (h : s.tasks.lookup id = some ⟨completion, .check s.holdSeq⟩) :
    Step s (.complete id) { s with tasks := s.tasks.insert id ⟨completion, .send⟩ }
  | drop (id) : Step s (.complete id) { s with tasks := s.tasks.erase id }
  | send (id completion) (h : s.tasks.lookup id = some ⟨completion, .send⟩) :
    Step s (.complete id) { s with tasks := s.tasks.erase id, unread := some completion }
  | beginHandler (handler left) (hph : s.phase = .next) (hleft : s.left = handler :: left) :
    Step s .beginHandler { s with left, holdSeq := s.holdSeq + 1, phase := .enter }
  | finish (hph : s.phase = .next) (hleft : s.left = []) : Step s .beginHandler (s.exit .completed)
  /-- The handler keeps the player. A new timeout has a final result. -/
  | keep (event phase spawnSent) (hkeeps : phase.keeps = true)
    (htime : ∀ result, phase.onTimeout = some result →
      s.phase.onTimeout = some result ∨ result.isFinal = true) :
    Step s event { s with phase, spawnSent }
  /-- The connection ends, or the limbo. -/
  | exit (event keepalive result)
    (h : result ≠ .completed) : Step s event ({ s with keepalive }.exit result)
  | returned (event) : Step s event (s.pass .returned)
  | completed (event completion) (h : s.unread = some completion) :
    Step s event
      ({ s with unread := none, ended := (s.holdSeq, completion.issuer) :: s.ended }.afterHold
        completion.result (.completed completion.issuer))
  | timedOut (event result)
    (h : s.phase.onTimeout = some result) : Step s event (s.afterHold result .timedOut)

variable {s s' : HandlerChain} {event : ChainEvent}

variable {timeout : Option HoldTimeout} {result : HandlerResult} {handlers : List String}

theorem holdStep_inv {since} (hph : s.phase = .hold timeout since)
    (h : s.holdStep timeout since event = some s') : Step s event s' := by
  unfold holdStep at h
  split at h
  case h_1 =>
    cases h
    exact .idle _ s.now _
  case h_3 =>
    cases h
    exact .keep _ _ s.spawnSent rfl fun _ h => .inl (hph ▸ h)
  case h_2 | h_4 =>
    cases h
    exact .idle _ s.now s.keepalive
  case h_5 | h_9 =>
    cases h
    exact .exit _ s.keepalive _ (by decide)
  case h_6 =>
    cases h
    split
    · exact .idle _ s.now s.keepalive
    · exact .exit _ s.keepalive _ (by decide)
  case h_7 =>
    cases h
    unfold keepaliveTick
    dsimp only
    split
    · split
      · exact .exit _ _ _ (by decide)
      · split
        · exact .idle _ s.now _
        · exact .exit _ _ _ (by decide)
    · exact .idle _ s.now _
    · exact .exit _ _ _ (by decide)
  case h_8 =>
    obtain ⟨completion, hunread, rfl⟩ := Option.map_eq_some_iff.mp h
    exact .completed _ completion hunread
  case h_10 =>
    obtain ⟨timeout, rfl, hdue⟩ := Option.bind_eq_some_iff.mp h
    split at hdue <;> cases hdue
    exact .timedOut _ _ (by rw [hph]; rfl)
  case h_11 => cases h

theorem exit_ne_completed {exit} (h : processHandlerResult result = .exit exit) :
    exit ≠ .completed := by
  cases result <;> cases h <;> exact nofun

/-- A nested hold at a timeout is replaced. -/
theorem onTimeout_of_hold (h : processHandlerResult result = .hold timeout) {onTimeout}
    (htime : timeout.map (·.onTimeout) = some onTimeout) : onTimeout.isFinal = true := by
  cases result with
  | holdWithTimeout after nested =>
    cases h
    cases htime
    cases nested <;> rfl
  | hold =>
    cases h
    cases htime
  | _ => cases h

theorem chainStep_inv (h : s.chainStep event = some s') : Step s event s' := by
  unfold chainStep at h
  split at h
  case h_1 hph =>
    cases h
    unfold beginHandler
    split
    · exact .finish hph ‹_›
    · exact .beginHandler _ _ hph ‹_›
  case h_2 result hph =>
    cases h
    unfold afterEnter
    split
    case h_1 => exact .returned _
    case h_2 hexit => exact .exit _ s.keepalive _ (exit_ne_completed hexit)
    case h_3 timeout hhold =>
      split <;> exact .keep _ _ s.spawnSent rfl fun _ h => .inr (onTimeout_of_hold hhold h)
  case h_3 hph =>
    cases h
    unfold afterSpawn
    split
    · exact .keep _ _ true rfl fun _ h => .inl (hph ▸ h)
    · exact .exit _ s.keepalive _ (by decide)
  case h_4 hph => exact holdStep_inv hph h
  case h_5 hph =>
    cases h
    exact .keep _ _ s.spawnSent rfl fun _ h => .inl (hph ▸ h)
  case h_6 => cases h

theorem startCompletion_inv {issuer phase} (h : s.startCompletion issuer result phase = some s') :
    s' = { s with
      tasks := s.tasks.insert s.count ⟨⟨result, issuer⟩, phase⟩, count := s.count + 1 } := by
  unfold startCompletion at h
  split at h
  · exact (Option.some.inj h).symm
  · cases h

theorem step_inv (h : s.step event = some s') : Step s event s' := by
  unfold step at h
  split at h
  case h_1 =>
    cases h
    exact .idle _ _ s.keepalive
  case h_2 =>
    obtain rfl := startCompletion_inv h
    exact .handleComplete _ _
  case h_3 =>
    obtain rfl := startCompletion_inv h
    exact .sessionComplete _ _
  case h_4 =>
    obtain ⟨⟨completion, phase⟩, htask, rfl⟩ := Option.map_eq_some_iff.mp h
    cases phase with
    | load => exact .load _ _ htask
    | check holdId =>
      unfold completionStep
      dsimp only
      split
      case isTrue hcur =>
        subst hcur
        exact .check _ _ htask
      case isFalse => exact .drop _
    | send => exact .send _ _ htask
  case h_5 => exact chainStep_inv h

/-! ### Whose completion ends a hold -/

section Definitions

variable (s : HandlerChain)

/-- When a handler begins, no completion is unread or about to be sent. Only the current handler
completes without the number of its hold. -/
def OwnHold : ChainEvent → Prop
  | .beginHandler => s.left ≠ [] → s.unread = none ∧
      ∀ id task, s.tasks.lookup id = some task → task.phase ≠ .send
  | .complete id => ∀ task, s.tasks.lookup id = some task → task.phase = .load →
      task.completion.issuer = s.holdSeq
  | _ => True

instance : DecidablePred s.OwnHold := by
  intro event
  unfold OwnHold
  split <;> infer_instance

def OwnStep (event : ChainEvent) (s' : HandlerChain) : Prop :=
  s.OwnHold event ∧ s.step event = some s'

structure OwnInv : Prop where
  unread : ∀ completion, s.unread = some completion → completion.issuer = s.holdSeq
  tasks : ∀ id task, s.tasks.lookup id = some task → task.Own s.holdSeq
  ended : ∀ hold issuer, (hold, issuer) ∈ s.ended → issuer = hold
  passed : ∀ hold issuer, (hold, .completed issuer) ∈ s.passed → issuer = hold

end Definitions

theorem ownInv_new (handlers) : (new handlers).OwnInv where
  unread := nofun
  tasks := nofun
  ended := nofun
  passed := nofun

variable {id : Nat} {task : CompletionTask}

namespace OwnInv

/-- One more task, or the next step of one. -/
theorem insertTask {count : Nat} (hs : s.OwnInv) (htask : task.Own s.holdSeq) :
    OwnInv { s with tasks := s.tasks.insert id task, count } :=
  { hs with tasks := Dict.forall_insert hs.tasks htask }

theorem eraseTask (hs : s.OwnInv) : OwnInv { s with tasks := s.tasks.erase id } :=
  { hs with tasks := fun n task h => hs.tasks n task (Dict.lookup_erase_inv h).2 }

variable {passage : Passage}

/-- The handler lets the player pass, and if by a completion, by its own. -/
theorem pass (hs : s.OwnInv) (hown : ∀ issuer, passage = .completed issuer → issuer = s.holdSeq) :
    (s.pass passage).OwnInv := by
  refine { hs with passed := fun hold issuer h => ?_ }
  obtain h | h := mem_cons.mp h
  · cases h
    exact hown issuer rfl
  · exact hs.passed hold issuer h

theorem afterHold (hs : s.OwnInv)
    (hown : ∀ issuer, passage = .completed issuer → issuer = s.holdSeq) :
    (s.afterHold result passage).OwnInv := by
  unfold HandlerChain.afterHold
  split
  · exact hs.pass hown
  all_goals exact { hs with }

end OwnInv

theorem ownStep_inv (h : s.OwnStep event s') (hs : s.OwnInv) : s'.OwnInv := by
  obtain ⟨hown, hstep⟩ := h
  cases step_inv hstep with
  | idle | keep | finish | exit => exact { hs with }
  | handleComplete holdId result => exact hs.insertTask rfl
  | sessionComplete handler result => exact hs.insertTask trivial
  | load id completion htask => exact hs.insertTask (hown _ htask rfl).symm
  | check id completion htask =>
    have hissuer : s.holdSeq = completion.issuer := hs.tasks id _ htask
    exact hs.insertTask hissuer.symm
  | drop id => exact hs.eraseTask
  | send id completion htask =>
    refine { hs.eraseTask with unread := fun sent h => ?_ }
    cases h
    exact hs.tasks id _ htask
  | beginHandler handler left hph hleft =>
    -- the next handler begins with nothing on its way
    obtain ⟨hunread, hsending⟩ := hown (by rw [hleft]; exact cons_ne_nil _ _)
    refine { hs with
      unread := fun completion h => nomatch hunread.symm.trans h
      tasks := fun id task htask => ?_ }
    have hcarried := hs.tasks id task htask
    obtain ⟨completion, _ | holdId | _⟩ := task
    · trivial
    · exact hcarried
    · exact absurd rfl (hsending id _ htask)
  | returned => exact hs.pass nofun
  | completed _ completion hunread =>
    have hissuer : completion.issuer = s.holdSeq := hs.unread completion hunread
    refine OwnInv.afterHold { hs with
      unread := nofun, ended := fun hold issuer h => ?_ } fun issuer h => ?_
    · obtain h | h := mem_cons.mp h
      · cases h
        exact hissuer
      · exact hs.ended hold issuer h
    · cases h
      exact hissuer
  | timedOut => exact hs.afterHold nofun

/-- In a run in which each handler begins with no completion on its way, and only the current
handler completes without the number of its hold, a hold is ended by a completion only if it was
issued through that hold. -/
theorem ended_by_own_completion {handlers : List String} {events : List ChainEvent}
    (hrun : Run OwnStep (new handlers) events s) :
    ∀ hold issuer, (hold, issuer) ∈ s.ended → issuer = hold :=
  (hrun.invariant (fun _ _ _ h => ownStep_inv h) (ownInv_new handlers)).ended

/-- The handler of the first hold denies the player at the moment of the timeout, which lets them
pass. The channel keeps the denial. -/
def deniedAtTimeout : List ChainEvent :=
  [.beginHandler, .entered (.holdWithTimeout 30000 .accept), .spawned true, .tick 30000,
    .handleComplete 1 (.deny "Queue is full"), .complete 0, .complete 0, .timedOut]

/-- The second handler holds the player, and the denial of the first one ends its hold. -/
theorem completion_of_earlier_handler :
    ∃ s, Run (fun s event s' => s.step event = some s') (new ["queue", "auth"])
        (deniedAtTimeout ++ [.beginHandler, .entered .hold, .completed]) s ∧
      s.ended = [(2, 1)] ∧ s.phase = .done (.kick "Queue is full") := by
  exact exists_run (fun _ _ _ h => h) (by decide)

/-- Both handlers hold the player and complete in time. -/
theorem ended_by_own_completion_twice :
    ∃ s, Run OwnStep (new ["queue", "auth"])
        [.beginHandler, .entered .hold, .spawned true, .handleComplete 1 .accept, .complete 0,
          .complete 0, .completed, .beginHandler, .entered .hold, .sessionComplete 2 .accept,
          .complete 1, .complete 1, .complete 1, .completed, .beginHandler] s ∧
      s.ended = [(2, 2), (1, 1)] ∧ ∀ hold issuer, (hold, issuer) ∈ s.ended → issuer = hold := by
  exact exists_run_guarded (P := fun s => s.ended = [(2, 2), (1, 1)]) (by decide)
    fun s hrun hended => ⟨hended, ended_by_own_completion hrun⟩

/-! ### With what a hold ends -/

/-- Nobody completes a hold with another hold. -/
def CompletesFinally (_ : HandlerChain) : ChainEvent → Prop
  | .handleComplete _ result | .sessionComplete _ result => result.isFinal = true
  | _ => True

instance (s : HandlerChain) : DecidablePred s.CompletesFinally := by
  intro event
  unfold CompletesFinally
  split <;> infer_instance

def FinalStep (s : HandlerChain) (event : ChainEvent) (s' : HandlerChain) : Prop :=
  s.CompletesFinally event ∧ s.step event = some s'

structure FinalInv (s : HandlerChain) : Prop where
  reached : s.phase ≠ .unreachable
  timeout : ∀ result, s.phase.onTimeout = some result → result.isFinal = true
  unread : ∀ completion, s.unread = some completion → completion.result.isFinal = true
  tasks : ∀ id task, s.tasks.lookup id = some task → task.completion.result.isFinal = true

theorem finalInv_new (handlers) : (new handlers).FinalInv where
  reached := nofun
  timeout := nofun
  unread := nofun
  tasks := nofun

theorem not_hold_of_isFinal (h : result.isFinal = true) :
    processHandlerResult result ≠ .hold timeout := by
  cases result with
  | hold | holdWithTimeout after onTimeout => cases h
  | _ => exact nofun

namespace FinalInv

theorem insertTask {count : Nat} (hs : s.FinalInv) (htask : task.completion.result.isFinal = true) :
    FinalInv { s with tasks := s.tasks.insert id task, count } :=
  { hs with tasks := Dict.forall_insert hs.tasks htask }

theorem eraseTask (hs : s.FinalInv) : FinalInv { s with tasks := s.tasks.erase id } :=
  { hs with tasks := fun n task h => hs.tasks n task (Dict.lookup_erase_inv h).2 }

theorem afterHold {passage} (hs : s.FinalInv) (hfinal : result.isFinal = true) :
    (s.afterHold result passage).FinalInv := by
  unfold HandlerChain.afterHold
  split
  case h_1 | h_2 =>
    exact { hs with reached := nofun, timeout := fun _ h => nomatch h }
  case h_3 => exact absurd ‹_› (not_hold_of_isFinal hfinal)

end FinalInv

theorem finalStep_inv (h : s.FinalStep event s') (hs : s.FinalInv) : s'.FinalInv := by
  obtain ⟨hfinal, hstep⟩ := h
  cases step_inv hstep with
  | idle => exact { hs with }
  | handleComplete | sessionComplete => exact hs.insertTask hfinal
  | load id _ htask | check id _ htask => exact hs.insertTask (hs.tasks id _ htask :)
  | drop id => exact hs.eraseTask
  | send id completion htask =>
    refine { hs.eraseTask with unread := fun sent h => ?_ }
    cases h
    exact hs.tasks id _ htask
  | beginHandler | finish | exit | returned =>
    exact { hs with reached := nofun, timeout := fun _ h => nomatch h }
  | keep _ phase spawnSent hkeeps htime =>
    refine { hs with reached := ?_, timeout := fun r hr => (htime r hr).elim (hs.timeout r) id }
    rintro rfl
    cases hkeeps
  | completed _ completion hunread =>
    exact FinalInv.afterHold { hs with unread := fun _ h => nomatch h }
      (hs.unread completion hunread)
  | timedOut _ result htime => exact hs.afterHold (hs.timeout result htime)

/-- In a run in which nobody completes a hold with Hold or HoldWithTimeout, `unreachable!` is not
reached, whatever the handlers return and whatever their timeouts are. -/
theorem never_unreachable {handlers : List String} {events : List ChainEvent}
    (hrun : Run FinalStep (new handlers) events s) : s.phase ≠ .unreachable :=
  (hrun.invariant (fun _ _ _ h => finalStep_inv h) (finalInv_new handlers)).reached

/-- A guest's handler holds the player, and completes with Hold when they send a message. -/
theorem completed_with_hold :
    ∃ s, Run (fun s event s' => s.step event = some s') (new ["guest"])
        [.beginHandler, .entered (handlerResultFromWit .hold), .spawned true, .frame .message,
          .sessionComplete 1 (handlerResultFromWit .hold), .complete 0, .complete 0, .complete 0,
          .returned, .completed] s ∧
      s.phase = .unreachable := by
  exact exists_run (fun _ _ _ h => h) (by decide)

/-- The guest accepts instead. A hold with a timeout in a timeout does no harm. -/
theorem never_unreachable_accepted :
    ∃ s, Run FinalStep (new ["guest"])
        [.beginHandler, .entered (.holdWithTimeout 30000 (.holdWithTimeout 30000 .accept)),
          .spawned true, .frame .message, .sessionComplete 1 (handlerResultFromWit .accept),
          .complete 0, .complete 0, .complete 0, .returned, .completed] s ∧
      s.phase = .next ∧ s.phase ≠ .unreachable := by
  exact exists_run_guarded (P := fun s => s.phase = .next) (by decide)
    fun s hrun hnext => ⟨hnext, never_unreachable hrun⟩

/-! ### Who has let the player pass -/

/-- How many handlers have let the player pass. -/
def passedCount (s : HandlerChain) : Nat :=
  match s.phase with
  | .next | .done .completed => s.holdSeq
  | _ => s.holdSeq - 1

structure PassedInv (handlers : List String) (s : HandlerChain) : Prop where
  count : s.holdSeq + s.left.length = handlers.length
  passed : ∀ k, 1 ≤ k → k ≤ s.passedCount → ∃ passage, (k, passage) ∈ s.passed
  finished : s.phase = .done .completed → s.left = []

namespace PassedInv

variable {handlers : List String}

theorem passedCount_le (s : HandlerChain) : s.holdSeq - 1 ≤ s.passedCount := by
  unfold passedCount
  split <;> omega

/-- The current handler goes on, or the chain ends without it. -/
theorem within (hs : s.PassedInv handlers) (hleft : s'.left = s.left)
    (hholdSeq : s'.holdSeq = s.holdSeq) (hpass : s'.passed = s.passed)
    (hnext : s'.phase ≠ .next) (hdone : s'.phase ≠ .done .completed) :
    s'.PassedInv handlers where
  count := by rw [hholdSeq, hleft]; exact hs.count
  passed k hpos hk := by
    rw [hpass]
    refine hs.passed k hpos (Nat.le_trans hk (Nat.le_trans ?_ (passedCount_le s)))
    unfold passedCount
    split
    · contradiction
    · contradiction
    · rw [hholdSeq]
  finished h := absurd h hdone

variable {passage : Passage} {result : HandlerResult}

/-- The current handler lets the player pass. -/
theorem pass (hs : s.PassedInv handlers) : (s.pass passage).PassedInv handlers where
  count := hs.count
  passed k hpos hk := by
    have hk : k ≤ s.holdSeq := hk
    by_cases hcur : k = s.holdSeq
    · exact ⟨passage, by rw [hcur]; exact mem_cons_self⟩
    · obtain ⟨earlier, hmem⟩ := hs.passed k hpos (by have := passedCount_le s; omega)
      exact ⟨earlier, mem_cons_of_mem _ hmem⟩
  finished h := nomatch h

theorem afterHold (hs : s.PassedInv handlers) :
    (s.afterHold result passage).PassedInv handlers := by
  unfold HandlerChain.afterHold
  split
  case h_1 => exact hs.pass
  case h_2 exit hexit =>
    refine hs.within rfl rfl rfl nofun fun h => ?_
    exact exit_ne_completed hexit (ChainPhase.done.inj h)
  case h_3 => exact hs.within rfl rfl rfl nofun nofun

end PassedInv

theorem passedInv_step (h : s.step event = some s') (hs : s.PassedInv handlers) :
    s'.PassedInv handlers := by
  cases step_inv h with
  | idle | handleComplete | sessionComplete | load | check | drop | send => exact { hs with }
  | beginHandler handler left hph hleft =>
    have hcount : s.passedCount = s.holdSeq := by rw [passedCount, hph]
    refine ⟨?_, fun k hpos hk => hs.passed k hpos (hcount.symm ▸ hk), nofun⟩
    have := hs.count
    rw [hleft, length_cons] at this
    show s.holdSeq + 1 + left.length = handlers.length
    omega
  | finish hph hleft =>
    have hcount : s.passedCount = s.holdSeq := by rw [passedCount, hph]
    exact ⟨hs.count, fun k hpos hk => hs.passed k hpos (hcount.symm ▸ hk), fun _ => hleft⟩
  | keep _ phase spawnSent hkeeps =>
    refine hs.within rfl rfl rfl ?_ ?_ <;>
    · rintro rfl
      cases hkeeps
  | exit _ keepalive result hres =>
    exact hs.within rfl rfl rfl nofun fun h => hres (ChainPhase.done.inj h)
  | returned => exact hs.pass
  | completed => exact PassedInv.afterHold { hs with }
  | timedOut => exact hs.afterHold

/-- A chain that completes has been through all of its handlers, and each has let the player pass,
by itself if no completion strays into the hold of another handler. -/
theorem completed_passed {events}
    (hrun : Run OwnStep (new handlers) events s) (hdone : s.phase = .done .completed)
    {k} (hpos : 1 ≤ k) (hk : k ≤ handlers.length) :
    ∃ passage, (k, passage) ∈ s.passed ∧ ∀ issuer, passage = .completed issuer → issuer = k := by
  have hnew : (new handlers).PassedInv handlers :=
    ⟨Nat.zero_add _, fun k hpos hk => absurd hpos (Nat.not_le_of_lt (Nat.lt_succ_of_le hk)), nofun⟩
  have hinv : s.PassedInv handlers :=
    hrun.invariant (I := PassedInv handlers) (fun _ _ _ h => passedInv_step h.2) hnew
  have hown := hrun.invariant (fun _ _ _ h => ownStep_inv h) (ownInv_new handlers)
  have hcount : s.passedCount = handlers.length := by
    have := hinv.count
    rw [hinv.finished hdone, length_nil] at this
    rw [passedCount, hdone]
    exact this
  obtain ⟨passage, hmem⟩ := hinv.passed k hpos (hcount.symm ▸ hk)
  refine ⟨passage, hmem, fun issuer hissuer => ?_⟩
  exact hown.passed k issuer (hissuer ▸ hmem)

end HandlerChain

end Infrarust.Limbo
