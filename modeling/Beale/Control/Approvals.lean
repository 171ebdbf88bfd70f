import Beale.Control.Stream
import Beale.Library.Ledger

/-!
# Approvals fail closed

A call that waits for an approval is answered once. It is approved only by a line
that says so while it waits, and nothing waits on a stream that can no longer
answer.

- `ApprovalsFailClosed`, `reached_approvalsFailClosed`: the result.
- `blank_wait_rejects_after_stop`: a call with an unusable id is not denied but
  rejected, whatever the state of the stream.
-/

namespace Beale.Control

open Beale.Library

/-- The calls of one kind, in the order they were made. -/
def askedCalls (kind : ApprovalKind) (log : List Observation) : List Nat :=
  log.filterMap fun o => match o with
    | .asked k call _ => if k = kind then some call else none
    | _ => none

def settledCalls (kind : ApprovalKind) (log : List Observation) : List Nat :=
  log.filterMap fun o => match o with
    | .settled k call _ => if k = kind then some call else none
    | _ => none

/-- The calls whose waiters are registered. -/
def ControlStream.pendingCalls (s : ControlStream) (kind : ApprovalKind) : List Nat :=
  (s.approvalWaiters kind).values.map ApprovalWaiter.call

/-- A call is approved right after a line has taken effect that approves the request the
call waits for. -/
def ApprovedByLine (earlier : List Observation) : Observation → Prop
  | .settled kind call (.resolved .approved _) =>
    ∃ before requestId id, earlier = before ++ [.began ⟨requestId, .resolveApproval kind id .approved⟩]
      ∧ (∃ asked, .asked kind call asked ∈ before ∧ trim asked = id.1)
      ∧ call ∉ settledCalls kind before
  | _ => True

theorem askedCalls_append (kind : ApprovalKind) (log os : List Observation) :
    askedCalls kind (log ++ os) = askedCalls kind log ++ askedCalls kind os :=
  List.filterMap_append

theorem settledCalls_append (kind : ApprovalKind) (log os : List Observation) :
    settledCalls kind (log ++ os) = settledCalls kind log ++ settledCalls kind os :=
  List.filterMap_append

/-! ## The books of the approval calls -/

/-- Every call is settled once or pending; every waiter is registered under the id it was
asked for; every approval was granted by a line. -/
structure ApprovalBooks (s : ControlStream) : Prop where
  numbered : ∀ kind, ∀ call ∈ askedCalls kind s.log, call < s.calls
  balanced : ∀ kind,
    Balanced (askedCalls kind s.log) (settledCalls kind s.log) (s.pendingCalls kind)
  registered : ∀ kind id w, (s.approvalWaiters kind).get? id = some w →
    ∃ asked, .asked kind w.call asked ∈ s.log ∧ trim asked = id
  approved : EachAfter ApprovedByLine s.log

namespace ControlStream

/-- What approvals depend on, beside the calls and the log. -/
def approvalView (s : ControlStream) :=
  (s.shellApprovalWaiters, s.toolApprovalWaiters, s.started, s.inputEnded, s.stopped,
    s.abortedSignals)

/-- The two states differ in nothing that concerns approvals. -/
structure SteeringOnly (s s' : ControlStream) : Prop where
  view : s'.approvalView = s.approvalView
  calls : s.calls ≤ s'.calls
  log : ∃ os, s'.log = s.log ++ os ∧ ∀ o ∈ os, ¬o.OfApproval

theorem SteeringOnly.refl (s : ControlStream) : SteeringOnly s s :=
  ⟨rfl, Nat.le_refl _, [], by simp, by simp⟩

variable {s s' : ControlStream}

theorem SteeringOnly.trans {s'' : ControlStream} (h : SteeringOnly s s')
    (h' : SteeringOnly s' s'') : SteeringOnly s s'' where
  view := h'.view.trans h.view
  calls := Nat.le_trans h.calls h'.calls
  log := extends_trans h.log h'.log

theorem SteeringOnly.write (hview : s'.approvalView = s.approvalView)
    (hcalls : s.calls ≤ s'.calls) (hlog : s'.log = s.log) : SteeringOnly s s' :=
  ⟨hview, hcalls, [], by simp [hlog], by simp⟩

/-- Writing such fields, and logging something else than an approval. -/
theorem SteeringOnly.log_one {o : Observation} (ho : ¬o.OfApproval)
    (hview : s'.approvalView = s.approvalView) (hcalls : s.calls ≤ s'.calls)
    (hlog : s'.log = s.log ++ [o]) : SteeringOnly s s' :=
  ⟨hview, hcalls, [o], hlog, by simpa using ho⟩

theorem began_steeringOnly (s : ControlStream) (message : ControlMessage) :
    SteeringOnly s (s.observe (.began message)) :=
  .log_one (o := .began message) id rfl (Nat.le_refl _) rfl

theorem queueSteering_steeringOnly (s : ControlStream) (requestId : Option RequestId)
    (instruction : JsString) (modelSelection : Option ModelSelection) :
    SteeringOnly s (s.queueSteering requestId instruction modelSelection) :=
  .log_one (o := .queued requestId instruction) id rfl (Nat.le_refl _) rfl

theorem unqueueSteering_steeringOnly (s : ControlStream) (target : RequestId)
    (instruction : JsString) : SteeringOnly s (s.unqueueSteering target instruction) :=
  .log_one (o := .unqueued target _) id rfl (Nat.le_refl _) rfl

theorem approvalWaiters_of_view (h : s'.approvalView = s.approvalView)
    (kind : ApprovalKind) : s'.approvalWaiters kind = s.approvalWaiters kind := by
  cases kind with
  | shell => exact congrArg Prod.fst h
  | tool => exact congrArg (·.2.1) h

theorem approvalWaiters_withApprovalWaiters (s : ControlStream) (kind kind' : ApprovalKind)
    (waiters : JsMap JsString ApprovalWaiter) :
    (s.withApprovalWaiters kind waiters).approvalWaiters kind'
      = if kind' = kind then waiters else s.approvalWaiters kind' := by
  cases kind <;> cases kind' <;> rfl

section

variable (kind kind' : ApprovalKind) (log : List Observation) (call : Nat)

theorem settledCalls_concat (settlement : Settlement) :
    settledCalls kind' (log ++ [.settled kind call settlement])
      = settledCalls kind' log ++ if kind = kind' then [call] else [] := by
  rw [settledCalls_append]
  by_cases hk : kind = kind' <;> simp [settledCalls, hk]

theorem askedCalls_concat (id : JsString) : askedCalls kind' (log ++ [.asked kind call id])
      = askedCalls kind' log ++ if kind = kind' then [call] else [] := by
  rw [askedCalls_append]
  by_cases hk : kind = kind' <;> simp [askedCalls, hk]

end

theorem new_approvalBooks (initial : List (RequestId × JsString)) : ApprovalBooks (new initial) where
  numbered := by simp [new, askedCalls]
  balanced kind := by cases kind <;> exact Balanced.nil
  registered kind id w h := by cases kind <;> cases h
  approved := eachAfter_nil _

theorem SteeringOnly.books (h : SteeringOnly s s') (hs : ApprovalBooks s) : ApprovalBooks s' := by
  obtain ⟨os, hlog, hos⟩ := h.log
  have hasked : ∀ kind, askedCalls kind s'.log = askedCalls kind s.log := by
    intro kind
    rw [hlog, askedCalls_append]
    refine (List.append_right_eq_self).mpr (List.filterMap_eq_nil_iff.mpr fun o ho => ?_)
    have hnot := hos o ho
    cases o <;> first | rfl | exact absurd trivial hnot
  have hdone : ∀ kind, settledCalls kind s'.log = settledCalls kind s.log := by
    intro kind
    rw [hlog, settledCalls_append]
    refine (List.append_right_eq_self).mpr (List.filterMap_eq_nil_iff.mpr fun o ho => ?_)
    have hnot := hos o ho
    cases o <;> first | rfl | exact absurd trivial hnot
  refine ⟨?_, ?_, ?_, ?_⟩
  · intro kind call hcall
    rw [hasked] at hcall
    exact Nat.lt_of_lt_of_le (hs.numbered kind call hcall) h.calls
  · intro kind
    rw [hasked, hdone, pendingCalls, approvalWaiters_of_view h.view]
    exact hs.balanced kind
  · intro kind id w hw
    rw [approvalWaiters_of_view h.view] at hw
    obtain ⟨asked, hmem, hid⟩ := hs.registered kind id w hw
    exact ⟨asked, hlog ▸ List.mem_append_left _ hmem, hid⟩
  · rw [hlog]
    refine hs.approved.append fun o ho earlier => ?_
    have hnot := hos o ho
    cases o <;> first | trivial | exact absurd trivial hnot

variable {kind : ApprovalKind} {id : JsString} {w : ApprovalWaiter}

theorem settle_approvalBooks (hs : ApprovalBooks s) (hw : (s.approvalWaiters kind).get? id = some w)
    (settlement : Settlement) (happroved : ApprovedByLine s.log (.settled kind w.call settlement)) :
    ApprovalBooks ((s.withApprovalWaiters kind ((s.approvalWaiters kind).delete id)).observe
      (.settled kind w.call settlement)) := by
  have hlog : ((s.withApprovalWaiters kind ((s.approvalWaiters kind).delete id)).observe
      (.settled kind w.call settlement)).log = s.log ++ [.settled kind w.call settlement] := by
    cases kind <;> rfl
  have hcalls : ((s.withApprovalWaiters kind ((s.approvalWaiters kind).delete id)).observe
      (.settled kind w.call settlement)).calls = s.calls := by
    cases kind <;> rfl
  have hwaiters : ∀ kind', ((s.withApprovalWaiters kind ((s.approvalWaiters kind).delete id)).observe
      (.settled kind w.call settlement)).approvalWaiters kind'
        = if kind' = kind then (s.approvalWaiters kind).delete id else s.approvalWaiters kind' :=
    fun kind' => approvalWaiters_withApprovalWaiters s kind kind' _
  have hasked : ∀ kind', askedCalls kind' (s.log ++ [.settled kind w.call settlement])
      = askedCalls kind' s.log := by
    intro kind'
    rw [askedCalls_append]
    exact List.append_nil _
  refine ⟨?_, ?_, ?_, ?_⟩
  · intro kind' call hcall
    rw [hlog, hasked] at hcall
    rw [hcalls]
    exact hs.numbered kind' call hcall
  · intro kind'
    rw [hlog, hasked, settledCalls_concat, pendingCalls, hwaiters]
    by_cases hk : kind = kind'
    · subst hk
      rw [if_pos rfl, if_pos rfl]
      refine (hs.balanced kind).discharge ?_ (.refl _)
      exact (JsMap.values_perm_of_get? hw).map ApprovalWaiter.call
    · rw [if_neg hk, if_neg (Ne.symm hk), List.append_nil]
      exact hs.balanced kind'
  · intro kind' id' w' hw'
    rw [hwaiters] at hw'
    have hold : (s.approvalWaiters kind').get? id' = some w' := by
      split at hw'
      · next hk =>
        rw [JsMap.get?_delete] at hw'
        split at hw'
        · cases hw'
        · rw [hk]
          exact hw'
      · exact hw'
    obtain ⟨asked, hmem, hid⟩ := hs.registered kind' id' w' hold
    exact ⟨asked, hlog ▸ List.mem_append_left _ hmem, hid⟩
  · rw [hlog]
    exact eachAfter_concat.mpr ⟨hs.approved, happroved⟩

theorem deny_approvalBooks (kind : ApprovalKind) (reason : JsString)
    (id : JsString) (hs : ApprovalBooks s) :
    ApprovalBooks (resolveApprovalWaiter kind .denied reason s id) := by
  rw [resolveApprovalWaiter]
  split
  · exact hs
  · next w hw => exact settle_approvalBooks hs hw _ trivial

theorem denyApprovals_approvalBooks (kind : ApprovalKind) (reason : JsString)
    (ids : List JsString) (hs : ApprovalBooks s) :
    ApprovalBooks (runSteps (resolveApprovalWaiter kind .denied reason) s ids) :=
  runSteps_invariant (fun _ id => deny_approvalBooks kind reason id) hs ids

theorem denyAllApprovals_approvalBooks (reason : ApprovalTexts → JsString)
    (hs : ApprovalBooks s) : ApprovalBooks (s.denyAllApprovals reason) :=
  denyApprovals_approvalBooks .tool _ _ (denyApprovals_approvalBooks .shell _ _ hs)

/-- What a new call adds to the asked calls, whose numbers stay below the counter. -/
theorem asked_numbered (hs : ApprovalBooks s) (kind kind' : ApprovalKind) (id : JsString) :
    ∀ call ∈ askedCalls kind' (s.log ++ [.asked kind s.calls id]), call < s.calls + 1 := by
  intro call hcall
  rw [askedCalls_concat] at hcall
  rcases List.mem_append.mp hcall with hcall | hcall
  · exact Nat.lt_succ_of_lt (hs.numbered kind' call hcall)
  · split at hcall
    · rw [List.mem_singleton.mp hcall]
      exact Nat.lt_succ_self _
    · cases hcall

theorem calls_not_asked (hs : ApprovalBooks s) (kind : ApprovalKind) :
    s.calls ∉ askedCalls kind s.log :=
  fun hmem => Nat.lt_irrefl _ (hs.numbered kind _ hmem)

theorem settleAtOnce_approvalBooks (hs : ApprovalBooks s) (kind : ApprovalKind)
    (id : JsString) {settlement : Settlement}
    (hdenied : ∀ reason, settlement ≠ .resolved .approved reason) :
    ApprovalBooks (({ s with calls := s.calls + 1 }.observe (.asked kind s.calls id)).observe
      (.settled kind s.calls settlement)) := by
  have hasked : ∀ kind', askedCalls kind' (s.log ++ [.asked kind s.calls id]
      ++ [.settled kind s.calls settlement]) = askedCalls kind' (s.log ++ [.asked kind s.calls id]) := by
    intro kind'
    rw [askedCalls_append _ (s.log ++ _)]
    exact List.append_nil _
  have hdone : ∀ kind', settledCalls kind' (s.log ++ [.asked kind s.calls id]
      ++ [.settled kind s.calls settlement])
        = settledCalls kind' s.log ++ if kind = kind' then [s.calls] else [] := by
    intro kind'
    rw [settledCalls_concat, settledCalls_append]
    exact congrArg (· ++ _) (List.append_nil _)
  refine ⟨?_, ?_, ?_, ?_⟩
  · intro kind' call hcall
    exact asked_numbered hs kind kind' id call (hasked kind' ▸ hcall)
  · intro kind'
    show Balanced (askedCalls kind' (s.log ++ [_] ++ [_])) (settledCalls kind' (s.log ++ [_] ++ [_]))
      (s.pendingCalls kind')
    rw [hasked, hdone, askedCalls_concat]
    by_cases hk : kind = kind'
    · subst hk
      rw [if_pos rfl]
      refine ((hs.balanced kind).open_item (calls_not_asked hs kind)).discharge ?_ (.refl _)
      exact List.perm_append_comm
    · rw [if_neg hk, List.append_nil, List.append_nil]
      exact hs.balanced kind'
  · intro kind' id' w hw
    obtain ⟨asked, hmem, hid⟩ := hs.registered kind' id' w hw
    exact ⟨asked, List.mem_append_left _ (List.mem_append_left _ hmem), hid⟩
  · refine eachAfter_concat.mpr ⟨eachAfter_concat.mpr ⟨hs.approved, trivial⟩, ?_⟩
    cases settlement with
    | rejected error => trivial
    | resolved decision reason =>
      cases decision with
      | approved => exact absurd rfl (hdenied reason)
      | denied => trivial

theorem register_approvalBooks (hs : ApprovalBooks s) (id : JsString) (signal : Option Nat)
    (hfree : (s.approvalWaiters kind).get? (trim id) = none) :
    ApprovalBooks (({ s with calls := s.calls + 1 }.observe
      (.asked kind s.calls id)).withApprovalWaiters kind
        ((s.approvalWaiters kind).set (trim id) ⟨s.calls, signal⟩)) := by
  have hlog : (({ s with calls := s.calls + 1 }.observe (.asked kind s.calls id)).withApprovalWaiters
      kind ((s.approvalWaiters kind).set (trim id) ⟨s.calls, signal⟩)).log
        = s.log ++ [.asked kind s.calls id] := by
    cases kind <;> rfl
  have hcalls : (({ s with calls := s.calls + 1 }.observe
      (.asked kind s.calls id)).withApprovalWaiters
        kind ((s.approvalWaiters kind).set (trim id) ⟨s.calls, signal⟩)).calls = s.calls + 1 := by
    cases kind <;> rfl
  have hwaiters : ∀ kind', (({ s with calls := s.calls + 1 }.observe
      (.asked kind s.calls id)).withApprovalWaiters kind
        ((s.approvalWaiters kind).set (trim id) ⟨s.calls, signal⟩)).approvalWaiters kind'
      = if kind' = kind then (s.approvalWaiters kind).set (trim id) ⟨s.calls, signal⟩
        else s.approvalWaiters kind' := by
    intro kind'
    rw [approvalWaiters_withApprovalWaiters]
    cases kind' <;> rfl
  refine ⟨?_, ?_, ?_, ?_⟩
  · intro kind' call hcall
    rw [hlog] at hcall
    rw [hcalls]
    exact asked_numbered hs kind kind' id call hcall
  · intro kind'
    have hdone : settledCalls kind' (s.log ++ [.asked kind s.calls id])
        = settledCalls kind' s.log := by
      rw [settledCalls_append]
      exact List.append_nil _
    rw [hlog, hdone, askedCalls_concat, pendingCalls, hwaiters]
    by_cases hk : kind = kind'
    · subst hk
      rw [if_pos rfl, if_pos rfl, JsMap.values_set_new _ hfree, List.map_append]
      exact (hs.balanced kind).open_item (calls_not_asked hs kind)
    · rw [if_neg hk, if_neg (Ne.symm hk), List.append_nil]
      exact hs.balanced kind'
  · intro kind' id' w hw
    rw [hwaiters] at hw
    rw [hlog]
    have old : (s.approvalWaiters kind').get? id' = some w →
        ∃ asked, .asked kind' w.call asked ∈ s.log ++ [.asked kind s.calls id] ∧
          trim asked = id' := by
      intro hold
      obtain ⟨asked, hmem, hid⟩ := hs.registered kind' id' w hold
      exact ⟨asked, List.mem_append_left _ hmem, hid⟩
    split at hw
    · next hk =>
      subst hk
      rw [JsMap.get?_set] at hw
      split at hw
      · next hid =>
        cases hw
        exact ⟨id, by simp, hid.symm⟩
      · exact old hw
    · exact old hw
  · rw [hlog]
    exact eachAfter_concat.mpr ⟨hs.approved, trivial⟩

theorem waitForApproval_approvalBooks (kind : ApprovalKind) (id : JsString)
    (signal : Option Nat) (hs : ApprovalBooks s) :
    ApprovalBooks (s.waitForApproval kind id signal) := by
  simp only [waitForApproval]
  split
  · exact settleAtOnce_approvalBooks hs kind id (by rintro _ ⟨⟩)
  · split
    · exact settleAtOnce_approvalBooks hs kind id (by rintro _ ⟨⟩)
    · next hfree =>
      split
      · exact settleAtOnce_approvalBooks hs kind id (by rintro _ ⟨⟩)
      · refine register_approvalBooks hs id signal ?_
        simpa [JsMap.has] using hfree

/-- The line that answers a request settles the call that waits for it. -/
theorem resolveApproval_approvalBooks (hs : ApprovalBooks s)
    (requestId : Option RequestId) (kind : ApprovalKind) (id : RequestId) (decision : Decision)
    (reason : JsString) :
    ApprovalBooks (resolveApprovalWaiter kind decision reason
      (s.observe (.began ⟨requestId, .resolveApproval kind id decision⟩)) id.1) := by
  have hbegan : ApprovalBooks (s.observe (.began ⟨requestId, .resolveApproval kind id decision⟩)) :=
    (began_steeringOnly s _).books hs
  rw [resolveApprovalWaiter]
  split
  · exact hbegan
  · next w hw =>
    refine settle_approvalBooks hbegan hw _ ?_
    cases decision with
    | denied => trivial
    | approved =>
      have hold : (s.approvalWaiters kind).get? id.1 = some w := by
        cases kind <;> exact hw
      refine ⟨s.log, requestId, id, rfl, hs.registered kind id.1 w hold, ?_⟩
      refine (hs.balanced kind).not_discharged (List.mem_map_of_mem ?_)
      exact List.mem_map_of_mem (JsMap.mem_of_get? hold)

/-! ## What the rest of the stream does -/

theorem resolveSteeringWaiters_steeringOnly (s : ControlStream) (instructions : List JsString) :
    SteeringOnly s (s.resolveSteeringWaiters instructions) := by
  rw [resolveSteeringWaiters]
  split
  · exact .refl s
  · exact .log_one (o := .handedOut _ _) id rfl (Nat.le_refl _) rfl

theorem drainSteering_steeringOnly (s : ControlStream) : SteeringOnly s s.drainSteering := by
  refine SteeringOnly.trans ?_ (resolveSteeringWaiters_steeringOnly _ _)
  exact .write rfl (Nat.le_refl _) rfl

variable {message : ControlMessage}

/-- A message stops the run, or answers an approval, or leaves the approvals alone. -/
theorem applyMessage_cases (h : s.applyMessage message = .ok s') :
    (∃ requestId, message = ⟨requestId, .stop⟩) ∨ (∃ requestId kind id decision reason,
      message = ⟨requestId, .resolveApproval kind id decision⟩ ∧
        s' = (s.observe (.began message)).resolveApprovalWaiter kind decision reason id.1) ∨
      SteeringOnly s s' := by
  -- a branch that changes other fields after the message is observed
  have began : ∀ {t : ControlStream}, t.approvalView = s.approvalView → s.calls ≤ t.calls →
      t.log = s.log ++ [.began message] → SteeringOnly s t :=
    fun hview hcalls hlog => .log_one (o := .began _) id hview hcalls hlog
  obtain ⟨requestId, body⟩ := message
  cases body with
  | pause | configure | configureShellSafety =>
    cases h; exact .inr (.inr (began rfl (Nat.le_refl _) rfl))
  | resume =>
    simp only [applyMessage] at h
    refine .inr (.inr ?_)
    split at h <;> cases h
    · refine SteeringOnly.trans ?_ (drainSteering_steeringOnly _)
      exact began rfl (Nat.le_refl _) rfl
    · exact began rfl (Nat.le_refl _) rfl
  | stop => exact .inl ⟨requestId, rfl⟩
  | removeSteering target =>
    simp only [applyMessage] at h
    split at h <;> cases h
    exact .inr (.inr ((began_steeringOnly s _).trans (unqueueSteering_steeringOnly _ target _)))
  | runbookExecute request =>
    simp only [applyMessage] at h
    split at h
    · cases h
    · split at h <;> cases h
      exact .inr (.inr (began rfl (Nat.le_refl _) rfl))
  | resolveApproval kind id decision =>
    simp only [applyMessage] at h
    split at h <;> cases h
    exact .inr (.inl ⟨requestId, kind, id, decision, _, rfl, rfl⟩)
  | steer instruction modelSelection =>
    have hqueue : SteeringOnly s ((s.observe
        (.began ⟨requestId, .steer instruction modelSelection⟩)).queueSteering requestId
          instruction modelSelection) :=
      (began_steeringOnly s _).trans (queueSteering_steeringOnly _ ..)
    simp only [applyMessage] at h
    refine .inr (.inr ?_)
    split at h <;> cases h
    · exact hqueue.trans (drainSteering_steeringOnly _)
    · exact hqueue

theorem continueCall_steeringOnly (s : ControlStream) (next : Continuation) :
    SteeringOnly s (s.continueCall next) := by
  have handOut : ∀ call, SteeringOnly s (s.returnSteering call) :=
    fun _ => .log_one (o := .handedOut _ _) id rfl (Nat.le_refl _) rfl
  cases next with
  | take call => exact handOut call
  | wait call signal =>
    simp only [continueCall]
    split
    · exact handOut call
    · split
      · exact .log_one (o := .handedOut _ _) id rfl (Nat.le_refl _) rfl
      · have hwait : SteeringOnly s
            { s with steeringWaiters := s.steeringWaiters ++ [⟨call, signal⟩] } :=
          .write rfl (Nat.le_refl _) rfl
        split
        · exact hwait.trans (drainSteering_steeringOnly _)
        · exact hwait

theorem waitUntilResumed_steeringOnly (s : ControlStream) (rest : Continuation) :
    SteeringOnly s ({ s with calls := s.calls + 1 }.waitUntilResumed rest) := by
  rw [waitUntilResumed]
  split <;> exact .write rfl (Nat.le_succ _) rfl

/-! ## Nothing waits on a stream that cannot answer -/

/-- No waiter is registered on a stream that is not started, ended or stopped, and none
that listens to an aborted signal. -/
structure NothingPending (s : ControlStream) : Prop where
  closed : s.started = false ∨ s.inputEnded = true ∨ s.stopped = true →
    ∀ kind id, (s.approvalWaiters kind).get? id = none
  aborted : ∀ kind id w signal, (s.approvalWaiters kind).get? id = some w →
    w.signal = some signal → signal ∉ s.abortedSignals

theorem NothingPending.of_view (hs : NothingPending s)
    (h : s'.approvalView = s.approvalView) : NothingPending s' where
  closed hflags kind id := by
    rw [approvalWaiters_of_view h]
    refine hs.closed ?_ kind id
    rwa [show s'.started = s.started from congrArg (·.2.2.1) h,
      show s'.inputEnded = s.inputEnded from congrArg (·.2.2.2.1) h,
      show s'.stopped = s.stopped from congrArg (·.2.2.2.2.1) h] at hflags
  aborted kind id w signal hw := by
    rw [approvalWaiters_of_view h] at hw
    rw [show s'.abortedSignals = s.abortedSignals from congrArg (·.2.2.2.2.2) h]
    exact hs.aborted kind id w signal hw

theorem resolveApprovals_waiters (kind kind' : ApprovalKind) (decision : Decision)
    (reason : JsString) (s : ControlStream) (ids : List JsString) :
    (runSteps (resolveApprovalWaiter kind decision reason) s ids).approvalWaiters kind'
      = if kind' = kind then (s.approvalWaiters kind).deleteAll ids
        else s.approvalWaiters kind' := by
  induction ids generalizing s with
  | nil => by_cases hk : kind' = kind <;> simp [hk, JsMap.deleteAll]
  | cons id rest ih =>
    have hone : ∀ kind', (resolveApprovalWaiter kind decision reason s id).approvalWaiters kind'
        = if kind' = kind then (s.approvalWaiters kind).delete id else s.approvalWaiters kind' := by
      intro kind'
      rw [resolveApprovalWaiter]
      split
      · next hnone =>
        split
        · next hk => rw [hk, JsMap.delete_of_none hnone]
        · rfl
      · exact approvalWaiters_withApprovalWaiters s kind kind' _
    rw [runSteps_cons, ih, hone, hone, if_pos rfl]
    split <;> rfl

theorem denyApprovalWaiters_none (s : ControlStream) (kind : ApprovalKind) (reason : JsString)
    (id : JsString) : ((s.denyApprovalWaiters kind reason).approvalWaiters kind).get? id = none := by
  rw [denyApprovalWaiters, resolveApprovals_waiters, if_pos rfl, JsMap.get?_deleteAll]
  split
  · rfl
  · next hid => exact JsMap.get?_eq_none.mpr hid

theorem denyAllApprovals_none (s : ControlStream) (reason : ApprovalTexts → JsString)
    (kind : ApprovalKind) (id : JsString) :
    ((s.denyAllApprovals reason).approvalWaiters kind).get? id = none := by
  rw [denyAllApprovals]
  cases kind with
  | shell =>
    rw [denyApprovalWaiters, resolveApprovals_waiters, if_neg (by decide)]
    exact denyApprovalWaiters_none s .shell _ id
  | tool => exact denyApprovalWaiters_none _ .tool _ id

theorem nothingPending_of_none
    (h : ∀ kind id, (s.approvalWaiters kind).get? id = none) : NothingPending s where
  closed _ := h
  aborted kind id w signal hw := by
    rw [h] at hw
    cases hw

theorem denyAllApprovals_nothingPending (s : ControlStream) (reason : ApprovalTexts → JsString) :
    NothingPending (s.denyAllApprovals reason) :=
  nothingPending_of_none (denyAllApprovals_none s reason)

theorem get?_of_resolveApprovals {kind' : ApprovalKind} {decision : Decision}
    {reason : JsString} {ids : List JsString}
    (hw : ((runSteps (resolveApprovalWaiter kind decision reason) s
      ids).approvalWaiters kind').get? id = some w) : (s.approvalWaiters kind').get? id = some w := by
  rw [resolveApprovals_waiters] at hw
  split at hw
  · next hk =>
    rw [JsMap.get?_deleteAll] at hw
    split at hw
    · cases hw
    · rw [hk]
      exact hw
  · exact hw

theorem resolveApprovals_nothingPending (kind : ApprovalKind)
    (decision : Decision) (reason : JsString) (ids : List JsString) (hs : NothingPending s) :
    NothingPending (runSteps (resolveApprovalWaiter kind decision reason) s ids) := by
  have happrovals := resolveApprovals_approvalsOnly kind decision reason s ids
  refine ⟨?_, ?_⟩
  · intro hflags kind' id
    rw [happrovals.read started fun _ _ _ _ _ => rfl,
      happrovals.read inputEnded fun _ _ _ _ _ => rfl,
      happrovals.read stopped fun _ _ _ _ _ => rfl] at hflags
    refine Option.eq_none_iff_forall_ne_some.mpr fun w hw => ?_
    have hold := get?_of_resolveApprovals hw
    rw [hs.closed hflags kind' id] at hold
    cases hold
  · intro kind' id w signal hw
    rw [happrovals.read abortedSignals fun _ _ _ _ _ => rfl]
    exact hs.aborted kind' id w signal (get?_of_resolveApprovals hw)

/-- The flags of a stream on which a new waiter is registered. -/
theorem unavailable_eq_false {signal : Option Nat} (h : s.unavailable signal = false) :
    s.started = true ∧ s.inputEnded = false ∧ s.stopped = false ∧
      ∀ id, signal = some id → id ∉ s.abortedSignals := by
  simp only [unavailable, Bool.or_eq_false_iff, Bool.not_eq_false'] at h
  refine ⟨h.1.1.1, h.1.1.2, h.2, ?_⟩
  rintro id rfl
  simpa using h.1.2

theorem waitForApproval_nothingPending (kind : ApprovalKind) (id : JsString)
    (signal : Option Nat) (hs : NothingPending s) :
    NothingPending (s.waitForApproval kind id signal) := by
  simp only [waitForApproval]
  split
  · exact hs.of_view rfl
  · split
    · exact hs.of_view rfl
    · split
      · exact hs.of_view rfl
      · next havailable =>
        obtain ⟨hstart, hended, hstop, hsignal⟩ :=
          unavailable_eq_false (by simpa using havailable)
        refine ⟨?_, ?_⟩
        · intro hflags
          exfalso
          cases kind <;> simp [withApprovalWaiters, observe, hstart, hended, hstop] at hflags
        · intro kind' id' w signal' hw hw'
          have habort : (({ s with calls := s.calls + 1 }.observe
              (.asked kind s.calls id)).withApprovalWaiters kind
                ((s.approvalWaiters kind).set (trim id) ⟨s.calls, signal⟩)).abortedSignals
              = s.abortedSignals := by
            cases kind <;> rfl
          rw [habort]
          rw [approvalWaiters_withApprovalWaiters] at hw
          split at hw
          · next hk =>
            rw [JsMap.get?_set] at hw
            split at hw
            · cases hw
              exact hsignal signal' hw'
            · exact hs.aborted kind id' w signal' hw hw'
          · refine hs.aborted kind' id' w signal' ?_ hw'
            cases kind' <;> exact hw

/-! ## Runs -/

/-- What every run keeps. -/
structure ApprovalInv (s : ControlStream) : Prop where
  books : ApprovalBooks s
  nothingPending : NothingPending s

theorem SteeringOnly.approvalInv (h : SteeringOnly s s') (hs : ApprovalInv s) : ApprovalInv s' :=
  ⟨h.books hs.books, hs.nothingPending.of_view h.view⟩

/-- The stream after all its waiters have been denied. -/
theorem denyAllApprovals_approvalInv (reason : ApprovalTexts → JsString)
    (hs : ApprovalBooks s) : ApprovalInv (s.denyAllApprovals reason) :=
  ⟨denyAllApprovals_approvalBooks reason hs, denyAllApprovals_nothingPending s reason⟩

theorem applyMessage_approvalBooks
    (hs : ApprovalBooks s) (h : s.applyMessage message = .ok s') : ApprovalBooks s' := by
  rcases applyMessage_cases h with ⟨requestId, rfl⟩ | ⟨requestId, kind, id, decision, reason, rfl, rfl⟩ | hsteering
  · cases h
    have hwoken : ApprovalBooks (({ s.observe (.began ⟨requestId, .stop⟩) with
        paused := false }.resolveResumeWaiters).resolveSteeringWaiters []) := by
      refine SteeringOnly.books (resolveSteeringWaiters_steeringOnly _ _) ?_
      exact SteeringOnly.books (s := s) (.log_one (o := .began _) id rfl (Nat.le_refl _) rfl) hs
    have hdenied := denyAllApprovals_approvalBooks (·.stopped) hwoken
    exact ⟨hdenied.numbered, hdenied.balanced, hdenied.registered, hdenied.approved⟩
  · exact resolveApproval_approvalBooks hs requestId kind id decision reason
  · exact hsteering.books hs

theorem applyMessage_nothingPending
    (hs : NothingPending s) (h : s.applyMessage message = .ok s') : NothingPending s' := by
  rcases applyMessage_cases h with ⟨_, rfl⟩ | ⟨_, kind, id, decision, reason, rfl, rfl⟩ | hsteering
  · cases h
    exact nothingPending_of_none (denyAllApprovals_none _ _)
  · exact resolveApprovals_nothingPending kind decision reason [id.1]
      (hs.of_view (began_steeringOnly s _).view)
  · exact hs.of_view hsteering.view

theorem handleLine_approvalBooks (env : Platform) (line : JsString)
    (hs : ApprovalBooks s) : ApprovalBooks (s.handleLine env line) := by
  refine handleLine_invariant ?_ (fun message s' _ h => applyMessage_approvalBooks hs h) hs
  intro s processed event hs
  exact SteeringOnly.books (s := s) (.log_one (o := .emitted event) id rfl (Nat.le_refl _) rfl) hs

theorem handleLine_nothingPending (env : Platform) (line : JsString)
    (hs : NothingPending s) : NothingPending (s.handleLine env line) :=
  handleLine_invariant (fun _ _ _ h => h.of_view rfl)
    (fun _ _ _ h => applyMessage_nothingPending hs h) hs

theorem handleData_approvalInv (env : Platform) (chunk : JsString)
    (hs : ApprovalInv s) : ApprovalInv (s.handleData env chunk) := by
  have hrest : ApprovalInv (s.keepRest chunk) :=
    ⟨SteeringOnly.books (s := s) (.write rfl (Nat.le_refl _) rfl) hs.books,
      hs.nothingPending.of_view rfl⟩
  refine runSteps_invariant (fun s line h => ?_) hrest _
  exact ⟨handleLine_approvalBooks env line h.books,
    handleLine_nothingPending env line h.nothingPending⟩

theorem handleEnd_approvalInv (env : Platform) (hs : ApprovalInv s) :
    ApprovalInv (s.handleEnd env) := by
  have hend : ApprovalBooks s.endInput :=
    ⟨hs.books.numbered, hs.books.balanced, hs.books.registered, hs.books.approved⟩
  have hread := handleLine_approvalBooks env (dropReturn s.buffer) hend
  refine denyAllApprovals_approvalInv _ (SteeringOnly.books (drainSteering_steeringOnly _) ?_)
  exact SteeringOnly.books (s := s.endInput.handleLine env (dropReturn s.buffer))
    (.log_one (o := .ended) id rfl (Nat.le_refl _) rfl) hread

theorem close_approvalInv (hs : ApprovalInv s) : ApprovalInv s.close := by
  refine denyAllApprovals_approvalInv _ ?_
  refine SteeringOnly.books (resolveSteeringWaiters_steeringOnly _ _) ?_
  have hclose : ApprovalBooks { s with
      started := false, inputEnded := true, buffer := [], paused := false } :=
    ⟨hs.books.numbered, hs.books.balanced, hs.books.registered, hs.books.approved⟩
  exact SteeringOnly.books (s := { s with started := false, inputEnded := true, buffer := [], paused := false })
    (.log_one (o := .closed) id rfl (Nat.le_refl _) rfl) hclose

theorem signal_of_abortApprovals {signal : Nat}
    (hw : ((s.abortApprovals kind signal).approvalWaiters kind).get? id = some w) :
    w.signal ≠ some signal := by
  rw [abortApprovals, resolveApprovals_waiters, if_pos rfl, JsMap.get?_deleteAll] at hw
  split at hw
  · cases hw
  · next hid =>
    intro hsignal
    refine hid (List.mem_map.mpr ⟨(id, w), List.mem_filter.mpr ⟨JsMap.mem_of_get? hw, ?_⟩, rfl⟩)
    simpa using hsignal

/-- An abort denies the waiters that listen, and leaves the others. -/
theorem abort_approvalInv (signal : Nat) (hs : ApprovalInv s) : ApprovalInv (s.abort signal) := by
  rw [abort]
  split
  · exact hs
  · refine ⟨?_, ?_, ?_⟩
    · have habort : ApprovalBooks { s with abortedSignals := signal :: s.abortedSignals } :=
        ⟨hs.books.numbered, hs.books.balanced, hs.books.registered, hs.books.approved⟩
      have hleft : ApprovalBooks (s.abortSteering signal) :=
        SteeringOnly.books (s := { s with abortedSignals := signal :: s.abortedSignals })
          (.log_one (o := .handedOut _ _) id rfl (Nat.le_refl _) rfl) habort
      exact denyApprovals_approvalBooks .tool _ _ (denyApprovals_approvalBooks .shell _ _ hleft)
    · -- the flags are those of `s`, where nothing is pending if one of them is set
      intro hflags kind id
      have hshell := abortApprovals_approvalsOnly (s.abortSteering signal) .shell signal
      have hboth := hshell.trans (abortApprovals_approvalsOnly _ .tool signal)
      rw [hboth.read started fun _ _ _ _ _ => rfl, hboth.read inputEnded fun _ _ _ _ _ => rfl,
        hboth.read stopped fun _ _ _ _ _ => rfl] at hflags
      refine Option.eq_none_iff_forall_ne_some.mpr fun w hw => ?_
      have hleft : ((s.abortSteering signal).approvalWaiters kind).get? id = some w :=
        get?_of_resolveApprovals (get?_of_resolveApprovals hw)
      have hold : (s.approvalWaiters kind).get? id = some w := by
        cases kind <;> exact hleft
      rw [hs.nothingPending.closed hflags kind id] at hold
      cases hold
    · intro kind id w signal' hw hw' hmem
      have hshell := abortApprovals_approvalsOnly (s.abortSteering signal) .shell signal
      have hboth := hshell.trans (abortApprovals_approvalsOnly _ .tool signal)
      rw [hboth.read abortedSignals fun _ _ _ _ _ => rfl] at hmem
      have hleft : ((s.abortSteering signal).approvalWaiters kind).get? id = some w :=
        get?_of_resolveApprovals (get?_of_resolveApprovals hw)
      have hold : (s.approvalWaiters kind).get? id = some w := by
        cases kind <;> exact hleft
      have hne : w.signal ≠ some signal := by
        cases kind with
        | shell => exact signal_of_abortApprovals (get?_of_resolveApprovals hw)
        | tool => exact signal_of_abortApprovals hw
      rcases List.mem_cons.mp hmem with rfl | hmem
      · exact hne hw'
      · exact hs.nothingPending.aborted kind id w signal' hold hw' hmem

theorem step_approvalInv (env : Platform) (i : Input) (hs : ApprovalInv s) :
    ApprovalInv (step env s i) := by
  cases i with
  | start =>
    simp only [step, start]
    split
    · exact hs
    · next hstart =>
      refine ⟨⟨hs.books.numbered, hs.books.balanced, hs.books.registered, hs.books.approved⟩, ?_⟩
      refine nothingPending_of_none fun kind id => ?_
      exact hs.nothingPending.closed (Or.inl (by simpa using hstart)) kind id
  | close => exact close_approvalInv hs
  | data chunk =>
    simp only [step]
    split
    · exact handleData_approvalInv env chunk hs
    · exact hs
  | ended =>
    simp only [step]
    split
    · exact handleEnd_approvalInv env hs
    · exact hs
  | take => exact (waitUntilResumed_steeringOnly s _).approvalInv hs
  | wait signal => exact (waitUntilResumed_steeringOnly s _).approvalInv hs
  | shellApproval id signal =>
    exact ⟨waitForApproval_approvalBooks .shell id signal hs.books,
      waitForApproval_nothingPending .shell id signal hs.nothingPending⟩
  | toolApproval id signal =>
    exact ⟨waitForApproval_approvalBooks .tool id signal hs.books,
      waitForApproval_nothingPending .tool id signal hs.nothingPending⟩
  | abort signal => exact abort_approvalInv signal hs
  | microtask =>
    simp only [step, runMicrotask]
    split
    · exact hs
    · next next rest _ =>
      have hrest : SteeringOnly s { s with microtasks := rest } := .write rfl (Nat.le_refl _) rfl
      exact (hrest.trans (continueCall_steeringOnly _ next)).approvalInv hs
  | setRunbookExecutionHandler handler =>
    exact SteeringOnly.approvalInv (s := s) (.write rfl (Nat.le_refl _) rfl) hs

/-! ## A stream that cannot answer stays so -/

/-- What shuts a stream is there later if it was there before. -/
structure StillShut (s s' : ControlStream) : Prop where
  stopped : s.stopped = true → s'.stopped = true
  abortedSignals : s.abortedSignals ⊆ s'.abortedSignals
  started : s.started = false → s'.started = false
  inputEnded : s.inputEnded = true → s'.inputEnded = true

theorem StillShut.refl (s : ControlStream) : StillShut s s := ⟨id, List.Subset.refl _, id, id⟩

theorem StillShut.trans {s'' : ControlStream} (h : StillShut s s') (h' : StillShut s' s'') :
    StillShut s s'' :=
  ⟨h'.stopped ∘ h.stopped, List.Subset.trans h.abortedSignals h'.abortedSignals, h'.started ∘ h.started,
    h'.inputEnded ∘ h.inputEnded⟩

theorem StillShut.of_view (h : s'.approvalView = s.approvalView) : StillShut s s' where
  stopped := by rw [show s'.stopped = s.stopped from congrArg (·.2.2.2.2.1) h]; exact id
  abortedSignals := by
    rw [show s'.abortedSignals = s.abortedSignals from congrArg (·.2.2.2.2.2) h]
    exact List.Subset.refl _
  started := by rw [show s'.started = s.started from congrArg (·.2.2.1) h]; exact id
  inputEnded := by rw [show s'.inputEnded = s.inputEnded from congrArg (·.2.2.2.1) h]; exact id

theorem ApprovalsOnly.stillShut (h : ApprovalsOnly s s') : StillShut s s' where
  stopped := by rw [h.read ControlStream.stopped fun _ _ _ _ _ => rfl]; exact id
  abortedSignals := by
    rw [h.read ControlStream.abortedSignals fun _ _ _ _ _ => rfl]
    exact List.Subset.refl _
  started := by rw [h.read ControlStream.started fun _ _ _ _ _ => rfl]; exact id
  inputEnded := by rw [h.read ControlStream.inputEnded fun _ _ _ _ _ => rfl]; exact id

theorem applyMessage_stillShut (h : s.applyMessage message = .ok s') : StillShut s s' := by
  rcases applyMessage_cases h with ⟨requestId, rfl⟩ | ⟨_, kind, id, decision, reason, rfl, rfl⟩ | hsteering
  · cases h
    have hwoken : StillShut s (({ s.observe (.began ⟨requestId, .stop⟩) with
        paused := false }.resolveResumeWaiters).resolveSteeringWaiters []) := by
      refine StillShut.trans ?_ (.of_view (resolveSteeringWaiters_steeringOnly _ _).view)
      exact .of_view rfl
    have hdenied := hwoken.trans (denyAllApprovals_approvalsOnly _ (·.stopped)).stillShut
    exact ⟨fun _ => rfl, hdenied.abortedSignals, hdenied.started, hdenied.inputEnded⟩
  · refine StillShut.trans ?_ (resolveApprovalWaiter_approvalsOnly ..).stillShut
    exact .of_view rfl
  · exact .of_view hsteering.view

section

variable (env : Platform) (s : ControlStream)

theorem handleLine_stillShut (line : JsString) : StillShut s (s.handleLine env line) := by
  refine handleLine_invariant (fun t _ _ h => ?_) (fun _ _ _ h => applyMessage_stillShut h)
    (.refl s)
  exact StillShut.trans h (.of_view rfl)

theorem handleData_stillShut (chunk : JsString) : StillShut s (s.handleData env chunk) := by
  have hrest : StillShut s (s.keepRest chunk) := .of_view rfl
  exact runSteps_invariant (fun t line h => h.trans (handleLine_stillShut env t line)) hrest _

theorem handleEnd_stillShut : StillShut s (s.handleEnd env) := by
  have hend : StillShut s s.endInput := ⟨id, List.Subset.refl _, id, fun _ => rfl⟩
  have hread := hend.trans (handleLine_stillShut env s.endInput (dropReturn s.buffer))
  refine StillShut.trans ?_ (denyAllApprovals_approvalsOnly _ (·.ended)).stillShut
  refine StillShut.trans ?_ (.of_view (drainSteering_steeringOnly _).view)
  exact hread.trans (.of_view rfl)

end

theorem close_stillShut (s : ControlStream) : StillShut s s.close := by
  refine StillShut.trans ?_ (denyAllApprovals_approvalsOnly _ (·.closed)).stillShut
  refine StillShut.trans ?_ (.of_view (resolveSteeringWaiters_steeringOnly _ _).view)
  exact ⟨id, List.Subset.refl _, fun _ => rfl, fun _ => rfl⟩

theorem abort_stillShut (s : ControlStream) (signal : Nat) : StillShut s (s.abort signal) := by
  rw [abort]
  split
  · exact .refl s
  · have hleft : StillShut s (s.abortSteering signal) :=
      ⟨id, List.subset_cons_self _ _, id, id⟩
    exact (hleft.trans (abortApprovals_approvalsOnly _ .shell signal).stillShut).trans
      (abortApprovals_approvalsOnly _ .tool signal).stillShut

/-- Only `start` opens a stream again, and only after `close`. -/
theorem step_stillShut (env : Platform) (s : ControlStream) (i : Input) (hi : i ≠ .start) :
    StillShut s (step env s i) := by
  cases i with
  | start => exact absurd rfl hi
  | close => exact close_stillShut s
  | data chunk =>
    simp only [step]
    split
    · exact handleData_stillShut env s chunk
    · exact .refl s
  | ended =>
    simp only [step]
    split
    · exact handleEnd_stillShut env s
    · exact .refl s
  | take => exact .of_view (waitUntilResumed_steeringOnly s _).view
  | wait signal => exact .of_view (waitUntilResumed_steeringOnly s _).view
  | shellApproval id signal => exact (waitForApproval_approvalsOnly s .shell id signal).stillShut
  | toolApproval id signal => exact (waitForApproval_approvalsOnly s .tool id signal).stillShut
  | abort signal => exact abort_stillShut s signal
  | microtask =>
    simp only [step, runMicrotask]
    split
    · exact .refl s
    · next next rest _ =>
      have hrest : StillShut s { s with microtasks := rest } := .of_view rfl
      exact hrest.trans (.of_view (continueCall_steeringOnly _ next).view)
  | setRunbookExecutionHandler handler => exact .of_view rfl

end ControlStream

open ControlStream

/-! ## Failing closed -/

/-- A stream that can answer no new approval call: it was stopped, or its input has ended or
was closed, or it was never started. -/
def Shut (s : ControlStream) : Prop :=
  s.started = false ∨ s.inputEnded = true ∨ s.stopped = true

def UsableId (id : JsString) : Prop := isBlank id = false ∧ (trim id).length ≤ 200

/-- The call is answered at once, with a denial. -/
def DeniedAtOnce (s : ControlStream) (kind : ApprovalKind) (id : JsString)
    (signal : Option Nat) : Prop :=
  (s.waitForApproval kind id signal).log = s.log ++ [.asked kind s.calls id,
    .settled kind s.calls (.resolved .denied (approvalTexts kind).unavailable)]

/-- Every call is settled once or pending; it is approved only by a line that approves it
while it is pending; and where the stream is shut, or the call's signal aborted, nothing
is pending and a new call is denied. -/
structure ApprovalsFailClosed (s : ControlStream) : Prop where
  once : ∀ kind, ∀ call ∈ askedCalls kind s.log,
    (settledCalls kind s.log).count call + (s.pendingCalls kind).count call = 1
  approved : EachAfter ApprovedByLine s.log
  shut : Shut s → ∀ kind, s.pendingCalls kind = []
  aborted : ∀ signal ∈ s.abortedSignals, ∀ kind, ∀ w ∈ (s.approvalWaiters kind).values,
    w.signal ≠ some signal
  deniedShut : Shut s → ∀ kind id signal, UsableId id → DeniedAtOnce s kind id signal
  deniedAborted : ∀ signal ∈ s.abortedSignals, ∀ kind id, UsableId id →
    (s.approvalWaiters kind).get? (trim id) = none → DeniedAtOnce s kind id (some signal)

theorem deniedAtOnce_of_unavailable {s : ControlStream} {kind : ApprovalKind} {id : JsString}
    {signal : Option Nat} (hid : UsableId id)
    (hfree : (s.approvalWaiters kind).get? (trim id) = none)
    (hunav : s.unavailable signal = true) : DeniedAtOnce s kind id signal := by
  have hlen : ¬200 < (trim id).length := Nat.not_lt.mpr hid.2
  simp [DeniedAtOnce, waitForApproval, hid.1, hlen, JsMap.has, hfree, hunav, observe]

theorem failClosed_of_approvalInv {s : ControlStream} (h : ApprovalInv s) : ApprovalsFailClosed s where
  once kind call hcall := (h.books.balanced kind).once hcall
  approved := h.books.approved
  shut hshut kind := by
    rw [pendingCalls, JsMap.values_eq_nil (h.nothingPending.closed hshut kind), List.map_nil]
  aborted signal hsignal kind w hw hw' := by
    obtain ⟨e, he, rfl⟩ := List.mem_map.mp hw
    exact h.nothingPending.aborted kind e.1 e.2 signal (JsMap.get?_of_mem he) hw' hsignal
  deniedShut hshut kind id signal hid := by
    refine deniedAtOnce_of_unavailable hid (h.nothingPending.closed hshut kind _) ?_
    rcases hshut with hs | hs | hs <;> simp [unavailable, hs]
  deniedAborted signal hsignal kind id hid hfree :=
    deniedAtOnce_of_unavailable hid hfree (by simp [unavailable, hsignal])

theorem step_stopped_aborted (env : Platform) (s : ControlStream) (i : Input) :
    (s.stopped = true → (step env s i).stopped = true) ∧
      s.abortedSignals ⊆ (step env s i).abortedSignals := by
  by_cases hi : i = .start
  · subst hi
    simp only [step, start]
    split <;> exact ⟨id, List.Subset.refl _⟩
  · exact ⟨(step_stillShut env s i hi).stopped, (step_stillShut env s i hi).abortedSignals⟩

/-- **Approvals fail closed** in every run. A stop and an abort last for ever, and the end or
the closing of the input until the stream is started again. -/
theorem reached_approvalsFailClosed (env : Platform) (initial : List (RequestId × JsString))
    (inputs : List Input) :
    ApprovalsFailClosed (reached env initial inputs) ∧
      ∀ later, let now := reached env initial inputs
        let then' := reached env initial (inputs ++ later)
        (now.stopped = true → then'.stopped = true) ∧ now.abortedSignals ⊆ then'.abortedSignals ∧
          ((∀ i ∈ later, i ≠ .start) → StillShut now then') := by
  refine ⟨?_, fun later => ⟨?_, ?_, ?_⟩⟩
  · have hnew : ApprovalInv (new initial) :=
      ⟨new_approvalBooks initial, nothingPending_of_none fun kind id => by cases kind <;> rfl⟩
    exact failClosed_of_approvalInv (runSteps_invariant (fun _ i => step_approvalInv env i) hnew inputs)
  · rw [reached, reached, runSteps_append]
    exact fun hstopped =>
      runSteps_invariant (fun t i h => (step_stopped_aborted env t i).1 h) hstopped later
  · rw [reached, reached, runSteps_append]
    exact runSteps_invariant
      (I := fun t => (runSteps (step env) (new initial) inputs).abortedSignals ⊆ t.abortedSignals)
      (fun t i h => List.Subset.trans h (step_stopped_aborted env t i).2) (List.Subset.refl _) later
  · intro hlater
    rw [reached, reached, runSteps_append]
    refine runSteps_invariant_of_meets (C := fun _ i => i ≠ .start) (fun t i h hi => ?_) (.refl _)
      (runMeets_of_forall (fun i hi _ => hlater i hi) _)
    exact h.trans (step_stillShut env t i hi)

def stopHost : Platform := messagePlatform [⟨none, .stop⟩] uuidText

def stoppedStream : ControlStream :=
  reached stopHost [] [.start, .data (messageChunk [⟨none, .stop⟩])]

/-- A blank id is refused before the state of the stream is looked at. -/
theorem blank_wait_rejects_after_stop :
    stoppedStream.stopped = true ∧ ¬∀ id, DeniedAtOnce stoppedStream .shell id none := by
  refine ⟨by decide +kernel, fun h => absurd (h []) ?_⟩
  unfold DeniedAtOnce
  decide +kernel

end Beale.Control
