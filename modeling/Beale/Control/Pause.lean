import Beale.Control.Stream

/-!
# Pausing

A paused stream should hand out no steering instruction. The log says when the
stream is paused: a `pause` has taken effect after the last `resume`, and the run
has not been stopped nor the stream closed or ended since.

- `reached_pauseEffective`: runs that meet it never hand out while paused.
- `resume_then_pause_hands_out`: a chunk that resumes and pauses again wakes a
  parked call, which then hands out in the middle of the pause.
-/

namespace Beale.Control

open Beale.Library

/-- What an observation says about the pause: it begins, or it is over. -/
def Observation.pause? : Observation → Option Bool
  | .began message =>
    match message.body with
    | .pause => some true
    | .resume | .stop => some false
    | _ => none
  | .ended | .closed => some false
  | _ => none

def pausedBy (log : List Observation) : Bool :=
  log.foldl (fun paused o => o.pause?.getD paused) false

/-- An observation hands out no instruction while the stream is paused. -/
def UnpausedHandOut (earlier : List Observation) : Observation → Prop
  | .handedOut _ instructions => instructions ≠ [] → pausedBy earlier = false
  | _ => True

instance (earlier : List Observation) (o : Observation) : Decidable (UnpausedHandOut earlier o) := by
  unfold UnpausedHandOut
  split <;> infer_instance

/-- No steering instruction is handed out at a moment when the stream is paused. -/
def PauseEffective (log : List Observation) : Prop := EachAfter UnpausedHandOut log

instance (log : List Observation) : Decidable (PauseEffective log) :=
  inferInstanceAs (Decidable (EachAfter UnpausedHandOut log))

theorem pausedBy_concat (log : List Observation) (o : Observation) :
    pausedBy (log ++ [o]) = o.pause?.getD (pausedBy log) := by
  rw [pausedBy, List.foldl_append]
  rfl

/-! ## The flag and the log -/

/-- The flag is what the log says, and the log has no hand-out in a pause. -/
structure PauseLogged (paused : Bool) (log : List Observation) : Prop where
  flag : pausedBy log = paused
  effective : PauseEffective log

variable {log : List Observation}

/-- An observation that begins or ends a pause sets the flag. -/
theorem PauseLogged.turn {paused turned : Bool} {o : Observation}
    (h : PauseLogged paused log) (ho : o.pause? = some turned) :
    PauseLogged turned (log ++ [o]) where
  flag := by rw [pausedBy_concat, ho]; rfl
  effective := by
    refine eachAfter_concat.mpr ⟨h.effective, ?_⟩
    cases o with
    | handedOut calls instructions => cases ho
    | _ => trivial

/-- Any other observation leaves the flag; it hands something out only when unpaused. -/
theorem PauseLogged.keep {paused : Bool} {o : Observation}
    (h : PauseLogged paused log) (ho : o.pause? = none)
    (hout : ∀ calls instructions, o = .handedOut calls instructions → instructions ≠ [] →
      paused = false) : PauseLogged paused (log ++ [o]) where
  flag := by rw [pausedBy_concat, ho]; exact h.flag
  effective := by
    refine eachAfter_concat.mpr ⟨h.effective, ?_⟩
    cases o with
    | handedOut calls instructions =>
      intro hne
      rw [h.flag]
      exact hout calls instructions rfl hne
    | _ => trivial

def ControlStream.pauseLogged (s : ControlStream) : Prop := PauseLogged s.paused s.log

namespace ControlStream

theorem new_pauseLogged (initial : List (RequestId × JsString)) : (new initial).pauseLogged :=
  ⟨rfl, eachAfter_nil _⟩

variable {s s' : ControlStream}

theorem ApprovalsOnly.pauseLogged (h : ApprovalsOnly s s')
    (hs : s.pauseLogged) : s'.pauseLogged := by
  obtain ⟨os, hlog, hos⟩ := h.log
  have hpaused : s'.paused = s.paused := h.read ControlStream.paused fun _ _ _ _ _ => rfl
  have hquiet : ∀ o ∈ os, o.pause? = none ∧ ∀ earlier, UnpausedHandOut earlier o := by
    intro o ho
    have happroval := hos o ho
    cases o <;> first | exact ⟨rfl, fun _ => trivial⟩ | exact happroval.elim
  rw [ControlStream.pauseLogged, hpaused, hlog]
  refine ⟨?_, ?_⟩
  · rw [← hs.flag, pausedBy, List.foldl_append]
    exact foldl_quiet (fun o ho b => by rw [(hquiet o ho).1]; rfl) _
  · exact EachAfter.append hs.effective fun o ho => (hquiet o ho).2

theorem resolveSteeringWaiters_pauseLogged (instructions : List JsString)
    (hs : s.pauseLogged) : (s.resolveSteeringWaiters instructions).pauseLogged := by
  rw [resolveSteeringWaiters]
  split
  · exact hs
  · next hpaused =>
    refine PauseLogged.keep hs rfl ?_
    rintro calls _ ⟨⟩ hne
    show s.paused = false
    simpa [hne] using hpaused

theorem drainSteering_pauseLogged (hs : s.pauseLogged) : s.drainSteering.pauseLogged :=
  resolveSteeringWaiters_pauseLogged (s := { s with steeringInstructions := [] }) _ hs

theorem denyAllApprovals_pauseLogged (reason : ApprovalTexts → JsString)
    (hs : s.pauseLogged) : (s.denyAllApprovals reason).pauseLogged :=
  (denyAllApprovals_approvalsOnly s reason).pauseLogged hs

variable {message : ControlMessage}

theorem applyMessage_pauseLogged
    (hs : s.pauseLogged) (h : s.applyMessage message = .ok s') : s'.pauseLogged := by
  obtain ⟨requestId, body⟩ := message
  -- the message itself is observed first: a pause or resume sets the flag with it
  have began : ∀ turned, (Observation.began ⟨requestId, body⟩).pause? = some turned →
      PauseLogged turned (s.log ++ [.began ⟨requestId, body⟩]) := fun _ ho => hs.turn ho
  have noted : (Observation.began ⟨requestId, body⟩).pause? = none →
      PauseLogged s.paused (s.log ++ [.began ⟨requestId, body⟩]) :=
    fun ho => hs.keep ho (by rintro _ _ ⟨⟩)
  cases body with
  | pause =>
    cases h
    exact began true rfl
  | resume =>
    have hresumed : ({ s.observe (.began ⟨requestId, .resume⟩) with
        paused := false }.resolveResumeWaiters).pauseLogged := began false rfl
    simp only [applyMessage] at h
    split at h <;> cases h
    · exact drainSteering_pauseLogged hresumed
    · exact hresumed
  | stop =>
    cases h
    exact denyAllApprovals_pauseLogged _ (resolveSteeringWaiters_pauseLogged _ (began false rfl))
  | configure modelSelection => cases h; exact noted rfl
  | configureShellSafety mode => cases h; exact noted rfl
  | removeSteering target =>
    simp only [applyMessage] at h
    split at h <;> cases h
    exact PauseLogged.keep (noted rfl) rfl (by rintro _ _ ⟨⟩)
  | runbookExecute request =>
    simp only [applyMessage] at h
    split at h
    · cases h
    · split at h <;> cases h
      exact noted rfl
  | resolveApproval kind id decision =>
    simp only [applyMessage] at h
    split at h <;> cases h
    exact (resolveApprovalWaiter_approvalsOnly ..).pauseLogged (noted rfl)
  | steer instruction modelSelection =>
    simp only [applyMessage] at h
    have hqueue : ((s.observe (.began ⟨requestId, .steer instruction modelSelection⟩)).queueSteering
        requestId instruction modelSelection).pauseLogged :=
      PauseLogged.keep (noted rfl) rfl (by rintro _ _ ⟨⟩)
    split at h <;> cases h
    · exact drainSteering_pauseLogged hqueue
    · exact hqueue

theorem handleLine_pauseLogged (env : Platform) (line : JsString)
    (hs : s.pauseLogged) : (s.handleLine env line).pauseLogged := by
  refine handleLine_invariant ?_ (fun message s' _ h => applyMessage_pauseLogged hs h) hs
  intro s processed event hs
  exact PauseLogged.keep hs rfl (by rintro _ _ ⟨⟩)

/-! ## Woken calls -/

/-- A call that has been woken and has not run on finds the stream unpaused. -/
def Woken (s : ControlStream) : Prop := s.microtasks ≠ [] → s.paused = false

/-- No `pause` takes effect while a woken call has not run on. -/
def LinePauseSafe (env : Platform) (s : ControlStream) (line : JsString) : Prop :=
  (freshMessage? env s line).map ControlMessage.body = some .pause → s.microtasks = []

instance (env : Platform) (s : ControlStream) (line : JsString) :
    Decidable (LinePauseSafe env s line) :=
  inferInstanceAs (Decidable (_ → _))

section

variable (s : ControlStream)

@[simp] theorem resolveSteeringWaiters_paused (instructions : List JsString) :
    (s.resolveSteeringWaiters instructions).paused = s.paused := by
  rw [resolveSteeringWaiters]
  split <;> rfl

@[simp] theorem resolveSteeringWaiters_microtasks (instructions : List JsString) :
    (s.resolveSteeringWaiters instructions).microtasks = s.microtasks := by
  rw [resolveSteeringWaiters]
  split <;> rfl

@[simp] theorem drainSteering_paused : s.drainSteering.paused = s.paused :=
  resolveSteeringWaiters_paused { s with steeringInstructions := [] } _

@[simp] theorem drainSteering_microtasks : s.drainSteering.microtasks = s.microtasks :=
  resolveSteeringWaiters_microtasks { s with steeringInstructions := [] } _

end

theorem ApprovalsOnly.paused (h : ApprovalsOnly s s') :
    s'.paused = s.paused := h.read ControlStream.paused fun _ _ _ _ _ => rfl

theorem ApprovalsOnly.woken (h : ApprovalsOnly s s') (hs : Woken s) : Woken s' := by
  intro hmicro
  rw [h.paused]
  refine hs ?_
  rwa [← h.read ControlStream.microtasks fun _ _ _ _ _ => rfl]

/-- Only a `pause` turns the flag on, and it wakes nobody. -/
theorem applyMessage_woken (hs : Woken s)
    (hpause : message.body = .pause → s.microtasks = []) (h : s.applyMessage message = .ok s') :
    Woken s' := by
  obtain ⟨requestId, body⟩ := message
  cases body with
  | pause => cases h; exact fun hne => absurd (hpause rfl) hne
  | resume =>
    simp only [applyMessage] at h
    split at h <;> cases h
    · exact fun _ => by rw [drainSteering_paused]; rfl
    · exact fun _ => rfl
  | stop =>
    cases h
    intro _
    show (denyAllApprovals _ _).paused = false
    rw [(denyAllApprovals_approvalsOnly _ _).paused, resolveSteeringWaiters_paused]
    rfl
  | configure modelSelection => cases h; exact hs
  | configureShellSafety mode => cases h; exact hs
  | removeSteering target =>
    simp only [applyMessage] at h
    split at h <;> cases h
    exact hs
  | runbookExecute request =>
    simp only [applyMessage] at h
    split at h
    · cases h
    · split at h <;> cases h
      exact hs
  | resolveApproval kind id decision =>
    simp only [applyMessage] at h
    split at h <;> cases h
    exact (resolveApprovalWaiter_approvalsOnly ..).woken hs
  | steer instruction modelSelection =>
    simp only [applyMessage] at h
    split at h <;> cases h
    · intro hne
      rw [drainSteering_microtasks] at hne
      rw [drainSteering_paused]
      exact hs hne
    · exact hs

theorem handleLine_woken {env : Platform} {line : JsString} (hs : Woken s)
    (hsafe : LinePauseSafe env s line) : Woken (s.handleLine env line) := by
  refine handleLine_invariant (fun _ _ _ h => h) (fun message s' hfresh h => ?_) hs
  refine applyMessage_woken hs (fun hpause => hsafe ?_) h
  rw [hfresh, Option.map_some, hpause]

end ControlStream

open ControlStream

/-! ## Runs -/

/-- No `pause` line is processed while a woken call has not run on. A call is woken when
it is made, or by the `resume` line, and runs on when the chunk is over. -/
def PauseSafe (env : Platform) (s : ControlStream) : Input → Prop
  | .data chunk => s.started = true →
    RunMeets (handleLine env) (LinePauseSafe env) (s.keepRest chunk) (s.chunkLines chunk)
  | _ => True

instance (env : Platform) (s : ControlStream) (i : Input) : Decidable (PauseSafe env s i) := by
  rcases i with _ | _ <;> (dsimp only [PauseSafe]; infer_instance)

/-- What every safe run keeps. -/
structure PauseInv (s : ControlStream) : Prop where
  logged : s.pauseLogged
  woken : Woken s

variable {s : ControlStream}

theorem PauseInv.ofApprovals {s' : ControlStream} (h : PauseInv s) (hs : ApprovalsOnly s s') :
    PauseInv s' := ⟨hs.pauseLogged h.logged, hs.woken h.woken⟩

theorem handleEnd_pauseInv (env : Platform) (h : PauseInv s) : PauseInv (s.handleEnd env) := by
  have hread : (s.endInput.handleLine env (dropReturn s.buffer)).pauseLogged :=
    handleLine_pauseLogged env _ h.logged
  have hended : (({ s.endInput.handleLine env (dropReturn s.buffer) with
      paused := false }.observe .ended).resolveResumeWaiters.drainSteering).pauseLogged :=
    drainSteering_pauseLogged (PauseLogged.turn hread (o := .ended) rfl)
  refine PauseInv.ofApprovals ⟨hended, fun _ => ?_⟩ (denyAllApprovals_approvalsOnly _ _)
  rw [drainSteering_paused]
  rfl

theorem waitUntilResumed_pauseInv (rest : Continuation) (h : PauseInv s) :
    PauseInv (s.waitUntilResumed rest) := by
  rw [waitUntilResumed]
  split
  · exact ⟨h.logged, h.woken⟩
  · next hpaused => exact ⟨h.logged, fun _ => by simpa using hpaused⟩

/-- A woken call hands out, if anything, while the stream is not paused. -/
theorem continueCall_pauseLogged (next : Continuation) (h : s.pauseLogged)
    (hpaused : s.paused = false) : (s.continueCall next).pauseLogged := by
  have handOut : ∀ call instructions,
      PauseLogged s.paused (s.log ++ [.handedOut [call] instructions]) :=
    fun call instructions => h.keep rfl fun _ _ _ _ => hpaused
  cases next with
  | take call => exact handOut call _
  | wait call signal =>
    simp only [continueCall]
    split
    · exact handOut call _
    · split
      · exact handOut call _
      · split
        · exact drainSteering_pauseLogged h
        · exact h

theorem continueCall_paused (s : ControlStream) (next : Continuation) :
    (s.continueCall next).paused = s.paused := by
  cases next with
  | take call => rfl
  | wait call signal =>
    simp only [continueCall]
    split
    · rfl
    · split
      · rfl
      · split
        · rw [drainSteering_paused]
        · rfl

theorem runMicrotask_pauseInv (h : PauseInv s) : PauseInv s.runMicrotask := by
  rw [runMicrotask]
  split
  · exact h
  · next next rest hmicro =>
    have hpaused : s.paused = false := h.woken (by simp [hmicro])
    refine ⟨continueCall_pauseLogged (s := { s with microtasks := rest }) next h.logged hpaused, ?_⟩
    exact fun _ => (continueCall_paused _ next).trans hpaused

theorem abort_pauseInv (signal : Nat) (h : PauseInv s) : PauseInv (s.abort signal) := by
  rw [abort]
  split
  · exact h
  · have hsteer : PauseInv (s.abortSteering signal) :=
      ⟨PauseLogged.keep h.logged rfl (by rintro _ _ ⟨⟩ hne; exact absurd rfl hne), h.woken⟩
    exact (hsteer.ofApprovals (abortApprovals_approvalsOnly _ .shell signal)).ofApprovals
      (abortApprovals_approvalsOnly _ .tool signal)

theorem step_pauseInv {env : Platform} {i : Input} (h : PauseInv s)
    (hsafe : PauseSafe env s i) : PauseInv (step env s i) := by
  cases i with
  | start =>
    simp only [step, start]
    split
    · exact h
    · exact ⟨h.logged, h.woken⟩
  | close =>
    refine PauseInv.ofApprovals ⟨?_, fun _ => ?_⟩ (denyAllApprovals_approvalsOnly _ _)
    · exact resolveSteeringWaiters_pauseLogged _ (PauseLogged.turn h.logged (o := .closed) rfl)
    · rw [resolveSteeringWaiters_paused]
      rfl
  | data chunk =>
    simp only [step]
    split
    · next hstart =>
      have hrest : PauseInv (s.keepRest chunk) := ⟨h.logged, h.woken⟩
      refine runSteps_invariant_of_meets (fun s line hs hline => ?_) hrest (hsafe hstart)
      exact ⟨handleLine_pauseLogged env line hs.logged, handleLine_woken hs.woken hline⟩
    · exact h
  | ended =>
    simp only [step]
    split
    · exact handleEnd_pauseInv env h
    · exact h
  | take => exact waitUntilResumed_pauseInv _ ⟨h.logged, h.woken⟩
  | wait signal => exact waitUntilResumed_pauseInv _ ⟨h.logged, h.woken⟩
  | shellApproval id signal => exact h.ofApprovals (waitForApproval_approvalsOnly s .shell id signal)
  | toolApproval id signal => exact h.ofApprovals (waitForApproval_approvalsOnly s .tool id signal)
  | abort signal => exact abort_pauseInv signal h
  | microtask => exact runMicrotask_pauseInv h
  | setRunbookExecutionHandler handler => exact ⟨h.logged, h.woken⟩

/-- **A pause is effective** in every run in which no `pause` line is processed while a
woken call has not run on. -/
theorem reached_pauseEffective (env : Platform) (initial : List (RequestId × JsString))
    (inputs : List Input) (hsafe : RunMeets (step env) (PauseSafe env) (.new initial) inputs) :
    PauseEffective (reached env initial inputs).log := by
  have hnew : PauseInv (new initial) := ⟨new_pauseLogged initial, fun h => absurd rfl h⟩
  have hreached := runSteps_invariant_of_meets (fun _ _ => step_pauseInv) hnew hsafe
  exact hreached.logged.effective

/-- A host that pauses, steers and resumes, each with a line of its own. -/
def pauseHost : Platform :=
  messagePlatform [⟨none, .pause⟩, ⟨none, .resume⟩, ⟨some ⟨js "a", by decide⟩, .steer (js "x") none⟩]
    uuidText

/-- A call parked by a pause, which hands the steering out after the `resume`. -/
def resumedRun : List Input :=
  [.start, .data (messageChunk [⟨none, .pause⟩, ⟨some ⟨js "a", by decide⟩, .steer (js "x") none⟩]),
    .take, .data (messageChunk [⟨none, .resume⟩]), .microtask, .data (messageChunk [⟨none, .pause⟩])]

/-- The same call, when the chunk that resumes the stream pauses it again. -/
def pausedAgainRun : List Input :=
  [.start, .data (messageChunk [⟨none, .pause⟩, ⟨some ⟨js "a", by decide⟩, .steer (js "x") none⟩]),
    .take, .data (messageChunk [⟨none, .resume⟩, ⟨none, .pause⟩]), .microtask]

theorem reached_pauseEffective_resumedRun :
    RunMeets (step pauseHost) (PauseSafe pauseHost) (.new []) resumedRun ∧
      PauseEffective (reached pauseHost [] resumedRun).log := by
  have hsafe : RunMeets (step pauseHost) (PauseSafe pauseHost) (.new []) resumedRun := by decide
  exact ⟨hsafe, reached_pauseEffective pauseHost [] resumedRun hsafe⟩

/-- The woken call does not look at the flag again: it hands out during the pause. -/
theorem resume_then_pause_hands_out :
    ¬PauseEffective (reached pauseHost [] pausedAgainRun).log := by
  decide

end Beale.Control
