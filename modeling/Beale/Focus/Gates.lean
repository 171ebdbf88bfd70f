import Beale.Focus.Guard
import Beale.Library.Run

/-!
# The checkpoints of the focus guard

A pending checkpoint holds research back until it is resolved. Only the outcome of a
call can resolve it, so the argument is one frame lemma for every other operation.

- `checkpoints`: the counters and flags of both checkpoints, and what leaves them alone.
- `run_gatesHold`: while a run has no such outcome, what the checkpoint holds back is
  blocked.
- `unchanged_artifact_resolves`: an unchanged outcome counts where it names an artifact.
-/

namespace Beale.Focus

open Beale.Library
open ResearchFocusGuard

variable {env : FocusPlatform} {opts : FocusOptions} {g : ResearchFocusGuard}

/-! ## What leaves the checkpoints alone -/

/-- The counters and flags of the two checkpoints. -/
structure Checkpoints where
  explorationCalls : Nat
  convergencePending : Bool
  activityCalls : Nat
  durableProgressPending : Bool

def ResearchFocusGuard.checkpoints (g : ResearchFocusGuard) : Checkpoints where
  explorationCalls := g.explorationCallsSinceConvergence
  convergencePending := g.convergencePending
  activityCalls := g.activityCallsSinceDurableProgress
  durableProgressPending := g.durableProgressPending

section

variable (g : ResearchFocusGuard)

@[simp] theorem turn_checkpoints (n : Int) : (g.turn n).1.checkpoints = g.checkpoints := by
  unfold ResearchFocusGuard.turn
  split
  · rfl
  · rfl

@[simp] theorem track_checkpoints (request : ResearchFocusToolRequest)
    (blocked : Bool) (mark : TrackedTurn → TrackedTurn) :
    (g.track env request blocked mark).checkpoints = g.checkpoints := rfl

@[simp] theorem beforeRecall_checkpoints (request : ResearchFocusToolRequest) :
    (g.beforeRecall env opts request).1.checkpoints = g.checkpoints := by
  unfold beforeRecall
  simp only
  split
  · rfl
  · split
    · rfl
    · rfl

@[simp] theorem beforeToolCall_checkpoints (request : ResearchFocusToolRequest) :
    (g.beforeToolCall env opts request).1.checkpoints = g.checkpoints := by
  unfold beforeToolCall
  simp only
  split
  · simp
  · split
    · simp
    · split
      · simp
      · simp

@[simp] theorem finishTurn_checkpoints (n : Int) (toolOnly : Bool) :
    (g.finishTurn n toolOnly).1.checkpoints = g.checkpoints := by
  unfold finishTurn
  split
  · rfl
  · rfl

@[simp] theorem nextEpoch_checkpoints (n : Int) :
    (g.nextEpoch n).checkpoints = g.checkpoints := turn_checkpoints g n

end

/-! ## What resolves them -/

/-- A convergence checkpoint is pending. -/
def ResearchFocusGuard.PendingConvergence (opts : FocusOptions) (g : ResearchFocusGuard) : Prop :=
  opts.convergenceEnabled = true ∧ g.checkpoints.convergencePending = true

/-- A durable-progress checkpoint is pending. -/
def ResearchFocusGuard.PendingDurable (opts : FocusOptions) (g : ResearchFocusGuard) : Prop :=
  opts.durableProgressEnabled = true ∧ g.checkpoints.durableProgressPending = true

def ResearchFocusGuard.resolvesConvergence (env : FocusPlatform) (g : ResearchFocusGuard) :
    FocusInput → Bool
  | .after outcome =>
    (g.accepted env outcome).any fun call => isConvergenceResolutionTool env call.toolName
  | _ => false

/-- A durable-progress tool succeeds with an outcome that is not its last one. -/
def ResearchFocusGuard.changesDurableState (env : FocusPlatform) (g : ResearchFocusGuard) :
    FocusInput → Bool
  | .after outcome =>
    (g.accepted env outcome).any fun call =>
      isDurableProgressTool env call.toolName && g.changedOutcome env call outcome
  | _ => false

/-- A durable-progress tool succeeds with an outcome that is not its last one, or that names
an artifact. -/
def ResearchFocusGuard.makesDurableProgress (env : FocusPlatform) (g : ResearchFocusGuard) :
    FocusInput → Bool
  | .after outcome =>
    (g.accepted env outcome).any fun call =>
      isDurableProgressTool env call.toolName &&
        (g.changedOutcome env call outcome || decide (outcomeArtifacts outcome ≠ []))
  | _ => false

variable {call : TrackedCall}

variable (opts) in
theorem countConvergence_pending (hpend : g.convergencePending = true)
    (htool : isConvergenceResolutionTool env call.toolName = false) :
    (g.countConvergence env opts call).convergencePending = true := by
  unfold countConvergence
  rw [htool, Bool.and_false, if_neg Bool.false_ne_true]
  split
  · simp [hpend]
  · exact hpend

variable (env opts) in
theorem countConvergence_durable (g : ResearchFocusGuard) (call : TrackedCall) :
    (g.countConvergence env opts call).durableProgressPending = g.durableProgressPending := by
  unfold countConvergence
  split
  · rfl
  · split
    · rfl
    · rfl

theorem countDurable_pending {changed : Bool} (hpend : g.durableProgressPending = true)
    (htool : isDurableProgressTool env call.toolName = false) :
    (g.countDurable env opts call changed).durableProgressPending = true := by
  unfold countDurable
  rw [htool, Bool.and_false, if_neg Bool.false_ne_true]
  split
  · simp [hpend]
  · exact hpend

theorem countDurable_convergence (g : ResearchFocusGuard) (call : TrackedCall) (changed : Bool) :
    (g.countDurable env opts call changed).convergencePending = g.convergencePending := by
  unfold countDurable
  split
  · rfl
  · split
    · rfl
    · rfl

variable {outcome : ResearchFocusToolOutcome}

theorem changed_of_madeProgress (h : g.madeProgress env call outcome = true) :
    (g.changedOutcome env call outcome || decide (outcomeArtifacts outcome ≠ [])) = true := by
  unfold madeProgress at h
  simp only [Bool.or_eq_true, Bool.and_eq_true] at h ⊢
  rcases h with (⟨-, hchange⟩ | ⟨-, hchange⟩) | hartifact
  · exact .inl hchange
  · exact .inl hchange
  · exact .inr hartifact

theorem afterToolCall_convergence (hpend : g.convergencePending = true)
    (hnot : g.resolvesConvergence env (.after outcome) = false) :
    (g.afterToolCall env opts outcome).1.checkpoints.convergencePending = true := by
  unfold afterToolCall
  simp only [resolvesConvergence] at hnot
  cases hcall : g.accepted env outcome with
  | none => exact hpend
  | some call =>
    rw [hcall] at hnot
    have htool : isConvergenceResolutionTool env call.toolName = false := hnot
    have hcount := countConvergence_pending opts hpend htool
    simp only
    split
    · show ((_ : ResearchFocusGuard).nextEpoch call.turn).checkpoints.convergencePending = true
      rw [nextEpoch_checkpoints]
      exact (countDurable_convergence _ _ _).trans hcount
    · exact hcount

theorem afterToolCall_durable (hpend : g.durableProgressPending = true)
    (hnot : g.makesDurableProgress env (.after outcome) = false) :
    (g.afterToolCall env opts outcome).1.checkpoints.durableProgressPending = true := by
  unfold afterToolCall
  simp only [makesDurableProgress] at hnot
  cases hcall : g.accepted env outcome with
  | none => exact hpend
  | some call =>
    rw [hcall] at hnot
    have hcount := (countConvergence_durable env opts g call).trans hpend
    simp only
    split
    next hmade =>
      have htool : isDurableProgressTool env call.toolName = false := by
        have hprogress := changed_of_madeProgress hmade
        rw [Option.any_some, hprogress, Bool.and_true] at hnot
        exact hnot
      show ((_ : ResearchFocusGuard).nextEpoch call.turn).checkpoints.durableProgressPending = true
      rw [nextEpoch_checkpoints]
      exact countDurable_pending hcount htool
    next => exact hcount

/-! ## The gates -/

variable {input : FocusInput}

theorem step_checkpoints (h : ∀ outcome, input ≠ .after outcome) :
    (g.step env opts input).checkpoints = g.checkpoints := by
  cases input with
  | before request => exact beforeToolCall_checkpoints g request
  | after outcome => exact absurd rfl (h outcome)
  | finish n toolOnly => exact finishTurn_checkpoints g n toolOnly
  | externalChange => rfl
  | noteSteering messages => rfl
  | replaceSteering messages => rfl

variable (opts) in
theorem step_pendingConvergence (h : g.PendingConvergence opts)
    (hnot : g.resolvesConvergence env input = false) :
    (g.step env opts input).PendingConvergence opts := by
  refine ⟨h.1, ?_⟩
  by_cases hafter : ∃ outcome, input = .after outcome
  · obtain ⟨outcome, rfl⟩ := hafter
    exact afterToolCall_convergence h.2 hnot
  · rw [step_checkpoints fun outcome heq => hafter ⟨outcome, heq⟩]
    exact h.2

variable (opts) in
theorem step_pendingDurable (h : g.PendingDurable opts)
    (hnot : g.makesDurableProgress env input = false) :
    (g.step env opts input).PendingDurable opts := by
  refine ⟨h.1, ?_⟩
  by_cases hafter : ∃ outcome, input = .after outcome
  · obtain ⟨outcome, rfl⟩ := hafter
    exact afterToolCall_durable h.2 hnot
  · rw [step_checkpoints fun outcome heq => hafter ⟨outcome, heq⟩]
    exact h.2

/-- A final disposition, or research that is neither operational nor the canonical update
itself. -/
def needsDurableProgress (env : FocusPlatform) (request : ResearchFocusToolRequest) : Bool :=
  isSessionDispositionTool env request.toolName
    || (decide (request.kind = .research) && !isDurableProgressTool env request.toolName
      && !isOperationalSupportTool env request.toolName)

variable {request : ResearchFocusToolRequest}

theorem blocked_of_pendingDurable (h : g.PendingDurable opts)
    (hneeds : needsDurableProgress env request = true) :
    (g.beforeToolCall env opts request).2.block = true := by
  have hpend : (g.turn request.turn).1.durableProgressPending = true := by
    have hsame := congrArg Checkpoints.durableProgressPending (turn_checkpoints g request.turn)
    exact hsame.trans h.2
  have hheld : (g.turn request.turn).1.durablyHeld env opts request = true := by
    unfold durablyHeld
    rw [h.1, hpend]
    exact hneeds
  unfold beforeToolCall
  simp only
  rw [if_pos hheld]

theorem blocked_of_pendingConvergence (h : g.PendingConvergence opts)
    (hsrc : isSourceExplorationTool env request.toolName = true) :
    (g.beforeToolCall env opts request).2.block = true := by
  have hpend : (g.turn request.turn).1.convergencePending = true := by
    have hsame := congrArg Checkpoints.convergencePending (turn_checkpoints g request.turn)
    exact hsame.trans h.2
  have hheld : (g.turn request.turn).1.convergenceHeld env opts request = true := by
    unfold convergenceHeld
    rw [h.1, hpend]
    exact hsrc
  unfold beforeToolCall
  simp only [hheld]
  split
  · rfl
  · rfl

/-- What the checkpoints of `g` block after the inputs of a run. -/
structure GatesHold (env : FocusPlatform) (opts : FocusOptions) (g : ResearchFocusGuard)
    (inputs : List FocusInput) : Prop where
  convergence : g.PendingConvergence opts →
    RunMeets (ResearchFocusGuard.step env opts)
      (fun g input => g.resolvesConvergence env input = false) g inputs →
    ∀ request, isSourceExplorationTool env request.toolName = true →
      ((runSteps (ResearchFocusGuard.step env opts) g inputs).beforeToolCall env opts
        request).2.block = true
  durable : g.PendingDurable opts →
    RunMeets (ResearchFocusGuard.step env opts)
      (fun g input => g.makesDurableProgress env input = false) g inputs →
    ∀ request, needsDurableProgress env request = true →
      ((runSteps (ResearchFocusGuard.step env opts) g inputs).beforeToolCall env opts
        request).2.block = true

/-- In every run from every state, a pending checkpoint blocks what it holds back until an
outcome resolves it. -/
theorem run_gatesHold (env : FocusPlatform) (opts : FocusOptions) (g : ResearchFocusGuard)
    (inputs : List FocusInput) : GatesHold env opts g inputs where
  convergence := by
    intro hpending hmeets request hsource
    have hfinal := runSteps_invariant_of_meets
      (fun g input h hnot => step_pendingConvergence opts h hnot) hpending hmeets
    exact blocked_of_pendingConvergence hfinal hsource
  durable := by
    intro hpending hmeets request hneeds
    have hfinal := runSteps_invariant_of_meets
      (fun g input h hnot => step_pendingDurable opts h hnot) hpending hmeets
    exact blocked_of_pendingDurable hfinal hneeds

/-! ## An unchanged outcome that counts -/

/-- What the gate for durable progress would be, if an unchanged outcome never counted. -/
def UnchangedNeverCounts (env : FocusPlatform) (opts : FocusOptions) (earlier : List FocusInput)
    (later : List FocusInput) (request : ResearchFocusToolRequest) : Prop :=
  let pending := runSteps (ResearchFocusGuard.step env opts) .fresh earlier
  pending.PendingDurable opts →
    RunMeets (ResearchFocusGuard.step env opts)
      (fun g input => g.changesDurableState env input = false) pending later →
    needsDurableProgress env request = true →
      ((runSteps (ResearchFocusGuard.step env opts) pending later).beforeToolCall env opts
        request).2.block = true

/-- Texts as their own digests, and ASCII lower case. -/
def plainFocusPlatform : FocusPlatform where
  sha256 text := text
  toLowerCase s := s.map fun u => if 65 ≤ u ∧ u ≤ 90 then u + 32 else u

def researchCall (callId toolName : String) : ResearchFocusToolRequest where
  callId := js callId
  turn := 1
  toolName := js toolName
  input := []
  kind := .research

def succeeded (callId : String) (artifacts : List String) : FocusInput :=
  .after
    { callId := js callId
      status := js "complete"
      summary := none
      artifactRefs := some (artifacts.map fun id => ⟨some (js id), none⟩)
      result := none }

/-- A checkpoint after every activity. -/
def oneActivity : FocusOptions where
  objective := []
  convergenceEnabled := false
  durableProgressEnabled := true
  durableProgressActivityCalls := 1

/-- The same memory is saved before and after the activity, with the same outcome. The
second outcome resolves the checkpoint because it names the artifact again. -/
theorem unchanged_artifact_resolves :
    ¬ UnchangedNeverCounts plainFocusPlatform oneActivity
      [.before (researchCall "save" "memory_save"), succeeded "save" ["m1"],
        .before (researchCall "shell" "shell_run"), succeeded "shell" []]
      [.before (researchCall "again" "memory_save"), succeeded "again" ["m1"]]
      (researchCall "next" "shell_run") := by
  intro h
  have hblocked := h ⟨rfl, by decide +kernel⟩ ⟨rfl, by decide +kernel, trivial⟩ (by decide +kernel)
  revert hblocked
  decide +kernel

end Beale.Focus
