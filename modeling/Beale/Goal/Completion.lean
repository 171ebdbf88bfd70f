import Beale.Goal.Runtime

/-!
# Completion discipline

A goal completes on an achieved disposition only, and where requirements or open
findings bind it, only after an audit: the response before was achieved too, and
nothing it is audited against has changed since.

- `CompletionDiscipline`, `reached_completionDiscipline`: the rules hold in every
  session, and no input leaves a terminal status.
- `partial_response_repeats_audit`: a response that is not achieved, between two
  that are, makes the same fingerprint audited twice.
-/

namespace Beale.Goal

open Beale.Library

def CountedResponse.fingerprint (env : GoalPlatform) (r : CountedResponse) : Option Digest :=
  completionAuditFingerprint env r.objective r.requirements r.findings

def CountedResponse.achieved (r : CountedResponse) : Bool := isAchievedDisposition r.disposition

/-- A response that completes the goal is achieved; where requirements or findings bind it,
the response before was achieved under the same fingerprint. -/
def CompletesInOrder (env : GoalPlatform) (earlier : List CountedResponse) (r : CountedResponse) :
    Prop :=
  r.statusAfter = .complete → r.achieved = true ∧
    (r.requirements ≠ [] ∨ r.findings ≠ [] → ∃ previous, earlier.getLast? = some previous ∧
      previous.achieved = true ∧ previous.fingerprint env = r.fingerprint env)

/-- A response that is achieved under the same fingerprint as an achieved one right before
it is not audited again: it completes the goal. -/
def AuditsInOrder (env : GoalPlatform) (earlier : List CountedResponse) (r : CountedResponse) :
    Prop :=
  ∀ previous, earlier.getLast? = some previous → previous.achieved = true → r.achieved = true →
    previous.fingerprint env = r.fingerprint env →
      r.completionAuditRequired = false ∧ r.statusAfter = .complete

/-- The rules hold for every counted response, the goal becomes complete by a counted
response only, and a terminal status stays. -/
structure CompletionDiscipline (env : GoalPlatform) (s : GoalSession) : Prop where
  completes : EachAfter (CompletesInOrder env) s.history
  audits : EachAfter (AuditsInOrder env) s.history
  becomes : ∀ i, s.runtime.status ≠ .complete → (step env s i).runtime.status = .complete →
    ∃ r, (step env s i).history = s.history ++ [r] ∧ r.statusAfter = .complete
  terminal : ∀ i, s.runtime.status ≠ .active → (step env s i).runtime.status = s.runtime.status

/-! ## The pending audit -/

/-- A pending audit was demanded by the last response, and an achieved last response of an
active goal has its audit pending. -/
structure PendingAudit (env : GoalPlatform) (s : GoalSession) : Prop where
  demanded : ∀ f, s.runtime.pendingCompletionAuditFingerprint = some f →
    ∃ previous, s.history.getLast? = some previous ∧ previous.achieved = true ∧
      previous.fingerprint env = some f
  pending : ∀ previous, s.history.getLast? = some previous → previous.achieved = true →
    s.runtime.status = .active →
      s.runtime.pendingCompletionAuditFingerprint = previous.fingerprint env

structure CompletionInv (env : GoalPlatform) (s : GoalSession) : Prop where
  completes : EachAfter (CompletesInOrder env) s.history
  audits : EachAfter (AuditsInOrder env) s.history
  audit : PendingAudit env s

variable {env : GoalPlatform}

theorem fingerprint_ne_none {r : CountedResponse}
    (h : r.requirements ≠ [] ∨ r.findings ≠ []) : r.fingerprint env ≠ none := by
  rw [CountedResponse.fingerprint, completionAuditFingerprint, if_neg]
  · simp
  · simpa [or_iff_not_imp_left] using h

variable {s : GoalSession}

theorem CompletionInv.steered {s' : GoalSession} (h : CompletionInv env s)
    (hhistory : s'.history = s.history) (hst : s'.runtime.status = s.runtime.status)
    (hpend : s'.runtime.pendingCompletionAuditFingerprint
      = s.runtime.pendingCompletionAuditFingerprint) : CompletionInv env s' := by
  refine ⟨hhistory ▸ h.completes, hhistory ▸ h.audits, ?_, ?_⟩
  · rw [hpend, hhistory]
    exact h.audit.demanded
  · rw [hpend, hhistory, hst]
    exact h.audit.pending

/-- The response that `respond` counts. -/
def countedResponse (env : GoalPlatform) (s : GoalSession) (finalResponse : JsString)
    (findings : List ResearchGoalFindingProgress) (now : Instant) : CountedResponse :=
  let c := s.runtime.continueAfterRootResponse env s.recorder findings finalResponse now
  { disposition := s.recorder
    objective := s.runtime.objective
    requirements := s.runtime.bindingRequirements
    findings := findings
    completionAuditRequired := c.completionAuditRequired
    statusAfter := c.runtime.status }

theorem respond_history_of_active (hact : s.runtime.status = .active) (finalResponse : JsString)
    (findings : List ResearchGoalFindingProgress) (now : Instant) :
    (s.respond env finalResponse findings now).history
      = s.history ++ [countedResponse env s finalResponse findings now] := by
  rw [GoalSession.respond, if_pos hact]
  rfl

/-- One response: the rules hold for it, and the pending audit is its own. -/
theorem respond_completionInv (h : CompletionInv env s)
    (finalResponse : JsString) (findings : List ResearchGoalFindingProgress) (now : Instant) :
    CompletionInv env (s.respond env finalResponse findings now) := by
  by_cases hact : s.runtime.status = .active
  · have hhistory : (s.respond env finalResponse findings now).history
        = s.history ++ [countedResponse env s finalResponse findings now] :=
      respond_history_of_active hact finalResponse findings now
    have hdecided := (GoalRuntime.continueAfterRootResponse_responded env hact s.recorder
      findings finalResponse now).decided
    have hlast : (s.respond env finalResponse findings now).history.getLast?
        = some (countedResponse env s finalResponse findings now) := by
      rw [hhistory, List.getLast?_concat]
    refine ⟨?_, ?_, ?_, ?_⟩
    · rw [hhistory]
      refine eachAfter_concat.mpr ⟨h.completes, fun hcompl => ?_⟩
      cases hdecided with
      | audited _ _ _ hst | waited _ hst | resumed _ _ hst =>
        exact absurd (hcompl.symm.trans hst) (by decide)
      | completed hach hdone =>
        refine ⟨hach, fun hbinding => ?_⟩
        -- something binds, so the fingerprint was pending, and the last response demanded it
        have hsome : s.runtime.auditFingerprint env findings ≠ none :=
          fingerprint_ne_none (r := countedResponse env s finalResponse findings now) hbinding
        obtain ⟨f, hf⟩ := Option.ne_none_iff_exists'.mp hsome
        have hpend := hdone.resolve_left hsome
        rw [hf] at hpend
        obtain ⟨previous, hprev, hwas, hsame⟩ := h.audit.demanded f hpend
        exact ⟨previous, hprev, hwas, hsame.trans hf.symm⟩
    · rw [hhistory]
      refine eachAfter_concat.mpr ⟨h.audits, fun previous hprev hwas hach hsame => ?_⟩
      have hpend := h.audit.pending previous hprev hwas hact
      cases hdecided with
      | audited _ _ hnew => exact absurd (hpend.trans hsame) hnew
      | completed _ _ hst _ haudit => exact ⟨haudit, hst⟩
      | waited hblock =>
        have hnot := GoalRuntime.not_blocked_of_achieved hach
        exact absurd (hblock.symm.trans hnot) (by decide)
      | resumed hnot => exact absurd (hnot.symm.trans hach) (by decide)
    · intro f hf
      cases hdecided with
      | audited hach _ _ _ hpend =>
        exact ⟨_, hlast, hach, hpend.symm.trans hf⟩
      | completed _ _ _ hpend | waited _ _ hpend | resumed _ _ _ hpend =>
        exact absurd (hf.symm.trans hpend) (by simp)
    · intro previous hprev hach hstillActive
      rw [hlast, Option.some.injEq] at hprev
      subst hprev
      cases hdecided with
      | audited _ _ _ _ hpend => exact hpend
      | completed _ _ hst => exact absurd (hstillActive.symm.trans hst) (by decide)
      | waited _ hst => exact absurd (hstillActive.symm.trans hst) (by decide)
      | resumed hnot => exact absurd (hnot.symm.trans hach) (by decide)
  · have hsame := GoalRuntime.continueAfterRootResponse_of_terminal env hact s.recorder findings
      finalResponse now
    refine h.steered ?_ ?_ ?_
    · rw [GoalSession.respond, if_neg hact]
    · rw [GoalSession.respond, hsame]
    · rw [GoalSession.respond, hsame]

theorem step_completionInv (env : GoalPlatform) (i : GoalInput)
    (h : CompletionInv env s) : CompletionInv env (step env s i) := by
  cases i with
  | record input now =>
    simp only [step]
    split
    · exact h.steered rfl rfl rfl
    · exact h
  | noteSteering messages => exact h.steered rfl rfl rfl
  | replaceSteering messages => exact h.steered rfl rfl rfl
  | respond finalResponse findings now => exact respond_completionInv h finalResponse findings now

/-! ## The discipline -/

theorem step_status {i : GoalInput}
    (hi : ∀ finalResponse findings now, i ≠ .respond finalResponse findings now) :
    (step env s i).runtime.status = s.runtime.status := by
  cases i with
  | record input now =>
    simp only [step]
    split <;> rfl
  | noteSteering messages => rfl
  | replaceSteering messages => rfl
  | respond finalResponse findings now => exact absurd rfl (hi finalResponse findings now)

theorem CompletionInv.discipline (h : CompletionInv env s) : CompletionDiscipline env s where
  completes := h.completes
  audits := h.audits
  becomes i hbef hafter := by
    by_cases hi : ∃ finalResponse findings now, i = .respond finalResponse findings now
    · obtain ⟨finalResponse, findings, now, rfl⟩ := hi
      by_cases hact : s.runtime.status = .active
      · exact ⟨_, respond_history_of_active hact finalResponse findings now, hafter⟩
      · -- a response to a terminal goal changes nothing
        have hsame := GoalRuntime.continueAfterRootResponse_of_terminal env hact s.recorder
          findings finalResponse now
        rw [step, GoalSession.respond, hsame] at hafter
        exact absurd hafter hbef
    · rw [step_status fun a b c hc => hi ⟨a, b, c, hc⟩] at hafter
      exact absurd hafter hbef
  terminal i hterm := by
    by_cases hi : ∃ finalResponse findings now, i = .respond finalResponse findings now
    · obtain ⟨finalResponse, findings, now, rfl⟩ := hi
      rw [step, GoalSession.respond, GoalRuntime.continueAfterRootResponse_of_terminal env hterm]
    · exact step_status fun a b c hc => hi ⟨a, b, c, hc⟩

theorem new_completionInv {options : GoalOptions} {now : Instant}
    (h : GoalSession.new env options now = .ok s) : CompletionInv env s := by
  obtain ⟨runtime, hruntime, rfl⟩ := GoalSession.new_eq h
  refine ⟨eachAfter_nil _, eachAfter_nil _, ?_, ?_⟩
  · intro f hf
    exact absurd (hf.symm.trans (GoalRuntime.new_pending hruntime).1) (by simp)
  · intro previous hprev
    cases hprev

/-- **Completion discipline**, in every session. -/
theorem reached_completionDiscipline (env : GoalPlatform) (options : GoalOptions) (now : Instant)
    (inputs : List GoalInput) (s : GoalSession) (h : reached env options now inputs = .ok s) :
    CompletionDiscipline env s := by
  obtain ⟨first, hfirst, rfl⟩ := reached_eq h
  have hinv := runSteps_invariant (fun _ i => step_completionInv env i) (new_completionInv hfirst) inputs
  exact hinv.discipline

/-! ## Two audits of one snapshot -/

/-- How often an audit was demanded under a fingerprint. -/
def auditsUnder (env : GoalPlatform) (s : GoalSession) (f : Digest) : Nat :=
  (s.history.filter fun r => r.completionAuditRequired && r.fingerprint env = some f).length

/-- The digest of the one snapshot of the session below. -/
def parserDigest : Digest :=
  ⟨js "85534373df4cf589fb08cb8a0dc8c188fa3cdba8fe858b5079df3843d9f9604a", by decide +kernel⟩

def parserPlatform : GoalPlatform :=
  asciiPlatform (js "\x7b\"objective\":\"Verify the parser.\",\"requirements\":[\"Use the new build.\"],\"findings\":[]\x7d")
    parserDigest

def parserOptions : GoalOptions where
  objective := js "Verify the parser."
  currentRequest := some (js "Use the new build.")
  initialState := none
  reactivateTerminalInitialState := false

/-- An achieved response, one that continues, and an achieved one again. -/
def partialBetweenAchieved : List GoalInput :=
  [.record (signal (js "achieved")) (instantAt 1), .respond [] [] (instantAt 2),
    .record (signal (js "continue")) (instantAt 3), .respond [] [] (instantAt 4),
    .record (signal (js "achieved")) (instantAt 5), .respond [] [] (instantAt 6)]

/-- An achieved response and its audit, then an achieved one that completes the goal. -/
def achievedTwice : List GoalInput :=
  [.record (signal (js "achieved")) (instantAt 1), .respond [] [] (instantAt 2),
    .record (signal (js "achieved")) (instantAt 3), .respond [] [] (instantAt 4)]

theorem reached_completionDiscipline_achievedTwice :
    ∃ s, reached parserPlatform parserOptions (instantAt 0) achievedTwice = .ok s ∧
      CompletionDiscipline parserPlatform s :=
  ⟨_, rfl, reached_completionDiscipline parserPlatform parserOptions (instantAt 0) achievedTwice _ rfl⟩

/-- The response in between clears the pending audit, and the same snapshot is audited
again. -/
theorem partial_response_repeats_audit :
    ¬∀ s, reached parserPlatform parserOptions (instantAt 0) partialBetweenAchieved = .ok s →
      ∀ f, auditsUnder parserPlatform s f ≤ 1 := by
  intro h
  exact absurd (h _ rfl parserDigest) (by decide +kernel)

end Beale.Goal
