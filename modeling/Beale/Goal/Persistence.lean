import Beale.Goal.Runtime

/-!
# Persistence of a goal

A goal outlives its process through the state it exports. This module says when the
exported state is accepted, and when a runtime rebuilt from it is the same goal.

- `reached_persistsFaithfully`: the one is the other, in every session.
- `pending_audit_is_refused`: a goal whose completion audit is pending is lost.
- `reached_turnsCounted`: what the turns and the blocked turns of a goal count.
-/

namespace Beale.Goal

open Beale.Library

/-! ## Compacted texts -/

theorem isWhitespace_ellipsis : isWhitespace ellipsis = false := by decide

theorem compactText_eq_self {s : JsString} {maxChars : Nat} (hcollapsed : Collapsed s)
    (htrim : trim s = s) (hlen : s.length ≤ maxChars) : compactText s maxChars = s := by
  unfold compactText
  simp only [collapseWhitespace_eq_self hcollapsed, htrim, if_pos hlen]

theorem compactText_idem {maxChars : Nat} (hmax : 0 < maxChars) (s : JsString) :
    compactText (compactText s maxChars) maxChars = compactText s maxChars := by
  have hcollapsed : Collapsed (trim (collapseWhitespace s)) := (collapseWhitespace_collapsed s).trim
  generalize hcompact : trim (collapseWhitespace s) = compact at hcollapsed
  have htrim : trim compact = compact := hcompact ▸ trim_idem _
  have hvalue : compactText s maxChars = if compact.length ≤ maxChars then compact
      else trimEnd (compact.take (maxChars - 1)) ++ [ellipsis] := by
    rw [compactText, hcompact]
  by_cases hlen : compact.length ≤ maxChars
  · rw [hvalue, if_pos hlen]
    exact compactText_eq_self hcollapsed htrim hlen
  · rw [hvalue, if_neg hlen]
    -- what is cut short is the beginning of a trimmed text, and the ellipsis ends it
    have hbegins : trimEnd (compact.take (maxChars - 1)) <+: compact :=
      (trimEnd_isPrefix _).trans (List.take_prefix _ _)
    have hshort : (trimEnd (compact.take (maxChars - 1))).length ≤ maxChars - 1 :=
      (trimEnd_isPrefix _).length_le.trans (List.length_take_le _ _)
    generalize trimEnd (compact.take (maxChars - 1)) = start at hbegins hshort
    refine compactText_eq_self ((hcollapsed.within hbegins.isInfix).concat isWhitespace_ellipsis)
      ?_ ?_
    · refine trim_eq_self ?_ (trimEnd_concat isWhitespace_ellipsis)
      have hhead := dropWhile_of_prefix hbegins (htrim ▸ dropWhile_trim compact)
      cases start with
      | nil => decide
      | cons u rest =>
        rw [List.cons_append, List.dropWhile_cons_of_neg (by simp [isWhitespace_head hhead])]
    · rw [List.length_append, List.length_singleton]
      omega

theorem normalizeGoalObjective_idem (s : JsString) :
    normalizeGoalObjective (normalizeGoalObjective s) = normalizeGoalObjective s :=
  compactText_idem (by decide) s

/-! ## Reading the exported state back -/

/-- What the parser keeps of a disposition. -/
def ResearchFinalDisposition.withoutSuggestions (d : ResearchFinalDisposition) :
    ResearchFinalDisposition :=
  { d with nextPromptSuggestions := none }

theorem parsePersistedBlockerDependency_dependencyJson (d : ResearchBlockerDependency) :
    parsePersistedBlockerDependency (dependencyJson d) = some d := by
  have hkind : (dependencyJson d).field? (js "kind") = some (.str d.kind.text) := rfl
  have hdescription : textField? (js "description") (dependencyJson d) = some d.description :=
    textOf?_text d.description
  have hrequired : textField? (js "requiredState") (dependencyJson d) = some d.requiredState :=
    textOf?_text d.requiredState
  have hexternal : boolField? (js "external") (dependencyJson d) = some d.external := rfl
  rw [parsePersistedBlockerDependency, hkind, ofText_text kind_text_injective (mem_kinds _),
    hdescription, hrequired, hexternal]
  rfl

theorem mapM_dependencyJson (dependencies : List ResearchBlockerDependency) :
    (dependencies.map dependencyJson).mapM parsePersistedBlockerDependency = some dependencies := by
  induction dependencies with
  | nil => rfl
  | cons d rest ih => simp [parsePersistedBlockerDependency_dependencyJson, ih]

theorem parsePersistedDisposition_dispositionJson (d : ResearchFinalDisposition) :
    parsePersistedDisposition (dispositionJson d) = some d.withoutSuggestions := by
  have houtcome : (dispositionJson d).field? (js "outcome") = some (.str d.outcome.text) := rfl
  have hsum : textField? (js "summary") (dispositionJson d) = some d.summary :=
    textOf?_text d.summary
  have hdependencies : (dispositionJson d).field? (js "blockerDependencies")
      = some (.arr (d.blockerDependencies.map dependencyJson)) := rfl
  have hexternal : boolField? (js "externalStateRequired") (dispositionJson d)
      = some d.externalStateRequired := rfl
  have hrec : isoTimestamp ((dispositionJson d).field? (js "recordedAt"))
      = some d.recordedAt := dateParse_toISOString d.recordedAt
  rw [parsePersistedDisposition, houtcome, ofText_text outcome_text_injective (mem_outcomes _),
    hsum, hdependencies, hexternal, hrec]
  simp only [Option.bind_eq_bind, Option.bind_some, mapM_dependencyJson]
  rw [dif_pos ⟨d.external_iff, d.blocked_has, d.achieved_none⟩]
  rfl

def ResearchGoalPersistedState.readBack (p : ResearchGoalPersistedState) :
    ResearchGoalPersistedState :=
  { p with
    objective := normalizeGoalObjective p.objective
    lastDisposition := p.lastDisposition.map (·.withoutSuggestions) }

/-- What the parser asks of an exported state. -/
structure Readable (env : GoalPlatform) (p : ResearchGoalPersistedState) : Prop where
  turns : p.turnsUsed ≤ maxSafeInteger
  counted : p.consecutiveBlockedTurns ≤ maxSafeInteger
  objective : normalizeGoalObjective p.objective ≠ []
  consistent : Consistent env p.readBack

theorem status_text_injective : ∀ a b : ResearchGoalStatus, a.text = b.text → a = b := by
  intro a b
  cases a <;> cases b <;> decide

theorem nonNegativeInteger_natural (n : Nat) :
    nonNegativeInteger (some (.num (.integer n))) = if n ≤ maxSafeInteger then some n else none := by
  show (if 0 ≤ (n : Int) ∧ (n : Int) ≤ maxSafeInteger then some (n : Int).toNat else none) = _
  by_cases h : n ≤ maxSafeInteger
  · rw [if_pos h, if_pos ⟨by omega, by omega⟩, Int.toNat_natCast]
  · rw [if_neg h, if_neg (by omega)]

theorem parseFingerprint_digest (f : Option Digest) :
    parseFingerprint (some ((f.map fun f => Json.str f.1).getD .null)) = some f := by
  cases f with
  | none => rfl
  | some f => exact dif_pos f.2

theorem parseLastDisposition_dispositionJson (d : Option ResearchFinalDisposition) :
    parseLastDisposition (some ((d.map dispositionJson).getD .null))
      = some (d.map (·.withoutSuggestions)) := by
  cases d with
  | none => rfl
  | some d =>
    show some <$> parsePersistedDisposition (dispositionJson d) = _
    rw [parsePersistedDisposition_dispositionJson]
    rfl

/-- **Reading back**: the exported state is accepted exactly where it is readable. -/
theorem parseResearchGoalPersistedState_persistedJson (env : GoalPlatform)
    (p : ResearchGoalPersistedState) (q : ResearchGoalPersistedState) :
    parseResearchGoalPersistedState env (persistedJson p) = some q
      ↔ Readable env p ∧ q = p.readBack := by
  have hschema : (persistedJson p).field? (js "schemaVersion") = some (.num (.integer 1)) := rfl
  have hobj : (persistedJson p).stringField? (js "objective") = some p.objective := rfl
  have hst : (persistedJson p).field? (js "status") = some (.str p.status.text) := rfl
  have hturns : (persistedJson p).field? (js "turnsUsed")
      = some (.num (.integer p.turnsUsed)) := rfl
  have hcount : (persistedJson p).field? (js "consecutiveBlockedTurns")
      = some (.num (.integer p.consecutiveBlockedTurns)) := rfl
  have hfingerprint : (persistedJson p).field? (js "blockerFingerprint")
      = some ((p.blockerFingerprint.map fun f => Json.str f.1).getD .null) := rfl
  have hlast : (persistedJson p).field? (js "lastDisposition")
      = some ((p.lastDisposition.map dispositionJson).getD .null) := rfl
  have hcreate : isoTimestamp ((persistedJson p).field? (js "createdAt")) = some p.createdAt :=
    dateParse_toISOString p.createdAt
  have hupdated : isoTimestamp ((persistedJson p).field? (js "updatedAt")) = some p.updatedAt :=
    dateParse_toISOString p.updatedAt
  have hmem : p.status ∈ [ResearchGoalStatus.active, .complete, .blocked] := by
    cases p.status <;> decide
  rw [parseResearchGoalPersistedState, hschema]
  simp only [hobj, hst, ofText_text status_text_injective hmem, hturns, hcount,
    nonNegativeInteger_natural, hfingerprint, parseFingerprint_digest, hlast,
    parseLastDisposition_dispositionJson, hcreate, hupdated, Option.bind_eq_bind,
    Option.bind_some, Option.map_eq_map, Option.map_some]
  by_cases hread : Readable env p
  · obtain ⟨h1, h2, h3, h4⟩ := hread
    rw [if_pos h1, if_pos h2, Option.bind_some, Option.bind_some, if_pos ⟨h3, h4⟩]
    constructor
    · intro h
      exact ⟨⟨h1, h2, h3, h4⟩, (Option.some.inj h).symm⟩
    · rintro ⟨-, rfl⟩
      rfl
  · constructor
    · intro h
      refine absurd ?_ hread
      split at h
      case isFalse => cases h
      case isTrue h1 =>
        split at h
        case isFalse => cases h
        case isTrue h2 =>
          simp only [Option.bind_some] at h
          split at h
          case isFalse => cases h
          case isTrue h3 => exact ⟨h1, h2, h3.1, h3.2⟩
    · exact fun h => absurd h.1 hread

/-! ## What a reachable runtime keeps -/

@[simp] theorem isAchievedDisposition_withoutSuggestions (d : Option ResearchFinalDisposition) :
    isAchievedDisposition (d.map (·.withoutSuggestions)) = isAchievedDisposition d := by
  cases d <;> rfl

@[simp] theorem isBlockedDisposition_withoutSuggestions (d : Option ResearchFinalDisposition) :
    isBlockedDisposition (d.map (·.withoutSuggestions)) = isBlockedDisposition d := by
  cases d <;> rfl

@[simp] theorem blockerFingerprint_withoutSuggestions (env : GoalPlatform)
    (d : Option ResearchFinalDisposition) :
    blockerFingerprint env (d.map (·.withoutSuggestions)) = blockerFingerprint env d := by
  cases d <;> rfl

variable {env : GoalPlatform} {d : Option ResearchFinalDisposition}

theorem blockerFingerprint_eq_none
    (h : isBlockedDisposition d = false) : blockerFingerprint env d = none := by
  cases d with
  | none => rfl
  | some d =>
    by_cases hwaits : (d.outcome = .blocked && d.externalStateRequired) = true
    · -- no dependency is external, so there is no line to digest
      rw [isBlockedDisposition, hwaits, Bool.true_and] at h
      have hfilter : d.blockerDependencies.filter (·.external) = [] := by
        simpa [List.filter_eq_nil_iff] using h
      simp [blockerFingerprint, hfilter]
    · exact if_neg hwaits

/-- How the fields of a reachable runtime go together. -/
structure GoalInv (env : GoalPlatform) (s : GoalRuntime) : Prop where
  objective : s.objective = normalizeGoalObjective s.options.objective
  nonempty : s.objective ≠ []
  request : s.currentRequest = currentRequestOf env s.options
  turns : s.turnsUsed = 0 → s.lastDisposition = none
  fingerprint : s.blockerFingerprint = blockerFingerprint env s.lastDisposition
  counted : s.consecutiveBlockedTurns = 0 ↔ s.blockerFingerprint = none
  bounded : s.consecutiveBlockedTurns ≤ maxSafeInteger
  complete : s.status = .complete → isAchievedDisposition s.lastDisposition = true
  blocked : s.status = .blocked → isBlockedDisposition s.lastDisposition = true
  active : s.status = .active → isBlockedDisposition s.lastDisposition = false
  pending : s.pendingCompletionAuditFingerprint ≠ none ↔
    s.status = .active ∧ isAchievedDisposition s.lastDisposition = true

variable {s r : GoalRuntime}

theorem GoalInv.no_fingerprint (h : GoalInv env s)
    (hact : s.status = .active) : s.blockerFingerprint = none := by
  rw [h.fingerprint]
  exact blockerFingerprint_eq_none (h.active hact)

variable {p : ResearchGoalPersistedState}

theorem parseResearchGoalPersistedState_accepted {value : Json}
    (h : parseResearchGoalPersistedState env value = some p) :
    p.consecutiveBlockedTurns ≤ maxSafeInteger ∧ Consistent env p := by
  unfold parseResearchGoalPersistedState at h
  split at h
  case h_1 =>
    simp only [optionBind_some] at h
    obtain ⟨objective, -, status, -, turns, -, counted, hcount, fingerprint, -, last, -,
      created, -, updated, -, h⟩ := h
    split at h
    case isTrue hchecks =>
      cases h
      refine ⟨?_, hchecks.2⟩
      unfold nonNegativeInteger at hcount
      split at hcount
      case h_1 n _ =>
        split at hcount
        case isTrue hrange =>
          cases hcount
          show n.toNat ≤ maxSafeInteger
          omega
        case isFalse => cases hcount
      case h_2 => cases hcount
    case isFalse => cases h
  case h_2 => cases h

variable {options : GoalOptions} {now : Instant}

theorem restoredState_consistent (h : restoredState env options now = some p) :
    (p.consecutiveBlockedTurns ≤ maxSafeInteger ∧ Consistent env p) ∨
      (p.status = .active ∧ p.consecutiveBlockedTurns = 0 ∧ p.blockerFingerprint = none ∧
        p.lastDisposition = none) := by
  obtain ⟨q, hq, hp⟩ := Option.map_eq_some_iff.mp h
  obtain ⟨hq, -⟩ := Option.filter_eq_some_iff.mp hq
  obtain ⟨value, -, hparse⟩ := Option.bind_eq_some_iff.mp hq
  split at hp
  · subst hp
    exact Or.inr ⟨rfl, rfl, rfl, rfl⟩
  · subst hp
    exact Or.inl (parseResearchGoalPersistedState_accepted hparse)

/-- A new runtime keeps it, with or without a state to start from. -/
theorem new_goalInv (h : GoalRuntime.new env options now = .ok s) : GoalInv env s := by
  rw [GoalRuntime.new] at h
  split at h
  case isTrue => cases h
  case isFalse hobj =>
    cases hrestore : restoredState env options now with
    | none =>
      rw [hrestore] at h
      cases h
      constructor <;> simp [hobj, blockerFingerprint, isAchievedDisposition, isBlockedDisposition]
    | some p =>
      rw [hrestore] at h
      cases h
      rcases restoredState_consistent hrestore with ⟨hbound, hp⟩ | ⟨hst, hzero, hf, hlast⟩
      · constructor
        · rfl
        · exact hobj
        · rfl
        · exact hp.turns
        · exact hp.fingerprint
        · exact hp.counted
        · exact hbound
        · exact hp.complete
        · exact hp.blocked
        · exact fun hact => (hp.active hact).2
        · refine ⟨fun hpend => absurd rfl hpend, ?_⟩
          rintro ⟨hact, hach⟩
          exact absurd (hach.symm.trans (hp.active hact).1) (by decide)
      · constructor <;> simp [hobj, hst, hzero, hf, hlast, blockerFingerprint,
          isAchievedDisposition, isBlockedDisposition]

theorem respond_goalInv (h : GoalInv env s)
    (d : Option ResearchFinalDisposition) (findings : List ResearchGoalFindingProgress)
    (finalResponse : JsString) (now : Instant) :
    GoalInv env (s.continueAfterRootResponse env d findings finalResponse now).runtime := by
  by_cases hact : s.status = .active
  · have hr := GoalRuntime.continueAfterRootResponse_responded env hact d findings finalResponse now
    generalize s.continueAfterRootResponse env d findings finalResponse now = c at hr
    obtain ⟨hoptions, hobj, hreq, hsteer, hcreate⟩ := hr.frame
    have hcount : c.runtime.consecutiveBlockedTurns
        = if blockerFingerprint env d = none then 0 else 1 := by
      rw [hr.counted, h.no_fingerprint hact]
      cases blockerFingerprint env d <;> simp
    constructor
    · rw [hobj, hoptions, h.objective]
    · rw [hobj]
      exact h.nonempty
    · rw [hreq, hoptions, h.request]
    · intro hzero
      rw [hr.turnsUsed, GoalRuntime.countTurn] at hzero
      split at hzero <;> omega
    · rw [hr.fingerprint, hr.lastDisposition]
    · rw [hcount, hr.fingerprint]
      split <;> simp_all
    · rw [hcount]
      split <;> decide
    · intro hst
      rw [hr.lastDisposition]
      cases hr.decided with
      | audited _ _ _ h' | waited _ h' | resumed _ _ h' => rw [h'] at hst; cases hst
      | completed hach => exact hach
    · intro hst
      rw [hr.lastDisposition]
      cases hr.decided with
      | audited _ _ _ h' | completed _ _ h' | resumed _ _ h' => rw [h'] at hst; cases hst
      | waited hblock => exact hblock
    · intro hst
      rw [hr.lastDisposition]
      cases hr.decided with
      | audited hach => exact GoalRuntime.not_blocked_of_achieved hach
      | completed _ _ h' => rw [h'] at hst; cases hst
      | waited _ h' => rw [h'] at hst; cases hst
      | resumed _ hblock => exact hblock
    · rw [hr.lastDisposition]
      cases hr.decided with
      | audited hach hsome _ hst hpend => simp [hpend, hsome, hst, hach]
      | completed _ _ hst hpend => simp [hpend, hst]
      | waited _ hst hpend => simp [hpend, hst]
      | resumed hach _ hst hpend => simp [hpend, hach]
  · rw [GoalRuntime.continueAfterRootResponse_of_terminal env hact]
    exact h

theorem GoalInv.steered (h : GoalInv env s) (messages : List JsString) :
    GoalInv env { s with authoritativeUserSteering := messages } := by
  obtain ⟨h1, h2, h3, h4, h5, h6, h7, h8, h9, h10, h11⟩ := h
  exact ⟨h1, h2, h3, h4, h5, h6, h7, h8, h9, h10, h11⟩

theorem step_goalInv (env : GoalPlatform) {s : GoalSession} (i : GoalInput)
    (h : GoalInv env s.runtime) : GoalInv env (step env s i).runtime := by
  cases i with
  | record input now =>
    simp only [step]
    split <;> exact h
  | noteSteering messages => exact h.steered _
  | replaceSteering messages => exact h.steered _
  | respond finalResponse findings now => exact respond_goalInv h _ findings finalResponse now

theorem reached_goalInv
    {inputs : List GoalInput} {s : GoalSession} (h : reached env options now inputs = .ok s) :
    GoalInv env s.runtime := by
  obtain ⟨first, hfirst, rfl⟩ := reached_eq h
  obtain ⟨runtime, hruntime, rfl⟩ := GoalSession.new_eq hfirst
  exact runSteps_invariant (I := fun s : GoalSession => GoalInv env s.runtime) (fun _ i => step_goalInv env i)
    (new_goalInv hruntime) inputs

/-! ## The round trip -/

namespace GoalRuntime

theorem new_of_restored {env : GoalPlatform} {options : GoalOptions} {now : Instant}
    {p : ResearchGoalPersistedState} (hobj : normalizeGoalObjective options.objective ≠ [])
    (hrestore : restoredState env options now = some p) :
    GoalRuntime.new env options now = .ok {
      options
      objective := normalizeGoalObjective options.objective
      currentRequest := currentRequestOf env options
      status := p.status
      turnsUsed := p.turnsUsed
      consecutiveBlockedTurns := p.consecutiveBlockedTurns
      blockerFingerprint := p.blockerFingerprint
      lastDisposition := p.lastDisposition
      createdAt := p.createdAt
      updatedAt := p.updatedAt
      authoritativeUserSteering := []
      pendingCompletionAuditFingerprint := none
      pendingFindingProgress := [] } := by
  rw [GoalRuntime.new, if_neg hobj, hrestore]
  rfl

/-- The runtime that a later process makes from the exported state. -/
def rebuilt (env : GoalPlatform) (s : GoalRuntime) (now : Instant) : Except JsString GoalRuntime :=
  GoalRuntime.new env { s.options with
    initialState := some (persistedJson s.exportState)
    reactivateTerminalInitialState := false } now

end GoalRuntime

/-- The two runtimes decide the same about every response. -/
def SameDecisions (env : GoalPlatform) (s r : GoalRuntime) : Prop :=
  ∀ disposition findings finalResponse now,
    (r.continueAfterRootResponse env disposition findings finalResponse now).runtime.exportState
      = (s.continueAfterRootResponse env disposition findings finalResponse now).runtime.exportState
    ∧ (r.continueAfterRootResponse env disposition findings finalResponse now).completionAuditRequired
      = (s.continueAfterRootResponse env disposition findings finalResponse now).completionAuditRequired

/-- The exported state is accepted, and a runtime rebuilt from it exports the same state and
decides the same next. -/
structure PersistsFaithfully (env : GoalPlatform) (s : GoalRuntime) : Prop where
  accepted : (parseResearchGoalPersistedState env (persistedJson s.exportState)).isSome = true
  rebuilt : ∀ now, ∃ r, s.rebuilt env now = .ok r ∧ r.exportState = s.exportState ∧
    SameDecisions env s r

/-- No completion audit is pending, the clock has not gone back, the turns can be counted,
the last disposition suggests no next prompts, and no steering is lost that alone binds an
active goal. -/
structure Persistable (s : GoalRuntime) : Prop where
  audit : s.pendingCompletionAuditFingerprint = none
  dates : s.createdAt.1 ≤ s.updatedAt.1
  turns : s.turnsUsed ≤ maxSafeInteger
  suggestions : ∀ d, s.lastDisposition = some d → d.nextPromptSuggestions = none
  steering : s.status = .active → s.authoritativeUserSteering = [] ∨ s.currentRequest ≠ none

theorem GoalInv.readable_iff (h : GoalInv env s) :
    Readable env s.exportState ↔ s.pendingCompletionAuditFingerprint = none ∧
      s.createdAt.1 ≤ s.updatedAt.1 ∧ s.turnsUsed ≤ maxSafeInteger := by
  constructor
  · rintro ⟨hturns, -, -, hconsistent⟩
    refine ⟨?_, hconsistent.dates, hturns⟩
    by_contra hpend
    obtain ⟨hact, hach⟩ := h.pending.mp hpend
    have hnot := (hconsistent.active hact).1
    rw [ResearchGoalPersistedState.readBack, isAchievedDisposition_withoutSuggestions] at hnot
    exact absurd (hach.symm.trans hnot) (by decide)
  · rintro ⟨haudit, hdates, hturns⟩
    have hobj : normalizeGoalObjective s.objective = s.objective := by
      rw [h.objective]
      exact normalizeGoalObjective_idem _
    refine ⟨hturns, h.bounded, ?_, ?_⟩
    · show normalizeGoalObjective s.objective ≠ []
      rw [hobj]
      exact h.nonempty
    · constructor
      · exact hdates
      · intro hzero
        show s.lastDisposition.map _ = none
        rw [h.turns hzero]
        rfl
      · show s.blockerFingerprint = blockerFingerprint env (s.lastDisposition.map _)
        rw [blockerFingerprint_withoutSuggestions]
        exact h.fingerprint
      · exact h.counted
      · intro hcompl
        show isAchievedDisposition (s.lastDisposition.map _) = true
        rw [isAchievedDisposition_withoutSuggestions]
        exact h.complete hcompl
      · intro hblock
        show isBlockedDisposition (s.lastDisposition.map _) = true
        rw [isBlockedDisposition_withoutSuggestions]
        exact h.blocked hblock
      · intro hact
        show isAchievedDisposition (s.lastDisposition.map _) = false ∧
          isBlockedDisposition (s.lastDisposition.map _) = false
        rw [isAchievedDisposition_withoutSuggestions, isBlockedDisposition_withoutSuggestions]
        refine ⟨?_, h.active hact⟩
        by_contra hach
        exact h.pending.mpr ⟨hact, by simpa using hach⟩ haudit

theorem GoalInv.rebuilt_eq (h : GoalInv env s)
    (hread : Readable env s.exportState) (now : Instant) :
    ∃ r, s.rebuilt env now = .ok r ∧ r.exportState = s.exportState.readBack ∧
      r.currentRequest = s.currentRequest ∧ r.authoritativeUserSteering = [] ∧
      r.pendingCompletionAuditFingerprint = none ∧ r.objective = s.objective := by
  have hparse := (parseResearchGoalPersistedState_persistedJson env s.exportState _).mpr
    ⟨hread, rfl⟩
  have hobj : normalizeGoalObjective s.objective = s.objective := by
    rw [h.objective]
    exact normalizeGoalObjective_idem _
  have hrestore : restoredState env { s.options with
      initialState := some (persistedJson s.exportState)
      reactivateTerminalInitialState := false } now = some s.exportState.readBack := by
    unfold restoredState
    rw [Option.bind_some, hparse]
    have hsame : s.exportState.readBack.objective = normalizeGoalObjective s.options.objective := by
      show normalizeGoalObjective s.objective = _
      rw [hobj, h.objective]
    simp [Option.filter_some, hsame]
  have hnonempty : normalizeGoalObjective s.options.objective ≠ [] := h.objective ▸ h.nonempty
  refine ⟨_, GoalRuntime.new_of_restored hnonempty hrestore, ?_, h.request.symm, rfl, rfl,
    h.objective.symm⟩
  simp only [GoalRuntime.exportState, ResearchGoalPersistedState.readBack, hobj, ← h.objective]

variable {findings : List ResearchGoalFindingProgress}

theorem auditFingerprint_eq_none :
    s.auditFingerprint env findings = none ↔ s.bindingRequirements = [] ∧ findings = [] := by
  unfold GoalRuntime.auditFingerprint completionAuditFingerprint
  by_cases h : (s.bindingRequirements.isEmpty && findings.isEmpty) = true
  · rw [if_pos h]
    simpa using h
  · rw [if_neg h]
    simpa using h

theorem Decided.same {status status' : ResearchGoalStatus}
    {pending pending' : Option Digest} {audit audit' : Bool}
    (hs : GoalRuntime.Decided env s d findings status pending audit)
    (hr : GoalRuntime.Decided env r d findings status' pending' audit')
    (hdone : s.pendingCompletionAuditFingerprint = none)
    (hfresh : r.pendingCompletionAuditFingerprint = none)
    (hdemand : s.auditFingerprint env findings = none ↔ r.auditFingerprint env findings = none) :
    status' = status ∧ audit' = audit := by
  have hcompletes : ∀ {t : GoalRuntime}, t.pendingCompletionAuditFingerprint = none →
      (t.auditFingerprint env findings = none ∨
        t.pendingCompletionAuditFingerprint = t.auditFingerprint env findings) →
      t.auditFingerprint env findings = none := by
    rintro t hnone (h | h)
    · exact h
    · rw [← h, hnone]
  -- an achieved response is audited by both or by neither; the others decide alone
  cases hs with
  | audited hach hsome _ hst _ haudit =>
    cases hr with
    | audited _ _ _ hst' _ haudit' => exact ⟨hst'.trans hst.symm, haudit'.trans haudit.symm⟩
    | completed _ hdone' => exact absurd (hdemand.mpr (hcompletes hfresh hdone')) hsome
    | waited hblock =>
      exact absurd (hblock.symm.trans (GoalRuntime.not_blocked_of_achieved hach)) (by decide)
    | resumed hnot => exact absurd (hnot.symm.trans hach) (by decide)
  | completed hach hdone' hst _ haudit =>
    cases hr with
    | audited _ hsome => exact absurd (hdemand.mp (hcompletes hdone hdone')) hsome
    | completed _ _ hst' _ haudit' => exact ⟨hst'.trans hst.symm, haudit'.trans haudit.symm⟩
    | waited hblock =>
      exact absurd (hblock.symm.trans (GoalRuntime.not_blocked_of_achieved hach)) (by decide)
    | resumed hnot => exact absurd (hnot.symm.trans hach) (by decide)
  | waited hblock hst _ haudit =>
    cases hr with
    | audited hach =>
      exact absurd (hblock.symm.trans (GoalRuntime.not_blocked_of_achieved hach)) (by decide)
    | completed hach =>
      exact absurd (hblock.symm.trans (GoalRuntime.not_blocked_of_achieved hach)) (by decide)
    | waited _ hst' _ haudit' => exact ⟨hst'.trans hst.symm, haudit'.trans haudit.symm⟩
    | resumed _ hnot => exact absurd (hnot.symm.trans hblock) (by decide)
  | resumed hnot hnotBlocked hst _ haudit =>
    cases hr with
    | audited hach => exact absurd (hnot.symm.trans hach) (by decide)
    | completed hach => exact absurd (hnot.symm.trans hach) (by decide)
    | waited hblock => exact absurd (hnotBlocked.symm.trans hblock) (by decide)
    | resumed _ _ hst' _ haudit' => exact ⟨hst'.trans hst.symm, haudit'.trans haudit.symm⟩

/-- A rebuilt runtime decides the same, where no audit is pending and something binds both
goals or neither. -/
theorem sameDecisions_of_export
    (hexport : r.exportState = s.exportState) (hdone : s.pendingCompletionAuditFingerprint = none)
    (hfresh : r.pendingCompletionAuditFingerprint = none)
    (hbinding : s.status = .active → (s.bindingRequirements = [] ↔ r.bindingRequirements = [])) :
    SameDecisions env s r := by
  intro d findings finalResponse now
  have hst : r.status = s.status := congrArg ResearchGoalPersistedState.status hexport
  by_cases hact : s.status = .active
  · have hs := GoalRuntime.continueAfterRootResponse_responded env hact d findings finalResponse now
    have hr := GoalRuntime.continueAfterRootResponse_responded env (hst.trans hact) d
      findings finalResponse now
    generalize s.continueAfterRootResponse env d findings finalResponse now = c at hs
    generalize r.continueAfterRootResponse env d findings finalResponse now = c' at hr
    have hdemand : s.auditFingerprint env findings = none ↔ r.auditFingerprint env findings = none := by
      rw [auditFingerprint_eq_none, auditFingerprint_eq_none, hbinding hact]
    obtain ⟨hsame, haudit⟩ := Decided.same hs.decided hr.decided hdone hfresh hdemand
    have hobj : r.objective = s.objective :=
      congrArg ResearchGoalPersistedState.objective hexport
    have hturns : r.turnsUsed = s.turnsUsed := congrArg ResearchGoalPersistedState.turnsUsed hexport
    have hfingerprint : r.blockerFingerprint = s.blockerFingerprint :=
      congrArg ResearchGoalPersistedState.blockerFingerprint hexport
    have hcount : r.consecutiveBlockedTurns = s.consecutiveBlockedTurns :=
      congrArg ResearchGoalPersistedState.consecutiveBlockedTurns hexport
    have hcreate : r.createdAt = s.createdAt :=
      congrArg ResearchGoalPersistedState.createdAt hexport
    refine ⟨?_, haudit⟩
    simp only [GoalRuntime.exportState, hsame, hs.frame, hr.frame, hs.turnsUsed, hr.turnsUsed,
      hs.lastDisposition, hr.lastDisposition, hs.fingerprint, hr.fingerprint, hs.counted,
      hr.counted, hs.updatedAt, hr.updatedAt, hobj, hturns, hfingerprint, hcount, hcreate]
  · rw [GoalRuntime.continueAfterRootResponse_of_terminal env hact,
      GoalRuntime.continueAfterRootResponse_of_terminal env (hst ▸ hact)]
    exact ⟨hexport, rfl⟩

/-- Without a current request, an achieved response is audited against steering, and the
rebuilt runtime, which has none, completes on it. -/
theorem not_sameDecisions_of_lost_steering
    (hexport : r.exportState = s.exportState) (hact : s.status = .active)
    (hdone : s.pendingCompletionAuditFingerprint = none)
    (hsteer : s.authoritativeUserSteering ≠ []) (hnone : r.bindingRequirements = []) :
    ¬SameDecisions env s r := by
  intro h
  have hst : r.status = s.status := congrArg ResearchGoalPersistedState.status hexport
  let d : ResearchFinalDisposition := {
    outcome := .objectiveAchieved
    summary := ⟨js "Goal achieved.", by decide⟩
    blockerDependencies := []
    externalStateRequired := false
    nextPromptSuggestions := none
    recordedAt := s.updatedAt
    external_iff := rfl
    blocked_has := by simp
    achieved_none := by simp }
  have hach : isAchievedDisposition (some d) = true := rfl
  have hsame := (h (some d) [] [] s.updatedAt).2
  have hs := (GoalRuntime.continueAfterRootResponse_responded env hact (some d) [] []
    s.updatedAt).decided
  have hr := (GoalRuntime.continueAfterRootResponse_responded env (hst.trans hact) (some d)
    [] [] s.updatedAt).decided
  have hnotBlocked := GoalRuntime.not_blocked_of_achieved hach
  have haudited : s.auditFingerprint env [] ≠ none := by
    rw [Ne, auditFingerprint_eq_none]
    exact fun hbinding => hsteer (List.append_eq_nil_iff.mp hbinding.1).2
  have hcompletes : r.auditFingerprint env [] = none := auditFingerprint_eq_none.mpr ⟨hnone, rfl⟩
  cases hs with
  | audited _ _ _ _ _ haudit =>
    cases hr with
    | audited _ hsome => exact hsome hcompletes
    | completed _ _ _ _ haudit' =>
      exact absurd (haudit'.symm.trans (hsame.trans haudit)) (by decide)
    | waited hblock => exact absurd (hblock.symm.trans hnotBlocked) (by decide)
    | resumed hnot => exact absurd (hnot.symm.trans hach) (by decide)
  | completed _ h' =>
    rcases h' with h' | h'
    · exact haudited h'
    · exact haudited (h'.symm.trans hdone)
  | waited hblock => exact absurd (hblock.symm.trans hnotBlocked) (by decide)
  | resumed hnot => exact absurd (hnot.symm.trans hach) (by decide)

/-- A state comes back as it is exactly where its objective is normal and its disposition
suggests nothing. -/
theorem GoalInv.readBack_eq_iff (h : GoalInv env s) :
    s.exportState.readBack = s.exportState
      ↔ ∀ d, s.lastDisposition = some d → d.nextPromptSuggestions = none := by
  have hobj : normalizeGoalObjective s.objective = s.objective := by
    rw [h.objective]
    exact normalizeGoalObjective_idem _
  constructor
  · intro hsame d hd
    have hlast : s.lastDisposition.map (·.withoutSuggestions) = s.lastDisposition :=
      congrArg ResearchGoalPersistedState.lastDisposition hsame
    rw [hd, Option.map_some, Option.some.injEq] at hlast
    rw [← hlast]
    rfl
  · intro hnone
    have hlast : s.lastDisposition.map (·.withoutSuggestions) = s.lastDisposition := by
      cases hd : s.lastDisposition with
      | none => rfl
      | some d =>
        have hd' := hnone d hd
        cases d
        cases hd'
        rfl
    show { s.exportState with
      objective := normalizeGoalObjective s.objective
      lastDisposition := s.lastDisposition.map (·.withoutSuggestions) } = s.exportState
    rw [hobj, hlast]
    rfl

theorem GoalInv.persistsFaithfully_iff (h : GoalInv env s) :
    PersistsFaithfully env s ↔ Persistable s := by
  constructor
  · intro hfaithful
    obtain ⟨p, hp⟩ := Option.isSome_iff_exists.mp hfaithful.accepted
    have hreadable := ((parseResearchGoalPersistedState_persistedJson env s.exportState p).mp hp).1
    obtain ⟨haudit, hdates, hturns⟩ := h.readable_iff.mp hreadable
    obtain ⟨r, hr, hread, hreq, hnoSteering, -⟩ := h.rebuilt_eq hreadable s.updatedAt
    obtain ⟨r', hr', hexport, hsame⟩ := hfaithful.rebuilt s.updatedAt
    obtain rfl : r = r' := Except.ok.inj (hr.symm.trans hr')
    refine ⟨haudit, hdates, hturns, h.readBack_eq_iff.mp (hread.symm.trans hexport), ?_⟩
    intro hact
    by_contra hlost
    obtain ⟨hsteer, hrequestNone⟩ := not_or.mp hlost
    rw [not_not] at hrequestNone
    have hnone : r.bindingRequirements = [] := by
      rw [GoalRuntime.bindingRequirements, hreq, hrequestNone, hnoSteering]
      rfl
    exact not_sameDecisions_of_lost_steering hexport hact haudit hsteer hnone hsame
  · intro hp
    have hreadable := h.readable_iff.mpr ⟨hp.audit, hp.dates, hp.turns⟩
    have hparse := (parseResearchGoalPersistedState_persistedJson env s.exportState _).mpr
      ⟨hreadable, rfl⟩
    refine ⟨Option.isSome_iff_exists.mpr ⟨_, hparse⟩, fun now => ?_⟩
    obtain ⟨r, hr, hread, hreq, hnoSteering, hfresh, -⟩ := h.rebuilt_eq hreadable now
    have hexport := hread.trans (h.readBack_eq_iff.mpr hp.suggestions)
    refine ⟨r, hr, hexport, sameDecisions_of_export hexport hp.audit hfresh fun hact => ?_⟩
    unfold GoalRuntime.bindingRequirements
    rw [hreq, hnoSteering]
    rcases hp.steering hact with hnone | hsome
    · rw [hnone]
    · simp [hsome]

/-- **Faithful persistence**: in every session, the goal survives the round trip exactly where
its state is persistable. -/
theorem reached_persistsFaithfully (env : GoalPlatform) (options : GoalOptions) (now : Instant)
    (inputs : List GoalInput) (s : GoalSession) (h : reached env options now inputs = .ok s) :
    PersistsFaithfully env s.runtime ↔ Persistable s.runtime :=
  (reached_goalInv h).persistsFaithfully_iff

/-! ## A pending audit -/

/-- The digest of the one snapshot of the sessions below. -/
def overflowDigest : Digest :=
  ⟨js "a181a31e7ef06e0dfbe0e2f43d248f10d260af3287c4772aca34788af17e720c", by decide +kernel⟩

def overflowPlatform : GoalPlatform :=
  asciiPlatform (js "\x7b\"objective\":\"Trace the overflow.\",\"requirements\":[],\"findings\":[\x7b\"id\":\"f1\",\"maturity\":\"observed\",\"progressBlocker\":null\x7d]\x7d")
    overflowDigest

def overflowOptions : GoalOptions where
  objective := js "Trace the overflow."
  currentRequest := none
  initialState := none
  reactivateTerminalInitialState := false

def continuedOnce : List GoalInput :=
  [.record (signal (js "continue")) (instantAt 1), .respond [] [] (instantAt 2)]

/-- An achieved response while a finding is open. -/
def achievedWithFinding : List GoalInput :=
  [.record (signal (js "achieved")) (instantAt 1),
    .respond [] [⟨js "f1", .observed, none⟩] (instantAt 2)]

theorem reached_persistsFaithfully_continuedOnce :
    ∃ s, reached overflowPlatform overflowOptions (instantAt 0) continuedOnce = .ok s ∧
      PersistsFaithfully overflowPlatform s.runtime := by
  refine ⟨_, rfl, (reached_persistsFaithfully overflowPlatform overflowOptions (instantAt 0)
    continuedOnce _ rfl).mpr ⟨rfl, by decide, by decide, ?_, fun _ => Or.inl rfl⟩⟩
  intro d hd
  cases hd
  rfl

/-- The exported state of an active goal whose audit is pending is not accepted. -/
theorem pending_audit_is_refused :
    ∃ s, reached overflowPlatform overflowOptions (instantAt 0) achievedWithFinding = .ok s ∧
      s.runtime.pendingCompletionAuditFingerprint = some overflowDigest ∧
      parseResearchGoalPersistedState overflowPlatform (persistedJson s.runtime.exportState)
        = none :=
  ⟨_, rfl, by decide +kernel, by decide +kernel⟩

/-! ## The turns -/

theorem blockerFingerprint_ne_none (h : isBlockedDisposition d = true) :
    blockerFingerprint env d ≠ none := by
  cases d with
  | none => cases h
  | some d =>
    rw [isBlockedDisposition, Bool.and_eq_true] at h
    obtain ⟨hwaits, hexternal⟩ := h
    obtain ⟨dependency, hmem, hext⟩ := List.any_eq_true.mp hexternal
    have hne : ((d.blockerDependencies.filter (·.external)).map
        (dependencyKey env)).insertionSort (· ≤ ·) ≠ [] :=
      List.ne_nil_of_mem ((List.perm_insertionSort (· ≤ ·) _).mem_iff.mpr
        (List.mem_map_of_mem (List.mem_filter.mpr ⟨hmem, hext⟩)))
    rw [blockerFingerprint, if_pos hwaits]
    simp only [List.isEmpty_iff, if_neg hne]
    exact Option.some_ne_none _

/-- What a session that began with `first` has counted. -/
structure TurnsCounted (first : GoalRuntime) (s : GoalSession) : Prop where
  turns : s.runtime.turnsUsed = GoalRuntime.countTurn^[s.history.length] first.turnsUsed
  fresh : s.history = [] → s.runtime.status = first.status ∧
    s.runtime.consecutiveBlockedTurns = first.consecutiveBlockedTurns
  last : ∀ earlier response, s.history = earlier ++ [response] →
    (∀ r ∈ earlier, r.statusAfter = .active) ∧ s.runtime.status = response.statusAfter ∧
      s.runtime.consecutiveBlockedTurns = if response.statusAfter = .blocked then 1 else 0

theorem TurnsCounted.earlier_active {first : GoalRuntime} {s : GoalSession}
    (h : TurnsCounted first s) (hact : s.runtime.status = .active) :
    ∀ r ∈ s.history, r.statusAfter = .active := by
  intro r hr
  rcases List.eq_nil_or_concat s.history with hnil | ⟨earlier, last, hlast⟩
  · rw [hnil] at hr
    cases hr
  · rw [List.concat_eq_append] at hlast
    obtain ⟨hearlier, hstatus, -⟩ := h.last earlier last hlast
    rw [hlast, List.mem_append, List.mem_singleton] at hr
    rcases hr with hr | rfl
    · exact hearlier r hr
    · exact hstatus.symm.trans hact

/-- A blocker counts once: it ends the goal, and nothing is counted after it. -/
theorem respond_blockedTurns (h : GoalInv env s) (hact : s.status = .active)
    (d : Option ResearchFinalDisposition) (findings : List ResearchGoalFindingProgress)
    (finalResponse : JsString) (now : Instant) :
    (s.continueAfterRootResponse env d findings finalResponse now).runtime.consecutiveBlockedTurns
      = if (s.continueAfterRootResponse env d findings finalResponse now).runtime.status = .blocked
        then 1 else 0 := by
  have hr := GoalRuntime.continueAfterRootResponse_responded env hact d findings finalResponse now
  generalize s.continueAfterRootResponse env d findings finalResponse now = c at hr
  rw [hr.counted, h.no_fingerprint hact]
  by_cases hblocked : isBlockedDisposition d = true
  · have hstatus : c.runtime.status = .blocked := by
      cases hr.decided with
      | audited hach | completed hach =>
        exact absurd hblocked (by simp [GoalRuntime.not_blocked_of_achieved hach])
      | waited _ hstatus => exact hstatus
      | resumed _ hnot => exact absurd hblocked (by simp [hnot])
    obtain ⟨f, hf⟩ := Option.ne_none_iff_exists'.mp (blockerFingerprint_ne_none hblocked)
    rw [hf, if_pos hstatus]
    exact if_neg (Option.some_ne_none f).symm
  · have hstatus : c.runtime.status ≠ .blocked := by
      cases hr.decided with
      | waited hwaits => exact absurd hwaits hblocked
      | audited _ _ _ hstatus | completed _ _ hstatus | resumed _ _ hstatus => simp [hstatus]
    rw [blockerFingerprint_eq_none (by simpa using hblocked), if_neg hstatus]

theorem step_turnsCounted {first : GoalRuntime} {s : GoalSession} (hinv : GoalInv env s.runtime)
    (h : TurnsCounted first s) (i : GoalInput) : TurnsCounted first (step env s i) := by
  cases i with
  | record input now =>
    simp only [step]
    split <;> exact ⟨h.turns, h.fresh, h.last⟩
  | noteSteering messages | replaceSteering messages => exact ⟨h.turns, h.fresh, h.last⟩
  | respond finalResponse findings now =>
    by_cases hact : s.runtime.status = .active
    · have hr := GoalRuntime.continueAfterRootResponse_responded env hact s.recorder findings
        finalResponse now
      have hcount := respond_blockedTurns hinv hact s.recorder findings finalResponse now
      simp only [step, GoalSession.respond, if_pos hact]
      constructor
      · rw [hr.turnsUsed, h.turns, List.length_append, List.length_singleton,
          Function.iterate_succ_apply']
      · intro hnil
        exact absurd hnil (by simp)
      · intro earlier response hlast
        obtain ⟨rfl, hresponse⟩ := List.append_inj' hlast rfl
        cases hresponse
        exact ⟨h.earlier_active hact, rfl, hcount⟩
    · simp only [step, GoalSession.respond, if_neg hact,
        GoalRuntime.continueAfterRootResponse_of_terminal env hact]
      exact ⟨h.turns, h.fresh, h.last⟩

/-- **The turns of a goal**, in a new session and in a restored one. -/
theorem reached_turnsCounted (env : GoalPlatform) (options : GoalOptions) (now : Instant)
    (inputs : List GoalInput) (first : GoalSession)
    (h : GoalSession.new env options now = .ok first) :
    TurnsCounted first.runtime (runSteps (step env) first inputs) := by
  obtain ⟨runtime, hruntime, rfl⟩ := GoalSession.new_eq h
  have hfirst : TurnsCounted runtime ⟨none, runtime, []⟩ :=
    ⟨rfl, fun _ => ⟨rfl, rfl⟩, fun earlier response hlast => absurd hlast (by simp)⟩
  exact (runSteps_invariant
    (I := fun s : GoalSession => GoalInv env s.runtime ∧ TurnsCounted runtime s)
    (fun s i hs => ⟨step_goalInv env i hs.1, step_turnsCounted hs.1 hs.2 i⟩)
    ⟨new_goalInv hruntime, hfirst⟩ inputs).2

theorem reached_turnsCounted_continuedOnce :
    ∃ first, GoalSession.new overflowPlatform overflowOptions (instantAt 0) = .ok first ∧
      TurnsCounted first.runtime (runSteps (step overflowPlatform) first continuedOnce) :=
  ⟨_, rfl, reached_turnsCounted overflowPlatform overflowOptions (instantAt 0) continuedOnce _ rfl⟩

end Beale.Goal
