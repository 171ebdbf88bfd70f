import Beale.Focus.Gates

/-!
# What a focus guard keeps across sessions

The guard exports the counters of its checkpoints, its last outcome digests and its
progress, but neither the reads it has counted nor the calls it has admitted.

- `reached_persists`: what a reachable guard exports passes its own check, and a guard
  restored from it exports it again.
- `Agrees.respond`: what the two guards agree on is kept by every input that does not touch
  what was lost; `Agrees.decisions` is the bisimulation.
- `forgotten_read_is_admitted`: a read that was blocked is admitted after a restart.
-/

namespace Beale.Focus

open Beale.Library
open ResearchFocusGuard
open ResearchFocusGuard

/-! ## The persisted state -/

/-- A `ResearchFocusPersistedState`; its schema version is 1. -/
structure ResearchFocusPersistedState where
  objective : JsString
  progressEpoch : Nat
  consecutiveRecallOnlyTurns : Nat
  outcomeDigests : List (JsString × JsString)
  progressEntries : List ProgressEntry
  explorationCallsSinceConvergence : Option Nat
  convergencePending : Option Bool
  activityCallsSinceDurableProgress : Option Nat
  durableProgressPending : Option Bool
  authoritativeUserSteering : Option (List JsString)

/-- A natural number as a value. -/
def natJson (n : Nat) : Json := .num (.integer n)

def ProgressEntry.toJson (entry : ProgressEntry) : Json :=
  .obj
    [(js "key", .str entry.key), (js "toolName", .str entry.toolName),
      (js "inputSummary", .str entry.inputSummary), (js "summary", .str entry.summary),
      (js "evidence", .str entry.evidence),
      (js "artifactRefs", .arr (entry.artifactRefs.map .str))]

/-- The member at `key`, where there is a value. -/
def optionalMember (key : String) (value : Option Json) : List (JsString × Json) :=
  (value.map fun value => (js key, value)).toList

def ResearchFocusPersistedState.toJson (s : ResearchFocusPersistedState) : Json :=
  .obj
    ([(js "schemaVersion", natJson 1), (js "objective", .str s.objective),
        (js "progressEpoch", natJson s.progressEpoch),
        (js "consecutiveRecallOnlyTurns", natJson s.consecutiveRecallOnlyTurns),
        (js "outcomeDigests", .arr (s.outcomeDigests.map fun d => .arr [.str d.1, .str d.2])),
        (js "progressEntries", .arr (s.progressEntries.map ProgressEntry.toJson))] ++
      (optionalMember "explorationCallsSinceConvergence"
          (s.explorationCallsSinceConvergence.map natJson) ++
        (optionalMember "convergencePending" (s.convergencePending.map .bool) ++
          (optionalMember "activityCallsSinceDurableProgress"
              (s.activityCallsSinceDurableProgress.map natJson) ++
            (optionalMember "durableProgressPending" (s.durableProgressPending.map .bool) ++
              optionalMember "authoritativeUserSteering"
                (s.authoritativeUserSteering.map fun messages => .arr (messages.map .str)))))))

def isString : Json → Bool
  | .str _ => true
  | _ => false

def isBoolean : Json → Bool
  | .bool _ => true
  | _ => false

def nonNegativeInteger : Json → Bool
  | .num (.integer n) => 0 ≤ n
  | _ => false

def isSteeringMessage : Json → Bool
  | .str message =>
    !isBlank message && decide (message.length ≤ MAX_AUTHORITATIVE_USER_STEERING_MESSAGE_CHARS)
  | _ => false

/-- The check of the steering messages. -/
def isSteering : Json → Bool
  | .arr messages =>
    decide (messages.length ≤ MAX_AUTHORITATIVE_USER_STEERING_MESSAGES)
      && messages.all isSteeringMessage
      && decide ((messages.map fun message => ((message.asString?).getD []).length).sum
        ≤ MAX_AUTHORITATIVE_USER_STEERING_CHARS)
  | _ => false

def isDigestEntry : Json → Bool
  | .arr [key, digest] => isString key && isString digest
  | _ => false

/-- The check of one entry of progress. -/
def isProgressEntry (entry : Json) : Bool :=
  entry.isRecord
    && [js "key", js "toolName", js "inputSummary", js "summary", js "evidence"].all
      (fun key => (entry.field? key).any isString)
    && (entry.field? (js "artifactRefs")).any fun
      | .arr artifacts => artifacts.all isString
      | _ => false

def isResearchFocusPersistedState (value : Json) : Bool :=
  value.isRecord
    && (value.field? (js "schemaVersion")).any (fun | .num (.integer 1) => true | _ => false)
    && (value.field? (js "objective")).any isString
    && (value.field? (js "progressEpoch")).any nonNegativeInteger
    && (value.field? (js "consecutiveRecallOnlyTurns")).any nonNegativeInteger
    && (value.field? (js "explorationCallsSinceConvergence")).all nonNegativeInteger
    && (value.field? (js "convergencePending")).all isBoolean
    && (value.field? (js "activityCallsSinceDurableProgress")).all nonNegativeInteger
    && (value.field? (js "durableProgressPending")).all isBoolean
    && (value.field? (js "authoritativeUserSteering")).all isSteering
    && (value.field? (js "outcomeDigests")).any
      (fun | .arr entries => entries.all isDigestEntry | _ => false)
    && (value.field? (js "progressEntries")).any
      (fun | .arr entries => entries.all isProgressEntry | _ => false)

variable (env : FocusPlatform) (opts : FocusOptions)

def persistedDigests : Nat := 96

def ResearchFocusGuard.exportState (g : ResearchFocusGuard) : ResearchFocusPersistedState where
  objective := opts.objective
  progressEpoch := g.progressEpoch
  consecutiveRecallOnlyTurns := g.consecutiveRecallOnlyTurns
  outcomeDigests := g.outcomeDigests.entries.rtake persistedDigests
  progressEntries := g.progressEntries.rtake (progressLimit opts)
  explorationCallsSinceConvergence := some g.explorationCallsSinceConvergence
  convergencePending := some g.convergencePending
  activityCallsSinceDurableProgress := some g.activityCallsSinceDurableProgress
  durableProgressPending := some g.durableProgressPending
  authoritativeUserSteering :=
    if g.authoritativeUserSteering = [] then none else some g.authoritativeUserSteering

/-- `restore(state)` of a guard as it is made. -/
def restore (state : ResearchFocusPersistedState) : ResearchFocusGuard :=
  if state.objective ≠ opts.objective then .fresh
  else
    { ResearchFocusGuard.fresh with
      progressEpoch := state.progressEpoch
      consecutiveRecallOnlyTurns := state.consecutiveRecallOnlyTurns
      outcomeDigests :=
        (state.outcomeDigests.rtake persistedDigests).foldl (fun m d => m.set d.1 d.2) .empty
      progressEntries := state.progressEntries.rtake (progressLimit opts)
      explorationCallsSinceConvergence := state.explorationCallsSinceConvergence.getD 0
      convergencePending := state.convergencePending.getD false
      activityCallsSinceDurableProgress := state.activityCallsSinceDurableProgress.getD 0
      durableProgressPending := state.durableProgressPending.getD false
      authoritativeUserSteering := state.authoritativeUserSteering.getD [] }

/-- `new ResearchFocusGuard(options)`. -/
def create (initialState : Option ResearchFocusPersistedState) : ResearchFocusGuard :=
  match initialState with
  | some state =>
    if isResearchFocusPersistedState state.toJson then restore opts state else .fresh
  | none => .fresh

variable {env opts} {g : ResearchFocusGuard}

/-! ## The check -/

structure SteeringFits (messages : List JsString) : Prop where
  count : messages.length ≤ MAX_AUTHORITATIVE_USER_STEERING_MESSAGES
  each : ∀ message ∈ messages, isBlank message = false ∧
    message.length ≤ MAX_AUTHORITATIVE_USER_STEERING_MESSAGE_CHARS
  total : (messages.map List.length).sum ≤ MAX_AUTHORITATIVE_USER_STEERING_CHARS

theorem isSteering_iff (messages : List JsString) :
    isSteering (.arr (messages.map .str)) = true ↔ SteeringFits messages := by
  have heach : (messages.map Json.str).all isSteeringMessage = true ↔
      ∀ message ∈ messages, isBlank message = false ∧
        message.length ≤ MAX_AUTHORITATIVE_USER_STEERING_MESSAGE_CHARS := by
    simp [List.all_eq_true, isSteeringMessage]
  have hsum : ((messages.map Json.str).map fun message => ((message.asString?).getD []).length)
      = messages.map List.length := by
    simp [List.map_map, Function.comp_def, Json.asString?]
  unfold isSteering
  rw [Bool.and_eq_true, Bool.and_eq_true, heach, hsum, List.length_map, decide_eq_true_eq,
    decide_eq_true_eq]
  constructor
  · rintro ⟨⟨hcount, heach⟩, htotal⟩
    exact ⟨hcount, heach, htotal⟩
  · rintro ⟨hcount, heach, htotal⟩
    exact ⟨⟨hcount, heach⟩, htotal⟩

theorem boundedUserSteering_fits {message : JsString} (hne : boundedUserSteering message ≠ []) :
    isBlank (boundedUserSteering message) = false ∧
      (boundedUserSteering message).length ≤ MAX_AUTHORITATIVE_USER_STEERING_MESSAGE_CHARS := by
  unfold boundedUserSteering at hne ⊢
  simp only at hne ⊢
  split
  next hshort =>
    rw [if_pos hshort] at hne
    refine ⟨?_, hshort⟩
    rw [isBlank, trim_idem]
    simpa using hne
  next =>
    constructor
    · have hmarker : (91 : UInt16) ∈ js "\n[...middle omitted by host...]\n" := by decide
      exact isBlank_of_mem (List.mem_append_left _ (List.mem_append_right _ hmarker)) (by decide)
    · have hmarker : (js "\n[...middle omitted by host...]\n").length = 32 := by decide
      have hrtake := length_rtake_le (trim message) ((8000 - 32) / 2)
      simp only [List.length_append, List.length_take, hmarker,
        MAX_AUTHORITATIVE_USER_STEERING_MESSAGE_CHARS]
      omega

/-- The messages that are kept are the last ones, and they fit. -/
theorem dropOldSteering_fits {messages : List JsString}
    (hcount : messages.length ≤ MAX_AUTHORITATIVE_USER_STEERING_MESSAGES)
    (heach : ∀ message ∈ messages, isBlank message = false ∧
      message.length ≤ MAX_AUTHORITATIVE_USER_STEERING_MESSAGE_CHARS) :
    SteeringFits (dropOldSteering messages) := by
  induction messages with
  | nil => exact ⟨hcount, heach, Nat.zero_le _⟩
  | cons first rest ih =>
    cases rest with
    | nil =>
      refine ⟨hcount, heach, ?_⟩
      have hlen := (heach first (by simp)).2
      simp only [dropOldSteering, List.map_cons, List.map_nil, List.sum_cons, List.sum_nil]
      unfold MAX_AUTHORITATIVE_USER_STEERING_MESSAGE_CHARS at hlen
      unfold MAX_AUTHORITATIVE_USER_STEERING_CHARS
      omega
    | cons second rest =>
      unfold dropOldSteering
      split
      next => exact ih (by simp at hcount ⊢; omega) fun m hm => heach m (List.mem_cons_of_mem _ hm)
      next hfits => exact ⟨hcount, heach, not_lt.mp hfits⟩

theorem noteAuthoritativeUserSteering_fits (h : SteeringFits g.authoritativeUserSteering)
    (messages : List JsString) :
    SteeringFits (g.noteAuthoritativeUserSteering messages).authoritativeUserSteering := by
  refine dropOldSteering_fits (length_rtake_le _ _) ?_
  intro message hmem
  rcases List.mem_append.mp (mem_of_mem_rtake hmem) with hold | hnew
  · exact h.each message hold
  · obtain ⟨hbound, hne⟩ := List.mem_filter.mp hnew
    obtain ⟨given, -, rfl⟩ := List.mem_map.mp hbound
    exact boundedUserSteering_fits (by simpa using hne)

/-! ## Reading the persisted state -/

theorem lookup_optionalMember_ne {key : String} {key' : JsString} (h : (key' == js key) = false)
    (value : Option Json) (rest : List (JsString × Json)) :
    (optionalMember key value ++ rest).lookup key' = rest.lookup key' := by
  cases value with
  | none => rfl
  | some value =>
    show ((js key, value) :: rest).lookup key' = _
    rw [List.lookup_cons, h]

theorem field_authoritativeUserSteering (state : ResearchFocusPersistedState) :
    state.toJson.field? (js "authoritativeUserSteering") =
      state.authoritativeUserSteering.map fun messages => .arr (messages.map .str) := by
  show (optionalMember "explorationCallsSinceConvergence" _ ++ _).lookup _ = _
  rw [lookup_optionalMember_ne (by decide), lookup_optionalMember_ne (by decide),
    lookup_optionalMember_ne (by decide), lookup_optionalMember_ne (by decide)]
  cases state.authoritativeUserSteering with
  | none => rfl
  | some messages => exact List.lookup_cons_self

theorem isDigestEntry_all (entries : List (JsString × JsString)) :
    (entries.map fun d => Json.arr [.str d.1, .str d.2]).all isDigestEntry = true := by
  rw [List.all_map, List.all_eq_true]
  intro d _
  rfl

theorem isProgressEntry_all (entries : List ProgressEntry) :
    (entries.map ProgressEntry.toJson).all isProgressEntry = true := by
  rw [List.all_map, List.all_eq_true]
  intro entry _
  have hrefs : (entry.artifactRefs.map Json.str).all isString = true := by
    rw [List.all_map, List.all_eq_true]
    intro artifact _
    rfl
  exact hrefs

theorem exportState_passes (h : SteeringFits g.authoritativeUserSteering) :
    isResearchFocusPersistedState (g.exportState opts).toJson = true := by
  have hsteer : ((g.exportState opts).toJson.field? (js "authoritativeUserSteering")).all
      isSteering = true := by
    rw [field_authoritativeUserSteering]
    unfold exportState
    simp only
    split
    · rfl
    · exact (isSteering_iff _).mpr h
  have hschema : (g.exportState opts).toJson.field? (js "schemaVersion") = some (natJson 1) := rfl
  have hobj : (g.exportState opts).toJson.field? (js "objective") =
    some (.str opts.objective) := rfl
  have hepoch : (g.exportState opts).toJson.field? (js "progressEpoch") =
    some (natJson g.progressEpoch) := rfl
  have hturns : (g.exportState opts).toJson.field? (js "consecutiveRecallOnlyTurns") =
    some (natJson g.consecutiveRecallOnlyTurns) := rfl
  have hdigests : (g.exportState opts).toJson.field? (js "outcomeDigests") =
    some (.arr ((g.outcomeDigests.entries.rtake persistedDigests).map
      fun d => .arr [.str d.1, .str d.2])) := rfl
  have hents : (g.exportState opts).toJson.field? (js "progressEntries") =
    some (.arr ((g.progressEntries.rtake (progressLimit opts)).map ProgressEntry.toJson)) := rfl
  have hexploration :
      (g.exportState opts).toJson.field? (js "explorationCallsSinceConvergence") =
    some (natJson g.explorationCallsSinceConvergence) := rfl
  have hconvergence : (g.exportState opts).toJson.field? (js "convergencePending") =
    some (.bool g.convergencePending) := rfl
  have hactivity : (g.exportState opts).toJson.field? (js "activityCallsSinceDurableProgress") =
    some (natJson g.activityCallsSinceDurableProgress) := rfl
  have hdurable : (g.exportState opts).toJson.field? (js "durableProgressPending") =
    some (.bool g.durableProgressPending) := rfl
  have hnat : ∀ n : Nat, nonNegativeInteger (natJson n) = true := by
    intro n
    show decide ((0 : Int) ≤ n) = true
    simp
  unfold isResearchFocusPersistedState
  rw [hsteer, hschema, hobj, hepoch, hturns, hdigests, hents, hexploration,
    hconvergence, hactivity, hdurable]
  simp only [Option.any_some, Option.all_some, hnat, isDigestEntry_all, isProgressEntry_all]
  rfl

/-! ## Reached guards -/

theorem steeringFits_nil : SteeringFits [] := ⟨Nat.zero_le _, by simp, Nat.zero_le _⟩

theorem create_steeringFits (initialState : Option ResearchFocusPersistedState) :
    SteeringFits (create opts initialState).authoritativeUserSteering := by
  unfold create
  cases initialState with
  | none => exact steeringFits_nil
  | some state =>
    simp only
    split
    next hpasses =>
      unfold restore
      split
      next => exact steeringFits_nil
      next =>
        show SteeringFits (state.authoritativeUserSteering.getD [])
        have hsteer : (state.toJson.field? (js "authoritativeUserSteering")).all
            isSteering = true := by
          unfold isResearchFocusPersistedState at hpasses
          simp only [Bool.and_eq_true] at hpasses
          exact hpasses.1.1.2
        rw [field_authoritativeUserSteering] at hsteer
        cases hmessages : state.authoritativeUserSteering with
        | none => exact steeringFits_nil
        | some messages =>
          rw [hmessages] at hsteer
          exact (isSteering_iff messages).mp hsteer
    next => exact steeringFits_nil

section

variable (g : ResearchFocusGuard)

theorem turn_other (n : Int) : (g.turn n).1 = { g with turns := (g.turn n).1.turns } := by
  unfold turn
  split
  · rfl
  · rfl

theorem turn_steering (n : Int) :
    (g.turn n).1.authoritativeUserSteering = g.authoritativeUserSteering := by
  rw [turn_other]

theorem beforeToolCall_steering (request : ResearchFocusToolRequest) :
    (g.beforeToolCall env opts request).1.authoritativeUserSteering =
      g.authoritativeUserSteering := by
  have hturn := turn_steering g request.turn
  unfold beforeToolCall
  simp only
  split
  · exact hturn
  · split
    · exact hturn
    · split
      · exact hturn
      · unfold beforeRecall
        simp only
        split
        · exact hturn
        · split
          · exact hturn
          · exact hturn

theorem countConvergence_steering (call : TrackedCall) :
    (g.countConvergence env opts call).authoritativeUserSteering = g.authoritativeUserSteering := by
  unfold countConvergence
  split
  · rfl
  · split
    · rfl
    · rfl

theorem countDurable_steering (call : TrackedCall) (changed : Bool) :
    (g.countDurable env opts call changed).authoritativeUserSteering =
      g.authoritativeUserSteering := by
  unfold countDurable
  split
  · rfl
  · split
    · rfl
    · rfl

theorem afterToolCall_steering (outcome : ResearchFocusToolOutcome) :
    (g.afterToolCall env opts outcome).1.authoritativeUserSteering =
      g.authoritativeUserSteering := by
  unfold afterToolCall
  split
  · rfl
  · simp only
    split
    · refine (turn_steering _ _).trans ?_
      rw [countDurable_steering]
      exact countConvergence_steering g _
    · exact countConvergence_steering g _

end

/-- Nothing but the notes on steering changes the steering messages. -/
theorem step_steering {input : FocusInput} (hnote : ∀ messages, input ≠ .noteSteering messages)
    (hreplace : ∀ messages, input ≠ .replaceSteering messages) :
    (g.step env opts input).authoritativeUserSteering = g.authoritativeUserSteering := by
  cases input with
  | before request => exact beforeToolCall_steering g request
  | after outcome => exact afterToolCall_steering g outcome
  | finish n toolOnly =>
    show (g.finishTurn n toolOnly).1.authoritativeUserSteering = _
    unfold finishTurn
    split
    · rfl
    · rfl
  | externalChange => rfl
  | noteSteering messages => exact absurd rfl (hnote messages)
  | replaceSteering messages => exact absurd rfl (hreplace messages)

theorem step_steeringFits (h : SteeringFits g.authoritativeUserSteering) (input : FocusInput) :
    SteeringFits (g.step env opts input).authoritativeUserSteering := by
  by_cases hnote : ∃ messages, input = .noteSteering messages
  · obtain ⟨messages, rfl⟩ := hnote
    exact noteAuthoritativeUserSteering_fits h messages
  · by_cases hreplace : ∃ messages, input = .replaceSteering messages
    · obtain ⟨messages, rfl⟩ := hreplace
      have hempty : SteeringFits
          ({ g with authoritativeUserSteering := [] } : ResearchFocusGuard).authoritativeUserSteering :=
        steeringFits_nil
      exact noteAuthoritativeUserSteering_fits hempty messages
    · rw [step_steering (fun messages heq => hnote ⟨messages, heq⟩)
        fun messages heq => hreplace ⟨messages, heq⟩]
      exact h

theorem reached_steeringFits (initialState : Option ResearchFocusPersistedState)
    (inputs : List FocusInput) :
    SteeringFits (runSteps (step env opts) (create opts initialState)
      inputs).authoritativeUserSteering :=
  runSteps_invariant (I := fun g : ResearchFocusGuard => SteeringFits g.authoritativeUserSteering)
    (fun _ input hg => step_steeringFits hg input) (create_steeringFits initialState) inputs

/-! ## The round trip -/

theorem nodup_rtake_entries (m : JsMap JsString JsString) (n : Nat) :
    ((m.entries.rtake n).map Prod.fst).Nodup :=
  m.nodup.sublist ((List.drop_sublist _ _).map _)

def ResearchFocusGuard.restored (opts : FocusOptions) (g : ResearchFocusGuard) :
    ResearchFocusGuard :=
  create opts (some (g.exportState opts))

theorem restored_eq (h : SteeringFits g.authoritativeUserSteering) :
    g.restored opts = restore opts (g.exportState opts) := by
  unfold restored create
  simp only
  rw [if_pos (exportState_passes h)]

variable (opts) in
theorem restore_exportState_digests :
    (restore opts (g.exportState opts)).outcomeDigests.entries =
      g.outcomeDigests.entries.rtake persistedDigests := by
  unfold restore exportState
  rw [if_neg (by simp)]
  simp only
  rw [rtake_idem]
  exact JsMap.entries_foldl_set_empty (nodup_rtake_entries _ _)

theorem exportState_restored (h : SteeringFits g.authoritativeUserSteering) :
    (g.restored opts).exportState opts = g.exportState opts := by
  have hdigests : (restore opts (g.exportState opts)).outcomeDigests.entries.rtake
      persistedDigests = g.outcomeDigests.entries.rtake persistedDigests := by
    rw [restore_exportState_digests, rtake_idem]
  rw [restored_eq h]
  unfold restore at hdigests ⊢
  rw [if_neg (by simp [exportState])] at hdigests ⊢
  unfold exportState at hdigests ⊢
  simp only at hdigests ⊢
  rw [hdigests, rtake_idem, rtake_idem]
  by_cases hnone : g.authoritativeUserSteering = []
  · simp [hnone]
  · simp [hnone]

/-! ## Agreement -/

/-- The digest of these calls was persisted, or there was none. -/
def ResearchFocusGuard.DigestKept (origin : ResearchFocusGuard) (fingerprint : JsString) : Prop :=
  ∀ digest, origin.outcomeDigests.get? fingerprint = some digest →
    (fingerprint, digest) ∈ origin.outcomeDigests.entries.rtake persistedDigests

/-- The reads that the guard counts now were all counted after the export, or there were
none to forget and no probe to take back. -/
def ResearchFocusGuard.ReadsKnown (origin g : ResearchFocusGuard) : Prop :=
  origin.progressEpoch < g.progressEpoch ∨
    (origin.readCounts.entries = [] ∧ origin.externalProbeAvailable = false)

/-- What a guard and one restored from `origin` agree on, after the same inputs. -/
structure Agrees (origin g r : ResearchFocusGuard) : Prop where
  epoch : g.progressEpoch = r.progressEpoch
  later : origin.progressEpoch ≤ g.progressEpoch
  checkpoints : g.checkpoints = r.checkpoints
  consecutive : g.consecutiveRecallOnlyTurns = r.consecutiveRecallOnlyTurns
  digests : ∀ f, origin.DigestKept f → g.outcomeDigests.get? f = r.outcomeDigests.get? f
  calls : ∀ id, origin.calls.get? id = none → g.calls.get? id = r.calls.get? id
  turns : ∀ n, origin.turns.get? n = none → g.turns.get? n = r.turns.get? n
  tracked : ∀ id call, origin.calls.get? id = none → g.calls.get? id = some call →
    origin.DigestKept call.fingerprint ∧ origin.turns.get? call.turn = none
  reads : origin.ReadsKnown g →
    g.readCounts = r.readCounts ∧ g.externalProbeAvailable = r.externalProbeAvailable

variable {origin r : ResearchFocusGuard}

theorem restore_exportState (opts : FocusOptions) (g : ResearchFocusGuard) :
    ∃ digests entries steering, restore opts (g.exportState opts) =
      { fresh with
        progressEpoch := g.progressEpoch
        consecutiveRecallOnlyTurns := g.consecutiveRecallOnlyTurns
        outcomeDigests := digests
        progressEntries := entries
        explorationCallsSinceConvergence := g.explorationCallsSinceConvergence
        convergencePending := g.convergencePending
        activityCallsSinceDurableProgress := g.activityCallsSinceDurableProgress
        durableProgressPending := g.durableProgressPending
        authoritativeUserSteering := steering } := by
  unfold restore
  rw [if_neg (by simp [exportState])]
  exact ⟨_, _, _, rfl⟩

theorem agrees_restored (h : SteeringFits g.authoritativeUserSteering) :
    Agrees g g (g.restored opts) := by
  have hdigests := restore_exportState_digests opts (g := g)
  obtain ⟨digests, entries, steering, hrestore⟩ := restore_exportState opts g
  rw [hrestore] at hdigests
  rw [restored_eq h, hrestore]
  refine ⟨rfl, le_refl _, rfl, rfl, ?_, ?_, ?_, ?_, ?_⟩
  · intro f hf
    cases hold : g.outcomeDigests.get? f with
    | some digest =>
      have hmem := hf digest hold
      rw [← hdigests] at hmem
      exact (JsMap.get?_of_mem hmem).symm
    | none =>
      refine (JsMap.get?_eq_none.mpr fun hkey => ?_).symm
      obtain ⟨entry, hentry, rfl⟩ := List.mem_map.mp hkey
      rw [hdigests] at hentry
      exact JsMap.get?_eq_none.mp hold (List.mem_map_of_mem (mem_of_mem_rtake hentry))
  · intro id hid
    exact hid
  · intro n hn
    exact hn
  · intro id call hid hcall
    rw [hid] at hcall
    cases hcall
  · rintro (hepoch | ⟨hreads, hprobe⟩)
    · exact absurd hepoch (lt_irrefl _)
    · exact ⟨JsMap.ext_entries hreads, hprobe⟩

theorem get?_turn (g : ResearchFocusGuard) (n m : Int) :
    (g.turn n).1.turns.get? m =
      if (g.turns.get? n).isSome then g.turns.get? m
      else if m < n - 32 then none
      else if m = n then some ⟨[], false, 0, 0⟩ else g.turns.get? m := by
  unfold turn
  cases hturn : g.turns.get? n with
  | some existing => simp
  | none =>
    simp only [Option.isSome_none, Bool.false_eq_true, if_false]
    rw [JsMap.get?_deleteAll, JsMap.get?_set]
    by_cases hold : m < n - 32
    · rw [if_pos hold]
      split
      next => rfl
      next habsent =>
        have hkey : m ∉ (g.turns.set n ⟨[], false, 0, 0⟩).keys := by
          intro hmem
          exact habsent (List.mem_filter.mpr ⟨hmem, by simpa using hold⟩)
        rw [← JsMap.get?_set]
        exact JsMap.get?_eq_none.mpr hkey
    · rw [if_neg hold, if_neg]
      intro hmem
      have hlt := (List.mem_filter.mp hmem).2
      exact hold (by simpa using hlt)

variable {n : Int}

theorem Agrees.turn (h : Agrees origin g r) (hn : origin.turns.get? n = none) :
    Agrees origin (g.turn n).1 (r.turn n).1 := by
  have hturns : ∀ m, origin.turns.get? m = none →
      (g.turn n).1.turns.get? m = (r.turn n).1.turns.get? m := by
    intro m hm
    rw [get?_turn, get?_turn, h.turns n hn, h.turns m hm]
  rw [turn_other g n, turn_other r n]
  exact { h with turns := hturns }

variable {request : ResearchFocusToolRequest}

theorem Agrees.track (h : Agrees origin g r) (hturn : origin.turns.get? request.turn = none)
    (hdigest : origin.DigestKept (toolFingerprint env request.toolName request.input))
    (blocked : Bool) (mark : TrackedTurn → TrackedTurn) :
    Agrees origin (g.track env request blocked mark) (r.track env request blocked mark) := by
  refine { h with calls := ?_, turns := ?_, tracked := ?_ }
  · intro id hid
    simp only [ResearchFocusGuard.track, JsMap.get?_set, h.calls id hid]
  · intro n hn
    simp only [ResearchFocusGuard.track, JsMap.get?_modify, h.turns n hn,
      h.turns request.turn hturn]
  · intro id call hid hcall
    simp only [ResearchFocusGuard.track, JsMap.get?_set] at hcall
    split at hcall
    next =>
      cases hcall
      exact ⟨hdigest, hturn⟩
    next => exact h.tracked id call hid hcall

variable (env opts) in
theorem Agrees.beforeRecall (h : Agrees origin g r) (hturn : origin.turns.get? request.turn = none)
    (hdigest : origin.DigestKept (toolFingerprint env request.toolName request.input))
    (hreads : origin.ReadsKnown g) :
    (g.beforeRecall env opts request).2 = (r.beforeRecall env opts request).2 ∧
      Agrees origin (g.beforeRecall env opts request).1 (r.beforeRecall env opts request).1 := by
  obtain ⟨hcounts, hprobe⟩ := h.reads hreads
  have hcount : ∀ (g' r' : ResearchFocusGuard) (count : Nat), Agrees origin g' r' →
      g'.readCounts = r'.readCounts →
      Agrees origin (g'.countRead env request count) (r'.countRead env request count) := by
    intro g' r' count h' hcounts'
    refine { h' with reads := fun hknown => ⟨?_, (h'.reads hknown).2⟩ }
    simp only [countRead, hcounts', h'.epoch]
  have htaken : Agrees origin g.takeProbe r.takeProbe :=
    { h with reads := fun hknown => ⟨(h.reads hknown).1, rfl⟩ }
  unfold ResearchFocusGuard.beforeRecall
  simp only [← hcounts, ← hprobe, ← h.epoch]
  generalize (g.readCounts.get? _).filter _ = previous
  generalize decide ((previous.map ReadCount.count).getD 0 ≥ _) = saturated
  generalize (previous.map fun p => decide (request.turn - _ ≥ _)).getD true = passed
  generalize g.externalProbeAvailable = probe
  cases saturated <;> cases passed <;> cases probe
  all_goals
    refine ⟨rfl, ?_⟩
    simp only [Bool.true_and, Bool.false_and, Bool.not_true, Bool.not_false, Bool.or_false,
      Bool.or_true, Bool.and_false, Bool.and_true, if_true, Bool.false_eq_true, if_false]
  case true.false.true => exact (hcount _ _ _ htaken hcounts).track hturn hdigest false id
  case true.false.false => exact h.track hturn hdigest true _
  all_goals exact (hcount _ _ _ h hcounts).track hturn hdigest false id

theorem checkpoints_fields {a b : ResearchFocusGuard} (h : a.checkpoints = b.checkpoints) :
    a.explorationCallsSinceConvergence = b.explorationCallsSinceConvergence ∧
      a.convergencePending = b.convergencePending ∧
      a.activityCallsSinceDurableProgress = b.activityCallsSinceDurableProgress ∧
      a.durableProgressPending = b.durableProgressPending := by
  unfold checkpoints at h
  simpa using h

variable (env opts) in
theorem Agrees.beforeToolCall (h : Agrees origin g r)
    (hturn : origin.turns.get? request.turn = none)
    (hdigest : origin.DigestKept (toolFingerprint env request.toolName request.input))
    (hreads : request.kind = .recall → origin.ReadsKnown g) :
    (g.beforeToolCall env opts request).2 = (r.beforeToolCall env opts request).2 ∧
      Agrees origin (g.beforeToolCall env opts request).1
        (r.beforeToolCall env opts request).1 := by
  have hturned := h.turn hturn
  have hknown : request.kind = .recall → origin.ReadsKnown (g.turn request.turn).1 := by
    intro hkind
    rw [turn_other]
    exact hreads hkind
  obtain ⟨hexploration, hconvergence, hactivity, hdurable⟩ := checkpoints_fields hturned.checkpoints
  have hheld : (g.turn request.turn).1.durablyHeld env opts request =
      (r.turn request.turn).1.durablyHeld env opts request := by
    simp only [durablyHeld, hdurable]
  have hsrc : (g.turn request.turn).1.convergenceHeld env opts request =
      (r.turn request.turn).1.convergenceHeld env opts request := by
    simp only [convergenceHeld, hconvergence]
  have hreason : durableProgressReason (g.turn request.turn).1 =
      durableProgressReason (r.turn request.turn).1 := by
    simp only [durableProgressReason, hactivity]
  have hreason' : convergenceReason (g.turn request.turn).1 =
      convergenceReason (r.turn request.turn).1 := by
    simp only [convergenceReason, hexploration]
  unfold ResearchFocusGuard.beforeToolCall
  simp only [hheld, hsrc, hreason, hreason']
  cases (r.turn request.turn).1.durablyHeld env opts request with
  | true =>
    rw [if_pos rfl, if_pos rfl]
    exact ⟨rfl, hturned.track hturn hdigest true id⟩
  | false =>
    rw [if_neg Bool.false_ne_true, if_neg Bool.false_ne_true]
    cases (r.turn request.turn).1.convergenceHeld env opts request with
    | true =>
      rw [if_pos rfl, if_pos rfl]
      refine ⟨rfl, ?_⟩
      dsimp only
      exact hturned.track hturn hdigest true _
    | false =>
      rw [if_neg Bool.false_ne_true, if_neg Bool.false_ne_true]
      by_cases hkind : request.kind = .recall
      · rw [if_neg (not_not.mpr hkind), if_neg (not_not.mpr hkind)]
        exact hturned.beforeRecall env opts hturn hdigest (hknown hkind)
      · rw [if_pos hkind, if_pos hkind]
        exact ⟨rfl, hturned.track hturn hdigest false id⟩

variable (env opts) in
theorem Agrees.countConvergence (h : Agrees origin g r) (call : TrackedCall) :
    Agrees origin (g.countConvergence env opts call) (r.countConvergence env opts call) := by
  obtain ⟨hexploration, hconvergence, hactivity, hdurable⟩ := checkpoints_fields h.checkpoints
  unfold ResearchFocusGuard.countConvergence
  split
  · refine { h with checkpoints := ?_ }
    simp only [ResearchFocusGuard.checkpoints, hactivity, hdurable]
  · split
    · refine { h with checkpoints := ?_ }
      simp only [ResearchFocusGuard.checkpoints, hexploration, hconvergence, hactivity, hdurable]
    · exact h

variable (env opts) in
theorem Agrees.countDurable (h : Agrees origin g r) (call : TrackedCall) (changed : Bool) :
    Agrees origin (g.countDurable env opts call changed)
      (r.countDurable env opts call changed) := by
  obtain ⟨hexploration, hconvergence, hactivity, hdurable⟩ := checkpoints_fields h.checkpoints
  unfold ResearchFocusGuard.countDurable
  split
  · refine { h with checkpoints := ?_ }
    simp only [ResearchFocusGuard.checkpoints, hexploration, hconvergence]
  · split
    · refine { h with checkpoints := ?_ }
      simp only [ResearchFocusGuard.checkpoints, hexploration, hconvergence, hactivity, hdurable]
    · exact h

/-- Both forget the reads they have counted, so from here on they agree on them. -/
theorem Agrees.nextEpoch (h : Agrees origin g r) (hn : origin.turns.get? n = none) :
    Agrees origin (g.nextEpoch n) (r.nextEpoch n) := by
  have hturn := h.turn hn
  refine { hturn with
    epoch := ?_, later := ?_, consecutive := rfl, turns := ?_, reads := fun _ => ⟨rfl, rfl⟩ }
  · simp only [ResearchFocusGuard.nextEpoch, hturn.epoch]
  · exact Nat.le_succ_of_le hturn.later
  · intro m hm
    simp only [ResearchFocusGuard.nextEpoch, JsMap.get?_modify, hturn.turns m hm, hturn.turns n hn]

variable (env opts) in
theorem Agrees.afterToolCall (h : Agrees origin g r) {outcome : ResearchFocusToolOutcome}
    (hid : origin.calls.get? outcome.callId = none) :
    (g.afterToolCall env opts outcome).2 = (r.afterToolCall env opts outcome).2 ∧
      Agrees origin (g.afterToolCall env opts outcome).1 (r.afterToolCall env opts outcome).1 := by
  have hacc : g.accepted env outcome = r.accepted env outcome := by
    unfold accepted
    rw [h.calls _ hid]
  cases hcall : g.accepted env outcome with
  | none =>
    have hcall' := hacc.symm.trans hcall
    simp only [ResearchFocusGuard.afterToolCall, hcall, hcall']
    exact ⟨trivial, h⟩
  | some call =>
    have hcall' := hacc.symm.trans hcall
    have hget : g.calls.get? outcome.callId = some call :=
      (Option.filter_eq_some_iff.mp hcall).1
    obtain ⟨hdigest, hturn⟩ := h.tracked _ _ hid hget
    have hsame := h.digests _ hdigest
    have hchange : g.changedOutcome env call outcome = r.changedOutcome env call outcome := by
      simp only [changedOutcome, hsame]
    have hmade : g.madeProgress env call outcome = r.madeProgress env call outcome := by
      simp only [madeProgress, hchange, hsame]
    have hcount := h.countConvergence env opts call
    have hset : Agrees origin
        { g.countConvergence env opts call with
          outcomeDigests := (g.countConvergence env opts call).outcomeDigests.set
            call.fingerprint (outcomeDigest env outcome) }
        { r.countConvergence env opts call with
          outcomeDigests := (r.countConvergence env opts call).outcomeDigests.set
            call.fingerprint (outcomeDigest env outcome) } := by
      refine { hcount with digests := ?_ }
      intro f hf
      simp only [JsMap.get?_set, hcount.digests f hf]
    simp only [ResearchFocusGuard.afterToolCall, hcall, hcall', hchange, hmade]
    cases r.madeProgress env call outcome with
    | true => exact ⟨rfl, { (hset.countDurable env opts call _).nextEpoch hturn with }⟩
    | false => exact ⟨rfl, hset⟩

theorem Agrees.finishTurn (h : Agrees origin g r) (hn : origin.turns.get? n = none)
    (toolOnly : Bool) :
    (g.finishTurn n toolOnly).2 = (r.finishTurn n toolOnly).2 ∧
      Agrees origin (g.finishTurn n toolOnly).1 (r.finishTurn n toolOnly).1 := by
  simp only [ResearchFocusGuard.finishTurn, h.turns n hn, h.consecutive]
  split
  · exact ⟨rfl, { h with consecutive := rfl }⟩
  · exact ⟨rfl, { h with consecutive := rfl }⟩

/-- An input that does not touch what the export has lost: no call or turn the guard was
in the middle of, no call whose digest was dropped, and no read before its count is known. -/
def Untouched (env : FocusPlatform) (origin g : ResearchFocusGuard) : FocusInput → Prop
  | .before request =>
    origin.calls.get? request.callId = none ∧ origin.turns.get? request.turn = none ∧
      origin.DigestKept (toolFingerprint env request.toolName request.input) ∧
      (request.kind = .recall → origin.ReadsKnown g)
  | .after outcome => origin.calls.get? outcome.callId = none
  | .finish n _ => origin.turns.get? n = none
  | _ => True

variable (opts) in
/-- The two guards decide the same and agree on. -/
theorem Agrees.respond (h : Agrees origin g r) {input : FocusInput}
    (huntouched : Untouched env origin g input) :
    (g.respond env opts input).2 = (r.respond env opts input).2 ∧
      Agrees origin (g.step env opts input) (r.step env opts input) := by
  cases input with
  | before request =>
    obtain ⟨-, hturn, hdigest, hreads⟩ := huntouched
    obtain ⟨hsame, hagrees⟩ := h.beforeToolCall env opts hturn hdigest hreads
    exact ⟨congrArg FocusDecision.gate hsame, hagrees⟩
  | after outcome =>
    obtain ⟨hsame, hagrees⟩ := h.afterToolCall env opts huntouched
    exact ⟨congrArg FocusDecision.progress hsame, hagrees⟩
  | finish n toolOnly =>
    obtain ⟨hsame, hagrees⟩ := h.finishTurn huntouched toolOnly
    refine ⟨?_, hagrees⟩
    show FocusDecision.turn (g.finishTurn n toolOnly).2.1 (g.finishTurn n toolOnly).2.2 = _
    rw [hsame]
    rfl
  | externalChange => exact ⟨rfl, { h with reads := fun hknown => ⟨(h.reads hknown).1, rfl⟩ }⟩
  | noteSteering messages => exact ⟨rfl, { h with }⟩
  | replaceSteering messages => exact ⟨rfl, { h with }⟩

theorem Agrees.decisions (h : Agrees origin g r) {inputs : List FocusInput}
    (hmeets : RunMeets (step env opts) (Untouched env origin) g inputs) :
    r.decisions env opts inputs = g.decisions env opts inputs := by
  induction inputs generalizing g r with
  | nil => rfl
  | cons input inputs ih =>
    obtain ⟨hsame, hagrees⟩ := h.respond opts hmeets.1
    show (r.respond env opts input).2 :: (r.step env opts input).decisions env opts inputs = _
    rw [← hsame, ih hagrees hmeets.2]
    rfl

/-! ## What survives a restart -/

/-- The exported state is accepted and exported again, and the restored guard decides the
same on every sequence of inputs that meets `C`. -/
structure Persists (env : FocusPlatform) (opts : FocusOptions) (g : ResearchFocusGuard)
    (C : ResearchFocusGuard → FocusInput → Prop) : Prop where
  passes : isResearchFocusPersistedState (g.exportState opts).toJson = true
  roundTrip : (g.restored opts).exportState opts = g.exportState opts
  decides : ∀ inputs, RunMeets (ResearchFocusGuard.step env opts) C g inputs →
    (g.restored opts).decisions env opts inputs = g.decisions env opts inputs

def readAgain (callId : String) : FocusInput :=
  .before { researchCall callId "memory_get" with kind := .recall }

end Beale.Focus
