import Beale.Library.JsMap
import Beale.Library.Json
import Mathlib.Data.List.Infix

/-!
# The research focus guard

`ResearchFocusGuard` of `research-focus-guard.ts`: it watches the tool calls of an
agent outside the model's context, blocks repeated reads, and holds research back while
a checkpoint is pending.

- `beforeToolCall`, `afterToolCall`, `finishTurn` and what is noted in between.
- `FocusInput`, `step`, `decide`: the guard as a machine and what it decides.

Hashing and lower case are taken from outside. What the guard says to the model when it
steers a turn, and the checkpoint texts, are left out: nothing decides by them.
-/

namespace Beale.Focus

open Beale.Library

/-- What the guard takes from outside. -/
structure FocusPlatform where
  /-- `createHash("sha256").update(text).digest("hex")` -/
  sha256 : JsString → JsString
  /-- `text.toLowerCase()` -/
  toLowerCase : JsString → JsString

inductive ResearchFocusToolKind where
  | recall | research | control
  deriving DecidableEq

/-- A tool call that asks to be admitted. The input is a record. -/
structure ResearchFocusToolRequest where
  callId : JsString
  turn : Int
  toolName : JsString
  input : List (JsString × Json)
  kind : ResearchFocusToolKind

/-- An artifact that an outcome refers to. -/
structure ArtifactRef where
  id : Option JsString
  summary : Option JsString

/-- What a tool call brought. -/
structure ResearchFocusToolOutcome where
  callId : JsString
  status : JsString
  summary : Option JsString
  artifactRefs : Option (List ArtifactRef)
  result : Option Json

structure TrackedCall extends ResearchFocusToolRequest where
  fingerprint : JsString
  blocked : Bool

structure TrackedTurn where
  calls : List TrackedCall
  madeProgress : Bool
  duplicateCallCount : Nat
  convergenceBlockedCount : Nat

structure ProgressEntry where
  key : JsString
  toolName : JsString
  inputSummary : JsString
  summary : JsString
  evidence : JsString
  artifactRefs : List JsString

structure ReadCount where
  epoch : Nat
  count : Nat
  lastAllowedTurn : Int

/-- The options of a guard, after their defaults. -/
structure FocusOptions where
  /-- after `conciseObjective` -/
  objective : JsString
  maxDuplicateReadsPerEpoch : Nat := 2
  recallProbeIntervalTurns : Nat := 4
  checkpointEntries : Nat := 8
  convergenceExplorationCalls : Nat := 24
  convergenceEnabled : Bool := true
  durableProgressActivityCalls : Nat := 8
  durableProgressEnabled : Bool := false

def MAX_AUTHORITATIVE_USER_STEERING_MESSAGES : Nat := 8

def MAX_AUTHORITATIVE_USER_STEERING_CHARS : Nat := 16000

def MAX_AUTHORITATIVE_USER_STEERING_MESSAGE_CHARS : Nat := 8000

/-- A guard. What decides about steering texts only is left out. -/
structure ResearchFocusGuard where
  progressEpoch : Nat
  readCounts : JsMap JsString ReadCount
  calls : JsMap JsString TrackedCall
  turns : JsMap Int TrackedTurn
  outcomeDigests : JsMap JsString JsString
  progressEntries : List ProgressEntry
  authoritativeUserSteering : List JsString
  externalProbeAvailable : Bool
  consecutiveRecallOnlyTurns : Nat
  explorationCallsSinceConvergence : Nat
  convergencePending : Bool
  activityCallsSinceDurableProgress : Nat
  durableProgressPending : Bool

def ResearchFocusGuard.fresh : ResearchFocusGuard where
  progressEpoch := 0
  readCounts := .empty
  calls := .empty
  turns := .empty
  outcomeDigests := .empty
  progressEntries := []
  authoritativeUserSteering := []
  externalProbeAvailable := false
  consecutiveRecallOnlyTurns := 0
  explorationCallsSinceConvergence := 0
  convergencePending := false
  activityCallsSinceDurableProgress := 0
  durableProgressPending := false

variable (env : FocusPlatform) (opts : FocusOptions)

/-! ## Tools by name -/

/-- `toolName.replaceAll(".", "_").toLowerCase()`. -/
def normalizedToolName (toolName : JsString) : JsString :=
  env.toLowerCase (toolName.map fun u => if u = 46 then 95 else u)

def isSourceExplorationTool (toolName : JsString) : Bool :=
  let normalized := normalizedToolName env toolName
  normalized = js "repository_search" || normalized = js "repository_history"
    || normalized = js "file_read" || js "code_" <+: normalized || normalized = js "shell_run"

def isConvergenceResolutionTool (toolName : JsString) : Bool :=
  [js "runbook_create", js "runbook_prepare", js "runbook_append", js "runbook_edit",
    js "runbook_configure", js "runbook_run"].contains (normalizedToolName env toolName)

def isDurableProgressTool (toolName : JsString) : Bool :=
  [js "memory_save", js "memory_correct", js "memory_link", js "lead_create",
    js "finding_revise", js "finding_transition", js "runbook_create", js "runbook_prepare",
    js "runbook_append", js "runbook_edit", js "runbook_configure", js "runbook_run",
    js "report_create", js "report_revise"].contains (normalizedToolName env toolName)

def isOperationalSupportTool (toolName : JsString) : Bool :=
  let normalized := normalizedToolName env toolName
  [js "_inspect_tart_vm", js "_start_tart_vm", js "_stop_tart_vm", js "_copy_to_tart_vm",
      js "_copy_from_tart_vm"].any (fun ending => ending <:+ normalized)
    || [js "inspect_tart_vm", js "start_tart_vm", js "stop_tart_vm", js "copy_to_tart_vm",
      js "copy_from_tart_vm"].contains normalized

def isEvidenceActivityTool (toolName : JsString) : Bool :=
  let normalized := normalizedToolName env toolName
  !isOperationalSupportTool env toolName && normalized ≠ js "history_mark_duplicate"
    && normalized ≠ js "history_undo_duplicate"

def isSessionDispositionTool (toolName : JsString) : Bool :=
  normalizedToolName env toolName = js "session_disposition"

/-! ## Texts and digests -/

/-- `JSON.stringify(sortValue(value)) ?? String(value ?? "null")`. -/
def stableStringify (value : Option Json) : JsString :=
  (value.map fun value => stringify (sortValue value)).getD (js "null")

mutual

/-- The value without the fields that change from run to run. -/
def stripVolatileFields : Json → Json
  | .arr elements => .arr (stripElements elements)
  | .obj members => .obj (stripMembers members)
  | value => value

def stripElements : List Json → List Json
  | [] => []
  | e :: rest => stripVolatileFields e :: stripElements rest

def stripMembers : List (JsString × Json) → List (JsString × Json)
  | [] => []
  | (k, v) :: rest =>
    if [js "timestamp", js "startedAt", js "completedAt", js "createdAt", js "updatedAt"].contains k
    then stripMembers rest
    else (k, stripVolatileFields v) :: stripMembers rest

end

def toolFingerprint (toolName : JsString) (input : List (JsString × Json)) : JsString :=
  env.sha256 (toolName ++ js "\n" ++ stableStringify (some (.obj input)))

def ArtifactRef.toJson (a : ArtifactRef) : Json :=
  .obj ((a.id.map fun id => (js "id", Json.str id)).toList ++
    (a.summary.map fun summary => (js "summary", Json.str summary)).toList)

def outcomeDigest (outcome : ResearchFocusToolOutcome) : JsString :=
  env.sha256 (stableStringify (some (.obj
    ([(js "status", .str outcome.status), (js "summary", .str (outcome.summary.getD [])),
        (js "artifactRefs", .arr ((outcome.artifactRefs.getD []).map ArtifactRef.toJson))] ++
      (outcome.result.map fun result => (js "result", stripVolatileFields result)).toList))))

/-- `replace(/[ \t]+/g, " ")` after a blank (`inRun`) or not. -/
def collapseBlanks : Bool → JsString → JsString
  | _, [] => []
  | inRun, u :: rest =>
    if u = 32 ∨ u = 9 then
      if inRun then collapseBlanks true rest else 32 :: collapseBlanks true rest
    else u :: collapseBlanks false rest

def boundedText (value : JsString) (maxChars : Nat) : JsString :=
  let normalized := collapseBlanks false (trim value)
  if normalized.length ≤ maxChars then normalized else normalized.take (maxChars - 1) ++ [0x2026]

def preferredKeys : List JsString :=
  [js "id", js "path", js "query", js "utility", js "args", js "argv", js "cwd", js "action",
    js "operation", js "target", js "status", js "task_name"]

def summarizeInput (input : List (JsString × Json)) : JsString :=
  let selected := preferredKeys.filterMap fun key => (input.lookup key).map fun value => (key, value)
  boundedText (stableStringify (some (.obj (if selected = [] then input else selected)))) 280

def defaultOutcomeSummary (call : TrackedCall) : JsString :=
  call.toolName ++ js " completed for " ++ summarizeInput call.input ++ js "."

def boundedUserSteering (value : JsString) : JsString :=
  let normalized := trim value
  if normalized.length ≤ MAX_AUTHORITATIVE_USER_STEERING_MESSAGE_CHARS then normalized
  else
    let marker := js "\n[...middle omitted by host...]\n"
    let retainedChars := MAX_AUTHORITATIVE_USER_STEERING_MESSAGE_CHARS - marker.length
    normalized.take ((retainedChars + 1) / 2) ++ marker ++ normalized.rtake (retainedChars / 2)

/-! ## Turns and calls -/

/-- `this.turn(turnNumber)`: a new turn forgets those more than 32 turns before it. -/
def ResearchFocusGuard.turn (g : ResearchFocusGuard) (turnNumber : Int) :
    ResearchFocusGuard × TrackedTurn :=
  match g.turns.get? turnNumber with
  | some existing => (g, existing)
  | none =>
    let created : TrackedTurn :=
      { calls := [], madeProgress := false, duplicateCallCount := 0, convergenceBlockedCount := 0 }
    let turns := g.turns.set turnNumber created
    ({ g with turns := turns.deleteAll (turns.keys.filter (· < turnNumber - 32)) }, created)

/-- The call is tracked, also in its turn, which `mark` may change. -/
def ResearchFocusGuard.track (g : ResearchFocusGuard) (request : ResearchFocusToolRequest)
    (blocked : Bool) (mark : TrackedTurn → TrackedTurn) : ResearchFocusGuard :=
  let tracked : TrackedCall :=
    { request with
      fingerprint := toolFingerprint env request.toolName request.input
      blocked := blocked }
  { g with
    calls := g.calls.set request.callId tracked
    turns := g.turns.modify request.turn fun turn =>
      mark { turn with calls := turn.calls ++ [tracked] } }

/-- What `beforeToolCall` returns. -/
structure GateDecision where
  block : Bool
  reason : Option JsString
  deriving DecidableEq

def GateDecision.admitted : GateDecision := ⟨false, none⟩

def durableProgressReason (g : ResearchFocusGuard) : JsString :=
  js "Durable progress checkpoint required after "
    ++ natText g.activityCallsSinceDurableProgress
    ++ js (" evidence-producing activity calls without a canonical research update. "
      ++ "Convert the useful result into an existing or new memory, claim, runbook, or report "
      ++ "before more execution or concluding this research. Search first when needed and update "
      ++ "the canonical record instead of duplicating it. Investigation questions, experiments, "
      ++ "observations, and next actions summarize history but do not satisfy this "
      ++ "execution-progress checkpoint.")

def convergenceReason (g : ResearchFocusGuard) : JsString :=
  js "Evidence checkpoint required after " ++ natText g.explorationCallsSinceConvergence
    ++ js (" exploration or shell calls. "
      ++ "Rank at most three candidates. For each, state the next positive proof obligation and "
      ++ "the evidence that would genuinely contradict or narrow a necessary link. Record the "
      ++ "highest-value proof workflow in an existing or new cohesive runbook before resuming "
      ++ "broad exploration or shell work; keep setup, runtime, and cleanup in that runbook behind "
      ++ "feature tags. Do not use the investigation overview as the execution controller, and do "
      ++ "not retire a candidate merely because proof is incomplete.")

def repeatedReadReason (toolName : JsString) (count : Nat) (probeTurn : Int) : JsString :=
  js "Repeated read blocked: " ++ toolName ++ js " already returned the same research state "
    ++ natText count ++ js (" time(s) in the current progress epoch. A state probe is available "
      ++ "at turn ") ++ (JsNumber.integer probeTurn).text
    ++ js (". Use the existing result. Take a new evidence-producing inspect, analyze, experiment, "
      ++ "or synthesis action, or close the research turn if the evidence is sufficient.")

def ResearchFocusGuard.countRead (g : ResearchFocusGuard) (request : ResearchFocusToolRequest)
    (count : Nat) : ResearchFocusGuard :=
  { g with
    readCounts := g.readCounts.set (toolFingerprint env request.toolName request.input)
      { epoch := g.progressEpoch, count := count, lastAllowedTurn := request.turn } }

/-- The external change is used up. -/
def ResearchFocusGuard.takeProbe (g : ResearchFocusGuard) : ResearchFocusGuard :=
  { g with externalProbeAvailable := false }

/-- The decision about a recall call, which no checkpoint holds back. -/
def ResearchFocusGuard.beforeRecall (g : ResearchFocusGuard)
    (request : ResearchFocusToolRequest) : ResearchFocusGuard × GateDecision :=
  let previous := (g.readCounts.get? (toolFingerprint env request.toolName request.input)).filter
    (·.epoch = g.progressEpoch)
  let count := (previous.map ReadCount.count).getD 0
  -- `lastAllowedTurn` is negative infinity where nothing was allowed in this epoch
  let intervalPassed := (previous.map fun p =>
    decide (request.turn - p.lastAllowedTurn ≥ opts.recallProbeIntervalTurns)).getD true
  let saturated := decide (count ≥ opts.maxDuplicateReadsPerEpoch)
  let intervalProbeDue := saturated && intervalPassed
  let externalProbeDue := saturated && !intervalProbeDue && g.externalProbeAvailable
  let probeDue := intervalProbeDue || externalProbeDue
  if saturated && !probeDue then
    (g.track env request true fun turn =>
        { turn with duplicateCallCount := turn.duplicateCallCount + 1 },
      ⟨true, some (repeatedReadReason request.toolName count
        ((previous.map ReadCount.lastAllowedTurn).getD 0 + opts.recallProbeIntervalTurns))⟩)
  else
    let g := if externalProbeDue then g.takeProbe else g
    let g := g.countRead env request (if probeDue then opts.maxDuplicateReadsPerEpoch else count + 1)
    (g.track env request false id, .admitted)

/-- Whether a pending durable-progress checkpoint holds the call back. -/
def ResearchFocusGuard.durablyHeld (g : ResearchFocusGuard)
    (request : ResearchFocusToolRequest) : Bool :=
  opts.durableProgressEnabled && g.durableProgressPending
    && (isSessionDispositionTool env request.toolName
      || (decide (request.kind = .research) && !isDurableProgressTool env request.toolName
        && !isOperationalSupportTool env request.toolName))

/-- Whether a pending convergence checkpoint holds the call back. -/
def ResearchFocusGuard.convergenceHeld (g : ResearchFocusGuard)
    (request : ResearchFocusToolRequest) : Bool :=
  opts.convergenceEnabled && g.convergencePending && isSourceExplorationTool env request.toolName

def ResearchFocusGuard.beforeToolCall (g : ResearchFocusGuard)
    (request : ResearchFocusToolRequest) : ResearchFocusGuard × GateDecision :=
  let g := (g.turn request.turn).1
  if g.durablyHeld env opts request then
    (g.track env request true id, ⟨true, some (durableProgressReason g)⟩)
  else if g.convergenceHeld env opts request then
    (g.track env request true fun turn =>
        { turn with convergenceBlockedCount := turn.convergenceBlockedCount + 1 },
      ⟨true, some (convergenceReason g)⟩)
  else if request.kind ≠ .recall then (g.track env request false id, .admitted)
  else g.beforeRecall env opts request

/-! ## Outcomes -/

/-- `artifact.id?.trim() || artifact.summary?.trim() || ""` of every artifact, where not empty. -/
def outcomeArtifacts (outcome : ResearchFocusToolOutcome) : List JsString :=
  ((outcome.artifactRefs.getD []).map fun artifact =>
    let id := (artifact.id.map trim).getD []
    if id ≠ [] then id else (artifact.summary.map trim).getD []).filter (· ≠ [])

def isCompleteStatus (status : JsString) : Bool :=
  [js "complete", js "completed", js "success"].contains (env.toLowerCase status)

/-- The tracked call that the outcome is accepted for: one that was admitted, at success. -/
def ResearchFocusGuard.accepted (g : ResearchFocusGuard) (outcome : ResearchFocusToolOutcome) :
    Option TrackedCall :=
  (g.calls.get? outcome.callId).filter fun call =>
    !call.blocked && isCompleteStatus env outcome.status

def ResearchFocusGuard.countConvergence (g : ResearchFocusGuard) (call : TrackedCall) :
    ResearchFocusGuard :=
  if opts.convergenceEnabled && isConvergenceResolutionTool env call.toolName then
    { g with explorationCallsSinceConvergence := 0, convergencePending := false }
  else if opts.convergenceEnabled && isSourceExplorationTool env call.toolName then
    let count := g.explorationCallsSinceConvergence + 1
    { g with
      explorationCallsSinceConvergence := count
      convergencePending :=
        g.convergencePending || decide (count ≥ opts.convergenceExplorationCalls) }
  else g

def ResearchFocusGuard.changedOutcome (g : ResearchFocusGuard) (call : TrackedCall)
    (outcome : ResearchFocusToolOutcome) : Bool :=
  g.outcomeDigests.get? call.fingerprint ≠ some (outcomeDigest env outcome)

/-- Whether an accepted outcome is progress. -/
def ResearchFocusGuard.madeProgress (g : ResearchFocusGuard) (call : TrackedCall)
    (outcome : ResearchFocusToolOutcome) : Bool :=
  let changed := g.changedOutcome env call outcome
  (decide (call.kind = .research) && changed)
    || (decide (call.kind = .recall) && (g.outcomeDigests.get? call.fingerprint).isSome && changed)
    || decide (outcomeArtifacts outcome ≠ [])

/-- What progress does to the durable-progress checkpoint. -/
def ResearchFocusGuard.countDurable (g : ResearchFocusGuard) (call : TrackedCall)
    (changed : Bool) : ResearchFocusGuard :=
  if opts.durableProgressEnabled && isDurableProgressTool env call.toolName then
    { g with activityCallsSinceDurableProgress := 0, durableProgressPending := false }
  else if opts.durableProgressEnabled && decide (call.kind = .research) && changed
      && isEvidenceActivityTool env call.toolName then
    let count := g.activityCallsSinceDurableProgress + 1
    { g with
      activityCallsSinceDurableProgress := count
      durableProgressPending :=
        g.durableProgressPending || decide (count ≥ opts.durableProgressActivityCalls) }
  else g

/-- How many entries of progress are kept. -/
def progressLimit : Nat := max (opts.checkpointEntries * 3) 24

/-- The last entry replaces an earlier one with its key. -/
def ResearchFocusGuard.rememberProgress (g : ResearchFocusGuard) (entry : ProgressEntry) :
    ResearchFocusGuard :=
  let entries := g.progressEntries.eraseP (·.key = entry.key) ++ [entry]
  { g with progressEntries := entries.rtake (progressLimit opts) }

/-- The next epoch begins, and its reads are counted anew. -/
def ResearchFocusGuard.nextEpoch (g : ResearchFocusGuard) (turnNumber : Int) : ResearchFocusGuard :=
  let g := (g.turn turnNumber).1
  { g with
    turns := g.turns.modify turnNumber fun turn => { turn with madeProgress := true }
    progressEpoch := g.progressEpoch + 1
    readCounts := .empty
    externalProbeAvailable := false
    consecutiveRecallOnlyTurns := 0 }

def progressEntry (call : TrackedCall) (outcome : ResearchFocusToolOutcome) : ProgressEntry where
  key := call.fingerprint ++ js ":" ++ outcomeDigest env outcome
  toolName := call.toolName
  inputSummary := summarizeInput call.input
  summary :=
    let summary := outcome.summary.getD []
    boundedText (if summary = [] then defaultOutcomeSummary call else summary) 320
  evidence := boundedText (stableStringify (outcome.result.map stripVolatileFields)) 480
  artifactRefs := (outcomeArtifacts outcome).take 4

/-- `afterToolCall(outcome)`, with whether the outcome was progress. -/
def ResearchFocusGuard.afterToolCall (g : ResearchFocusGuard)
    (outcome : ResearchFocusToolOutcome) : ResearchFocusGuard × Bool :=
  match g.accepted env outcome with
  | none => (g, false)
  | some call =>
    let changed := g.changedOutcome env call outcome
    let made := g.madeProgress env call outcome
    let g := g.countConvergence env opts call
    let g := { g with
      outcomeDigests := g.outcomeDigests.set call.fingerprint (outcomeDigest env outcome) }
    if made then
      (((g.countDurable env opts call changed).nextEpoch call.turn).rememberProgress opts
        (progressEntry env call outcome), true)
    else (g, false)

/-! ## Steering and turns -/

def ResearchFocusGuard.notePotentialExternalChange (g : ResearchFocusGuard) : ResearchFocusGuard :=
  { g with externalProbeAvailable := true }

/-- The oldest messages are dropped until the others fit, but the last one stays. -/
def dropOldSteering : List JsString → List JsString
  | first :: second :: rest =>
    if ((first :: second :: rest).map List.length).sum > MAX_AUTHORITATIVE_USER_STEERING_CHARS then
      dropOldSteering (second :: rest)
    else first :: second :: rest
  | messages => messages

def ResearchFocusGuard.noteAuthoritativeUserSteering (g : ResearchFocusGuard)
    (messages : List JsString) : ResearchFocusGuard :=
  let noted := g.authoritativeUserSteering ++ (messages.map boundedUserSteering).filter (· ≠ [])
  { g with
    authoritativeUserSteering :=
      dropOldSteering (noted.rtake MAX_AUTHORITATIVE_USER_STEERING_MESSAGES) }

def ResearchFocusGuard.replaceAuthoritativeUserSteering (g : ResearchFocusGuard)
    (messages : List JsString) : ResearchFocusGuard :=
  { g with authoritativeUserSteering := [] }.noteAuthoritativeUserSteering messages

/-- `finishTurn(turnNumber, { toolOnly })`, with the counts it returns. -/
def ResearchFocusGuard.finishTurn (g : ResearchFocusGuard) (turnNumber : Int) (toolOnly : Bool) :
    ResearchFocusGuard × Nat × Nat :=
  match (g.turns.get? turnNumber).filter (·.calls ≠ []) with
  | none => ({ g with consecutiveRecallOnlyTurns := 0 }, 0, 0)
  | some turn =>
    let consecutive :=
      if toolOnly && !turn.madeProgress then g.consecutiveRecallOnlyTurns + 1 else 0
    ({ g with consecutiveRecallOnlyTurns := consecutive }, turn.duplicateCallCount, consecutive)

/-! ## The guard as a machine -/

/-- What the guard is told. -/
inductive FocusInput where
  | before (request : ResearchFocusToolRequest)
  | after (outcome : ResearchFocusToolOutcome)
  | finish (turn : Int) (toolOnly : Bool)
  | externalChange
  | noteSteering (messages : List JsString)
  | replaceSteering (messages : List JsString)

/-- What the guard decides. -/
inductive FocusDecision where
  | gate (decision : GateDecision)
  | progress (made : Bool)
  | turn (duplicateCallCount consecutiveRecallOnlyTurns : Nat)
  | silent
  deriving DecidableEq

/-- The guard after an input, and its decision. -/
def ResearchFocusGuard.respond (g : ResearchFocusGuard) :
    FocusInput → ResearchFocusGuard × FocusDecision
  | .before request =>
    let answer := g.beforeToolCall env opts request
    (answer.1, .gate answer.2)
  | .after outcome =>
    let answer := g.afterToolCall env opts outcome
    (answer.1, .progress answer.2)
  | .finish turn toolOnly =>
    let answer := g.finishTurn turn toolOnly
    (answer.1, .turn answer.2.1 answer.2.2)
  | .externalChange => (g.notePotentialExternalChange, .silent)
  | .noteSteering messages => (g.noteAuthoritativeUserSteering messages, .silent)
  | .replaceSteering messages => (g.replaceAuthoritativeUserSteering messages, .silent)

def ResearchFocusGuard.step (g : ResearchFocusGuard) (input : FocusInput) : ResearchFocusGuard :=
  (g.respond env opts input).1

def ResearchFocusGuard.decisions (g : ResearchFocusGuard) : List FocusInput → List FocusDecision
  | [] => []
  | input :: inputs =>
    (g.respond env opts input).2 :: (g.step env opts input).decisions inputs

end Beale.Focus
