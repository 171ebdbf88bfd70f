import Beale.Library.Client
import Beale.Sessions.Events

/-!
# The session store

A session is one document: its status, its attempts and its activity intervals. The captures of
its attempts are rows of their own, and the stored document has none of them. Every operation is
one transaction.

- `create`, `beginAttempt`, `transition`, `appendEvent`, `importCapture`, `recoverInterrupted`: the
  operations; `mutate` is the transaction that most of them share.
- `mutate_ok`, `beginAttemptUpdate_ok`, `transitionUpdate_ok`, `importUpdate_ok`: what a call that
  succeeds has checked and written.
-/

namespace Beale.Sessions

open Beale.Library
open Client (exceptBind_ok exceptGuard_ok)

/-! ## Documents -/

inductive AppServerSessionStatus where
  | active
  | paused
  | blocked
  | completed
  | failed
  | stopped
deriving DecidableEq, Repr

def terminalStatus : AppServerSessionStatus → Bool
  | .active => false
  | .paused => false
  | _ => true

/-- An `AppServerSessionCaptureEventReference`, in the capture of an attempt. -/
structure CaptureEventReference where
  sessionId : Text
  attemptId : Text
  count : Nat
deriving DecidableEq

structure AppServerSessionCapture where
  attemptId : Text
  capturedAt : JsString
  schemaVersion : Json
  timeline : CaptureEventReference
  agentDiagnostics : CaptureEventReference
  raw : List (JsString × Json)

structure AppServerSessionAttempt where
  id : Text
  parentAttemptId : Option Text
  status : AppServerSessionStatus
  summary : Text
  startedAt : JsString
  endedAt : Option JsString
  capture : Option AppServerSessionCapture
  metadata : List (JsString × Json)

structure AppServerSessionActivityInterval where
  startedAt : JsString
  endedAt : Option JsString
deriving DecidableEq

structure AppServerSessionRecord where
  id : Text
  workspaceId : Text
  status : AppServerSessionStatus
  title : Text
  prompt : Text
  summary : Text
  provider : Option Text
  model : Text
  reasoningEffort : JsString
  workflowId : Option Text
  profile : Option Json
  metadata : List (JsString × Json)
  finalDisposition : Option (List (JsString × Json))
  finalResponse : Option Text
  attempts : List AppServerSessionAttempt
  activityIntervals : Option (List AppServerSessionActivityInterval)
  events : List AppServerSessionEvent
  createdAt : JsString
  startedAt : JsString
  endedAt : Option JsString
  updatedAt : JsString
  revision : Nat

/-- `storedSessionDocument`: what is stored of a record has no captures and no events. -/
def storedSessionDocument (session : AppServerSessionRecord) : AppServerSessionRecord :=
  { session with
    attempts := session.attempts.map fun attempt => { attempt with capture := none }
    events := [] }

/-- A row of `app_server_session_captures`. -/
structure SessionCaptureRow where
  sessionId : Text
  attemptId : Text
  capture : AppServerSessionCapture

structure SessionTables extends EventTables where
  sessions : JsMap Text AppServerSessionRecord
  captures : List SessionCaptureRow

/-- A store without sessions. -/
def SessionTables.new : SessionTables := ⟨.empty, .empty, []⟩

/-! ## Activity -/

/-- `ensureSessionActivityIntervals`: a record without intervals has those of its attempts. -/
def ensureSessionActivityIntervals (session : AppServerSessionRecord) :
    List AppServerSessionActivityInterval :=
  session.activityIntervals.getD <| session.attempts.mapIdx fun index attempt =>
    { startedAt := attempt.startedAt
      endedAt := attempt.endedAt <|>
        (optionalText (attempt.metadata.lookup (js "recoveredAt"))).map (·.1) <|>
        (session.attempts[index + 1]?).map (·.startedAt) <|>
        (if session.status = .active then none else some (session.endedAt.getD session.updatedAt)) }

def closeLast (time : JsString) : List AppServerSessionActivityInterval →
    List AppServerSessionActivityInterval
  | [] => []
  | [interval] => [if interval.endedAt = none then { interval with endedAt := some time } else interval]
  | interval :: next :: rest => interval :: closeLast time (next :: rest)

def startSessionActivity (session : AppServerSessionRecord) (startedAt : JsString) :
    AppServerSessionRecord :=
  { session with
    activityIntervals :=
      some (closeLast startedAt (ensureSessionActivityIntervals session) ++ [⟨startedAt, none⟩]) }

def closeSessionActivity (session : AppServerSessionRecord) (endedAt : JsString) :
    AppServerSessionRecord :=
  { session with
    activityIntervals := some (closeLast endedAt (ensureSessionActivityIntervals session)) }

/-! ## Operations -/

structure CreateAppServerSessionInput where
  id : JsString
  workspaceId : JsString
  attemptId : JsString
  title : JsString
  prompt : JsString
  provider : Option JsString
  model : JsString
  reasoningEffort : JsString
  workflowId : Option JsString
  profile : Option Json
  metadata : List (JsString × Json)
  attemptMetadata : List (JsString × Json)
  createdAt : Option JsString

/-- The record that `create` makes of its checked input. -/
def newRecord (input : CreateAppServerSessionInput) (now : JsString)
    (id workspaceId title prompt summary attemptSummary model : Text) (reasoningEffort : JsString)
    (attemptId : Text) : AppServerSessionRecord where
  id := id
  workspaceId := workspaceId
  status := .active
  title := title
  prompt := prompt
  summary := summary
  provider := input.provider.bind textOf?
  model := model
  reasoningEffort := reasoningEffort
  workflowId := input.workflowId.bind textOf?
  profile := input.profile
  metadata := input.metadata
  finalDisposition := none
  finalResponse := none
  attempts := [{
    id := attemptId, parentAttemptId := none, status := .active, summary := attemptSummary
    startedAt := now, endedAt := none, capture := none, metadata := input.attemptMetadata }]
  activityIntervals := some [⟨now, none⟩]
  events := []
  createdAt := now
  startedAt := now
  endedAt := none
  updatedAt := now
  revision := 1

/-- `create`. The id of a session is the key of its row. -/
def create (db : SessionTables) (input : CreateAppServerSessionInput) (clock : JsString) :
    Except JsString SessionTables := do
  let now := input.createdAt.getD clock
  let id ← requiredString input.id (js "Session id")
  let workspaceId ← requiredString input.workspaceId (js "Workspace id")
  let title ← requiredString input.title (js "Session title")
  let prompt ← requiredString input.prompt (js "Session prompt")
  let summary ← requiredString (js "app-server research session started.") (js "Summary")
  let attemptSummary ← requiredString (js "app-server research attempt started.") (js "Summary")
  let model ← requiredString input.model (js "Session model")
  let reasoningEffort ← requiredString input.reasoningEffort (js "Session reasoning effort")
  let attemptId ← requiredString input.attemptId (js "Attempt id")
  if (db.sessions.get? id).isSome then
    throw (js "UNIQUE constraint failed: app_server_sessions.id")
  let record := newRecord input now id workspaceId title prompt summary attemptSummary model
    reasoningEffort.1 attemptId
  return { db with sessions := db.sessions.set id (storedSessionDocument record) }

/-- `insertCaptures`: the captures of a record that have no row yet. -/
def insertCaptures (db : SessionTables) (session : AppServerSessionRecord) : SessionTables :=
  let stored := (db.captures.filter (·.sessionId = session.id)).map (·.attemptId)
  { db with
    captures := db.captures ++ session.attempts.filterMap fun attempt =>
      match attempt.capture with
      | some capture =>
        if stored.contains attempt.id then none else some ⟨session.id, attempt.id, capture⟩
      | none => none }

/-- The record of a session, as it is stored. -/
def getSessionCore (db : SessionTables) (sessionId : JsString) :
    Except JsString AppServerSessionRecord := do
  let id ← requiredString sessionId (js "Session id")
  match db.sessions.get? id with
  | some session => return session
  | none => throw (js "Session not found: " ++ sessionId)

variable (env : SessionPlatform)

/-- `mutate`: the transaction around a change of a record. The row is read and written in one
transaction, so that the revision it is written over is the one that was read. -/
def mutate (db : SessionTables) (sessionId : JsString) (expectedRevision : Option Nat)
    (clock : JsString) (update : AppServerSessionRecord → Except JsString AppServerSessionRecord) :
    Except JsString SessionTables := do
  let session ← getSessionCore db sessionId
  if expectedRevision.any (· ≠ session.revision) then
    throw (js "Session revision conflict for " ++ sessionId ++ js ": expected "
      ++ natText (expectedRevision.getD 0) ++ js ", received " ++ natText session.revision ++ js ".")
  let updated ← update session
  let next := { updated with revision := updated.revision + 1, updatedAt := clock }
  let stored := insertCaptures
    { db with toEventTables := db.toEventTables.insertEvents env next.id next.events } next
  return { stored with sessions := stored.sessions.set next.id (storedSessionDocument next) }

structure BeginAppServerSessionAttemptInput where
  attemptId : JsString
  parentAttemptId : Option JsString
  summary : JsString
  expectedRevision : Option Nat
  startedAt : Option JsString
  metadata : List (JsString × Json)

/-- The change that `beginAttempt` makes. -/
def beginAttemptUpdate (input : BeginAppServerSessionAttemptInput) (clock : JsString)
    (session : AppServerSessionRecord) : Except JsString AppServerSessionRecord := do
  if session.status = .active then
    throw (js "Session " ++ session.id.1 ++ js " already has an active attempt.")
  let now := input.startedAt.getD clock
  let summary ← requiredString input.summary (js "Attempt summary")
  let id ← requiredString input.attemptId (js "Attempt id")
  let started := startSessionActivity session now
  return { started with
    status := .active
    summary
    endedAt := none
    attempts := session.attempts ++ [{
      id, parentAttemptId := input.parentAttemptId.bind textOf?, status := .active, summary
      startedAt := now, endedAt := none, capture := none, metadata := input.metadata }] }

/-- The `configuration` of a transition. -/
structure TransitionConfiguration where
  prompt : Option JsString
  provider : Option (Option JsString)
  model : Option JsString
  reasoningEffort : Option JsString
  workflowId : Option (Option JsString)

structure AppServerSessionTransitionInput where
  status : AppServerSessionStatus
  summary : JsString
  attemptId : Option JsString
  expectedRevision : Option Nat
  disposition : Option (Option (List (JsString × Json)))
  metadata : List (JsString × Json)
  configuration : Option TransitionConfiguration
  time : Option JsString

def configure (session : AppServerSessionRecord) (configuration : TransitionConfiguration) :
    Except JsString AppServerSessionRecord := do
  let prompt ← configuration.prompt.elim (.ok session.prompt)
    (requiredString · (js "Session prompt"))
  let model ← configuration.model.elim (.ok session.model) (requiredString · (js "Session model"))
  return { session with
    prompt, model
    provider := configuration.provider.elim session.provider (·.bind textOf?)
    reasoningEffort := configuration.reasoningEffort.elim session.reasoningEffort trim
    workflowId := configuration.workflowId.elim session.workflowId (·.bind textOf?) }

/-- The place of the attempt that a transition is about: the first of the given id, or the last
one. -/
def transitionTarget (session : AppServerSessionRecord) (attemptId : Option JsString) : Option Nat :=
  match attemptId.filter (· ≠ []) with
  | some id => session.attempts.findIdx? fun attempt => attempt.id.1 = id
  | none => if session.attempts.isEmpty then none else some (session.attempts.length - 1)

/-- The change that `transition` makes. -/
def transitionUpdate (input : AppServerSessionTransitionInput) (clock : JsString)
    (session : AppServerSessionRecord) : Except JsString AppServerSessionRecord := do
  let now := input.time.getD clock
  let timed :=
    if session.status = .active ∧ input.status ≠ .active then closeSessionActivity session now
    else if session.status ≠ .active ∧ input.status = .active then startSessionActivity session now
    else session
  let summary ← requiredString input.summary (js "Lifecycle summary")
  let configured ← input.configuration.elim (.ok timed) (configure timed)
  let endedAt := if terminalStatus input.status then some now else none
  return { configured with
    status := input.status
    summary
    metadata := spread session.metadata input.metadata
    finalDisposition := input.disposition.getD session.finalDisposition
    attempts := match transitionTarget session input.attemptId with
      | some index => session.attempts.modify index fun attempt =>
          { attempt with status := input.status, summary, endedAt }
      | none => session.attempts
    endedAt }

/-! ## Captures -/

def isCaptureSchemaVersion : Option Json → Bool
  | some (.num (.integer n)) => n = 4 || n = 5
  | _ => false

def decodeCapture (value : Json) : Except JsString (List (JsString × Json)) :=
  match value with
  | .obj members =>
    if !isCaptureSchemaVersion (members.lookup (js "schemaVersion")) then
      .error (js "app-server capture must use schema version 4 or 5.")
    else if !((members.lookup (js "agent")).any Json.isRecord
        && (members.lookup (js "request")).any Json.isRecord) then
      .error (js "app-server capture is missing its request or agent record.")
    else .ok members
  | _ => .error (js "app-server capture must use schema version 4 or 5.")

def validateCaptureResearchProfile (capture : List (JsString × Json)) (session : AppServerSessionRecord) :
    Except JsString Unit := do
  let expectedId := optionalText (Json.path? session.profile [js "id"])
  let expectedHash := optionalText (Json.path? session.profile [js "hash"])
  if expectedId = none ∧ expectedHash = none ∧ session.workflowId = none then return ()
  match Json.members? (capture.lookup (js "researchProfile")) with
  | none =>
    throw (js "app-server capture is missing the research profile pinned to session "
      ++ session.id.1 ++ js ".")
  | some captured =>
    let capturedId := optionalText (captured.lookup (js "id"))
    let capturedHash := optionalText (captured.lookup (js "hash"))
    let capturedWorkflowId := optionalText (captured.lookup (js "workflowId"))
    let (computedHash, snapshotId, snapshotVersion) ←
      env.profileSnapshot (captured.lookup (js "snapshot"))
    if capturedHash.map (·.1) ≠ some computedHash then
      throw (js "app-server capture research profile hash mismatch for "
        ++ (capturedId.map (·.1)).getD snapshotId ++ js "@" ++ snapshotVersion ++ js ".")
    if (expectedId.isSome ∧ capturedId ≠ expectedId) ∨ (expectedHash.isSome ∧ capturedHash ≠ expectedHash)
        ∨ (session.workflowId.isSome ∧ capturedWorkflowId ≠ session.workflowId) then
      throw (js "app-server capture research profile does not match the profile and workflow pinned to session "
        ++ session.id.1 ++ js ".")

def arrayLength : Option Json → Nat
  | some (.arr elements) => elements.length
  | _ => 0

def CaptureEventReference.json (reference : CaptureEventReference) : Json :=
  .obj [(js "source", .str (js "app_server_session_events")),
    (js "sessionId", .str reference.sessionId.1), (js "attemptId", .str reference.attemptId.1),
    (js "count", .num (.integer reference.count))]

/-- `compactImportedCapture`: the event histories of a capture become references. -/
def compactImportedCapture (capture : List (JsString × Json)) (sessionId attemptId : Text)
    (capturedAt : JsString) : AppServerSessionCapture :=
  let agent := Json.members? (capture.lookup (js "agent"))
  let agentRaw := Json.members? (agent.bind (·.lookup (js "raw")))
  let timeline : CaptureEventReference :=
    ⟨sessionId, attemptId, arrayLength (capture.lookup (js "eventTimeline"))⟩
  let agentDiagnostics : CaptureEventReference :=
    ⟨sessionId, attemptId, arrayLength (agentRaw.bind (·.lookup (js "agentEvents")))⟩
  let compacted := setMember (capture.filter (·.1 ≠ js "eventTimeline")) (js "eventTimelineRef")
    timeline.json
  { attemptId, capturedAt
    schemaVersion := (capture.lookup (js "schemaVersion")).getD .null
    timeline, agentDiagnostics
    raw := match agent with
      | none => compacted
      | some agent => setMember compacted (js "agent") <| .obj <|
          match agentRaw with
          | none => agent
          | some raw => setMember agent (js "raw")
              (.obj (setMember (raw.filter (·.1 ≠ js "agentEvents")) (js "agentEventsRef")
                agentDiagnostics.json)) }

def decodeDisposition (value : Option Json) : Option (List (JsString × Json)) := do
  let disposition ← Json.members? value
  let outcome ← optionalText (disposition.lookup (js "outcome"))
  let summary ← optionalText (disposition.lookup (js "summary"))
  let .bool externalStateRequired ← disposition.lookup (js "externalStateRequired") | none
  let blockerDependencies := match disposition.lookup (js "blockerDependencies") with
    | some (.arr elements) => elements
    | _ => []
  return spread disposition [(js "outcome", .str outcome.1), (js "summary", .str summary.1),
    (js "externalStateRequired", .bool externalStateRequired),
    (js "blockerDependencies", .arr blockerDependencies)]

/-- `captureEvent`, with the id for an event that has none. -/
def captureEvent (fresh clock : Text) (value : Json) : Option AppServerSessionEvent := do
  let event ← Json.members? (some value)
  let kind ← optionalText (event.lookup (js "kind"))
  return {
    id := (optionalText (event.lookup (js "id"))).getD fresh
    kind
    timestamp := (optionalText (event.lookup (js "timestamp"))).getD clock
    summary := (optionalText (event.lookup (js "summary"))).getD kind
    payload := some ((event.lookup (js "payload")).getD .null)
    agentId := optionalText (event.lookup (js "agentId"))
    agentPath := optionalText (event.lookup (js "agentPath"))
    parentAgentId := optionalText (event.lookup (js "parentAgentId")) }

/-- The events of a timeline, each id once. The `fresh` ids are for events that have none. -/
def captureEvents (fresh : Nat → Text) (clock : Text) (timeline : Option Json) :
    List AppServerSessionEvent :=
  let candidates := match timeline with
    | some (.arr elements) => elements
    | _ => []
  (candidates.zipIdx.filterMap fun c => captureEvent (fresh c.2) clock c.1).foldl
    (fun events event =>
      if events.any fun existing => existing.id = event.id then events else events ++ [event]) []

def importedStatus (agentStatus goalStatus : Option Text) : AppServerSessionStatus :=
  let completed := agentStatus.map (·.1) = some (js "complete") ∧ goalStatus.map (·.1) ≠ some (js "active")
  if agentStatus.map (·.1) = some (js "stopped") then .stopped
  else if completed ∧ goalStatus.map (·.1) = some (js "blocked") then .blocked
  else if completed then .completed
  else .failed

def completionSummary (agentStatus goalStatus : Option Text) (agent : List (JsString × Json)) : JsString :=
  if agentStatus.map (·.1) = some (js "stopped") then
    js "app-server stopped the research session at the host's request."
  else if agentStatus.map (·.1) = some (js "complete") ∧ goalStatus.map (·.1) = some (js "blocked") then
    js "app-server stopped because the research goal is genuinely blocked on external state."
  else if agentStatus.map (·.1) = some (js "complete") ∧ goalStatus.map (·.1) = some (js "active") then
    js "app-server exited while the research goal was still active."
  else if agentStatus.map (·.1) = some (js "complete") then
    js "app-server completed the research session."
  else js "app-server process failed: "
    ++ ((optionalText (agent.lookup (js "outputText"))).map (·.1)).getD (js "Unknown app-server error.")

structure ImportAppServerSessionCaptureInput where
  attemptId : JsString
  capture : Json
  expectedRevision : Option Nat
  fresh : Nat → Text

/-- The checks of an import, up to the guard that the attempt has no capture: the place of the
attempt. -/
def importTarget (input : ImportAppServerSessionCaptureInput) (session : AppServerSessionRecord) :
    Except JsString Nat :=
  match session.attempts.findIdx? fun attempt => attempt.id.1 = input.attemptId with
  | some index => .ok index
  | none => .error (js "Attempt not found for capture import: " ++ input.attemptId)

def importedRecord (session : AppServerSessionRecord) (index : Nat) (attemptId : Text)
    (capture : List (JsString × Json)) (fresh : Nat → Text) (clock : Text) : AppServerSessionRecord :=
  let capturedAt := ((optionalText (capture.lookup (js "capturedAt"))).getD clock).1
  let closed := closeSessionActivity session capturedAt
  let agent := (Json.members? (capture.lookup (js "agent"))).getD []
  let goalStatus := optionalText (Json.path? (agent.lookup (js "goal")) [js "status"])
  let agentStatus := optionalText (agent.lookup (js "status"))
  let status := importedStatus agentStatus goalStatus
  let summary := (textOf? (completionSummary agentStatus goalStatus agent)).getD session.summary
  { closed with
    status, summary
    finalDisposition := decodeDisposition (agent.lookup (js "finalDisposition"))
    finalResponse := optionalText (agent.lookup (js "outputText"))
    attempts := session.attempts.modify index fun attempt => { attempt with
      capture := some (compactImportedCapture capture session.id attemptId capturedAt)
      status, summary
      endedAt := some capturedAt }
    endedAt := some capturedAt
    events := captureEvents fresh clock (capture.lookup (js "eventTimeline")) }

/-- The change that `importCapture` makes. -/
def importUpdate (input : ImportAppServerSessionCaptureInput) (capture : List (JsString × Json))
    (clock : Text) (session : AppServerSessionRecord) : Except JsString AppServerSessionRecord := do
  let index ← importTarget input session
  match session.attempts[index]? with
  | none => throw (js "Attempt not found for capture import: " ++ input.attemptId)
  | some attempt =>
    if attempt.capture.isSome then
      throw (js "Attempt " ++ attempt.id.1 ++ js " already has an imported capture.")
    validateCaptureResearchProfile env capture session
    return importedRecord session index attempt.id capture input.fresh clock

/-! ## Recovery -/

/-- `approvalRecoveryEvents`: the approvals that an interruption denies, with their ids. -/
def approvalRecoveryEvents (fresh : Nat → Text) (recoveredAt summary agentPath : Text)
    (events : List AppServerSessionEvent) : List AppServerSessionEvent :=
  let approvals := events.foldl
    (fun (approvals : JsMap Text (List (JsString × Json))) event =>
      if event.kind.1 ≠ js "beale.approval" then approvals
      else
        match Json.members? (Json.path? event.payload [js "record"]) with
        | none => approvals
        | some approval =>
          match optionalText (approval.lookup (js "id")) with
          | none => approvals
          | some id => approvals.set id approval) .empty
  approvals.values.zipIdx.filterMap fun (approval, index) =>
    let requestKind := (optionalText (approval.lookup (js "requestKind"))).map (·.1)
    if (requestKind ≠ some (js "shell_command") ∧ requestKind ≠ some (js "computer_use"))
        ∨ (optionalText (approval.lookup (js "decision"))).map (·.1) ≠ some (js "pending")
        ∨ (optionalText (approval.lookup (js "decidedAt"))).isSome then none
    else some {
      id := fresh index
      kind := summary
      timestamp := recoveredAt
      summary
      payload := some (.obj [(js "record", .obj (spread approval
        [(js "decision", .str (js "denied")),
          (js "reason", .str (if requestKind = some (js "computer_use") then
            js "Computer-use approval denied because the prior app-server process was interrupted."
            else js "Shell approval denied because the prior app-server process was interrupted.")),
          (js "decidedAt", .str recoveredAt.1)]))])
      agentId := none
      agentPath := some agentPath
      parentAgentId := none }

structure RecoverInput where
  workspaceId : JsString
  reason : Option JsString
  time : Option JsString
  fresh : Text → Nat → Text

/-- What an interruption adds to the metadata of a session or an attempt. -/
def recoveryMetadata (reason recoveredAt : JsString) : List (JsString × Json) :=
  [(js "interruptedByRecovery", .bool true), (js "recoveryReason", .str reason),
    (js "recoveredAt", .str recoveredAt)]

/-- The attempts after a recovery: those that were active are paused. -/
def recoverAttempt (reason recoveredAt : JsString) (summary : Text) (attempt : AppServerSessionAttempt) :
    AppServerSessionAttempt :=
  if attempt.status = .active then
    { attempt with
      status := .paused, summary, endedAt := none
      metadata := spread attempt.metadata (recoveryMetadata reason recoveredAt) }
  else attempt

def recoveredRecord (reason recoveredAt : JsString) (summary : Text) (session : AppServerSessionRecord) :
    AppServerSessionRecord :=
  let closed := closeSessionActivity session recoveredAt
  let recoveredAttemptIds := (session.attempts.filter (·.status = .active)).map fun a => Json.str a.id.1
  { closed with
    status := .paused, summary, endedAt := none
    attempts := session.attempts.map (recoverAttempt reason recoveredAt summary)
    metadata := spread session.metadata (recoveryMetadata reason recoveredAt
      ++ [(js "previousStatus", .str (js "active")), (js "recoveredAttemptIds", .arr recoveredAttemptIds)])
    revision := session.revision + 1
    updatedAt := recoveredAt }

def recoverSession (input : RecoverInput) (recoveredAt reason : JsString) (db : SessionTables)
    (session : AppServerSessionRecord) : Except JsString SessionTables := do
  let summary ← requiredString (js "Paused after the app-server process was interrupted.") (js "Summary")
  let recovered := recoveredRecord reason recoveredAt summary session
  let recoveredAttemptIds := (session.attempts.filter (·.status = .active)).map fun a => Json.str a.id.1
  let recoveryEvent ← normalizeEvent {
    id := (input.fresh session.id 0).1
    kind := js "session.recovery"
    timestamp := recoveredAt
    summary := js "Workspace recovery paused an interrupted app-server session."
    payload := some (.obj [(js "interruptedByRecovery", .bool true),
      (js "previousStatus", .str (js "active")), (js "recoveredAt", .str recoveredAt),
      (js "reason", .str reason),
      (js "attemptId", recoveredAttemptIds.getLast?.getD .null),
      (js "recoveredAttemptIds", .arr recoveredAttemptIds)])
    agentId := none
    agentPath := some (js "/root")
    parentAgentId := none }
  let kind ← requiredString (js "beale.approval") (js "Session event kind")
  let agentPath ← requiredString (js "/root") (js "Session event agent path")
  let denied := approvalRecoveryEvents (fun n => input.fresh session.id (n + 1)) recoveryEvent.timestamp
    kind agentPath ((db.eventsOf session.id).map (·.event))
  return { db with
    toEventTables := db.toEventTables.insertEvents env session.id (denied ++ [recoveryEvent])
    sessions := db.sessions.set session.id (storedSessionDocument recovered) }

/-- `recoverInterrupted`. Each active session of the workspace is changed on its own. -/
def recoverInterrupted (db : SessionTables) (input : RecoverInput) (clock : JsString) :
    Except JsString SessionTables := do
  let workspaceId ← requiredString input.workspaceId (js "Workspace id")
  let recoveredAt := input.time.getD clock
  let reason := ((input.reason.bind textOf?).map (·.1)).getD (js "workspace_open")
  let interrupted := db.sessions.values.filter fun session =>
    session.workspaceId = workspaceId ∧ session.status = .active
  interrupted.foldlM (recoverSession env input recoveredAt reason) db

/-- `appendEvent`: an event is inserted, and the revision of its session grows. -/
def appendEvent (db : SessionTables) (sessionId : JsString) (event : SessionEventInput)
    (clock : JsString) : Except JsString SessionTables := do
  let normalized ← normalizeEvent event
  let session ← getSessionCore db sessionId
  let known := db.hasEvent session.id normalized.id
  let title :=
    if !known ∧ normalized.kind.1 = js "session.title"
        ∧ (Json.path? normalized.payload [js "status"]).bind Json.asString? = some (js "generated") then
      (optionalText (Json.path? normalized.payload [js "title"])).getD session.title
    else session.title
  let next := { session with title, revision := session.revision + 1, updatedAt := clock }
  return { db with
    toEventTables := db.toEventTables.insertEvents env session.id (if known then [] else [normalized])
    sessions := db.sessions.set session.id (storedSessionDocument next) }

/-! ## Calls -/

/-- A call of the store, without what the clock says. -/
inductive SessionCall where
  | create (input : CreateAppServerSessionInput)
  | beginAttempt (sessionId : JsString) (input : BeginAppServerSessionAttemptInput)
  | transition (sessionId : JsString) (input : AppServerSessionTransitionInput)
  | appendEvent (sessionId : JsString) (event : SessionEventInput)
  | importCapture (sessionId : JsString) (input : ImportAppServerSessionCaptureInput)
  | recoverInterrupted (input : RecoverInput)

/-- What a call does to the tables, when the clock says `clock`. -/
def apply (db : SessionTables) (call : SessionCall) (clock : Text) : Except JsString SessionTables :=
  match call with
  | .create input => create db input clock.1
  | .beginAttempt sessionId input =>
    mutate env db sessionId input.expectedRevision clock.1 (beginAttemptUpdate input clock.1)
  | .transition sessionId input =>
    mutate env db sessionId input.expectedRevision clock.1 (transitionUpdate input clock.1)
  | .appendEvent sessionId event => appendEvent env db sessionId event clock.1
  | .importCapture sessionId input => do
    let capture ← decodeCapture input.capture
    mutate env db sessionId input.expectedRevision clock.1 (importUpdate env input capture clock)
  | .recoverInterrupted input => recoverInterrupted env db input clock.1

/-- A call with what the clock says. A call that fails is rolled back. -/
def step (db : SessionTables) (i : SessionCall × Text) : SessionTables :=
  match apply env db i.1 i.2 with
  | .ok db' => db'
  | .error _ => db

/-! ## What the operations do -/

theorem requiredString_ok {value label : JsString} {text : Text} :
    requiredString value label = .ok text ↔ textOf? value = some text := by
  rw [requiredString]
  cases textOf? value with
  | none => simp
  | some found => simp

variable {db db' : SessionTables} {sessionId clock : JsString}
  {session updated : AppServerSessionRecord}

theorem getSessionCore_ok :
    getSessionCore db sessionId = .ok session ↔
      ∃ id, textOf? sessionId = some id ∧ db.sessions.get? id = some session := by
  rw [getSessionCore, exceptBind_ok]
  refine exists_congr fun id => and_congr requiredString_ok ?_
  cases db.sessions.get? id with
  | none => simp [throw, throwThe, MonadExceptOf.throw]
  | some found => simp [pure, Except.pure]

variable {env}

/-- The record after a transaction, before it is stored. -/
def written (updated : AppServerSessionRecord) (clock : JsString) : AppServerSessionRecord :=
  { updated with revision := updated.revision + 1, updatedAt := clock }

/-- The tables after a transaction. -/
def committed (env : SessionPlatform) (db : SessionTables) (next : AppServerSessionRecord) :
    SessionTables :=
  { insertCaptures { db with toEventTables := db.toEventTables.insertEvents env next.id next.events } next
    with sessions := db.sessions.set next.id (storedSessionDocument next) }

theorem mutate_ok {expectedRevision : Option Nat}
    {update : AppServerSessionRecord → Except JsString AppServerSessionRecord} :
    mutate env db sessionId expectedRevision clock update = .ok db' ↔
      ∃ session updated, getSessionCore db sessionId = .ok session ∧
        expectedRevision.any (· ≠ session.revision) = false ∧ update session = .ok updated ∧
        db' = committed env db (written updated clock) := by
  rw [mutate, exceptBind_ok]
  refine exists_congr fun session => ?_
  rw [exists_and_left]
  refine and_congr_right fun _ => ?_
  rw [exceptGuard_ok, exceptBind_ok, Bool.not_eq_true, exists_and_left]
  refine and_congr_right fun _ => exists_congr fun updated => and_congr_right fun _ => ?_
  exact ⟨fun h => (Except.ok.inj h).symm, fun h => congrArg _ h.symm⟩

theorem beginAttemptUpdate_ok {input : BeginAppServerSessionAttemptInput}
    (h : beginAttemptUpdate input clock session = .ok updated) :
    session.status ≠ .active ∧ ∃ summary id, updated =
      { startSessionActivity session (input.startedAt.getD clock) with
        status := .active, summary, endedAt := none
        attempts := session.attempts ++ [{
          id, parentAttemptId := input.parentAttemptId.bind textOf?, status := .active, summary
          startedAt := input.startedAt.getD clock, endedAt := none, capture := none
          metadata := input.metadata }] } := by
  rw [beginAttemptUpdate, exceptGuard_ok] at h
  obtain ⟨hact, h⟩ := h
  obtain ⟨summary, -, h⟩ := exceptBind_ok.mp h
  obtain ⟨id, -, h⟩ := exceptBind_ok.mp h
  exact ⟨hact, summary, id, (Except.ok.inj h).symm⟩

theorem configure_ok {configured : AppServerSessionRecord} {c : TransitionConfiguration}
    (h : configure session c = .ok configured) :
    configured.id = session.id ∧ configured.events = session.events ∧
      configured.activityIntervals = session.activityIntervals := by
  obtain ⟨prompt, -, h⟩ := exceptBind_ok.mp h
  obtain ⟨model, -, h⟩ := exceptBind_ok.mp h
  cases h
  exact ⟨rfl, rfl, rfl⟩

/-- The record of a transition with its activity intervals brought up to date. -/
def timedRecord (input : AppServerSessionTransitionInput) (clock : JsString)
    (session : AppServerSessionRecord) : AppServerSessionRecord :=
  if session.status = .active ∧ input.status ≠ .active then
    closeSessionActivity session (input.time.getD clock)
  else if session.status ≠ .active ∧ input.status = .active then
    startSessionActivity session (input.time.getD clock)
  else session

theorem timedRecord_same (input : AppServerSessionTransitionInput) (clock : JsString)
    (session : AppServerSessionRecord) : (timedRecord input clock session).id = session.id ∧
      (timedRecord input clock session).events = session.events := by
  unfold timedRecord
  split
  · exact ⟨rfl, rfl⟩
  · split
    · exact ⟨rfl, rfl⟩
    · exact ⟨rfl, rfl⟩

/-- What a transition leaves, and what it writes. -/
structure Transitioned (input : AppServerSessionTransitionInput) (clock : JsString)
    (session updated : AppServerSessionRecord) : Prop where
  id : updated.id = session.id
  events : updated.events = session.events
  status : updated.status = input.status
  intervals : updated.activityIntervals = (timedRecord input clock session).activityIntervals
  attempts : ∃ summary endedAt, updated.attempts =
    match transitionTarget session input.attemptId with
    | some index => session.attempts.modify index fun attempt =>
        { attempt with status := input.status, summary, endedAt }
    | none => session.attempts

theorem transitionUpdate_ok {input : AppServerSessionTransitionInput}
    (h : transitionUpdate input clock session = .ok updated) :
    Transitioned input clock session updated := by
  obtain ⟨summary, -, h⟩ := exceptBind_ok.mp h
  obtain ⟨configured, hconfigured, h⟩ := exceptBind_ok.mp h
  cases h
  have hsame : configured.id = (timedRecord input clock session).id ∧
      configured.events = (timedRecord input clock session).events ∧
      configured.activityIntervals = (timedRecord input clock session).activityIntervals := by
    cases hconfiguration : input.configuration with
    | none =>
      rw [hconfiguration] at hconfigured
      cases Except.ok.inj hconfigured
      exact ⟨rfl, rfl, rfl⟩
    | some c =>
      rw [hconfiguration] at hconfigured
      exact configure_ok hconfigured
  obtain ⟨hid, hevents⟩ := timedRecord_same input clock session
  exact ⟨hsame.1.trans hid, hsame.2.1.trans hevents, rfl, hsame.2.2, summary, _, rfl⟩

variable {input : ImportAppServerSessionCaptureInput}

theorem importTarget_ok
    {index : Nat} : importTarget input session = .ok index ↔
      session.attempts.findIdx? (fun attempt => attempt.id.1 = input.attemptId) = some index := by
  rw [importTarget]
  cases session.attempts.findIdx? fun attempt => attempt.id.1 = input.attemptId with
  | none => simp
  | some found => simp

theorem importUpdate_ok {capture : List (JsString × Json)} {clock : Text} :
    importUpdate env input capture clock session = .ok updated ↔
      ∃ index attempt, importTarget input session = .ok index ∧
        session.attempts[index]? = some attempt ∧ attempt.capture.isSome = false ∧
        validateCaptureResearchProfile env capture session = .ok () ∧
        updated = importedRecord session index attempt.id capture input.fresh clock := by
  rw [importUpdate, exceptBind_ok]
  refine exists_congr fun index => ?_
  rw [exists_and_left]
  refine and_congr_right fun _ => ?_
  cases hatt : session.attempts[index]? with
  | none => simp [throw, throwThe, MonadExceptOf.throw]
  | some attempt =>
    show (if attempt.capture.isSome = true then throw _ >>= _ else _) = Except.ok updated ↔ _
    rw [exceptGuard_ok, Client.exceptThen_ok, Bool.not_eq_true]
    constructor
    · rintro ⟨hguard, hprofile, h⟩
      exact ⟨attempt, rfl, hguard, hprofile, (Except.ok.inj h).symm⟩
    · rintro ⟨attempt', heq, hguard, hprofile, rfl⟩
      cases Option.some.inj heq
      exact ⟨hguard, hprofile, rfl⟩

/-- What a creation stores. -/
structure Created (input : CreateAppServerSessionInput) (clock : JsString) (db db' : SessionTables)
    (record : AppServerSessionRecord) : Prop where
  fresh : db.sessions.get? record.id = none
  stored : db' = { db with sessions := db.sessions.set record.id (storedSessionDocument record) }
  status : record.status = .active
  attempts : ∃ attempt, record.attempts = [attempt] ∧ attempt.status = .active
  intervals : record.activityIntervals = some [⟨input.createdAt.getD clock, none⟩]

theorem create_ok {input : CreateAppServerSessionInput}
    (h : create db input clock = .ok db') : ∃ record, Created input clock db db' record := by
  obtain ⟨id, -, h⟩ := exceptBind_ok.mp h
  obtain ⟨workspaceId, -, h⟩ := exceptBind_ok.mp h
  obtain ⟨title, -, h⟩ := exceptBind_ok.mp h
  obtain ⟨prompt, -, h⟩ := exceptBind_ok.mp h
  obtain ⟨summary, -, h⟩ := exceptBind_ok.mp h
  obtain ⟨attemptSummary, -, h⟩ := exceptBind_ok.mp h
  obtain ⟨model, -, h⟩ := exceptBind_ok.mp h
  obtain ⟨reasoningEffort, -, h⟩ := exceptBind_ok.mp h
  obtain ⟨attemptId, -, h⟩ := exceptBind_ok.mp h
  obtain ⟨hfresh, h⟩ := exceptGuard_ok.mp h
  refine ⟨newRecord input (input.createdAt.getD clock) id workspaceId title prompt summary
    attemptSummary model reasoningEffort.1 attemptId, ?_, (Except.ok.inj h).symm, rfl, ⟨_, rfl, rfl⟩, rfl⟩
  exact Option.not_isSome_iff_eq_none.mp hfresh

theorem appendEvent_ok {event : SessionEventInput}
    (h : appendEvent env db sessionId event clock = .ok db') :
    ∃ session title events, getSessionCore db sessionId = .ok session ∧ db' =
      { db with
        toEventTables := db.toEventTables.insertEvents env session.id events
        sessions := db.sessions.set session.id (storedSessionDocument
          { session with title, revision := session.revision + 1, updatedAt := clock }) } := by
  obtain ⟨normalized, -, h⟩ := exceptBind_ok.mp h
  obtain ⟨session, hget, h⟩ := exceptBind_ok.mp h
  exact ⟨session, _, _, hget, (Except.ok.inj h).symm⟩

theorem requiredString_isOk (value label : JsString) :
    (∃ text, requiredString value label = .ok text) ↔ (textOf? value).isSome = true := by
  rw [Option.isSome_iff_exists]
  exact exists_congr fun text => requiredString_ok

variable {recoveredAt : JsString}

theorem recoverSession_ok {input : RecoverInput} {reason : JsString}
    (h : recoverSession env input recoveredAt reason db session = .ok db') :
    (textOf? recoveredAt).isSome = true ∧ ∃ summary events, db' =
      { db with
        toEventTables := db.toEventTables.insertEvents env session.id events
        sessions := db.sessions.set session.id (storedSessionDocument
          (recoveredRecord reason recoveredAt summary session)) } := by
  obtain ⟨summary, -, h⟩ := exceptBind_ok.mp h
  obtain ⟨event, hevent, h⟩ := exceptBind_ok.mp h
  obtain ⟨kind, -, h⟩ := exceptBind_ok.mp h
  obtain ⟨path, -, h⟩ := exceptBind_ok.mp h
  obtain ⟨id, -, hevent⟩ := exceptBind_ok.mp hevent
  obtain ⟨eventKind, -, hevent⟩ := exceptBind_ok.mp hevent
  obtain ⟨time, htime, -⟩ := exceptBind_ok.mp hevent
  exact ⟨(requiredString_isOk _ _).mp ⟨time, htime⟩, summary, _, (Except.ok.inj h).symm⟩

theorem recoverSession_exists (db : SessionTables) (input : RecoverInput)
    (reason : JsString) (session : AppServerSessionRecord) (h : (textOf? recoveredAt).isSome = true) :
    ∃ db', recoverSession env input recoveredAt reason db session = .ok db' := by
  have hfresh : (textOf? (input.fresh session.id 0).1).isSome = true := by simp
  obtain ⟨summary, hsum⟩ := (requiredString_isOk
    (js "Paused after the app-server process was interrupted.") (js "Summary")).mpr (by decide)
  obtain ⟨id, hid⟩ := (requiredString_isOk _ (js "Session event id")).mpr hfresh
  obtain ⟨eventKind, heventKind⟩ := (requiredString_isOk
    (js "session.recovery") (js "Session event kind")).mpr (by decide)
  obtain ⟨time, htime⟩ := (requiredString_isOk _ (js "Session event timestamp")).mpr h
  obtain ⟨eventSummary, heventSummary⟩ := (requiredString_isOk
    (js "Workspace recovery paused an interrupted app-server session.")
    (js "Session event summary")).mpr (by decide)
  obtain ⟨kind, hkind⟩ := (requiredString_isOk
    (js "beale.approval") (js "Session event kind")).mpr (by decide)
  obtain ⟨path, hpath⟩ := (requiredString_isOk
    (js "/root") (js "Session event agent path")).mpr (by decide)
  exact ⟨_, exceptBind_ok.mpr ⟨summary, hsum, exceptBind_ok.mpr ⟨_,
    exceptBind_ok.mpr ⟨id, hid, exceptBind_ok.mpr ⟨eventKind, heventKind,
      exceptBind_ok.mpr ⟨time, htime, exceptBind_ok.mpr ⟨eventSummary, heventSummary, rfl⟩⟩⟩⟩,
    exceptBind_ok.mpr ⟨kind, hkind, exceptBind_ok.mpr ⟨path, hpath, rfl⟩⟩⟩⟩⟩

end Beale.Sessions
