import Beale.Library.JsMap
import Beale.Library.Json
import Mathlib.Algebra.Order.Ring.Unbundled.Rat
import Mathlib.Order.Lattice

/-!
# Session events

The event log of a session, and the metrics that are kept beside it.

- `SessionEventRow`, `EventTables`: the rows of the log and of the metrics.
-/

namespace Beale.Sessions

open Beale.Library

/-! ## Reading records -/

/-- `optionalString(value)`: the trimmed string, where it is not empty. -/
def optionalText (value : Option Json) : Option Text := (value.bind Json.asString?).bind textOf?

def requiredString (value label : JsString) : Except JsString Text :=
  match textOf? value with
  | some text => .ok text
  | none => .error (label ++ js " must be a non-empty string.")

/-- The value at the end of a path of properties, each read of a record. -/
def Json.path? (value : Option Json) (path : List JsString) : Option Json :=
  path.foldl (fun found key => found.bind (Json.field? key)) value

/-- The first value that is neither missing nor `null`. -/
def coalesce : List (Option Json) → Option Json
  | [] => none
  | none :: rest => coalesce rest
  | some .null :: rest => coalesce rest
  | some value :: _ => some value

/-- A record with a property set: in place, or at the end. -/
def setMember (members : List (JsString × Json)) (key : JsString) (value : Json) :
    List (JsString × Json) :=
  if (members.lookup key).isSome then JsMap.replaceEntries key value members
  else members ++ [(key, value)]

/-- `{ ...base, ...update }`. -/
def spread (base update : List (JsString × Json)) : List (JsString × Json) :=
  update.foldl (fun members m => setMember members m.1 m.2) base

def Json.members? : Option Json → Option (List (JsString × Json))
  | some (.obj members) => some members
  | _ => none

/-! ## Events -/

/-- An `AppServerSessionEvent` as it is handed to the store. -/
structure SessionEventInput where
  id : JsString
  kind : JsString
  timestamp : JsString
  summary : JsString
  payload : Option Json
  agentId : Option JsString
  agentPath : Option JsString
  parentAgentId : Option JsString

/-- An `AppServerSessionEvent` as it is stored. -/
structure AppServerSessionEvent where
  id : Text
  kind : Text
  timestamp : Text
  summary : Text
  payload : Option Json
  agentId : Option Text
  agentPath : Option Text
  parentAgentId : Option Text

def normalizeEvent (event : SessionEventInput) : Except JsString AppServerSessionEvent := do
  let id ← requiredString event.id (js "Session event id")
  let kind ← requiredString event.kind (js "Session event kind")
  let timestamp ← requiredString event.timestamp (js "Session event timestamp")
  let summary ← requiredString event.summary (js "Session event summary")
  return {
    id, kind, timestamp, summary
    payload := event.payload
    agentId := event.agentId.bind textOf?
    agentPath := event.agentPath.bind textOf?
    parentAgentId := event.parentAgentId.bind textOf? }

/-- A row of `app_server_session_events`. -/
structure SessionEventRow where
  sessionId : Text
  eventOffset : Nat
  event : AppServerSessionEvent

/-! ## Metrics -/

/-- A row of `app_server_session_summary_metrics`. Its numbers are exact. -/
structure SummaryMetrics where
  completedTurnTokens : Rat
  completedTurnCostUsd : Rat
  completedTurnInputTokens : Rat
  completedTurnOutputTokens : Rat
  completedTurnCacheReadTokens : Rat
  completedTurnCachePromptTokens : Rat
  latestReportedTotalTokens : Option Rat
  lastMessageAt : Option JsString
deriving DecidableEq

/-- The row of a session without events. -/
def SummaryMetrics.new : SummaryMetrics := ⟨0, 0, 0, 0, 0, 0, none, none⟩

/-- What the store takes from outside. -/
structure SessionPlatform where
  /-- the value of the text of a number that is no integer -/
  numberOf : JsString → Rat
  /-- the number that SQLite takes a text for: the longest numeric text it starts with -/
  sqlTextNumber : JsString → Rat
  /-- `Date.parse` -/
  dateParse : JsString → Option Int
  /-- the hash, the id and the version of the normalized profile of a capture -/
  profileSnapshot : Option Json → Except JsString (JsString × JsString × JsString)

variable (env : SessionPlatform)

def JsNumber.value : JsNumber → Rat
  | .integer n => n
  | .other text => env.numberOf text

def finiteNonNegativeNumber : Option Json → Option Rat
  | some (.num n) => some (max 0 (JsNumber.value env n))
  | _ => none

structure TurnUsage where
  totalTokens : Rat
  totalCostUsd : Rat
  inputTokens : Rat
  outputTokens : Rat
  cacheReadTokens : Rat
deriving DecidableEq

/-- The usage that an event adds to the metrics. -/
def turnUsage (usage : Option Json) : TurnUsage :=
  let at_ := fun (paths : List (List JsString)) =>
    finiteNonNegativeNumber env (coalesce (paths.map (Json.path? usage)))
  let uncachedInputTokens :=
    (at_ [[js "inputTokens"], [js "input"], [js "input_tokens"]]).getD 0
  let cacheReadTokens :=
    (at_ [[js "cacheReadTokens"], [js "cacheRead"], [js "cache_read_tokens"]]).getD 0
  let cacheWriteTokens :=
    (at_ [[js "cacheWriteTokens"], [js "cacheWrite"], [js "cache_write_tokens"]]).getD 0
  { totalTokens := (at_ [[js "totalTokens"], [js "total_tokens"]]).getD 0
    totalCostUsd := (at_ [[js "cost", js "total"], [js "totalCostUsd"]]).getD 0
    inputTokens := (at_ [[js "promptTokens"], [js "prompt_tokens"]]).getD
      (uncachedInputTokens + cacheReadTokens + cacheWriteTokens)
    outputTokens := (at_ [[js "outputTokens"], [js "output"], [js "output_tokens"]]).getD 0
    cacheReadTokens }

def completedTurn (event : AppServerSessionEvent) : Bool :=
  event.kind.1 = js "agent.event"
    && (Json.path? event.payload [js "type"]).bind Json.asString? = some (js "turn_completed")

/-- The path of the metadata of a model session update. -/
def reportedMetadata : List JsString := [js "record", js "patch", js "metadata"]

def SummaryMetrics.after (metrics : SummaryMetrics) (event : AppServerSessionEvent) : SummaryMetrics :=
  let reported :=
    if event.kind.1 = js "beale.model_session_update" then
      let metadata := Json.path? event.payload reportedMetadata
      match finiteNonNegativeNumber env (coalesce [Json.path? metadata [js "latestReportedTotalTokens"],
          Json.path? metadata [js "latest_reported_total_tokens"]]) with
      | some tokens => { metrics with latestReportedTotalTokens := some tokens }
      | none => metrics
    else metrics
  let turned :=
    if completedTurn event then
      let usage := turnUsage env (Json.path? event.payload [js "usage"])
      { reported with
        completedTurnTokens := reported.completedTurnTokens + usage.totalTokens
        completedTurnCostUsd := reported.completedTurnCostUsd + usage.totalCostUsd
        completedTurnInputTokens := reported.completedTurnInputTokens + usage.inputTokens
        completedTurnOutputTokens := reported.completedTurnOutputTokens + usage.outputTokens
        completedTurnCacheReadTokens := reported.completedTurnCacheReadTokens + usage.cacheReadTokens
        completedTurnCachePromptTokens := reported.completedTurnCachePromptTokens + usage.inputTokens }
    else reported
  if event.kind.1 = js "beale.transcript" then
    { turned with
      lastMessageAt := some ((optionalText (Json.path? event.payload [js "record", js "createdAt"])).getD
        event.timestamp).1 }
  else turned

/-! ## Insertion -/

structure EventTables where
  events : List SessionEventRow
  metrics : JsMap Text SummaryMetrics

namespace EventTables

def empty : EventTables := ⟨[], .empty⟩

def eventsOf (db : EventTables) (sessionId : Text) : List SessionEventRow :=
  db.events.filter (·.sessionId = sessionId)

/-- `COALESCE(MAX(event_offset), -1) + 1`. -/
def nextOffset (db : EventTables) (sessionId : Text) : Nat :=
  ((db.eventsOf sessionId).map (·.eventOffset + 1)).foldl max 0

def updateSessionSummaryMetrics (db : EventTables) (sessionId : Text) (event : AppServerSessionEvent) :
    EventTables :=
  if event.kind.1 ≠ js "beale.model_session_update" ∧ event.kind.1 ≠ js "beale.transcript"
      ∧ completedTurn event = false then db
  else { db with
    metrics := db.metrics.set sessionId
      (((db.metrics.get? sessionId).getD .new).after env event) }

def hasEvent (db : EventTables) (sessionId : Text) (eventId : Text) : Bool :=
  (db.eventsOf sessionId).any fun row => row.event.id = eventId

/-- One turn of the loop of `insertEvents`: the tables, and the next offset. -/
def insertEvent (sessionId : Text) (state : EventTables × Nat) (event : AppServerSessionEvent) :
    EventTables × Nat :=
  let (db, offset) := state
  if db.hasEvent sessionId event.id then (db, offset)
  else
    (updateSessionSummaryMetrics env { db with events := db.events ++ [⟨sessionId, offset, event⟩] }
      sessionId event, offset + 1)

def insertEvents (db : EventTables) (sessionId : Text) (events : List AppServerSessionEvent) :
    EventTables :=
  (events.foldl (insertEvent env sessionId) (db, db.nextOffset sessionId)).1

end EventTables

end Beale.Sessions
