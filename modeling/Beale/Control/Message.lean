import Beale.Library.Json
import Beale.Library.Run

/-!
# Control messages

The lines an app-server host sends on its control stream, as
`parseControlMessage` reads them.

- `messageJson`: the object a message is, whose text tells a replayed request
  from a reused id.
-/

namespace Beale.Control

open Beale.Library

/-- A request id: a non-empty string. -/
abbrev RequestId := { id : JsString // id ≠ [] }

inductive Decision where
  | approved
  | denied
deriving DecidableEq, Repr

inductive ReasoningEffort where
  | off
  | minimal
  | low
  | medium
  | high
  | xhigh
  | max
deriving DecidableEq, Repr

inductive ShellSafetyMode where
  | manualApproval
  | autoReview
  | danger
deriving DecidableEq, Repr

/-- `AppServerModelSelection`. -/
structure ModelSelection where
  provider : JsString
  model : JsString
  reasoningEffort : ReasoningEffort
  daybreakBlue : Option Bool
deriving DecidableEq, Repr

/-- `RunbookExecutionRequest`, as far as a control line fills it. -/
structure RunbookExecutionRequest where
  runbookId : JsString
  cellId : Option JsString
  startCellId : Option JsString
  endCellId : Option JsString
deriving DecidableEq, Repr

/-- The two kinds of approval the stream carries. -/
inductive ApprovalKind where
  | shell
  | tool
deriving DecidableEq, Repr

/-- What a message asks for. -/
inductive ControlBody where
  | pause
  | resume
  | stop
  | configure (modelSelection : ModelSelection)
  | steer (instruction : JsString) (modelSelection : Option ModelSelection)
  | removeSteering (targetRequestId : RequestId)
  | configureShellSafety (shellSafetyMode : ShellSafetyMode)
  | runbookExecute (request : RunbookExecutionRequest)
  | resolveApproval (kind : ApprovalKind) (approvalRequestId : RequestId) (decision : Decision)
deriving DecidableEq, Repr

/-- `AppServerControlMessage`. -/
structure ControlMessage where
  requestId : Option RequestId
  body : ControlBody
deriving DecidableEq, Repr

/-- What the stream relies on from its platform: `JSON.parse`, which throws an error
with a message, and `randomUUID`, whose calls are numbered. -/
structure Platform where
  jsonParse : JsString → Except JsString Json
  randomUUID : Nat → RequestId

/-! ## Texts of the closed vocabularies -/

def Decision.text : Decision → JsString
  | .approved => js "approved"
  | .denied => js "denied"

def ReasoningEffort.text : ReasoningEffort → JsString
  | .off => js "off"
  | .minimal => js "minimal"
  | .low => js "low"
  | .medium => js "medium"
  | .high => js "high"
  | .xhigh => js "xhigh"
  | .max => js "max"

def ShellSafetyMode.text : ShellSafetyMode → JsString
  | .manualApproval => js "manual_approval"
  | .autoReview => js "auto_review"
  | .danger => js "danger"

/-- The `type` of a message. -/
def ControlBody.type : ControlBody → JsString
  | .pause => js "pause"
  | .resume => js "resume"
  | .stop => js "stop"
  | .configure _ => js "configure"
  | .steer _ _ => js "steer"
  | .removeSteering _ => js "remove_steering"
  | .configureShellSafety _ => js "configure_shell_safety"
  | .runbookExecute _ => js "runbook_execute"
  | .resolveApproval .shell _ _ => js "resolve_shell_approval"
  | .resolveApproval .tool _ _ => js "resolve_tool_approval"

/-! ## Reading a line -/

def requestIdOf? (s : JsString) : Option RequestId :=
  if h : trim s ≠ [] then some ⟨trim s, h⟩ else none

def parseRequestId : Option Json → Except JsString (Option RequestId)
  | none => .ok none
  | some value =>
    match value.asString?.bind requestIdOf? with
    | some id =>
      if id.1.length ≤ 200 then .ok (some id)
      else .error (js "Control requestId must be a non-empty string of at most 200 characters.")
    | none => .error (js "Control requestId must be a non-empty string of at most 200 characters.")

def parseRequiredText (value : Option Json) (label : JsString) (maxLength : Nat) :
    Except JsString JsString :=
  let error := label ++ js " must be a non-empty string of at most " ++ natText maxLength
    ++ js " characters."
  match value.bind Json.asString? with
  | some s => if isBlank s || maxLength < (trim s).length then .error error else .ok (trim s)
  | none => .error error

/-- `parseRequiredText` of a property that may be missing. -/
def parseOptionalText (value : Option Json) (label : JsString) (maxLength : Nat) :
    Except JsString (Option JsString) :=
  match value with
  | none => .ok none
  | some value => some <$> parseRequiredText (some value) label maxLength

def parseShellSafetyMode (value : Option Json) : Except JsString ShellSafetyMode :=
  match ofText ShellSafetyMode.text [.manualApproval, .autoReview, .danger] value with
  | some mode => .ok mode
  | none => .error (js "Shell safety mode must be manual_approval, auto_review, or danger.")

/-- `typeof value === "string" ? value.trim() : ""`. -/
def trimmedOrEmpty (value : Option Json) : JsString :=
  ((value.bind Json.asString?).map trim).getD []

def parseModelSelection (value : Option Json) : Except JsString ModelSelection := do
  let some value := value.filter Json.isRecord
    | throw (js "Model selection must be an object.")
  let provider := trimmedOrEmpty (value.field? (js "provider"))
  let model := trimmedOrEmpty (value.field? (js "model"))
  if provider = [] || model = [] then
    throw (js "Model selection requires provider and model.")
  let some reasoningEffort := ofText ReasoningEffort.text
      [.off, .minimal, .low, .medium, .high, .xhigh, .max] (value.field? (js "reasoningEffort"))
    | throw (js "Model selection has an unsupported reasoning effort.")
  match value.field? (js "daybreakBlue") with
  | none => return ⟨provider, model, reasoningEffort, none⟩
  | some (.bool daybreakBlue) =>
    if provider ≠ js "openai-codex" then
      throw (js "Daybreak Blue requires the openai-codex provider.")
    return ⟨provider, model, reasoningEffort, some daybreakBlue⟩
  | some _ => throw (js "Model selection daybreakBlue must be a boolean.")

/-- The reading of a `resolve_shell_approval` or a `resolve_tool_approval`. -/
def parseApproval (kind : ApprovalKind) (label : JsString) (parsed : Json) :
    Except JsString ControlBody := do
  let some approvalRequestId ← parseRequestId (parsed.field? (js "approvalRequestId"))
    | throw (label ++ js " approval responses require an approvalRequestId.")
  let some decision := ofText Decision.text [.approved, .denied] (parsed.field? (js "decision"))
    | throw (label ++ js " approval decision must be approved or denied.")
  return .resolveApproval kind approvalRequestId decision

def parseRunbookExecute (parsed : Json) : Except JsString ControlBody := do
  let runbookId ← parseRequiredText (parsed.field? (js "runbookId")) (js "Runbook ID") 200
  let cellId ← parseOptionalText (parsed.field? (js "cellId")) (js "Runbook cell ID") 200
  let startCellId ←
    parseOptionalText (parsed.field? (js "startCellId")) (js "Runbook start cell ID") 200
  let endCellId ← parseOptionalText (parsed.field? (js "endCellId")) (js "Runbook end cell ID") 200
  if cellId.isSome && (startCellId.isSome || endCellId.isSome) then
    throw (js "Runbook cellId cannot be combined with startCellId or endCellId.")
  return .runbookExecute ⟨runbookId, cellId, startCellId, endCellId⟩

/-- The reading of a `steer`: its instruction is trimmed, and not blank. -/
def parseSteer (parsed : Json) : Except JsString ControlBody := do
  let instruction := trimmedOrEmpty (parsed.field? (js "instruction"))
  if instruction = [] then throw (js "Steering instructions cannot be empty.")
  match parsed.field? (js "modelSelection") with
  | none => return .steer instruction none
  | some value => return .steer instruction (some (← parseModelSelection (some value)))

/-- `parseControlMessage`. A `steer` without a request id gets the next random one. -/
def parseControlMessage (env : Platform) (call : Nat) (line : JsString) :
    Except JsString ControlMessage := do
  let parsed ← env.jsonParse line
  let .obj _ := parsed | throw (js "Control messages require schemaVersion 1.")
  let some (.num (.integer 1)) := parsed.field? (js "schemaVersion")
    | throw (js "Control messages require schemaVersion 1.")
  let requestId ← parseRequestId (parsed.field? (js "requestId"))
  match parsed.field? (js "type") with
  | some (.str type) =>
    if type = js "pause" then return ⟨requestId, .pause⟩
    else if type = js "resume" then return ⟨requestId, .resume⟩
    else if type = js "stop" then return ⟨requestId, .stop⟩
    else if type = js "steer" then
      return ⟨some (requestId.getD (env.randomUUID call)), ← parseSteer parsed⟩
    else if type = js "remove_steering" then
      let some targetRequestId ← parseRequestId (parsed.field? (js "targetRequestId"))
        | throw (js "Removing steering requires a target request ID.")
      return ⟨requestId, .removeSteering targetRequestId⟩
    else if type = js "configure" then
      return ⟨requestId, .configure (← parseModelSelection (parsed.field? (js "modelSelection")))⟩
    else if type = js "configure_shell_safety" then
      let mode ← parseShellSafetyMode (parsed.field? (js "shellSafetyMode"))
      return ⟨requestId, .configureShellSafety mode⟩
    else if type = js "runbook_execute" then return ⟨requestId, ← parseRunbookExecute parsed⟩
    else if type = js "resolve_shell_approval" then
      return ⟨requestId, ← parseApproval .shell (js "Shell") parsed⟩
    else if type = js "resolve_tool_approval" then
      return ⟨requestId, ← parseApproval .tool (js "Tool") parsed⟩
    else throw (js "Unknown app-server control message type.")
  | _ => throw (js "Unknown app-server control message type.")

/-- `requestIdFromLine`: the id an error is reported under. -/
def requestIdFromLine (env : Platform) (line : JsString) : Option RequestId :=
  match env.jsonParse line with
  | .ok parsed =>
    ((parsed.stringField? (js "requestId")).bind requestIdOf?).filter fun id => id.1.length ≤ 200
  | .error _ => none

/-! ## The text of a message -/

def modelSelectionJson (m : ModelSelection) : Json :=
  .obj ([(js "provider", .str m.provider), (js "model", .str m.model),
    (js "reasoningEffort", .str m.reasoningEffort.text)]
    ++ (m.daybreakBlue.map fun b => (js "daybreakBlue", Json.bool b)).toList)

/-- A string property, where it is there. -/
def optionalMember (key : JsString) (value : Option JsString) : List (JsString × Json) :=
  (value.map fun s => (key, Json.str s)).toList

/-- The properties of a message beside `schemaVersion`, `type` and `requestId`. -/
def ControlBody.members : ControlBody → List (JsString × Json)
  | .pause | .resume | .stop => []
  | .configure m => [(js "modelSelection", modelSelectionJson m)]
  | .steer instruction m =>
    (js "instruction", .str instruction)
      :: (m.map fun m => (js "modelSelection", modelSelectionJson m)).toList
  | .removeSteering target => [(js "targetRequestId", .str target.1)]
  | .configureShellSafety mode => [(js "shellSafetyMode", .str mode.text)]
  | .runbookExecute r =>
    (js "runbookId", .str r.runbookId) :: (optionalMember (js "cellId") r.cellId
      ++ optionalMember (js "startCellId") r.startCellId
      ++ optionalMember (js "endCellId") r.endCellId)
  | .resolveApproval _ id decision =>
    [(js "approvalRequestId", .str id.1), (js "decision", .str decision.text)]

def messageJson (message : ControlMessage) : Json :=
  .obj ((js "schemaVersion", .num (.integer 1)) :: (js "type", .str message.body.type)
    :: (message.body.members ++ optionalMember (js "requestId") (message.requestId.map (·.1))))

def messageLine (message : ControlMessage) : JsString := stringify (messageJson message)

def messageChunk (messages : List ControlMessage) : JsString :=
  messages.flatMap fun message => messageLine message ++ [10]

/-- A platform whose `JSON.parse` reads back the lines of the given messages. -/
def messagePlatform (messages : List ControlMessage) (uuid : RequestId) : Platform where
  jsonParse line :=
    match messages.find? fun message => messageLine message = line with
    | some message => .ok (messageJson message)
    | none => .error (js "Unexpected token")
  randomUUID _ := uuid

def uuidText : RequestId := ⟨js "uuid", by decide⟩

/-! ## Events -/

/-- An accepted event: `instruction` on a `steer`, `targetRequestId` on a
`remove_steering`, `replayed` on the answer to a repeated request. -/
structure AcceptedEvent where
  type : JsString
  instruction : Option JsString
  targetRequestId : Option RequestId
  requestId : Option RequestId
  replayed : Bool
deriving DecidableEq, Repr

/-- `AppServerControlEvent`. -/
inductive ControlEvent where
  | accepted (event : AcceptedEvent)
  | invalid (error : JsString) (requestId : Option RequestId)
deriving DecidableEq, Repr

def acceptedEvent (message : ControlMessage) : AcceptedEvent where
  type := message.body.type
  instruction := match message.body with | .steer instruction _ => some instruction | _ => none
  targetRequestId := match message.body with | .removeSteering target => some target | _ => none
  requestId := message.requestId
  replayed := false

end Beale.Control
