import Beale.Library.JsMap
import Beale.Library.Json
import Beale.Library.Lines
import Beale.Library.Run

/-!
# The client of an MCP server

`StdioMcpServerConnection`: a server process is started with the first request, which waits like the others
until `initialize` is answered; each is then pending under an id of its own. What the server writes is read line
by line.

- `Call`: a call of `request`, with what was settled of its promise.
- `McpConnection`: the process, the buffers, the pending requests; the calls, and what was read, beside them.
- `McpConnection.step`: a call, a chunk of the server's output, a timer, an abort, or the end of the process. The
  microtasks of an event are run at its end.
-/

namespace Beale.Mcp

open Beale.Library

def maxMcpDiagnosticCharacters : Nat := 64000

def defaultMcpProtocolVersion : JsString := js "2025-11-25"

/-! ## Messages -/

mutual

/-- The text of a value in a template literal. An object with a `toString` of its own, which is no function, throws. -/
def textOf : Json → Option JsString
  | .null => some (js "null")
  | .bool b => some (if b then js "true" else js "false")
  | .num n => some n.text
  | .str s => some s
  | .arr elements => (textsOf elements).map (joinWith (js ","))
  | .obj members => if (members.lookup (js "toString")).isSome then none else some (js "[object Object]")

/-- The texts of the elements in `join`. -/
def textsOf : List Json → Option (List JsString)
  | [] => some []
  | .null :: rest => (textsOf rest).map ([] :: ·)
  | element :: rest => (textOf element).bind fun text => (textsOf rest).map (text :: ·)

end

/-- The text of a property that may be missing. -/
def textOfField (key : JsString) (value : Json) : Option JsString :=
  match value.field? key with
  | none => some (js "undefined")
  | some field => textOf field

/-- The message of a response with an error. To read a property of `null` throws. -/
def errorText (name : JsString) (error : Json) : Option JsString :=
  match error with
  | .null => none
  | error =>
    (textOfField (js "code") error).bind fun code =>
      (textOfField (js "message") error).map fun message =>
        js "MCP server " ++ name ++ js " error " ++ code ++ js ": " ++ message

inductive Carried where
  | result (value : Json)
  | error (error : Json)

structure Response where
  id : Json
  carried : Carried

/-- The first check of `handleMessage`. -/
def responseOf (message : Json) : Option Response :=
  (message.field? (js "id")).bind fun id =>
    match message.field? (js "error"), message.field? (js "result") with
    | some error, _ => some ⟨id, .error error⟩
    | none, some result => some ⟨id, .result result⟩
    | none, none => none

/-- The key that `pending` may have for an id. -/
def requestId? : Json → Option Nat
  | .num (.integer id) => if 0 ≤ id then some id.toNat else none
  | _ => none

def requestMessage (id : Nat) (method : JsString) (params : Json) : Json :=
  .obj [(js "jsonrpc", .str (js "2.0")), (js "id", .num (.integer id)), (js "method", .str method), (js "params", params)]

def notificationMessage (method : JsString) (params : Json) : Json :=
  .obj [(js "jsonrpc", .str (js "2.0")), (js "method", .str method), (js "params", params)]

def cancelledMessage (id : Nat) (reason : JsString) : Json :=
  notificationMessage (js "notifications/cancelled")
    (.obj [(js "requestId", .num (.integer id)), (js "reason", .str reason)])

def unsupportedMessage (id : JsNumber) (method : JsString) : Json :=
  .obj [(js "jsonrpc", .str (js "2.0")), (js "id", .num id),
    (js "error", .obj [(js "code", .num (.integer (-32601))),
      (js "message", .str (js "app-server MCP client does not implement server request: " ++ method))])]

def initializeParams : Json :=
  .obj [(js "protocolVersion", .str defaultMcpProtocolVersion), (js "capabilities", .obj []),
    (js "clientInfo", .obj [(js "name", .str (js "app-server")), (js "version", .str (js "0.9.6"))])]

def timeoutText (method : JsString) (timeoutMs : Nat) : JsString :=
  js "MCP request " ++ method ++ js " exceeded timeout " ++ natText timeoutMs ++ js "ms."

def abortText (method : JsString) : JsString := js "MCP request aborted: " ++ method

/-! ## The connection -/

/-- A promise is resolved with a value, or rejected with the text of an error. -/
abbrev Outcome := Except JsString Json

/-- What the arguments of `request` are. -/
structure RequestInput where
  method : JsString
  params : Json
  timeoutMs : Nat
  hasSignal : Bool

structure Call where
  input : RequestInput
  aborted : Bool
  id : Option Nat
  settled : List Outcome

/-- Whose promise a pending request is. -/
inductive Waiter where
  | initialization
  | call (number : Nat)
deriving DecidableEq

/-- A pending request has a timer. -/
structure PendingRequest where
  waiter : Waiter
  method : JsString
  timeoutMs : Nat

inductive Initialization where
  | running
  | settled (outcome : Outcome)

inductive ServerProcess where
  | absent
  | running
  | exited
deriving DecidableEq

structure McpServerConfig where
  name : JsString
  timeoutMs : Nat
  /-- what `resolveServerEnvironment` throws -/
  environmentError : Option JsString

structure McpConnection where
  config : McpServerConfig
  nextId : Nat
  process : ServerProcess
  stdoutBuffer : JsString
  stderrBuffer : JsString
  initialized : Option Initialization
  pending : JsMap Nat PendingRequest
  calls : JsMap Nat Call
  nextCall : Nat
  /-- whether `initialize` was settled in this event -/
  woken : Bool
  crashed : Bool
  written : List Json
  received : JsString
  handled : List JsString

namespace McpConnection

variable (conn : McpConnection)

def settle (waiter : Waiter) (outcome : Outcome) : McpConnection :=
  match waiter with
  | .initialization => { conn with initialized := some (.settled outcome), woken := true }
  | .call number =>
    { conn with calls := conn.calls.modify number fun call => { call with settled := call.settled ++ [outcome] } }

/-- A request that is pending no more is settled. -/
def settlePending (id : Nat) (request : PendingRequest) (outcome : Outcome) : McpConnection :=
  { conn with pending := conn.pending.delete id }.settle request.waiter outcome

def write (message : Json) : McpConnection :=
  if conn.process = .absent then conn else { conn with written := conn.written ++ [message] }

/-- `sendRequest` of a request whose signal is not aborted. -/
def sendRequest (waiter : Waiter) (method : JsString) (params : Json) (timeoutMs : Nat) : McpConnection :=
  { conn with
    nextId := conn.nextId + 1
    pending := conn.pending.set conn.nextId ⟨waiter, method, timeoutMs⟩
    written := conn.written ++ [requestMessage conn.nextId method params] }

/-- `sendRequest` of a call. -/
def sendCall (number : Nat) (call : Call) : McpConnection :=
  if conn.process = .absent then
    conn.settle (.call number) (.error (js "MCP server is not started: " ++ conn.config.name))
  else if call.aborted then
    conn.settle (.call number) (.error (js "MCP request aborted before send: " ++ call.input.method))
  else
    { conn with calls := conn.calls.set number { call with id := some conn.nextId } }.sendRequest (.call number)
      call.input.method call.input.params call.input.timeoutMs

/-- A call goes on where `ensureInitialized` has settled. -/
def proceed (number : Nat) : McpConnection :=
  match conn.calls.get? number, conn.initialized with
  | some call, some (.settled (.ok _)) => conn.sendCall number call
  | some _, some (.settled (.error error)) => conn.settle (.call number) (.error error)
  | _, _ => conn

/-- `ensureInitialized`, with the beginning of `startAndInitialize`. -/
def ensureInitialized : McpConnection :=
  match conn.initialized with
  | some _ => conn
  | none =>
    match conn.config.environmentError with
    | some error => { conn with initialized := some (.settled (.error error)) }
    | none =>
      { conn with process := .running, initialized := some .running }.sendRequest .initialization (js "initialize")
        initializeParams conn.config.timeoutMs

/-- The calls that wait for `initialize`. -/
def waiting : List Nat :=
  (conn.calls.entries.filter fun entry => entry.2.id.isNone && entry.2.settled.isEmpty).map Prod.fst

/-- The rest of `startAndInitialize`. -/
def notifyInitialized : McpConnection :=
  match conn.initialized with
  | some (.settled (.ok _)) => conn.write (notificationMessage (js "notifications/initialized") (.obj []))
  | _ => conn

/-- The microtasks after `initialize` was settled: the calls go on in order. -/
def drain : McpConnection :=
  if conn.woken then
    conn.waiting.foldl proceed { conn with woken := false }.notifyInitialized
  else conn

/-! ## What the server writes -/

def appendDiagnostic (chunk : JsString) : McpConnection :=
  { conn with stderrBuffer := (conn.stderrBuffer ++ chunk).rtake maxMcpDiagnosticCharacters }

def handleResponse (response : Response) : McpConnection :=
  match requestId? response.id with
  | none => conn
  | some id =>
    match conn.pending.get? id with
    | none => conn
    | some request =>
      match response.carried with
      | .result value => conn.settlePending id request (.ok value)
      | .error error =>
        match errorText conn.config.name error with
        | some text => conn.settlePending id request (.error text)
        -- the request is deleted, and the handler throws
        | none => { conn with pending := conn.pending.delete id, crashed := true }

def handleMessage (parse : JsString → Option Json) (line : JsString) : McpConnection :=
  match parse line with
  | none => conn.appendDiagnostic (js "[stdout] " ++ line ++ js "\n")
  | some message =>
    match responseOf message with
    | some response => conn.handleResponse response
    | none =>
      match message.field? (js "method"), message.field? (js "id") with
      | some (.str method), some (.num id) => conn.write (unsupportedMessage id method)
      | _, _ => conn

def newline : UInt16 := 10

/-- The lines that are handled: trimmed, and not blank. -/
def messagesOf (lines : List JsString) : List JsString := (lines.map trim).filter (· ≠ [])

def log (line : JsString) : McpConnection := { conn with handled := conn.handled ++ [line] }

/-- The loop of `handleStdout`. -/
def handleLines (parse : JsString → Option Json) (conn : McpConnection) : List JsString → McpConnection
  | [] => conn
  | line :: rest =>
    if conn.crashed then conn
    else handleLines parse ((conn.log line).handleMessage parse line) rest

def handleStdout (parse : JsString → Option Json) (chunk : JsString) : McpConnection :=
  let cut := cutLines newline (conn.stdoutBuffer ++ chunk)
  handleLines parse { conn with stdoutBuffer := cut.2, received := conn.received ++ chunk } (messagesOf cut.1)

/-! ## Steps -/

def addCall (input : RequestInput) (aborted : Bool) : McpConnection :=
  { conn with
    calls := conn.calls.set conn.nextCall ⟨input, aborted, none, []⟩
    nextCall := conn.nextCall + 1 }

/-- A call of `request`; its signal may be aborted already. -/
def request (input : RequestInput) (aborted : Bool) : McpConnection :=
  (conn.addCall input (aborted && input.hasSignal)).ensureInitialized.proceed conn.nextCall

/-- The timer of a request fires. -/
def timeout (id : Nat) : McpConnection :=
  match conn.pending.get? id with
  | none => conn
  | some request =>
    let text := timeoutText request.method request.timeoutMs
    (conn.write (cancelledMessage id text)).settlePending id request (.error text)

/-- The signal of a call is aborted. -/
def abort (number : Nat) : McpConnection :=
  match conn.calls.get? number with
  | none => conn
  | some call =>
    if call.input.hasSignal ∧ ¬ call.aborted then
      let aborted := { conn with calls := conn.calls.set number { call with aborted := true } }
      match call.id with
      | none => aborted
      | some id =>
        match conn.pending.get? id with
        | none => aborted
        | some request =>
          (aborted.write (cancelledMessage id (abortText request.method))).settlePending id request
            (.error (abortText request.method))
    else conn

/-- `code ?? "none"` -/
def exitText (code : Option Int) (signal : Option JsString) : JsString :=
  js "MCP server " ++ conn.config.name ++ js " exited with code " ++
    ((code.map fun code => JsNumber.text (.integer code)).getD (js "none")) ++ js " signal " ++ signal.getD (js "none") ++ js "."

def rejectAll (conn : McpConnection) (requests : List (Nat × PendingRequest)) (error : JsString) : McpConnection :=
  requests.foldl (fun conn entry => conn.settlePending entry.1 entry.2 (.error error)) conn

/-- The process has ended. -/
def exit (code : Option Int) (signal : Option JsString) : McpConnection :=
  if conn.process = .running then
    { conn.rejectAll conn.pending.entries (conn.exitText code signal) with process := .exited }
  else conn

end McpConnection

inductive McpEvent where
  | request (input : RequestInput) (aborted : Bool)
  | stdout (chunk : JsString)
  | stderr (chunk : JsString)
  | timeout (id : Nat)
  | abort (number : Nat)
  | exit (code : Option Int) (signal : Option JsString)

namespace McpConnection

def handle (parse : JsString → Option Json) (conn : McpConnection) : McpEvent → McpConnection
  | .request input aborted => conn.request input aborted
  | .stdout chunk => conn.handleStdout parse chunk
  | .stderr chunk => conn.appendDiagnostic chunk
  | .timeout id => conn.timeout id
  | .abort number => conn.abort number
  | .exit code signal => conn.exit code signal

def step (parse : JsString → Option Json) (conn : McpConnection) (event : McpEvent) : McpConnection :=
  if conn.crashed then conn
  else
    let next := conn.handle parse event
    if next.crashed then next else next.drain

def new (config : McpServerConfig) : McpConnection where
  config := config
  nextId := 1
  process := .absent
  stdoutBuffer := []
  stderrBuffer := []
  initialized := none
  pending := .empty
  calls := .empty
  nextCall := 0
  woken := false
  crashed := false
  written := []
  received := []
  handled := []

end McpConnection

end Beale.Mcp
