import Beale.Control.Message
import Beale.Library.JsMap
import Beale.Library.Trace

/-!
# The control stream

`AppServerControlStream` as a machine over its inputs. One input is what the
event loop does without interruption: a chunk of text with all its lines, a call
of a method, an abort of a signal, the running of one queued continuation. A
run is any list of inputs, so chunks, calls and continuations interleave freely.

- `handleLine`, `applyMessage`: what one line does.
-/

namespace Beale.Control

open Beale.Library

/-- A waiter for steering: the call it answers, and the signal it listens to. -/
structure SteeringWaiter where
  call : Nat
  signal : Option Nat
deriving DecidableEq, Repr

structure ApprovalWaiter where
  call : Nat
  signal : Option Nat
deriving DecidableEq, Repr

/-- The rest of a method after its `await this.waitUntilResumed()`. -/
inductive Continuation where
  | take (call : Nat)
  | wait (call : Nat) (signal : Option Nat)
deriving DecidableEq, Repr

/-- How the promise of an approval call is settled. -/
inductive Settlement where
  | resolved (decision : Decision) (reason : JsString)
  | rejected (error : JsString)
deriving DecidableEq, Repr

/-- What happens to the stream, in order: a message taking effect, the changes of the
steering queue, the approval calls and their settlements, the end of the input, and
the events reported. -/
inductive Observation where
  | began (message : ControlMessage)
  | queued (requestId : Option RequestId) (instruction : JsString)
  | unqueued (targetRequestId : RequestId) (index : Option Nat)
  | handedOut (calls : List Nat) (instructions : List JsString)
  | asked (kind : ApprovalKind) (call : Nat) (approvalRequestId : JsString)
  | settled (kind : ApprovalKind) (call : Nat) (settlement : Settlement)
  | ended
  | closed
  | emitted (event : ControlEvent)
deriving DecidableEq, Repr

/-- An approval is asked for or settled. -/
def Observation.OfApproval : Observation → Prop
  | .asked .. | .settled .. => True
  | _ => False

/-- A remembered request: the text of its message, and the event that answered it. -/
structure ProcessedControl where
  message : JsString
  event : AcceptedEvent
deriving DecidableEq, Repr

/-- The state of an `AppServerControlStream`. -/
structure ControlStream where
  buffer : JsString
  paused : Bool
  steeringInstructions : List JsString
  activeSteering : JsMap RequestId JsString
  processedControls : JsMap RequestId ProcessedControl
  modelSelection : Option ModelSelection
  shellSafetyMode : Option ShellSafetyMode
  resumeWaiters : List Continuation
  /-- calls whose `await` is over, in the order they run -/
  microtasks : List Continuation
  steeringWaiters : List SteeringWaiter
  shellApprovalWaiters : JsMap JsString ApprovalWaiter
  toolApprovalWaiters : JsMap JsString ApprovalWaiter
  /-- `stopController.signal.aborted` -/
  stopped : Bool
  runbookExecutionHandler : Option (RunbookExecutionRequest → Option JsString)
  started : Bool
  inputEnded : Bool
  abortedSignals : List Nat
  lines : Nat
  calls : Nat
  log : List Observation

namespace ControlStream

/-- `new AppServerControlStream(input, onEvent, initialSteering)`. -/
def new (initialSteering : List (RequestId × JsString)) : ControlStream where
  buffer := []
  paused := false
  steeringInstructions := []
  activeSteering := initialSteering.foldl (fun m item => m.set item.1 item.2) .empty
  processedControls := .empty
  modelSelection := none
  shellSafetyMode := none
  resumeWaiters := []
  microtasks := []
  steeringWaiters := []
  shellApprovalWaiters := .empty
  toolApprovalWaiters := .empty
  stopped := false
  runbookExecutionHandler := none
  started := false
  inputEnded := false
  abortedSignals := []
  lines := 0
  calls := 0
  log := []

def observe (s : ControlStream) (o : Observation) : ControlStream := { s with log := s.log ++ [o] }

/-! ## Steering waiters -/

/-- `resolveResumeWaiters`: the parked calls go on as microtasks. -/
def resolveResumeWaiters (s : ControlStream) : ControlStream :=
  { s with microtasks := s.microtasks ++ s.resumeWaiters, resumeWaiters := [] }

/-- `resolveSteeringWaiters`: every waiter gets a copy of the instructions. -/
def resolveSteeringWaiters (s : ControlStream) (instructions : List JsString) : ControlStream :=
  if s.paused && !instructions.isEmpty then s
  else { s with steeringWaiters := [] }.observe
    (.handedOut (s.steeringWaiters.map SteeringWaiter.call) instructions)

/-- `resolveSteeringWaiters(this.steeringInstructions.splice(0))`. -/
def drainSteering (s : ControlStream) : ControlStream :=
  { s with steeringInstructions := [] }.resolveSteeringWaiters s.steeringInstructions

/-! ## Approval waiters -/

structure ApprovalTexts where
  invalidId : JsString
  duplicate : JsString
  unavailable : JsString
  aborted : JsString
  closed : JsString
  ended : JsString
  stopped : JsString
  unmatched : JsString
  approved : JsString
  denied : JsString

def shellTexts : ApprovalTexts where
  invalidId := js "Shell approval request ID must be a non-empty string of at most 200 characters."
  duplicate := js "A shell approval waiter already exists for this request ID."
  unavailable := js "Manual Approval denied because the control stream is unavailable."
  aborted := js "Manual Approval denied because shell execution was aborted."
  closed := js "Manual Approval denied because the control stream closed."
  ended := js "Manual Approval denied because the control stream ended."
  stopped := js "Manual Approval denied because the run was stopped."
  unmatched := js "Shell approval response does not match a pending request."
  approved := js "The researcher approved this shell command."
  denied := js "The researcher denied this shell command."

def toolTexts : ApprovalTexts where
  invalidId := js "Tool approval request ID must be a non-empty string of at most 200 characters."
  duplicate := js "A tool approval waiter already exists for this request ID."
  unavailable := js "Tool approval denied because the control stream is unavailable."
  aborted := js "Tool approval denied because execution was aborted."
  closed := js "Tool approval denied because the control stream closed."
  ended := js "Tool approval denied because the control stream ended."
  stopped := js "Tool approval denied because the run was stopped."
  unmatched := js "Tool approval response does not match a pending request."
  approved := js "The researcher approved this computer-use action."
  denied := js "The researcher denied this computer-use action."

def approvalTexts : ApprovalKind → ApprovalTexts
  | .shell => shellTexts
  | .tool => toolTexts

def approvalWaiters (s : ControlStream) : ApprovalKind → JsMap JsString ApprovalWaiter
  | .shell => s.shellApprovalWaiters
  | .tool => s.toolApprovalWaiters

def withApprovalWaiters (s : ControlStream) (kind : ApprovalKind)
    (waiters : JsMap JsString ApprovalWaiter) : ControlStream :=
  match kind with
  | .shell => { s with shellApprovalWaiters := waiters }
  | .tool => { s with toolApprovalWaiters := waiters }

/-- `resolveShellApprovalWaiter`, `resolveToolApprovalWaiter`. -/
def resolveApprovalWaiter (kind : ApprovalKind) (decision : Decision) (reason : JsString)
    (s : ControlStream) (approvalRequestId : JsString) : ControlStream :=
  match (s.approvalWaiters kind).get? approvalRequestId with
  | none => s
  | some waiter =>
    (s.withApprovalWaiters kind ((s.approvalWaiters kind).delete approvalRequestId)).observe
      (.settled kind waiter.call (.resolved decision reason))

/-- `denyShellApprovalWaiters`, `denyToolApprovalWaiters`. -/
def denyApprovalWaiters (s : ControlStream) (kind : ApprovalKind) (reason : JsString) :
    ControlStream :=
  runSteps (resolveApprovalWaiter kind .denied reason) s (s.approvalWaiters kind).keys

/-- Both kinds of waiters are denied, each with its own reason. -/
def denyAllApprovals (s : ControlStream) (reason : ApprovalTexts → JsString) : ControlStream :=
  (s.denyApprovalWaiters .shell (reason shellTexts)).denyApprovalWaiters .tool (reason toolTexts)

/-- The two states differ in their approval waiters and calls only, and approvals have been
asked for and settled in between. -/
structure ApprovalsOnly (s s' : ControlStream) : Prop where
  frame : { s' with
    shellApprovalWaiters := s.shellApprovalWaiters
    toolApprovalWaiters := s.toolApprovalWaiters
    calls := s.calls
    log := s.log } = s
  log : ∃ os, s'.log = s.log ++ os ∧ ∀ o ∈ os, o.OfApproval

theorem ApprovalsOnly.read {s s' : ControlStream} (h : ApprovalsOnly s s') {α : Sort _}
    (f : ControlStream → α)
    (hf : ∀ s shell tool calls log, f { s with
      shellApprovalWaiters := shell, toolApprovalWaiters := tool, calls := calls, log := log }
        = f s) :
    f s' = f s := by
  rw [← h.frame]
  exact (hf s' _ _ _ _).symm

theorem ApprovalsOnly.refl (s : ControlStream) : ApprovalsOnly s s := ⟨rfl, [], by simp, by simp⟩

theorem ApprovalsOnly.trans {s s' s'' : ControlStream} (h : ApprovalsOnly s s')
    (h' : ApprovalsOnly s' s'') : ApprovalsOnly s s'' where
  frame := by
    rw [← h.frame]
    conv_rhs => rw [← h'.frame]
  log := extends_trans h.log h'.log

theorem observe_approvalsOnly (s : ControlStream) {o : Observation} (ho : o.OfApproval) :
    ApprovalsOnly s (s.observe o) := ⟨rfl, [o], rfl, by simpa using ho⟩

theorem withApprovalWaiters_approvalsOnly (s : ControlStream) (kind : ApprovalKind)
    (waiters : JsMap JsString ApprovalWaiter) :
    ApprovalsOnly s (s.withApprovalWaiters kind waiters) := by
  cases kind <;> exact ⟨rfl, [], by simp [withApprovalWaiters], by simp⟩

section

variable (kind : ApprovalKind) (decision : Decision) (reason : JsString) (s : ControlStream)

theorem resolveApprovalWaiter_approvalsOnly (id : JsString) :
    ApprovalsOnly s (resolveApprovalWaiter kind decision reason s id) := by
  rw [resolveApprovalWaiter]
  split
  · exact .refl s
  · exact (withApprovalWaiters_approvalsOnly s kind _).trans (observe_approvalsOnly _ trivial)

theorem resolveApprovals_approvalsOnly (ids : List JsString) :
    ApprovalsOnly s (runSteps (resolveApprovalWaiter kind decision reason) s ids) :=
  runSteps_invariant
    (fun _ id h => h.trans (resolveApprovalWaiter_approvalsOnly kind decision reason _ id))
    (.refl s) ids

end

theorem denyAllApprovals_approvalsOnly (s : ControlStream) (reason : ApprovalTexts → JsString) :
    ApprovalsOnly s (s.denyAllApprovals reason) :=
  (resolveApprovals_approvalsOnly .shell .denied _ s _).trans
    (resolveApprovals_approvalsOnly .tool .denied _ _ _)

/-- Whether a new waiter would never be answered. -/
def unavailable (s : ControlStream) (signal : Option Nat) : Bool :=
  !s.started || s.inputEnded || signal.any s.abortedSignals.contains || s.stopped

/-- `waitForShellApproval` and `waitForToolApproval`, of which only the texts differ. -/
def waitForApproval (s : ControlStream) (kind : ApprovalKind) (approvalRequestId : JsString)
    (signal : Option Nat) : ControlStream :=
  let texts := approvalTexts kind
  let call := s.calls
  let asked := { s with calls := s.calls + 1 }.observe (.asked kind call approvalRequestId)
  let settle := fun settlement => asked.observe (.settled kind call settlement)
  if isBlank approvalRequestId || 200 < (trim approvalRequestId).length then
    settle (.rejected texts.invalidId)
  else if (s.approvalWaiters kind).has (trim approvalRequestId) then
    settle (.rejected texts.duplicate)
  else if s.unavailable signal then settle (.resolved .denied texts.unavailable)
  else asked.withApprovalWaiters kind
    ((s.approvalWaiters kind).set (trim approvalRequestId) ⟨call, signal⟩)

theorem waitForApproval_approvalsOnly (s : ControlStream) (kind : ApprovalKind) (id : JsString)
    (signal : Option Nat) : ApprovalsOnly s (s.waitForApproval kind id signal) := by
  have hasked : ApprovalsOnly s
      ({ s with calls := s.calls + 1 }.observe (.asked kind s.calls id)) :=
    ⟨rfl, [.asked kind s.calls id], rfl, by simp [Observation.OfApproval]⟩
  simp only [waitForApproval]
  split
  · exact hasked.trans (observe_approvalsOnly _ trivial)
  · split
    · exact hasked.trans (observe_approvalsOnly _ trivial)
    · split
      · exact hasked.trans (observe_approvalsOnly _ trivial)
      · exact hasked.trans (withApprovalWaiters_approvalsOnly _ kind _)

def waitForShellApproval (s : ControlStream) (approvalRequestId : JsString)
    (signal : Option Nat) : ControlStream :=
  s.waitForApproval .shell approvalRequestId signal

def waitForToolApproval (s : ControlStream) (approvalRequestId : JsString)
    (signal : Option Nat) : ControlStream :=
  s.waitForApproval .tool approvalRequestId signal

/-! ## Lines -/

/-- The last branch of `handleLine`: an instruction joins the queue. -/
def queueSteering (s : ControlStream) (requestId : Option RequestId) (instruction : JsString)
    (modelSelection : Option ModelSelection) : ControlStream :=
  { s with
    modelSelection := modelSelection.or s.modelSelection
    steeringInstructions := s.steeringInstructions ++ [instruction]
    activeSteering := match requestId with
      | none => s.activeSteering
      | some id => s.activeSteering.set id instruction }.observe (.queued requestId instruction)

/-- The `remove_steering` branch, for an active request: the first entry of the queue with
its text goes. -/
def unqueueSteering (s : ControlStream) (target : RequestId) (instruction : JsString) :
    ControlStream :=
  let queuedIndex := s.steeringInstructions.findIdx? (· = instruction)
  { s with
    activeSteering := s.activeSteering.delete target
    steeringInstructions := match queuedIndex with
      | none => s.steeringInstructions
      | some i => s.steeringInstructions.eraseIdx i }.observe (.unqueued target queuedIndex)

/-- The effect of a message that is no replay, or the error that refuses it. -/
def applyMessage (s : ControlStream) (message : ControlMessage) : Except JsString ControlStream :=
  let s := s.observe (.began message)
  match message.body with
  | .pause => .ok { s with paused := true }
  | .resume =>
    let resumed := { s with paused := false }.resolveResumeWaiters
    if !resumed.steeringWaiters.isEmpty && !resumed.steeringInstructions.isEmpty then
      .ok resumed.drainSteering
    else .ok resumed
  | .stop =>
    let woken := ({ s with paused := false }.resolveResumeWaiters).resolveSteeringWaiters []
    .ok { woken.denyAllApprovals (·.stopped) with stopped := true }
  | .configure modelSelection => .ok { s with modelSelection := some modelSelection }
  | .configureShellSafety mode => .ok { s with shellSafetyMode := some mode }
  | .removeSteering target =>
    match s.activeSteering.get? target with
    | none => .error (js "Steering message is no longer active.")
    | some [] => .error (js "Steering message is no longer active.")
    | some instruction => .ok (s.unqueueSteering target instruction)
  | .runbookExecute request =>
    match s.runbookExecutionHandler with
    | none => .error (js "Runbook execution is unavailable in this session.")
    | some handler =>
      match handler request with
      | some error => .error error
      | none => .ok s
  | .resolveApproval kind approvalRequestId decision =>
    let texts := approvalTexts kind
    if (s.approvalWaiters kind).has approvalRequestId then
      .ok (s.resolveApprovalWaiter kind decision
        (if decision = .approved then texts.approved else texts.denied) approvalRequestId)
    else .error texts.unmatched
  | .steer instruction modelSelection =>
    let queued := s.queueSteering message.requestId instruction modelSelection
    if !queued.paused && !queued.steeringWaiters.isEmpty then .ok queued.drainSteering
    else .ok queued

/-- What the request ids already processed say about a line. -/
inductive Admission where
  | fresh (message : ControlMessage)
  | replay (event : AcceptedEvent)
  | refused (error : JsString)

/-- The parse of a line, and the look-up of its request id among those processed. -/
def admission (env : Platform) (s : ControlStream) (line : JsString) : Admission :=
  match parseControlMessage env s.lines line with
  | .error error => .refused error
  | .ok message =>
    match message.requestId.bind s.processedControls.get? with
    | none => .fresh message
    | some previous =>
      if previous.message ≠ messageLine message then
        .refused (js "Control requestId was reused with a different payload.")
      else .replay { previous.event with replayed := true }

/-- The processed requests after one more: the oldest is forgotten past 256. -/
def remember (processed : JsMap RequestId ProcessedControl) (message : ControlMessage) :
    JsMap RequestId ProcessedControl :=
  match message.requestId with
  | none => processed
  | some id =>
    let grown := processed.set id ⟨messageLine message, acceptedEvent message⟩
    match grown.keys with
    | oldest :: _ => if 256 < grown.keys.length then grown.delete oldest else grown
    | [] => grown

/-- The end of a line: it counts, and its event is reported. -/
def finishLine (s : ControlStream) (processed : JsMap RequestId ProcessedControl)
    (event : ControlEvent) : ControlStream :=
  { s with lines := s.lines + 1, processedControls := processed }.observe (.emitted event)

def handleLine (env : Platform) (s : ControlStream) (line : JsString) : ControlStream :=
  if isBlank line then s
  else
    match admission env s line with
    | .refused error =>
      s.finishLine s.processedControls (.invalid error (requestIdFromLine env line))
    | .replay event => s.finishLine s.processedControls (.accepted event)
    | .fresh message =>
      match s.applyMessage message with
      | .error error =>
        s.finishLine s.processedControls (.invalid error (requestIdFromLine env line))
      | .ok applied =>
        applied.finishLine (remember applied.processedControls message)
          (.accepted (acceptedEvent message))

/-- The message a line brings into effect: it is well formed and no replay. -/
def freshMessage? (env : Platform) (s : ControlStream) (line : JsString) : Option ControlMessage :=
  if isBlank line then none
  else
    match admission env s line with
    | .fresh message => some message
    | _ => none

theorem handleLine_invariant {env : Platform} {I : ControlStream → Prop} {s : ControlStream}
    {line : JsString}
    (hfinish : ∀ s processed event, I s → I (s.finishLine processed event))
    (happly : ∀ message s', freshMessage? env s line = some message →
      s.applyMessage message = .ok s' → I s')
    (hs : I s) : I (s.handleLine env line) := by
  rw [handleLine]
  split
  · exact hs
  · next hblank =>
    split
    · exact hfinish _ _ _ hs
    · exact hfinish _ _ _ hs
    · next message hfresh =>
      split
      · exact hfinish _ _ _ hs
      · next applied happlied =>
        refine hfinish _ _ _ (happly message applied ?_ happlied)
        rw [freshMessage?, if_neg hblank, hfresh]

/-- The complete lines of a text, and what follows the last newline. -/
def splitLines : JsString → List JsString × JsString
  | [] => ([], [])
  | u :: rest =>
    match splitLines rest with
    | (lines, last) =>
      if u = 10 then ([] :: lines, last)
      else match lines with
        | [] => ([], u :: last)
        | line :: lines => ((u :: line) :: lines, last)

/-- `line.replace(/\r$/, "")`. -/
def dropReturn (line : JsString) : JsString :=
  if line.getLast? = some 13 then line.dropLast else line

def chunkLines (s : ControlStream) (chunk : JsString) : List JsString :=
  (splitLines (s.buffer ++ chunk)).1.map dropReturn

def keepRest (s : ControlStream) (chunk : JsString) : ControlStream :=
  { s with buffer := (splitLines (s.buffer ++ chunk)).2 }

def handleData (env : Platform) (s : ControlStream) (chunk : JsString) : ControlStream :=
  runSteps (handleLine env) (s.keepRest chunk) (s.chunkLines chunk)

def endInput (s : ControlStream) : ControlStream := { s with inputEnded := true, buffer := [] }

/-- `handleEnd`. `handleLine` skips a blank last line itself. -/
def handleEnd (env : Platform) (s : ControlStream) : ControlStream :=
  let read := s.endInput.handleLine env (dropReturn s.buffer)
  let woken := ({ read with paused := false }.observe .ended).resolveResumeWaiters
  woken.drainSteering.denyAllApprovals (·.ended)

/-! ## Calls -/

def start (s : ControlStream) : ControlStream :=
  if s.started then s else { s with started := true, inputEnded := false }

def close (s : ControlStream) : ControlStream :=
  let closed := { s with started := false, inputEnded := true, buffer := [], paused := false }
  ((closed.observe .closed).resolveResumeWaiters.resolveSteeringWaiters []).denyAllApprovals
    (·.closed)

/-- `await this.waitUntilResumed()`: the rest of the call is parked while the stream is
paused, and queued as a microtask otherwise. -/
def waitUntilResumed (s : ControlStream) (rest : Continuation) : ControlStream :=
  if s.paused then { s with resumeWaiters := s.resumeWaiters ++ [rest] }
  else { s with microtasks := s.microtasks ++ [rest] }

def takeSteeringInstructions (s : ControlStream) : ControlStream :=
  { s with calls := s.calls + 1 }.waitUntilResumed (.take s.calls)

def waitForSteeringInstructions (s : ControlStream) (signal : Option Nat) : ControlStream :=
  { s with calls := s.calls + 1 }.waitUntilResumed (.wait s.calls signal)

/-- `return this.steeringInstructions.splice(0)`. -/
def returnSteering (s : ControlStream) (call : Nat) : ControlStream :=
  { s with steeringInstructions := [] }.observe (.handedOut [call] s.steeringInstructions)

/-- What a call does when its `await` is over. -/
def continueCall (s : ControlStream) : Continuation → ControlStream
  | .take call => s.returnSteering call
  | .wait call signal =>
    if !s.steeringInstructions.isEmpty then s.returnSteering call
    else if s.unavailable signal then s.observe (.handedOut [call] [])
    else
      let waiting := { s with steeringWaiters := s.steeringWaiters ++ [⟨call, signal⟩] }
      if !waiting.paused && !waiting.steeringInstructions.isEmpty then waiting.drainSteering
      else waiting

def runMicrotask (s : ControlStream) : ControlStream :=
  match s.microtasks with
  | [] => s
  | next :: rest => { s with microtasks := rest }.continueCall next

def listening (s : ControlStream) (kind : ApprovalKind) (signal : Nat) : List JsString :=
  ((s.approvalWaiters kind).entries.filter (·.2.signal = some signal)).map (·.1)

/-- The `abort` listeners of the waiters of one kind. Each settles its own waiter. -/
def abortApprovals (s : ControlStream) (kind : ApprovalKind) (signal : Nat) : ControlStream :=
  runSteps (resolveApprovalWaiter kind .denied (approvalTexts kind).aborted) s
    (s.listening kind signal)

theorem abortApprovals_approvalsOnly (s : ControlStream) (kind : ApprovalKind) (signal : Nat) :
    ApprovalsOnly s (s.abortApprovals kind signal) :=
  resolveApprovals_approvalsOnly kind .denied _ s _

/-- The steering waiters that listen to a signal are answered with nothing. -/
def abortSteering (s : ControlStream) (signal : Nat) : ControlStream :=
  { s with
    abortedSignals := signal :: s.abortedSignals
    steeringWaiters := s.steeringWaiters.filter (·.signal ≠ some signal) }.observe
      (.handedOut ((s.steeringWaiters.filter (SteeringWaiter.signal · = some signal)).map SteeringWaiter.call) [])

/-- A signal is aborted: the listeners of its waiters run, once. -/
def abort (s : ControlStream) (signal : Nat) : ControlStream :=
  if s.abortedSignals.contains signal then s
  else ((s.abortSteering signal).abortApprovals .shell signal).abortApprovals .tool signal

end ControlStream

/-- What the event loop can do next. -/
inductive Input where
  | start
  | close
  | data (chunk : JsString)
  | ended
  | take
  | wait (signal : Option Nat)
  | shellApproval (approvalRequestId : JsString) (signal : Option Nat)
  | toolApproval (approvalRequestId : JsString) (signal : Option Nat)
  | abort (signal : Nat)
  | microtask
  | setRunbookExecutionHandler (handler : RunbookExecutionRequest → Option JsString)

def step (env : Platform) (s : ControlStream) : Input → ControlStream
  | .start => s.start
  | .close => s.close
  | .data chunk => if s.started then s.handleData env chunk else s
  | .ended => if s.started then s.handleEnd env else s
  | .take => s.takeSteeringInstructions
  | .wait signal => s.waitForSteeringInstructions signal
  | .shellApproval id signal => s.waitForShellApproval id signal
  | .toolApproval id signal => s.waitForToolApproval id signal
  | .abort signal => s.abort signal
  | .microtask => s.runMicrotask
  | .setRunbookExecutionHandler handler => { s with runbookExecutionHandler := some handler }

/-- The state after a run from a new stream. -/
def reached (env : Platform) (initialSteering : List (RequestId × JsString))
    (inputs : List Input) : ControlStream :=
  runSteps (step env) (.new initialSteering) inputs

end Beale.Control
