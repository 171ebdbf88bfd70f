import Beale.Library.JsMap
import Beale.Library.JsString
import Beale.Library.Run

/-!
# The session runtimes of the app server

A runtime is launched, its worker becomes ready and ends, and the runtime is finished or recovered. What a
continuation awaits is its `task`; each event is a part of the code that runs without an `await`.

- `SessionRuntime`: the record of a runtime, with the workers that live, what the host was told, and what became of
  the controls beside it.
- `AppServer.step`: an event of one runtime, whatever the order.
-/

namespace Beale.AppServer

open Beale.Library

def maxPendingControls : Nat := 128

inductive SessionState where
  | starting
  | running
  | completed
  | failed
  | stopped
deriving DecidableEq

def SessionState.isTerminal : SessionState → Bool
  | .starting | .running => false
  | .completed | .failed | .stopped => true

/-- Who calls `launchPreparedSession`. -/
inductive Launch where
  /-- `startSession` -/
  | start
  /-- `recoverSession` -/
  | recovery
  /-- `recoverInterruptedSessions` -/
  | restart
deriving DecidableEq

/-- What a continuation of a runtime awaits. -/
inductive RuntimeTask where
  /-- `launchPreparedSession`, before `spawnSession` -/
  | launching (launch : Launch)
  | spawning (worker : Nat) (launch : Launch)
  /-- `handleSessionExit`, in `inspectAppServerSessionCompletion` -/
  | inspecting
  | recoveryTimer
  /-- `recoverSession`, in `prepareSessionRecovery` -/
  | preparing
  /-- the `catch` of `startSession`, before the host is told -/
  | failing
  /-- the `catch` of `recoverSession` or `recoverInterruptedSessions`, before the runtime is finished -/
  | recoveryFailed (restarting : Bool)
deriving DecidableEq

/-- What `inspectAppServerSessionCompletion` finds. -/
inductive Completion where
  | succeeded
  | recoverable
  | failed
deriving DecidableEq

/-- A control other than a stop, and how many were accepted before it. -/
structure Control where
  number : Nat
  content : JsString
deriving DecidableEq

structure SessionRuntime where
  sessionId : JsString
  session : Option Nat
  state : SessionState
  stopRequested : Bool
  startupDiagnostic : Bool
  recoveryCount : Nat
  terminalPersistencePending : Bool
  pendingControls : List Control
  task : Option RuntimeTask
  live : List Nat
  recorded : List SessionState
  accepted : List Control
  handed : List (Nat × Control)
  dropped : List Control
  flushed : Nat
  readied : List Nat
deriving DecidableEq

namespace SessionRuntime

variable (runtime : SessionRuntime)

def isTerminal : Bool := runtime.state.isTerminal

def finishRuntime (state : SessionState) : SessionRuntime :=
  { runtime with
    task := runtime.task.filter fun task => task ≠ .recoveryTimer
    state := state
    terminalPersistencePending := true
    recorded := runtime.recorded ++ [state] }

/-- An error out of `launchPreparedSession`. -/
def launchError : Launch → SessionRuntime
  | .start => { runtime with state := .failed, task := some .failing }
  | .recovery => { runtime with task := some (.recoveryFailed false) }
  | .restart => { runtime with task := some (.recoveryFailed true) }

/-- A control waits; the oldest is dropped where there are as many as may wait. -/
def queueControl (control : Control) : SessionRuntime :=
  if maxPendingControls ≤ runtime.pendingControls.length then
    { runtime with
      dropped := runtime.dropped ++ runtime.pendingControls.take 1
      pendingControls := runtime.pendingControls.drop 1 ++ [control] }
  else { runtime with pendingControls := runtime.pendingControls ++ [control] }

/-- A control that is accepted: it is sent to the worker that is ready, or waits. -/
def control (content : JsString) : SessionRuntime :=
  let control := ⟨runtime.accepted.length, content⟩
  let accepting := { runtime with accepted := runtime.accepted ++ [control] }
  match runtime.session with
  | some worker =>
    if runtime.state = .running then { accepting with handed := runtime.handed ++ [(worker, control)] }
    else accepting.queueControl control
  | none => accepting.queueControl control

/-- Whether the worker has not come online yet. -/
def isSpawning (worker : Nat) : Bool :=
  match runtime.task with
  | some (.spawning spawned _) => spawned = worker
  | _ => false

/-- The end of `markRuntimeReady`. -/
def flushControls (worker : Nat) : SessionRuntime :=
  { runtime with
    state := .running
    startupDiagnostic := false
    handed := runtime.handed ++ runtime.pendingControls.map fun control => (worker, control)
    pendingControls := []
    flushed := runtime.accepted.length
    readied := runtime.readied ++ [worker] }

/-- The end of `handleSessionExit`, for a runtime that is still the one of its session. -/
def afterExit (maxRecoveryAttempts : Nat) (completion : Completion) : SessionRuntime :=
  if runtime.startupDiagnostic then runtime.finishRuntime .failed
  else if runtime.stopRequested then runtime.finishRuntime .stopped
  else
    match completion with
    | .succeeded => runtime.finishRuntime .completed
    | .recoverable =>
      if runtime.recoveryCount < maxRecoveryAttempts then
        { runtime with recoveryCount := runtime.recoveryCount + 1, task := some .recoveryTimer }
      else runtime.finishRuntime .failed
    | .failed => runtime.finishRuntime .failed

/-- `requestRuntimeStop` -/
def requestStop : SessionRuntime :=
  let stopping := { runtime with stopRequested := true }
  if runtime.session.isNone then stopping.finishRuntime .stopped else stopping

/-- `createSessionRuntime` -/
def new (sessionId : JsString) (launch : Launch) : SessionRuntime where
  sessionId := sessionId
  session := none
  state := .starting
  stopRequested := false
  startupDiagnostic := false
  recoveryCount := 0
  terminalPersistencePending := false
  pendingControls := []
  task := some (.launching launch)
  live := []
  recorded := []
  accepted := []
  handed := []
  dropped := []
  flushed := 0
  readied := []

end SessionRuntime

/-! ## All sessions -/

structure AppServer where
  maxRecoveryAttempts : Nat
  runtimes : JsMap Nat SessionRuntime
  sessions : JsMap JsString Nat
  active : JsMap JsString Unit
  next : Nat

inductive RuntimeEvent where
  | launch
  | launchFailed
  | spawned
  | spawnFailed
  | ready (worker : Nat)
  | startupFailed (worker : Nat)
  | exit (worker : Nat)
  | inspected (completion : Completion)
  | recover
  | recoveryPrepared
  | recoveryPrepareFailed
  | recoveryFailureRecorded
  | failureRecorded
  | stop
  | remove
  | persisted
  | control (content : JsString)
deriving DecidableEq

inductive AppServerEvent where
  | register (sessionId : JsString)
  | restore (sessionId : JsString)
  | runtime (number : Nat) (event : RuntimeEvent)
deriving DecidableEq

namespace AppServer

variable (server : AppServer)

/-- `sessions.get(runtime.sessionId) === runtime` -/
def isCurrent (number : Nat) (runtime : SessionRuntime) : Bool := server.sessions.get? runtime.sessionId = some number

def put (number : Nat) (runtime : SessionRuntime) : AppServer :=
  { server with runtimes := server.runtimes.set number runtime }

/-- `setWorkspaceSessionActive` -/
def setActive (sessionId : JsString) (active : Bool) : AppServer :=
  { server with active := if active then server.active.set sessionId () else server.active.delete sessionId }

/-- The last check of `startSession`, and what it registers. -/
def register (sessionId : JsString) : AppServer :=
  match (server.sessions.get? sessionId).bind server.runtimes.get? with
  | some existing =>
    if ¬ existing.isTerminal ∨ existing.terminalPersistencePending then server
    else { server with
      runtimes := server.runtimes.set server.next (.new sessionId .start)
      sessions := (server.sessions.delete sessionId).set sessionId server.next
      next := server.next + 1 }
  | none => { server with
      runtimes := server.runtimes.set server.next (.new sessionId .start)
      sessions := server.sessions.set sessionId server.next
      next := server.next + 1 }

/-- A session of `recoverInterruptedSessions`. -/
def restore (sessionId : JsString) : AppServer :=
  if (server.sessions.get? sessionId).isSome then server
  else { server with
    runtimes := server.runtimes.set server.next (.new sessionId .restart)
    sessions := server.sessions.set sessionId server.next
    next := server.next + 1 }

section Handlers

variable (number : Nat) (runtime : SessionRuntime)

/-- Whether a continuation of the runtime gives up. -/
def isGone : Bool := runtime.stopRequested || !server.isCurrent number runtime

/-- `launchPreparedSession`, to `spawnSession`. -/
def launch : AppServer :=
  match runtime.task with
  | some (.launching launch) =>
    if server.isGone number runtime then (server.setActive runtime.sessionId false).put number { runtime with task := none }
    else
      { (server.setActive runtime.sessionId true).put number
          { runtime with task := some (.spawning server.next launch), live := runtime.live ++ [server.next] } with
        next := server.next + 1 }
  | _ => server

/-- An error before `spawnSession`. -/
def launchFailed : AppServer :=
  match runtime.task with
  | some (.launching launch) => server.put number ({ runtime with task := none }.launchError launch)
  | _ => server

/-- `launchPreparedSession`, after `spawnSession`. -/
def spawned : AppServer :=
  match runtime.task with
  | some (.spawning worker _) =>
    if server.isGone number runtime then server.put number { runtime with task := none }
    else
      server.put number
        { runtime with task := none, session := some worker, state := .starting, startupDiagnostic := false }
  | _ => server

def spawnFailed : AppServer :=
  match runtime.task with
  | some (.spawning worker launch) =>
    (server.setActive runtime.sessionId false).put number
      ({ runtime with task := none, live := runtime.live.erase worker }.launchError launch)
  | _ => server

/-- `markRuntimeReady` -/
def ready (worker : Nat) : AppServer :=
  if runtime.session ≠ some worker ∨ server.isGone number runtime then server
  else server.put number (runtime.flushControls worker)

/-- The `catch` of `waitForRuntimeReady`. -/
def startupFailed (worker : Nat) : AppServer :=
  if runtime.session ≠ some worker ∨ server.isGone number runtime then server
  else server.put number { runtime with startupDiagnostic := true }

/-- A worker ends: the beginning of `handleSessionExit`. -/
def exit (worker : Nat) : AppServer :=
  if worker ∉ runtime.live ∨ runtime.isSpawning worker then server
  else if runtime.session = some worker then
    if server.isCurrent number runtime then
      server.put number { runtime with live := runtime.live.erase worker, session := none, task := some .inspecting }
    else server.put number { runtime with live := runtime.live.erase worker }
  -- the worker was stopped before it could be registered
  else (server.setActive runtime.sessionId false).put number { runtime with live := runtime.live.erase worker }

/-- The rest of `handleSessionExit`. -/
def inspected (completion : Completion) : AppServer :=
  match runtime.task with
  | some .inspecting =>
    (server.setActive runtime.sessionId false).put number
      (if server.isCurrent number runtime then
        { runtime with task := none }.afterExit server.maxRecoveryAttempts completion
      else { runtime with task := none })
  | _ => server

/-- `recoverSession`, to `prepareSessionRecovery`. -/
def recover : AppServer :=
  match runtime.task with
  | some .recoveryTimer =>
    if server.isGone number runtime then
      server.put number
        (if server.isCurrent number runtime then { runtime with task := none }.finishRuntime .stopped
        else { runtime with task := none })
    else server.put number { runtime with task := some .preparing }
  | _ => server

def recoveryPrepared : AppServer :=
  match runtime.task with
  | some .preparing =>
    server.put number { runtime with task := if server.isGone number runtime then none else some (.launching .recovery) }
  | _ => server

def recoveryPrepareFailed : AppServer :=
  match runtime.task with
  | some .preparing => server.put number { runtime with task := some (.recoveryFailed false) }
  | _ => server

/-- The end of `recoverSession` or `recoverInterruptedSessions` after an error. -/
def recoveryFailureRecorded : AppServer :=
  match runtime.task with
  | some (.recoveryFailed restarting) =>
    server.put number
      ({ runtime with task := none }.finishRuntime
        (if restarting then .failed else if runtime.stopRequested then .stopped else .failed))
  | _ => server

/-- The end of `startSession` after an error. -/
def failureRecorded : AppServer :=
  match runtime.task with
  | some .failing => server.put number { runtime with task := none, recorded := runtime.recorded ++ [.failed] }
  | _ => server

/-- `stopSession` of an ended session, or its eviction. -/
def remove : AppServer :=
  if runtime.isTerminal ∧ server.isCurrent number runtime then
    { server with sessions := server.sessions.delete runtime.sessionId }
  else server

def handle : RuntimeEvent → AppServer
  | .launch => server.launch number runtime
  | .launchFailed => server.launchFailed number runtime
  | .spawned => server.spawned number runtime
  | .spawnFailed => server.spawnFailed number runtime
  | .ready worker => server.ready number runtime worker
  | .startupFailed worker => server.startupFailed number runtime worker
  | .exit worker => server.exit number runtime worker
  | .inspected completion => server.inspected number runtime completion
  | .recover => server.recover number runtime
  | .recoveryPrepared => server.recoveryPrepared number runtime
  | .recoveryPrepareFailed => server.recoveryPrepareFailed number runtime
  | .recoveryFailureRecorded => server.recoveryFailureRecorded number runtime
  | .failureRecorded => server.failureRecorded number runtime
  | .stop => server.put number runtime.requestStop
  | .remove => server.remove number runtime
  | .persisted => server.put number { runtime with terminalPersistencePending := false }
  | .control content => server.put number (runtime.control content)

end Handlers

def step (server : AppServer) : AppServerEvent → AppServer
  | .register sessionId => server.register sessionId
  | .restore sessionId => server.restore sessionId
  | .runtime number event =>
    match server.runtimes.get? number with
    | some runtime => server.handle number runtime event
    | none => server

def new (maxRecoveryAttempts : Nat) : AppServer := ⟨maxRecoveryAttempts, .empty, .empty, .empty, 0⟩

end AppServer

end Beale.AppServer
