import Beale.Library.JsMap
import Beale.Library.JsString
import Beale.Library.Run

/-!
# The write queue of the desktop app

`AppServerSessionWriteQueue`: the events and the trace records of each run wait in a queue; an append takes
one event, or a batch of traces, to the store. An append that fails is put back; whether the store has
committed it is not known.

- `RunWrites`: the queue of a run, its timer and its appends, and what the store holds of the run. All that
  was queued, and what was trimmed, stands beside them.
- `WriteQueue.step`: something is queued, a timer fires, the store commits an append, an append settles, its
  `finally` runs, or a flush goes on.
-/

namespace Beale.Desktop

open Beale.Library

def sessionWriteBatchDelayMs : Nat := 40

def sessionTraceBatchSize : Nat := 256

def sessionTraceMaxPending : Nat := 4096

def sessionWriteRetryMaxMs : Nat := 2000

/-! ## Writes -/

structure TraceRecord where
  id : Nat
  content : JsString
deriving DecidableEq

structure SessionEvent where
  id : Nat
  content : JsString
deriving DecidableEq

inductive QueuedWrite where
  | trace (record : TraceRecord)
  | event (event : SessionEvent)
deriving DecidableEq

/-- What is appended to the session: an event, or a batch under an id of its own. -/
inductive AppendedEvent where
  | event (event : SessionEvent)
  | batch (id : Nat) (records : List TraceRecord)
deriving DecidableEq

/-- The ids of the two kinds have different prefixes. -/
inductive EventId where
  | event (id : Nat)
  | traceBatch (id : Nat)
deriving DecidableEq

def AppendedEvent.id : AppendedEvent → EventId
  | .event appended => .event appended.id
  | .batch id _ => .traceBatch id

def QueuedWrite.trace? : QueuedWrite → Option TraceRecord
  | .trace record => some record
  | .event _ => none

def QueuedWrite.event? : QueuedWrite → Option SessionEvent
  | .trace _ => none
  | .event queued => some queued

def tracesOf (writes : List QueuedWrite) : List TraceRecord := writes.filterMap QueuedWrite.trace?

def eventsOf (writes : List QueuedWrite) : List SessionEvent := writes.filterMap QueuedWrite.event?

def consecutiveTraceWriteCount (writes : List QueuedWrite) : Nat :=
  max 1 ((writes.take sessionTraceBatchSize).takeWhile fun write => write.trace?.isSome).length

def queuedAppServerEvent (batchId : Nat) (writes : List QueuedWrite) : AppendedEvent :=
  match writes with
  | [.event event] => .event event
  | _ => .batch batchId (tracesOf writes)

def splitFirstTrace : List QueuedWrite → Option (TraceRecord × List QueuedWrite)
  | [] => none
  | .trace record :: rest => some (record, rest)
  | .event event :: rest => (splitFirstTrace rest).map fun found => (found.1, .event event :: found.2)

/-- The `while` loop of `trimQueuedTraces`: what is trimmed, and what stays. -/
def trimTraces : Nat → List QueuedWrite → List TraceRecord × List QueuedWrite
  | 0, writes => ([], writes)
  | n + 1, writes =>
    match splitFirstTrace writes with
    | none => ([], writes)
    | some (record, rest) => (record :: (trimTraces n rest).1, (trimTraces n rest).2)

def trimQueuedTraces (writes : List QueuedWrite) : List TraceRecord × List QueuedWrite :=
  trimTraces ((tracesOf writes).length - sessionTraceMaxPending) writes

/-- `insertEvents`: an event whose id the session has is ignored. -/
def insertEvent (stored : List AppendedEvent) (event : AppendedEvent) : List AppendedEvent :=
  if stored.any fun other => other.id = event.id then stored else stored ++ [event]

/-! ## The queue of a run -/

inductive AppendPhase where
  | appending
  | committed
  /-- its `then` or `catch` has run -/
  | settled
deriving DecidableEq

/-- An append, to its `finally`. -/
structure Operation where
  number : Nat
  writes : List QueuedWrite
  event : AppendedEvent
  phase : AppendPhase
deriving DecidableEq

structure InFlight where
  operation : Nat
  writes : List QueuedWrite
deriving DecidableEq

structure RunWrites where
  pending : List QueuedWrite
  timer : Option Nat
  inFlight : Option InFlight
  retryDelay : Option Nat
  operations : List Operation
  stored : List AppendedEvent
  queued : List QueuedWrite
  trimmed : List TraceRecord
deriving DecidableEq

namespace RunWrites

def empty : RunWrites := ⟨[], none, none, none, [], [], [], []⟩

variable (writes : RunWrites)

def overlayEvents : List SessionEvent :=
  eventsOf ((writes.inFlight.elim [] InFlight.writes) ++ writes.pending)

def schedule (delayMs : Nat) : RunWrites := { writes with timer := some delayMs }

/-- `enqueue`, after the trim. -/
def enqueued (write : QueuedWrite) (trim : List TraceRecord × List QueuedWrite) : RunWrites :=
  let queued := { writes with
    pending := trim.2
    queued := writes.queued ++ [write]
    trimmed := writes.trimmed ++ trim.1 }
  if sessionTraceBatchSize ≤ trim.2.length then queued.schedule 0
  else if writes.timer.isNone ∧ writes.inFlight.isNone then queued.schedule sessionWriteBatchDelayMs
  else queued

def enqueue (write : QueuedWrite) : RunWrites :=
  writes.enqueued write (trimQueuedTraces (writes.pending ++ [write]))

/-- The writes of the next append. -/
def batch : List QueuedWrite :=
  match writes.pending with
  | .event event :: _ => [.event event]
  | pending => pending.take (consecutiveTraceWriteCount pending)

/-- `start`, with the number of an operation and of a batch. -/
def start (number : Nat) : RunWrites :=
  if writes.inFlight.isSome then writes
  else if writes.pending = [] then writes
  else { writes with
    pending := writes.pending.drop writes.batch.length
    inFlight := some ⟨number, writes.batch⟩
    operations := writes.operations ++ [⟨number, writes.batch, queuedAppServerEvent number writes.batch, .appending⟩] }

def setPhase (number : Nat) (phase : AppendPhase) : List Operation :=
  writes.operations.map fun operation => if operation.number = number then { operation with phase } else operation

/-- The store commits an append. -/
def commit (operation : Operation) : RunWrites :=
  { writes with
    stored := insertEvent writes.stored operation.event
    operations := writes.setPhase operation.number .committed }

/-- The `then` of an append. -/
def succeed (operation : Operation) : RunWrites :=
  { writes with retryDelay := none, operations := writes.setPhase operation.number .settled }

/-- The `catch` of an append, after the trim. -/
def retried (operation : Operation) (trim : List TraceRecord × List QueuedWrite) : RunWrites :=
  let delay := min (writes.retryDelay.getD sessionWriteBatchDelayMs * 2) sessionWriteRetryMaxMs
  { writes with
    pending := trim.2
    trimmed := writes.trimmed ++ trim.1
    retryDelay := some delay
    timer := some delay
    operations := writes.setPhase operation.number .settled }

/-- The `catch` of an append: its writes are put back. -/
def putBack (operation : Operation) : RunWrites :=
  writes.retried operation (trimQueuedTraces (operation.writes ++ writes.pending))

/-- The `finally` of an append. -/
def finish (operation : Operation) : RunWrites :=
  let finished := { writes with
    inFlight := writes.inFlight.filter fun current => current.operation ≠ operation.number
    operations := writes.operations.filter fun other => other.number ≠ operation.number }
  if finished.pending ≠ [] ∧ finished.timer.isNone then finished.schedule (finished.retryDelay.getD 0) else finished

/-- The timer fires, or `flush` clears it; then `start`. -/
def push (number : Nat) : RunWrites := { writes with timer := none }.start number

end RunWrites

/-! ## All runs -/

/-- A call of `flush`: the runs that it still waits for, each with the operation it awaits; all that was
queued before it has a lower number. -/
structure Flush where
  runId : Option JsString
  awaited : JsMap JsString Nat
  since : Nat
deriving DecidableEq

structure WriteQueue where
  runs : JsMap JsString RunWrites
  flushes : JsMap Nat Flush
  next : Nat

inductive WriteEvent where
  | enqueueTrace (runId content : JsString)
  | enqueueEvent (runId content : JsString)
  | timer (runId : JsString)
  | commit (runId : JsString) (operation : Nat)
  | settle (runId : JsString) (operation : Nat) (succeeded : Bool)
  | finish (runId : JsString) (operation : Nat)
  | flush (runId : Option JsString)
  | resume (flush : Nat) (runId : JsString)
deriving DecidableEq

namespace WriteQueue

variable (queue : WriteQueue)

def run (runId : JsString) : RunWrites := (queue.runs.get? runId).getD .empty

/-- A run changes, with the next number. -/
def update (runId : JsString) (change : Nat → RunWrites → RunWrites) : WriteQueue :=
  { queue with runs := queue.runs.set runId (change queue.next (queue.run runId)), next := queue.next + 1 }

/-- An append of a run that has not come to its end. -/
def operation? (runId : JsString) (number : Nat) : Option Operation :=
  (queue.run runId).operations.find? fun operation => operation.number = number

/-- The runs that a flush looks at. -/
def candidates (runId : Option JsString) : List JsString :=
  match runId with
  | some runId => [runId]
  | none => queue.runs.keys.filter fun candidate =>
      (queue.run candidate).pending ≠ [] || (queue.run candidate).inFlight.isSome

/-- `clearTimer` and `start` of the candidates, one after the other. -/
def pushAll (queue : WriteQueue) (runIds : List JsString) : WriteQueue :=
  runIds.foldl (fun queue runId => queue.update runId fun number writes => writes.push number) queue

/-- What the loop of a flush awaits: the append of the run that is in flight. -/
def awaitRun (runId : JsString) (awaited : JsMap JsString Nat) : JsMap JsString Nat :=
  match (queue.run runId).inFlight with
  | some current => awaited.set runId current.operation
  | none => awaited.delete runId

def step (queue : WriteQueue) : WriteEvent → WriteQueue
  | .enqueueTrace runId content => queue.update runId fun number writes => writes.enqueue (.trace ⟨number, content⟩)
  | .enqueueEvent runId content => queue.update runId fun number writes => writes.enqueue (.event ⟨number, content⟩)
  | .timer runId =>
    if (queue.run runId).timer.isSome then queue.update runId fun number writes => writes.push number else queue
  | .commit runId number =>
    match queue.operation? runId number with
    | some operation =>
      if operation.phase = .appending then queue.update runId fun _ writes => writes.commit operation else queue
    | none => queue
  | .settle runId number succeeded =>
    match queue.operation? runId number with
    | some operation =>
      if operation.phase = .settled then queue
      else if succeeded then
        -- an append succeeds only after the store has committed it
        if operation.phase = .committed then queue.update runId fun _ writes => writes.succeed operation else queue
      else queue.update runId fun _ writes => writes.putBack operation
    | none => queue
  | .finish runId number =>
    match queue.operation? runId number with
    | some operation =>
      if operation.phase = .settled then queue.update runId fun _ writes => writes.finish operation else queue
    | none => queue
  | .flush runId =>
    let runIds := queue.candidates runId
    let pushed := queue.pushAll runIds
    let awaited := runIds.foldl (fun awaited candidate => pushed.awaitRun candidate awaited) .empty
    { pushed with
      flushes := pushed.flushes.set pushed.next ⟨runId, awaited, queue.next⟩
      next := pushed.next + 1 }
  | .resume number runId =>
    match queue.flushes.get? number with
    | none => queue
    | some flush =>
      match flush.awaited.get? runId with
      | none => queue
      | some operation =>
        if (queue.operation? runId operation).isSome then queue
        else
          let pushed := queue.update runId fun number writes => writes.push number
          { pushed with flushes := pushed.flushes.set number { flush with awaited := pushed.awaitRun runId flush.awaited } }

def new : WriteQueue := ⟨.empty, .empty, 0⟩

end WriteQueue

end Beale.Desktop
