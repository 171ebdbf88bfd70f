import Beale.Library.JsString
import Mathlib.Data.List.Infix

/-!
# The retrying model stream

`createRetryingStreamFn` of `agent-executor.ts`. One call forwards the events of a
model stream, and asks the model again when an attempt fails before it has shown
any content.

What the loop waits for is given with each attempt: the events the model sends and
how the stream ends, and what each callback of the options answers at each place it
is called from (inside the `try` block, in its `catch` block, after both). Calls that
are never made have answers nobody reads. The texts of the steering message and what
is retryable for the model library are taken from outside.
-/

namespace Beale.Executor

open Beale.Library

universe u

variable {μ : Type u}

/-! ## Messages and events -/

/-- A block of an assistant message. -/
inductive ContentBlock where
  | text (text : JsString)
  | thinking
  | toolCall
  deriving DecidableEq

inductive StopReason where
  | stop | length | toolUse | error | aborted
  deriving DecidableEq

/-- An `AssistantMessage`, as far as the stream reads it. -/
structure AssistantMessage where
  content : List ContentBlock
  stopReason : StopReason
  errorMessage : Option JsString
  deriving DecidableEq

inductive ThinkingPart where
  | start | delta | stop
  deriving DecidableEq

inductive ContentPart where
  | textStart | textDelta | textEnd | toolcallStart | toolcallDelta | toolcallEnd
  deriving DecidableEq

/-- An `AssistantMessageEvent`. -/
inductive ModelEvent where
  | start
  | thinking (part : ThinkingPart) (delta : JsString)
  | content (part : ContentPart) (delta : JsString)
  | done (message : AssistantMessage)
  | error (reason : StopReason) (error : AssistantMessage)
  deriving DecidableEq

/-- The events that end a stream. -/
def ModelEvent.isTerminal : ModelEvent → Bool
  | .done _ | .error _ _ => true
  | _ => false

def isUncommittedReasoningEvent : ModelEvent → Bool
  | .start | .thinking _ _ => true
  | _ => false

def hasActionableAssistantContent (message : AssistantMessage) : Bool :=
  message.content.any fun
    | .thinking => false
    | .text text => !isBlank text
    | .toolCall => true

def assistantErrorMessage (error : JsString) : AssistantMessage :=
  { content := [], stopReason := .error, errorMessage := some error }

/-! ## Options -/

inductive RecoveryKind where
  | transient | safetyGuardrail | authenticationFallback
  deriving DecidableEq

inductive SafetyRecoveryDisposition where
  | likelyFalsePositive | safetyAdjustment
  deriving DecidableEq

structure StreamOptions (μ : Type u) where
  /-- `text.toLowerCase()` -/
  toLowerCase : JsString → JsString
  /-- `isRetryableAssistantError(message)` of the model library -/
  isRetryableAssistantError : AssistantMessage → Bool
  /-- `safetyRecoverySteeringMessage(messages, options.safetyRecoveryContext)` -/
  safetyRecoverySteeringMessage : List μ → SafetyRecoveryDisposition × μ
  firstEventTimeoutMs : Nat
  eventIdleTimeoutMs : Nat
  /-- whether there is a `compactContext` -/
  compactContext : Bool
  /-- whether there is a `rehydrateContext` -/
  rehydrateContext : Bool

/-- `message.errorMessage?.toLowerCase() ?? ""`. -/
def StreamOptions.normalized (opts : StreamOptions μ) (message : AssistantMessage) : JsString :=
  (message.errorMessage.map opts.toLowerCase).getD []

def isContextWindowAssistantError (opts : StreamOptions μ) (message : AssistantMessage) : Bool :=
  [js "context window", js "maximum context length", js "input exceeds the context"].any
    fun part => part <:+: opts.normalized message

def isSafetyGuardrailAssistantError (opts : StreamOptions μ) (message : AssistantMessage) : Bool :=
  [js "safety", js "cyber"].any fun part => part <:+: opts.normalized message

def isRecoverableAssistantError (opts : StreamOptions μ) (message : AssistantMessage) : Bool :=
  opts.isRetryableAssistantError message ||
    [js "unexpected end of json input", js "websocket error", js "websocket connection",
      js "websocket closed", js "unexpected server error", js "internal server error",
      js "server_error", js "cache miss", js "previous response", js "response not found",
      js "conversation not found", js "temporarily unavailable"].any
      fun part => part <:+: opts.normalized message

def MAX_TRANSIENT_MODEL_RETRIES : Nat := 4

def MODEL_RETRY_INTERVAL_MS : Nat := 60000

def MODEL_RETRY_MAX_DELAY_MS : Nat := 180000

def modelRetryDelayMs (retry : Nat) : Nat :=
  if retry ≤ 1 then 0 else min ((retry - 1) * MODEL_RETRY_INTERVAL_MS) MODEL_RETRY_MAX_DELAY_MS

/-! ## Attempts -/

/-- What the callbacks of the options answer at one place; an `error` is an exception. -/
structure Answers (μ : Type u) where
  tryAuthenticationFallback : Except JsString Bool
  compactContext : Except JsString (List μ)
  onContextAdopt : Except JsString Unit
  onContextRetry : Except JsString Unit

/-- How the events of the model end. -/
inductive Ending where
  | ended
  | threw (error : JsString)
  /-- the timer of `nextModelEvent` runs out -/
  | timedOut

/-- One call of the model and everything the loop waits for until the next one. -/
structure Attempt (μ : Type u) where
  events : List ModelEvent
  ending : Ending
  /-- answers to calls inside the `try` block -/
  inTry : Answers μ
  /-- answers to calls in the `catch` block -/
  inCatch : Answers μ
  rehydrateContext : Except JsString (List μ)
  onContextAdopt : Except JsString Unit
  onRetry : Except JsString Unit
  /-- the steering messages, or `none` where there is no channel, it fails or is aborted -/
  waitForSafetyRecovery : Option (List μ)
  /-- `options.signal?.aborted` when the wait for steering ends -/
  aborted : Bool
  retryDelay : Bool

/-- What `onRetry` is told. -/
structure RetryEvent where
  retry : Nat
  delayMs : Nat
  errorMessage : JsString
  recoveryKind : RecoveryKind
  safetyDisposition : Option SafetyRecoveryDisposition
  awaitingSteering : Bool

/-- Why the loop goes round again. -/
inductive RetryReason where
  | transient | context | authentication | safety | steering
  deriving DecidableEq

/-- What happens in a call of the stream. -/
inductive Happening (μ : Type u) where
  | requested (context : List μ)
  /-- `compactContext` returned -/
  | compacted
  | recovered (disposition : SafetyRecoveryDisposition)
  /-- `onRetry` is called -/
  | notified (event : RetryEvent)
  | retried (reason : RetryReason)
  /-- `output.push(event)` -/
  | pushed (event : ModelEvent)

/-! ## The loop -/

/-- The variables of the outer loop. -/
structure Loop (μ : Type u) where
  activeContext : List μ
  retries : Nat
  transientRetries : Nat
  contextRetryAttempted : Bool
  safetyRecoveryInjected : Bool
  safetyRecoveryDisposition : Option SafetyRecoveryDisposition

/-- The variables of one turn of the loop, over those of the loop, and the trace. -/
structure Turn (μ : Type u) extends Loop μ where
  contextCompactedForRetry : Bool
  emittedCommittedContent : Bool
  automaticSafetyRetry : Bool
  authenticationFallbackActivated : Bool
  retryError : Option AssistantMessage
  recoveryKind : RecoveryKind
  eventIdleTimedOut : Bool
  bufferedPrelude : List ModelEvent
  trace : List (Happening μ)

/-- A turn as it begins, with the call of the model. -/
def Turn.start (loop : Loop μ) (trace : List (Happening μ)) : Turn μ :=
  { loop with
    contextCompactedForRetry := false
    emittedCommittedContent := false
    automaticSafetyRetry := false
    authenticationFallbackActivated := false
    retryError := none
    recoveryKind := .transient
    eventIdleTimedOut := false
    bufferedPrelude := []
    trace := trace ++ [.requested loop.activeContext] }

def Turn.push (event : ModelEvent) (t : Turn μ) : Turn μ :=
  { t with trace := t.trace ++ [.pushed event] }

def Turn.flushBufferedPrelude (t : Turn μ) : Turn μ :=
  { t with trace := t.trace ++ t.bufferedPrelude.map .pushed, bufferedPrelude := [] }

/-- `retryError = error`. -/
def Turn.fail (error : AssistantMessage) (t : Turn μ) : Turn μ :=
  { t with retryError := some error }

/-- What became of an error. -/
inductive Recovery where
  | handled
  | unhandled
  | threw (error : JsString)

/-- The automatic recovery: the steering message joins the context and is adopted. -/
def recoverSafety (opts : StreamOptions μ) (answers : Answers μ) (error : AssistantMessage)
    (t : Turn μ) : Turn μ × Recovery :=
  if t.safetyRecoveryInjected then
    ({ t with
        automaticSafetyRetry := false
        recoveryKind := .safetyGuardrail
        retryError := some error }, .handled)
  else
    let recovery := opts.safetyRecoverySteeringMessage t.activeContext
    let steered : Turn μ :=
      { t with
        automaticSafetyRetry := true
        activeContext := t.activeContext ++ [recovery.2]
        trace := t.trace ++ [.recovered recovery.1] }
    match answers.onContextAdopt with
    | .error thrown => (steered, .threw thrown)
    | .ok () =>
      ({ steered with
          safetyRecoveryInjected := true
          safetyRecoveryDisposition := some recovery.1
          recoveryKind := .safetyGuardrail
          retryError := some error }, .handled)

/-- The compaction after a context overflow. -/
def recoverContext (answers : Answers μ) (error : AssistantMessage) (t : Turn μ) :
    Turn μ × Recovery :=
  match answers.compactContext with
  | .error thrown => (t, .threw thrown)
  | .ok compacted =>
    let compactedTurn : Turn μ :=
      { t with activeContext := compacted, trace := t.trace ++ [.compacted] }
    match answers.onContextAdopt with
    | .error thrown => (compactedTurn, .threw thrown)
    | .ok () =>
      let attempted : Turn μ :=
        { compactedTurn with contextRetryAttempted := true, contextCompactedForRetry := true }
      match answers.onContextRetry with
      | .error thrown => (attempted, .threw thrown)
      | .ok () => (attempted.fail error, .handled)

/-- The recoveries of an error, tried in this order. Nothing is recovered once content
was committed. -/
def recover (opts : StreamOptions μ) (answers : Answers μ) (error : AssistantMessage)
    (t : Turn μ) : Turn μ × Recovery :=
  if t.emittedCommittedContent then (t, .unhandled)
  else
    match answers.tryAuthenticationFallback with
    | .error thrown => (t, .threw thrown)
    | .ok true =>
      ({ t with
          authenticationFallbackActivated := true
          recoveryKind := .authenticationFallback
          retryError := some error }, .handled)
    | .ok false =>
      if isSafetyGuardrailAssistantError opts error then recoverSafety opts answers error t
      else if !t.contextRetryAttempted && isContextWindowAssistantError opts error
          && opts.compactContext then
        recoverContext answers error t
      else if t.eventIdleTimedOut || isRecoverableAssistantError opts error then
        (t.fail error, .handled)
      else (t, .unhandled)

/-- How the `try` block is left. -/
inductive Tried where
  | returned
  | broke
  | threw (error : JsString)

def withoutActionableOutput (t : Turn μ) : AssistantMessage :=
  assistantErrorMessage
    (if t.bufferedPrelude = [] then js "Model stream ended without actionable output."
      else js "Model stream ended after reasoning without actionable output.")

/-- `lastEventTimeoutMs`: the timer that runs for the next event. -/
def eventTimeoutMs (opts : StreamOptions μ) (t : Turn μ) : Nat :=
  if t.emittedCommittedContent then opts.eventIdleTimeoutMs
  else if opts.firstEventTimeoutMs = 0 then opts.eventIdleTimeoutMs else opts.firstEventTimeoutMs

/-- The iterator gives no more event. -/
def endEvents (opts : StreamOptions μ) (ending : Ending) (t : Turn μ) : Turn μ × Tried :=
  match ending with
  | .ended =>
    if t.emittedCommittedContent then (t, .broke)
    else (t.fail (withoutActionableOutput t), .broke)
  | .threw error => (t, .threw error)
  | .timedOut =>
    ({ t with eventIdleTimedOut := true },
      .threw (js "Model stream produced no content for " ++ js (toString (eventTimeoutMs opts t)) ++
        js "ms."))

/-- An event that ends the stream and is forwarded. -/
def forwardTerminal (event : ModelEvent) (t : Turn μ) : Turn μ × Tried :=
  (t.flushBufferedPrelude.push event, .returned)

/-- The inner loop. -/
def readEvents (opts : StreamOptions μ) (attempt : Attempt μ) :
    List ModelEvent → Turn μ → Turn μ × Tried
  | [], t => endEvents opts attempt.ending t
  | event :: events, t =>
    if !t.emittedCommittedContent && isUncommittedReasoningEvent event then
      readEvents opts attempt events { t with bufferedPrelude := t.bufferedPrelude ++ [event] }
    else
      match event with
      | .done message =>
        if !t.emittedCommittedContent && !hasActionableAssistantContent message then
          (t.fail (withoutActionableOutput t), .broke)
        else forwardTerminal event t
      | .error _ error =>
        match recover opts attempt.inTry error t with
        | (t', .handled) => (t', .broke)
        | (t', .threw thrown) => (t', .threw thrown)
        | (t', .unhandled) => forwardTerminal event t'
      | _ =>
        readEvents opts attempt events
          { t.flushBufferedPrelude.push event with emittedCommittedContent := true }

/-- Where a call of the stream is: at the head of its loop, at a `return`, or left by an
exception that nothing catches. -/
inductive StreamStatus (μ : Type u) where
  | looping (loop : Loop μ)
  | returned
  | rejected (error : JsString)

/-- A call of the stream: where it is and what has happened. -/
structure StreamRun (μ : Type u) where
  status : StreamStatus μ
  trace : List (Happening μ)

/-- `output.push({ type: "error", ... })` and `return`. -/
def returnError (reason : StopReason) (error : AssistantMessage) (t : Turn μ) : StreamRun μ :=
  ⟨.returned, (t.push (.error reason error)).trace⟩

def goRound (reason : RetryReason) (t : Turn μ) : StreamRun μ :=
  ⟨.looping t.toLoop, t.trace ++ [.retried reason]⟩

/-- `await options.onRetry(event)`, then the rest. -/
def notifying (attempt : Attempt μ) (event : RetryEvent) (t : Turn μ)
    (rest : Turn μ → StreamRun μ) : StreamRun μ :=
  let notified : Turn μ := { t with trace := t.trace ++ [.notified event] }
  match attempt.onRetry with
  | .error thrown => ⟨.rejected thrown, notified.trace⟩
  | .ok () => rest notified

/-- `await options.onContextAdopt(activeContext)` of a new context, then the rest. -/
def adopting (attempt : Attempt μ) (context : List μ) (t : Turn μ)
    (rest : Turn μ → StreamRun μ) : StreamRun μ :=
  let adopted : Turn μ := { t with activeContext := context }
  match attempt.onContextAdopt with
  | .error thrown => ⟨.rejected thrown, adopted.trace⟩
  | .ok () => rest adopted

/-- The context is rehydrated where the option is given, then the rest. -/
def rehydrating (opts : StreamOptions μ) (attempt : Attempt μ) (t : Turn μ)
    (rest : Turn μ → StreamRun μ) : StreamRun μ :=
  if opts.rehydrateContext then
    match attempt.rehydrateContext with
    | .error thrown => ⟨.rejected thrown, t.trace⟩
    | .ok context => adopting attempt context t rest
  else rest t

/-- The guardrail repeated after the automatic recovery: the loop waits for steering. -/
def awaitSteering (attempt : Attempt μ) (error : AssistantMessage) (t : Turn μ) : StreamRun μ :=
  notifying attempt
    { retry := t.retries + 1
      delayMs := 0
      errorMessage := error.errorMessage.getD (js "Provider safety guardrail.")
      recoveryKind := t.recoveryKind
      safetyDisposition := t.safetyRecoveryDisposition
      awaitingSteering := true } t fun t =>
    match attempt.waitForSafetyRecovery with
    | some (message :: messages) =>
      adopting attempt (t.activeContext ++ message :: messages) t fun t =>
        goRound .steering { t with retries := t.retries + 1 }
    | _ =>
      if attempt.aborted then
        returnError .aborted
          { error with
            stopReason := .aborted
            errorMessage := some (js "Safety guardrail recovery aborted.") } t
      else
        returnError .error
          { error with
            stopReason := .error
            errorMessage := some (js ("Safety guardrail repeated after automatic recovery " ++
              "and no steering channel is available.")) } t

def retryAfterDelay (opts : StreamOptions μ) (attempt : Attempt μ) (error : AssistantMessage)
    (t : Turn μ) : StreamRun μ :=
  let safety := t.recoveryKind = .safetyGuardrail
  let delayMs := if safety then 0 else modelRetryDelayMs (t.transientRetries + 1)
  rehydrating opts attempt t fun t =>
    notifying attempt
      { retry := t.retries + 1
        delayMs := delayMs
        errorMessage := error.errorMessage.getD (js "Transient model error.")
        recoveryKind := t.recoveryKind
        safetyDisposition := if safety then t.safetyRecoveryDisposition else none
        awaitingSteering := false } t fun t =>
      if attempt.retryDelay then
        if t.recoveryKind = .transient then
          goRound .transient
            { t with retries := t.retries + 1, transientRetries := t.transientRetries + 1 }
        else goRound .safety { t with retries := t.retries + 1 }
      else
        returnError .aborted
          { error with
            stopReason := .aborted
            errorMessage := some (js "Model retry aborted.") } t

/-- What follows the `try` statement. -/
def afterAttempt (opts : StreamOptions μ) (attempt : Attempt μ) (t : Turn μ) : StreamRun μ :=
  match t.retryError with
  | none =>
    returnError .error (assistantErrorMessage (js "Model stream ended before a terminal event."))
      t.flushBufferedPrelude
  | some error =>
    if isContextWindowAssistantError opts error then
      if t.contextCompactedForRetry then goRound .context t
      else returnError .error error t.flushBufferedPrelude
    else if t.authenticationFallbackActivated then
      rehydrating opts attempt t fun t =>
        notifying attempt
          { retry := t.retries + 1
            delayMs := 0
            errorMessage :=
              error.errorMessage.getD (js "Preferred authentication source exhausted.")
            recoveryKind := t.recoveryKind
            safetyDisposition := none
            awaitingSteering := false } t fun t =>
          goRound .authentication { t with retries := t.retries + 1 }
    else if t.recoveryKind = .transient ∧ MAX_TRANSIENT_MODEL_RETRIES ≤ t.transientRetries then
      returnError .error
        { error with
          errorMessage := some (error.errorMessage.getD (js "Transient model error.") ++
            js " Retry limit reached (" ++ js (toString MAX_TRANSIENT_MODEL_RETRIES) ++
            js ").") } t
    else if t.recoveryKind = .safetyGuardrail ∧ t.automaticSafetyRetry = false then
      awaitSteering attempt error t
    else retryAfterDelay opts attempt error t

/-- The `catch` block, and what follows. -/
def caught (opts : StreamOptions μ) (attempt : Attempt μ) (thrown : JsString) (t : Turn μ) :
    StreamRun μ :=
  let message := assistantErrorMessage
    (if t.eventIdleTimedOut then
      js "Model stream produced no actionable content for " ++
        js (toString (eventTimeoutMs opts t)) ++ js "ms."
    else thrown)
  match recover opts attempt.inCatch message t with
  | (t', .handled) => afterAttempt opts attempt t'
  | (t', .unhandled) => returnError .error message t'.flushBufferedPrelude
  | (t', .threw error) => ⟨.rejected error, t'.trace⟩

/-- One turn of the outer loop. -/
def StreamRun.step (opts : StreamOptions μ) (run : StreamRun μ) (attempt : Attempt μ) :
    StreamRun μ :=
  match run.status with
  | .looping loop =>
    match readEvents opts attempt attempt.events (Turn.start loop run.trace) with
    | (t, .returned) => ⟨.returned, t.trace⟩
    | (t, .broke) => afterAttempt opts attempt t
    | (t, .threw error) => caught opts attempt error t
  | _ => run

/-- A call of the stream as it begins. -/
def StreamRun.init (context : List μ) : StreamRun μ :=
  ⟨.looping
    { activeContext := context
      retries := 0
      transientRetries := 0
      contextRetryAttempted := false
      safetyRecoveryInjected := false
      safetyRecoveryDisposition := none }, []⟩

end Beale.Executor
