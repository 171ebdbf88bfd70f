import Beale.Executor.ModelStream
import Beale.Library.Run
import Beale.Library.Trace

/-!
# What a retrying stream does and how often

A call of the stream is a run of its outer loop over the attempts. What it did is in
the trace, and the variables of the loop keep the books of the trace:

- `stream_kept`: at most four transient retries, one compaction and one
  automatic safety recovery, content of one attempt and one terminal event.

The loop has no handler of its own: an exception of a callback in the `catch` block or
after it ends the call without a terminal event (`unknown_model_never_terminates`).
-/

namespace Beale.Executor

open Beale.Library
open Happening

universe u

variable {μ : Type u} {opts : StreamOptions μ} {attempt : Attempt μ}
  {history : List (Attempt μ)} {loop : Loop μ} {t : Turn μ}

/-! ## Reading the trace -/

/-- A call of the model. -/
@[simp] def Happening.isRequest : Happening μ → Bool
  | .requested _ => true
  | _ => false

/-- An event pushed to the output. -/
@[simp] def Happening.isPush : Happening μ → Bool
  | .pushed _ => true
  | _ => false

/-- A terminal event pushed to the output. -/
@[simp] def Happening.isTerminal : Happening μ → Bool
  | .pushed event => event.isTerminal
  | _ => false

/-- The context was compacted. -/
@[simp] def Happening.isCompaction : Happening μ → Bool
  | .compacted => true
  | _ => false

/-- The steering message of the automatic safety recovery joined the context. -/
@[simp] def Happening.isRecovery : Happening μ → Bool
  | .recovered _ => true
  | _ => false

/-- The loop went round again for this reason. -/
@[simp] def Happening.isRetry (reason : RetryReason) : Happening μ → Bool
  | .retried reason' => reason' == reason
  | _ => false

/-- How often the loop went round again. -/
def rounds (trace : List (Happening μ)) : Nat :=
  trace.countP (Happening.isRetry .transient) + trace.countP (Happening.isRetry .context) +
    trace.countP (Happening.isRetry .authentication) + trace.countP (Happening.isRetry .safety) +
    trace.countP (Happening.isRetry .steering)

/-- The model is only called while nothing was pushed: all that is pushed belongs to the
last attempt. -/
def OneAttempt (trace : List (Happening μ)) : Prop :=
  EachAfter (fun earlier h => h.isRequest = true → earlier.countP Happening.isPush = 0) trace

variable {trace : List (Happening μ)}

theorem OneAttempt.append {added : List (Happening μ)} (h : OneAttempt trace)
    (hadded : ∀ x ∈ added, x.isRequest = false) : OneAttempt (trace ++ added) :=
  EachAfter.append h fun x hx _ hreq => by
    rw [hadded x hx] at hreq
    cases hreq

variable {event : ModelEvent}

theorem isTerminal_of_reasoning
    (h : isUncommittedReasoningEvent event = true) : event.isTerminal = false := by
  cases event <;> simp_all [isUncommittedReasoningEvent, ModelEvent.isTerminal]

/-! ## The books -/

def Attempt.grantsFallback (a : Attempt μ) : Bool :=
  (a.inTry.tryAuthenticationFallback matches .ok true) ||
    (a.inCatch.tryAuthenticationFallback matches .ok true)

/-- An attempt whose wait for steering brings messages. -/
def Attempt.bringsSteering (a : Attempt μ) : Bool :=
  a.waitForSafetyRecovery matches some (_ :: _)

/-- The books that the variables of the loop keep over the trace, after the attempts of
`history`. -/
structure Books (loop : Loop μ) (trace : List (Happening μ)) (history : List (Attempt μ)) :
    Prop where
  one_attempt : OneAttempt trace
  transient : trace.countP (Happening.isRetry .transient) ≤ MAX_TRANSIENT_MODEL_RETRIES
  counted : trace.countP (Happening.isRetry .transient) = loop.transientRetries
  compactions : trace.countP Happening.isCompaction = loop.contextRetryAttempted.toNat
  recoveries : trace.countP Happening.isRecovery = loop.safetyRecoveryInjected.toNat
  authentication : trace.countP (Happening.isRetry .authentication) ≤
    history.countP Attempt.grantsFallback
  steering : trace.countP (Happening.isRetry .steering) ≤ history.countP Attempt.bringsSteering
  rounds : rounds trace = history.length

/-- The loop is at its head: nothing was pushed, and every attempt led to another one. -/
structure AtHead (loop : Loop μ) (trace : List (Happening μ)) (history : List (Attempt μ)) :
    Prop extends Books loop trace history where
  silent : trace.countP Happening.isPush = 0
  terminals : trace.countP Happening.isTerminal = 0
  requests : trace.countP Happening.isRequest = history.length
  context : trace.countP (Happening.isRetry .context) ≤ loop.contextRetryAttempted.toNat
  safety : trace.countP (Happening.isRetry .safety) ≤ loop.safetyRecoveryInjected.toNat

/-- Inside the turn of `attempt`. A compaction or an automatic recovery of this turn has
not led to its retry yet. -/
structure Turn.Booked (history : List (Attempt μ)) (attempt : Attempt μ) (t : Turn μ) :
    Prop extends Books t.toLoop t.trace history where
  silent : t.emittedCommittedContent = false → t.trace.countP Happening.isPush = 0
  terminals : t.trace.countP Happening.isTerminal = 0
  requests : t.trace.countP Happening.isRequest = history.length + 1
  context : t.trace.countP (Happening.isRetry .context) + t.contextCompactedForRetry.toNat ≤
    t.contextRetryAttempted.toNat
  safety : t.trace.countP (Happening.isRetry .safety) + t.automaticSafetyRetry.toNat ≤
    t.safetyRecoveryInjected.toNat
  failed : t.retryError.isSome → t.emittedCommittedContent = false
  granted : t.authenticationFallbackActivated = true → attempt.grantsFallback = true
  activated : t.recoveryKind = .authenticationFallback → t.authenticationFallbackActivated = true
  buffered : ∀ event ∈ t.bufferedPrelude, isUncommittedReasoningEvent event = true

/-- What a call of the stream has done when it returned. -/
structure Finished (trace : List (Happening μ)) (history : List (Attempt μ)) : Prop where
  one_attempt : OneAttempt trace
  terminals : trace.countP Happening.isTerminal = 1
  last : ∃ earlier event, trace = earlier ++ [.pushed event] ∧ event.isTerminal = true
  transient : trace.countP (Happening.isRetry .transient) ≤ MAX_TRANSIENT_MODEL_RETRIES
  compactions : trace.countP Happening.isCompaction ≤ 1
  recoveries : trace.countP Happening.isRecovery ≤ 1
  requests : trace.countP Happening.isRequest ≤
    7 + history.countP Attempt.grantsFallback + history.countP Attempt.bringsSteering

/-- No loop goes round more often than its retries and what the callbacks granted. -/
theorem rounds_le (h : Books loop trace history)
    (hcontext : trace.countP (isRetry .context) ≤ loop.contextRetryAttempted.toNat)
    (hsafety : trace.countP (isRetry .safety) ≤ loop.safetyRecoveryInjected.toNat) :
    rounds trace ≤
      6 + history.countP Attempt.grantsFallback + history.countP Attempt.bringsSteering := by
  have htransient := h.transient
  have hauthentication := h.authentication
  have hsteer := h.steering
  have hattempted := Bool.toNat_le loop.contextRetryAttempted
  have hinjected := Bool.toNat_le loop.safetyRecoveryInjected
  unfold rounds MAX_TRANSIENT_MODEL_RETRIES at *
  omega

/-! ## Entering and leaving a turn -/

theorem AtHead.start (h : AtHead loop trace history)
    (attempt : Attempt μ) : (Turn.start loop trace).Booked history attempt where
  one_attempt := eachAfter_concat.mpr ⟨h.one_attempt, fun _ => h.silent⟩
  transient := by simpa [Turn.start] using h.transient
  counted := by simpa [Turn.start] using h.counted
  compactions := by simpa [Turn.start] using h.compactions
  recoveries := by simpa [Turn.start] using h.recoveries
  authentication := by simpa [Turn.start] using h.authentication
  steering := by simpa [Turn.start] using h.steering
  rounds := by simpa [Turn.start, Executor.rounds] using h.rounds
  silent := fun _ => by simpa [Turn.start] using h.silent
  terminals := by simpa [Turn.start] using h.terminals
  requests := by simpa [Turn.start] using h.requests
  context := by simpa [Turn.start] using h.context
  safety := by simpa [Turn.start] using h.safety
  failed := by simp [Turn.start]
  granted := by simp [Turn.start]
  activated := by simp [Turn.start]
  buffered := by simp [Turn.start]

variable {held : List ModelEvent}

theorem countP_forwarded (p : Happening μ → Bool) (hp : ∀ e, p (.pushed e) = false) :
    (trace ++ held.map pushed ++ [pushed event]).countP p = trace.countP p := by
  have hnone : (held.map pushed).countP p = 0 := by
    rw [List.countP_map, List.countP_eq_zero]
    intro e _
    simp [hp e]
  simp [hnone, hp event]

theorem terminals_forwarded (hheld : ∀ e ∈ held, isUncommittedReasoningEvent e = true) :
    (trace ++ held.map pushed ++ [pushed event]).countP
        isTerminal = trace.countP isTerminal + event.isTerminal.toNat := by
  have hquiet : (held.map (pushed (μ := μ))).countP isTerminal = 0 := by
    rw [List.countP_eq_zero]
    intro x hx
    obtain ⟨e, he, rfl⟩ := List.mem_map.mp hx
    simp [isTerminal_of_reasoning (hheld e he)]
  rw [List.countP_append, List.countP_append, hquiet, List.countP_singleton]
  cases hterm : event.isTerminal <;> simp [hterm]

theorem OneAttempt.forwarded (h : OneAttempt trace) (held : List ModelEvent) (event : ModelEvent) :
    OneAttempt (trace ++ held.map pushed ++ [pushed event]) := by
  rw [List.append_assoc]
  refine h.append fun x hx => ?_
  rcases List.mem_append.mp hx with hx | hx
  · obtain ⟨e, -, rfl⟩ := List.mem_map.mp hx
    rfl
  · rw [List.mem_singleton.mp hx]
    rfl

theorem Turn.Booked.finish (h : t.Booked history attempt) (hterm : event.isTerminal = true)
    (hheld : ∀ e ∈ held, isUncommittedReasoningEvent e = true) :
    Finished (t.trace ++ held.map pushed ++ [pushed event]) (history ++ [attempt]) where
  one_attempt := h.one_attempt.forwarded held event
  terminals := by
    rw [terminals_forwarded hheld, h.terminals, hterm]
    rfl
  last := ⟨_, event, rfl, hterm⟩
  transient := by
    rw [countP_forwarded (isRetry .transient) fun _ => rfl]
    exact h.transient
  compactions := by
    rw [countP_forwarded isCompaction fun _ => rfl, h.compactions]
    exact Bool.toNat_le _
  recoveries := by
    rw [countP_forwarded isRecovery fun _ => rfl, h.recoveries]
    exact Bool.toNat_le _
  requests := by
    have hcontext := h.context
    have hsafety := h.safety
    have hrounds := rounds_le h.toBooks (by omega) (by omega)
    rw [h.rounds] at hrounds
    rw [countP_forwarded isRequest fun _ => rfl, h.requests, List.countP_append, List.countP_append]
    omega

theorem Turn.Booked.commit (h : t.Booked history attempt)
    (hevent : event.isTerminal = false) (hnone : t.retryError = none) :
    ({ t.flushBufferedPrelude.push event with emittedCommittedContent := true } : Turn μ).Booked
      history attempt where
  one_attempt := h.one_attempt.forwarded t.bufferedPrelude event
  transient := (countP_forwarded (isRetry .transient) fun _ => rfl).trans_le h.transient
  counted := (countP_forwarded (isRetry .transient) fun _ => rfl).trans h.counted
  compactions := (countP_forwarded isCompaction fun _ => rfl).trans h.compactions
  recoveries := (countP_forwarded isRecovery fun _ => rfl).trans h.recoveries
  authentication := (countP_forwarded (isRetry .authentication) fun _ => rfl).trans_le h.authentication
  steering := (countP_forwarded (isRetry .steering) fun _ => rfl).trans_le h.steering
  rounds := by
    have hrounds := h.rounds
    unfold Executor.rounds at hrounds ⊢
    unfold Turn.push Turn.flushBufferedPrelude
    simpa only [countP_forwarded (isRetry _) fun _ => rfl] using hrounds
  silent := nofun
  terminals := by
    refine (terminals_forwarded h.buffered).trans ?_
    rw [h.terminals, hevent]
    rfl
  requests := (countP_forwarded isRequest fun _ => rfl).trans h.requests
  context := by
    have hcontext := h.context
    exact (Nat.add_le_add_right
      (countP_forwarded (isRetry .context) fun _ => rfl).le _).trans hcontext
  safety := by
    have hsafety := h.safety
    exact (Nat.add_le_add_right
      (countP_forwarded (isRetry .safety) fun _ => rfl).le _).trans hsafety
  failed := by
    intro hsome
    have hfail : t.retryError.isSome := hsome
    rw [hnone] at hfail
    cases hfail
  granted := h.granted
  activated := h.activated
  buffered := by simp [Turn.push, Turn.flushBufferedPrelude]

theorem countP_goRound (reason reason' : RetryReason) (t : Turn μ) :
    (goRound reason t).trace.countP (isRetry reason') =
      t.trace.countP (isRetry reason') + if reason = reason' then 1 else 0 := by
  simp [goRound]

theorem countP_goRound_other (reason : RetryReason) (t : Turn μ) {p : Happening μ → Bool}
    (hp : ∀ reason, p (.retried reason) = false) :
    (goRound reason t).trace.countP p = t.trace.countP p := by
  simp [goRound, hp]

theorem rounds_goRound (reason : RetryReason) (t : Turn μ) :
    rounds (goRound reason t).trace = rounds t.trace + 1 := by
  unfold rounds
  simp only [countP_goRound]
  cases reason <;> simp <;> omega

/-- What lets the loop go round: a retry not counted yet, or a callback. -/
def MayRetry (attempt : Attempt μ) (t : Turn μ) : RetryReason → Prop
  | .transient => t.transientRetries < MAX_TRANSIENT_MODEL_RETRIES
  | .context => t.contextCompactedForRetry = true
  | .authentication => attempt.grantsFallback = true
  | .safety => t.automaticSafetyRetry = true
  | .steering => attempt.bringsSteering = true

theorem Turn.Booked.again (h : t.Booked history attempt) {reason : RetryReason} {t' : Turn μ}
    (htrace : t'.trace = t.trace) (hattempted : t'.contextRetryAttempted = t.contextRetryAttempted)
    (hinjected : t'.safetyRecoveryInjected = t.safetyRecoveryInjected)
    (hquiet : t.emittedCommittedContent = false) (hreason : MayRetry attempt t reason)
    (hcounted : t'.transientRetries = t.transientRetries + if reason = .transient then 1 else 0) :
    AtHead t'.toLoop (goRound reason t').trace (history ++ [attempt]) where
  one_attempt := by
    rw [goRound, htrace]
    exact h.one_attempt.append (by simp)
  transient := by
    rw [countP_goRound, htrace]
    split
    next hr =>
      subst hr
      have hcount := h.counted
      have hroom : t.transientRetries < MAX_TRANSIENT_MODEL_RETRIES := hreason
      omega
    next => exact h.transient
  counted := by rw [countP_goRound, htrace, h.counted, hcounted]
  compactions := by rw [countP_goRound_other _ _ fun _ => rfl, htrace, hattempted, h.compactions]
  recoveries := by rw [countP_goRound_other _ _ fun _ => rfl, htrace, hinjected, h.recoveries]
  authentication := by
    have hcount := h.authentication
    rw [countP_goRound, htrace, List.countP_append]
    split
    next hr =>
      subst hr
      have hgranted : attempt.grantsFallback = true := hreason
      simp [hgranted]
      omega
    next => omega
  steering := by
    have hcount := h.steering
    rw [countP_goRound, htrace, List.countP_append]
    split
    next hr =>
      subst hr
      have hbrought : attempt.bringsSteering = true := hreason
      simp [hbrought]
      omega
    next => omega
  rounds := by rw [rounds_goRound, htrace, h.rounds, List.length_append, List.length_singleton]
  silent := by rw [countP_goRound_other _ _ fun _ => rfl, htrace, h.silent hquiet]
  terminals := by rw [countP_goRound_other _ _ fun _ => rfl, htrace, h.terminals]
  requests := by
    rw [countP_goRound_other _ _ fun _ => rfl, htrace, h.requests, List.length_append,
      List.length_singleton]
  context := by
    have hcount := h.context
    rw [countP_goRound, htrace, hattempted]
    split
    next hr =>
      subst hr
      have hcompacted : t.contextCompactedForRetry = true := hreason
      rw [hcompacted] at hcount
      exact hcount
    next => omega
  safety := by
    have hcount := h.safety
    rw [countP_goRound, htrace, hinjected]
    split
    next hr =>
      subst hr
      have hautomatic : t.automaticSafetyRetry = true := hreason
      rw [hautomatic] at hcount
      exact hcount
    next => omega

/-! ## What a turn does -/

theorem Turn.Booked.notified (h : t.Booked history attempt) (event : RetryEvent) :
    ({ t with trace := t.trace ++ [.notified event] } : Turn μ).Booked history attempt where
  one_attempt := h.one_attempt.append (by simp)
  transient := by simpa using h.transient
  counted := by simpa using h.counted
  compactions := by simpa using h.compactions
  recoveries := by simpa using h.recoveries
  authentication := by simpa using h.authentication
  steering := by simpa using h.steering
  rounds := by simpa [Executor.rounds] using h.rounds
  silent := by simpa using h.silent
  terminals := by simpa using h.terminals
  requests := by simpa using h.requests
  context := by simpa using h.context
  safety := by simpa using h.safety
  failed := h.failed
  granted := h.granted
  activated := h.activated
  buffered := h.buffered

theorem Turn.Booked.failing (h : t.Booked history attempt)
    (hquiet : t.emittedCommittedContent = false) (error : AssistantMessage) :
    (t.fail error).Booked history attempt :=
  { h with failed := fun _ => hquiet }

variable (opts) in
section

variable {answers : Answers μ} (h : t.Booked history attempt)
  (hquiet : t.emittedCommittedContent = false) (hadopt : answers.onContextAdopt = .ok ())
include h hquiet hadopt

theorem recoverSafety_booked (error : AssistantMessage) :
    (recoverSafety opts answers error t).1.Booked history attempt ∧
      (recoverSafety opts answers error t).2 = .handled ∧
      (recoverSafety opts answers error t).1.retryError = some error := by
  unfold recoverSafety
  split
  next hinjected =>
    refine ⟨{ h with failed := fun _ => hquiet, safety := ?_, activated := nofun }, rfl, rfl⟩
    have hcount := h.safety
    simp only [Bool.toNat_false]
    omega
  next hinjected =>
    rw [hadopt]
    have hfresh : t.safetyRecoveryInjected = false := by simpa using hinjected
    have hsafety := h.safety
    have hrecoveries := h.recoveries
    rw [hfresh] at hsafety hrecoveries
    refine ⟨⟨⟨?_, ?_, ?_, ?_, ?_, ?_, ?_, ?_⟩, ?_, ?_, ?_, ?_, ?_, ?_, h.granted, nofun,
      h.buffered⟩,
      rfl, rfl⟩
    · exact h.one_attempt.append (by simp)
    · simpa using h.transient
    · simpa using h.counted
    · simpa using h.compactions
    · simpa using hrecoveries
    · simpa using h.authentication
    · simpa using h.steering
    · simpa [Executor.rounds] using h.rounds
    · simpa using h.silent
    · simpa using h.terminals
    · simpa using h.requests
    · simpa using h.context
    · rw [Bool.toNat_false] at hsafety
      rw [List.countP_append, List.countP_singleton]
      show _ + 0 + 1 ≤ 1
      omega
    · exact fun _ => hquiet

theorem recoverContext_booked
    (hfirst : t.contextRetryAttempted = false) (error : AssistantMessage) :
    (recoverContext answers error t).1.Booked history attempt ∧
      ((recoverContext answers error t).2 = .handled →
        (recoverContext answers error t).1.retryError = some error) ∧
      (recoverContext answers error t).2 ≠ .unhandled := by
  have hcontext := h.context
  have hcompactions := h.compactions
  rw [hfirst] at hcontext hcompactions
  have hattempted : ∀ compacted, ({ t with
      activeContext := compacted
      trace := t.trace ++ [.compacted]
      contextRetryAttempted := true
      contextCompactedForRetry := true } : Turn μ).Booked history attempt := by
    intro compacted
    refine ⟨⟨?_, ?_, ?_, ?_, ?_, ?_, ?_, ?_⟩, ?_, ?_, ?_, ?_, ?_, h.failed, h.granted, h.activated,
      h.buffered⟩
    · exact h.one_attempt.append (by simp)
    · simpa using h.transient
    · simpa using h.counted
    · simpa using hcompactions
    · simpa using h.recoveries
    · simpa using h.authentication
    · simpa using h.steering
    · simpa [Executor.rounds] using h.rounds
    · simpa using h.silent
    · simpa using h.terminals
    · simpa using h.requests
    · rw [Bool.toNat_false] at hcontext
      rw [List.countP_append, List.countP_singleton]
      show _ + 0 + 1 ≤ 1
      omega
    · simpa using h.safety
  unfold recoverContext
  cases hcompact : answers.compactContext with
  | error thrown => exact ⟨h, nofun, nofun⟩
  | ok compacted =>
    simp only [hadopt]
    cases hretry : answers.onContextRetry with
    | error thrown => exact ⟨hattempted compacted, nofun, nofun⟩
    | ok _ => exact ⟨(hattempted compacted).failing hquiet error, fun _ => rfl, nofun⟩

end

variable (opts) in
/-- What a recovery leaves: the books are kept, an error that is handled is the one the
turn fails with, and one that is not changes nothing. -/
theorem recover_booked (h : t.Booked history attempt) {answers : Answers μ}
    (hadopt : answers.onContextAdopt = .ok ())
    (hgrant : answers.tryAuthenticationFallback = .ok true → attempt.grantsFallback = true)
    (error : AssistantMessage) :
    (recover opts answers error t).1.Booked history attempt ∧
      ((recover opts answers error t).2 = .handled →
        (recover opts answers error t).1.retryError = some error) ∧
      ((recover opts answers error t).2 = .unhandled → (recover opts answers error t).1 = t) := by
  unfold recover
  split
  next => exact ⟨h, nofun, fun _ => rfl⟩
  next hcommit =>
    have hquiet : t.emittedCommittedContent = false := by simpa using hcommit
    cases hauth : answers.tryAuthenticationFallback with
    | error thrown => exact ⟨h, nofun, nofun⟩
    | ok granted =>
      cases granted with
      | true =>
        refine ⟨{ h with failed := ?_, granted := ?_, activated := ?_ }, fun _ => rfl, nofun⟩
        · exact fun _ => hquiet
        · exact fun _ => hgrant hauth
        · exact fun _ => rfl
      | false =>
        simp only
        split
        next =>
          obtain ⟨hbooked, hhandled, herror⟩ := recoverSafety_booked opts h hquiet hadopt error
          exact ⟨hbooked, fun _ => herror, fun hun => by rw [hhandled] at hun; cases hun⟩
        next =>
          split
          next hfirst =>
            have hnot : t.contextRetryAttempted = false := by
              simp only [Bool.and_eq_true, Bool.not_eq_true'] at hfirst
              exact hfirst.1.1
            obtain ⟨hbooked, herror, hun⟩ := recoverContext_booked h hquiet hadopt hnot error
            exact ⟨hbooked, herror, fun h' => absurd h' hun⟩
          next =>
            split
            next => exact ⟨h.failing hquiet error, fun _ => rfl, nofun⟩
            next => exact ⟨h, nofun, fun _ => rfl⟩

/-- The callbacks return wherever nothing would catch their exception, and a context that
is adopted in the `try` block is adopted. -/
structure Attempt.Returns (a : Attempt μ) : Prop where
  adopted_inTry : a.inTry.onContextAdopt = .ok ()
  fallback_inCatch : a.inCatch.tryAuthenticationFallback.isOk = true
  compacted_inCatch : a.inCatch.compactContext.isOk = true
  adopted_inCatch : a.inCatch.onContextAdopt = .ok ()
  told_inCatch : a.inCatch.onContextRetry = .ok ()
  rehydrated : a.rehydrateContext.isOk = true
  adopted : a.onContextAdopt = .ok ()
  told : a.onRetry = .ok ()

theorem recoverSafety_returns {answers : Answers μ} (hadopt : answers.onContextAdopt = .ok ())
    (error : AssistantMessage) : (recoverSafety opts answers error t).2 = .handled := by
  unfold recoverSafety
  rw [hadopt]
  split
  · rfl
  · rfl

theorem recoverContext_returns (ha : attempt.Returns) (error : AssistantMessage) :
    (recoverContext attempt.inCatch error t).2 = .handled := by
  have hcompacted := ha.compacted_inCatch
  unfold recoverContext
  rw [ha.adopted_inCatch, ha.told_inCatch]
  cases hc : attempt.inCatch.compactContext with
  | error e =>
    rw [hc] at hcompacted
    cases hcompacted
  | ok compacted => rfl

variable (opts) in
theorem recover_returns (ha : attempt.Returns) (error : AssistantMessage) (thrown : JsString) :
    (recover opts attempt.inCatch error t).2 ≠ .threw thrown := by
  have hfallback := ha.fallback_inCatch
  unfold recover
  split
  next => nofun
  next =>
    cases hf : attempt.inCatch.tryAuthenticationFallback with
    | error e =>
      rw [hf] at hfallback
      cases hfallback
    | ok granted =>
      cases granted with
      | true => nofun
      | false =>
        simp only
        split
        next => simp [recoverSafety_returns ha.adopted_inCatch]
        next =>
          split
          next => simp [recoverContext_returns ha]
          next => split <;> nofun

/-! ## The inner loop -/

/-- How a turn stands when its `try` block is left: returned with a terminal event as the
last thing pushed, or still booked. -/
def TriedWell (history : List (Attempt μ)) (attempt : Attempt μ) : Turn μ × Tried → Prop
  | (t, .returned) => Finished t.trace (history ++ [attempt])
  | (t, _) => t.Booked history attempt

theorem grantsFallback_inTry (h : attempt.inTry.tryAuthenticationFallback = .ok true) :
    attempt.grantsFallback = true := by
  simp [Attempt.grantsFallback, h]

theorem grantsFallback_inCatch (h : attempt.inCatch.tryAuthenticationFallback = .ok true) :
    attempt.grantsFallback = true := by
  simp [Attempt.grantsFallback, h]

variable (opts) in
/-- Everything that the inner loop can do, for the events still to come. -/
theorem readEvents_tried (hadopt : attempt.inTry.onContextAdopt = .ok ()) (events : List ModelEvent)
    (h : t.Booked history attempt) (hnone : t.retryError = none) :
    TriedWell history attempt (readEvents opts attempt events t) := by
  induction events generalizing t with
  | nil =>
    show TriedWell history attempt (endEvents opts attempt.ending t)
    cases hending : attempt.ending with
    | ended =>
      simp only [endEvents]
      split
      next => exact h
      next hcommitted => exact h.failing (by simpa using hcommitted) _
    | threw error => exact h
    | timedOut => exact { h with }
  | cons event events ih =>
    unfold readEvents
    split
    next hreasoning =>
      rw [Bool.and_eq_true] at hreasoning
      refine ih { h with buffered := ?_ } hnone
      intro e he
      rcases List.mem_append.mp he with he | he
      · exact h.buffered e he
      · rw [List.mem_singleton.mp he]
        exact hreasoning.2
    next =>
      have hforward : event.isTerminal = true →
          TriedWell history attempt (forwardTerminal event t) :=
        fun hterm => h.finish hterm h.buffered
      have hcommit : event.isTerminal = false → TriedWell history attempt
          (readEvents opts attempt events
            { t.flushBufferedPrelude.push event with emittedCommittedContent := true }) :=
        fun hevent => ih (h.commit hevent hnone) hnone
      cases event with
      | start => exact hcommit rfl
      | thinking => exact hcommit rfl
      | content => exact hcommit rfl
      | done message =>
        simp only
        split
        next hempty =>
          rw [Bool.and_eq_true] at hempty
          exact h.failing (by simpa using hempty.1) _
        next => exact hforward rfl
      | error reason error =>
        obtain ⟨hbooked, -, hun⟩ :=
          recover_booked opts h hadopt grantsFallback_inTry error
        simp only
        cases hrecover : recover opts attempt.inTry error t with
        | mk t' outcome =>
          rw [hrecover] at hbooked hun
          cases outcome with
          | handled => exact hbooked
          | threw thrown => exact hbooked
          | unhandled =>
            obtain rfl : t' = t := hun rfl
            exact hforward rfl

/-! ## After the attempt -/

/-- How a run stands after the attempts of `history`. -/
def StreamRun.StandsWell (history : List (Attempt μ)) (run : StreamRun μ) : Prop :=
  match run.status with
  | .looping loop => AtHead loop run.trace history
  | .returned => Finished run.trace history
  | .rejected _ => False

section

variable (h : t.Booked history attempt)
include h

theorem returnError_standsWell {held : List ModelEvent}
    (hheld : ∀ e ∈ held, isUncommittedReasoningEvent e = true) {t' : Turn μ}
    (htrace : t'.trace = t.trace ++ held.map pushed) (reason : StopReason)
    (error : AssistantMessage) :
    (returnError reason error t').StandsWell (history ++ [attempt]) := by
  show Finished (t'.trace ++ [.pushed (.error reason error)]) _
  rw [htrace]
  exact h.finish rfl hheld

/-- The error is pushed after the reasoning held back. -/
theorem returnError_flushed (reason : StopReason) (error : AssistantMessage) :
    (returnError reason error t.flushBufferedPrelude).StandsWell (history ++ [attempt]) :=
  returnError_standsWell h h.buffered rfl reason error

theorem returnError_bare (reason : StopReason) (error : AssistantMessage) :
    (returnError reason error t).StandsWell (history ++ [attempt]) := by
  refine @returnError_standsWell μ attempt history t h [] ?_ t ?_ reason error
  · simp
  · simp

theorem Turn.Booked.withContext (context : List μ) :
    ({ t with activeContext := context } : Turn μ).Booked history attempt :=
  { h with }

end

section

variable (ha : attempt.Returns)
include ha

theorem notifying_standsWell {event : RetryEvent} {rest : Turn μ → StreamRun μ}
    (hrest : (rest { t with trace := t.trace ++ [.notified event] }).StandsWell
      (history ++ [attempt])) :
    (notifying attempt event t rest).StandsWell (history ++ [attempt]) := by
  unfold notifying
  rw [ha.told]
  exact hrest

theorem adopting_standsWell {context : List μ} {rest : Turn μ → StreamRun μ}
    (hrest : (rest { t with activeContext := context }).StandsWell (history ++ [attempt])) :
    (adopting attempt context t rest).StandsWell (history ++ [attempt]) := by
  unfold adopting
  rw [ha.adopted]
  exact hrest

theorem rehydrating_standsWell {rest : Turn μ → StreamRun μ}
    (hrest : ∀ context, (rest { t with activeContext := context }).StandsWell
      (history ++ [attempt])) :
    (rehydrating opts attempt t rest).StandsWell (history ++ [attempt]) := by
  unfold rehydrating
  split
  next =>
    have hok := ha.rehydrated
    cases hcontext : attempt.rehydrateContext with
    | error thrown =>
      rw [hcontext] at hok
      cases hok
    | ok context => exact adopting_standsWell ha (hrest context)
  next => exact hrest t.activeContext

section

variable (h : t.Booked history attempt)
include h

theorem awaitSteering_standsWell
    (hquiet : t.emittedCommittedContent = false) (error : AssistantMessage) :
    (awaitSteering attempt error t).StandsWell (history ++ [attempt]) := by
  refine notifying_standsWell ha ?_
  generalize RetryEvent.mk _ _ _ _ _ _ = event
  have hnote := h.notified event
  split
  next message messages hsteer =>
    have hbrings : attempt.bringsSteering = true := by
      simp [Attempt.bringsSteering, hsteer]
    refine adopting_standsWell ha ?_
    exact hnote.again rfl rfl rfl hquiet hbrings rfl
  next =>
    split
    next => exact returnError_bare hnote _ _
    next => exact returnError_bare hnote _ _

theorem retryAfterDelay_standsWell (hquiet : t.emittedCommittedContent = false)
    (hroom : t.recoveryKind = .transient → t.transientRetries < MAX_TRANSIENT_MODEL_RETRIES)
    (hautomatic : t.recoveryKind ≠ .transient → t.automaticSafetyRetry = true)
    (error : AssistantMessage) :
    (retryAfterDelay opts attempt error t).StandsWell (history ++ [attempt]) := by
  refine rehydrating_standsWell ha fun context => notifying_standsWell ha ?_
  generalize RetryEvent.mk _ _ _ _ _ _ = event
  have hnote := (h.withContext context).notified event
  cases hdelay : attempt.retryDelay with
  | false => exact returnError_bare hnote _ _
  | true =>
    rw [if_pos rfl]
    by_cases hkind : t.recoveryKind = .transient
    · rw [if_pos hkind]
      exact hnote.again rfl rfl rfl hquiet (hroom hkind) rfl
    · rw [if_neg hkind]
      exact hnote.again rfl rfl rfl hquiet (hautomatic hkind) rfl

theorem afterAttempt_standsWell :
    (afterAttempt opts attempt t).StandsWell (history ++ [attempt]) := by
  unfold afterAttempt
  cases herror : t.retryError with
  | none => exact returnError_flushed h _ _
  | some error =>
    have hquiet : t.emittedCommittedContent = false := h.failed (by rw [herror]; rfl)
    simp only
    split
    next =>
      split
      next hcompacted => exact h.again rfl rfl rfl hquiet hcompacted rfl
      next => exact returnError_flushed h _ _
    next =>
      split
      next hactivated =>
        refine rehydrating_standsWell ha fun context => notifying_standsWell ha ?_
        exact ((h.withContext context).notified _).again rfl rfl rfl hquiet (h.granted hactivated) rfl
      next hactivated =>
        split
        next => exact returnError_bare h _ _
        next hroom =>
          split
          next => exact awaitSteering_standsWell ha h hquiet error
          next hautomatic =>
            refine retryAfterDelay_standsWell ha h hquiet ?_ ?_ error
            · intro hkind
              exact not_le.mp fun hlimit => hroom ⟨hkind, hlimit⟩
            · intro hkind
              cases hcase : t.recoveryKind with
              | transient => exact absurd hcase hkind
              | safetyGuardrail => simpa [hcase] using hautomatic
              | authenticationFallback => exact absurd (h.activated hcase) hactivated

theorem caught_standsWell
    (thrown : JsString) : (caught opts attempt thrown t).StandsWell (history ++ [attempt]) := by
  unfold caught
  simp only
  generalize assistantErrorMessage (if t.eventIdleTimedOut = true then _ else thrown) = message
  obtain ⟨hbooked, -, hun⟩ :=
    recover_booked opts h ha.adopted_inCatch grantsFallback_inCatch message
  have hreturns := recover_returns opts ha (t := t) message
  cases hrecover : recover opts attempt.inCatch message t with
  | mk t' outcome =>
    rw [hrecover] at hbooked hun hreturns
    cases outcome with
    | handled => exact afterAttempt_standsWell ha hbooked
    | threw error => exact absurd rfl (hreturns error)
    | unhandled =>
      obtain rfl : t' = t := hun rfl
      exact returnError_flushed h _ _

end

end

variable (opts) in
/-- One turn of the loop. -/
theorem step_standsWell {run : StreamRun μ} (h : run.StandsWell history) (ha : attempt.Returns) :
    (run.step opts attempt).StandsWell (history ++ [attempt]) := by
  obtain ⟨status, trace⟩ := run
  cases status with
  | looping loop =>
    have hstart := AtHead.start h attempt
    have htried := readEvents_tried opts ha.adopted_inTry attempt.events hstart rfl
    simp only [StreamRun.step]
    cases hread : readEvents opts attempt attempt.events (Turn.start loop trace) with
    | mk t outcome =>
      rw [hread] at htried
      cases outcome with
      | returned => exact htried
      | broke => exact afterAttempt_standsWell ha htried
      | threw error => exact caught_standsWell ha htried error
  | returned =>
    refine { h with requests := ?_ }
    have hrequests : trace.countP isRequest ≤ _ := h.requests
    rw [List.countP_append, List.countP_append]
    show trace.countP isRequest ≤ _
    omega
  | rejected error => exact h

theorem run_standsWell (opts : StreamOptions μ) {run : StreamRun μ} (h : run.StandsWell history)
    {attempts : List (Attempt μ)} (ha : ∀ a ∈ attempts, a.Returns) :
    (runSteps (StreamRun.step opts) run attempts).StandsWell (history ++ attempts) := by
  induction attempts generalizing run history with
  | nil => simpa using h
  | cons attempt attempts ih =>
    have hstep := step_standsWell opts h (ha attempt (by simp))
    have hrest := ih hstep fun a hmem => ha a (by simp [hmem])
    simpa using hrest

/-! ## Every call of the stream -/

/-- What holds of a call of the stream after any attempts: while it goes on it has pushed
no terminal event, and when it is over it has pushed one, as its last event. -/
structure StreamRun.Kept (run : StreamRun μ) (attempts : List (Attempt μ)) : Prop where
  going : ∀ loop, run.status = .looping loop → run.trace.countP Happening.isTerminal = 0
  terminal : (∀ loop, run.status ≠ .looping loop) →
    run.trace.countP Happening.isTerminal = 1 ∧
      ∃ earlier event, run.trace = earlier ++ [.pushed event] ∧ event.isTerminal = true
  one_attempt : OneAttempt run.trace
  transient : run.trace.countP (Happening.isRetry .transient) ≤ 4
  compactions : run.trace.countP Happening.isCompaction ≤ 1
  recoveries : run.trace.countP Happening.isRecovery ≤ 1
  requests : run.trace.countP Happening.isRequest ≤
    7 + attempts.countP Attempt.grantsFallback + attempts.countP Attempt.bringsSteering
  ends : 7 + attempts.countP Attempt.grantsFallback + attempts.countP Attempt.bringsSteering ≤
    attempts.length → ∀ loop, run.status ≠ .looping loop

theorem AtHead.kept (h : AtHead loop trace history) :
    StreamRun.Kept ⟨.looping loop, trace⟩ history := by
  have hrounds := rounds_le h.toBooks h.context h.safety
  rw [h.rounds] at hrounds
  constructor
  · exact fun _ _ => h.terminals
  · exact fun hover => absurd rfl (hover loop)
  · exact h.one_attempt
  · exact h.transient
  · exact h.compactions.trans_le (Bool.toNat_le _)
  · exact h.recoveries.trans_le (Bool.toNat_le _)
  · rw [h.requests]
    omega
  · intro hlong
    omega

theorem Finished.kept (h : Finished trace history) : StreamRun.Kept ⟨.returned, trace⟩ history where
  going := nofun
  terminal := fun _ => ⟨h.terminals, h.last⟩
  one_attempt := h.one_attempt
  transient := h.transient
  compactions := h.compactions
  recoveries := h.recoveries
  requests := h.requests
  ends := fun _ => nofun

/-- Whatever the model and the signals do, a call of the stream pushes one terminal event
and content of one attempt, within its retries, where no callback throws out of the loop. -/
theorem stream_kept (opts : StreamOptions μ) (context : List μ) (attempts : List (Attempt μ))
    (hreturns : ∀ a ∈ attempts, a.Returns) :
    (runSteps (StreamRun.step opts) (StreamRun.init context) attempts).Kept attempts := by
  have hinit : (StreamRun.init context).StandsWell [] := by
    refine ⟨⟨eachAfter_nil _, ?_, rfl, rfl, rfl, ?_, ?_, rfl⟩, rfl, rfl, rfl, ?_, ?_⟩
    all_goals exact Nat.zero_le _
  have hrun := run_standsWell opts hinit hreturns
  rw [List.nil_append] at hrun
  cases hfinal : runSteps (StreamRun.step opts) (StreamRun.init context) attempts with
  | mk status trace =>
    rw [hfinal] at hrun
    cases status with
    | looping loop => exact AtHead.kept hrun
    | returned => exact Finished.kept hrun
    | rejected error => exact hrun.elim

/-- Options that lower ASCII letters and know no retryable error of the model library. -/
def plainStreamOptions : StreamOptions JsString where
  toLowerCase s := s.map fun u => if 65 ≤ u ∧ u ≤ 90 then u + 32 else u
  isRetryableAssistantError _ := false
  safetyRecoverySteeringMessage _ := (.safetyAdjustment, js "Provider guardrail recovery")
  firstEventTimeoutMs := 180000
  eventIdleTimeoutMs := 180000
  compactContext := true
  rehydrateContext := true

/-- Callbacks that grant nothing and return. -/
def plainAnswers : Answers JsString where
  tryAuthenticationFallback := .ok false
  compactContext := .ok []
  onContextAdopt := .ok ()
  onContextRetry := .ok ()

/-- An attempt with these events whose callbacks return and whose delay passes. -/
def plainAttempt (events : List ModelEvent) (ending : Ending) : Attempt JsString where
  events := events
  ending := ending
  inTry := plainAnswers
  inCatch := plainAnswers
  rehydrateContext := .ok []
  onContextAdopt := .ok ()
  onRetry := .ok ()
  waitForSafetyRecovery := none
  aborted := false
  retryDelay := true

/-- A closed connection, then an answer. -/
def answeredAttempts : List (Attempt JsString) :=
  [plainAttempt [.start] (.threw (js "WebSocket closed")),
    plainAttempt [.start, .content .textDelta (js "ok"),
      .done ⟨[.text (js "ok")], .stop, none⟩] .ended]

theorem stream_kept_answered :
    (∀ a ∈ answeredAttempts, a.Returns) ∧
      (runSteps (StreamRun.step plainStreamOptions) (StreamRun.init [js "prompt"])
        answeredAttempts).Kept answeredAttempts := by
  have hreturns : ∀ a ∈ answeredAttempts, a.Returns := by
    intro a ha
    rcases List.mem_cons.mp ha with rfl | ha
    · exact ⟨rfl, rfl, rfl, rfl, rfl, rfl, rfl, rfl⟩
    · obtain rfl := List.mem_singleton.mp ha
      exact ⟨rfl, rfl, rfl, rfl, rfl, rfl, rfl, rfl⟩
  exact ⟨hreturns, stream_kept plainStreamOptions [js "prompt"] answeredAttempts hreturns⟩

/-- The model selected for the next request is not known: the call of the model throws,
and in the `catch` block so does the callback that reads the same selection. -/
def unknownModelAttempt : Attempt JsString :=
  { plainAttempt [] (.threw (js "Unknown model xai/none")) with
    inCatch :=
      { plainAnswers with
        tryAuthenticationFallback := .error (js "Unknown model xai/none") } }

/-- The call is over, and it has pushed no terminal event. -/
theorem unknown_model_never_terminates :
    ¬ (runSteps (StreamRun.step plainStreamOptions) (StreamRun.init [js "prompt"])
        [unknownModelAttempt]).Kept [unknownModelAttempt] := by
  intro hkept
  have hnone : (runSteps (StreamRun.step plainStreamOptions) (StreamRun.init [js "prompt"])
      [unknownModelAttempt]).trace.countP Happening.isTerminal = 0 := by decide +kernel
  have hone := (hkept.terminal nofun).1
  rw [hnone] at hone
  cases hone

end Beale.Executor
