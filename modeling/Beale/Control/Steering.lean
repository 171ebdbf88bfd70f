import Beale.Control.Stream
import Beale.Library.Ledger

/-!
# Steering: no instruction is lost, none is handed out twice

The queue of the stream holds bare texts. Here every accepted `steer` gets a
ticket, and the log is replayed into a ledger that says where each ticket is:
queued, handed out to a call, or removed on behalf of a request.

- `reached_steeringConserved`: every run that meets it conserves the steering.
- `remove_takes_other_request`: where it fails.
-/

namespace Beale.Control

open Beale.Library

/-- An accepted steering request, numbered in the order of acceptance. -/
structure Ticket where
  number : Nat
  requestId : Option RequestId
  instruction : JsString
deriving DecidableEq, Repr

/-- Where the tickets are: all of them, those in the queue, those a removal took with the
request it was for, those handed out with the call that got them, and the requests that
were the target of an accepted removal. -/
structure SteeringLedger where
  accepted : List Ticket
  queued : List Ticket
  removed : List (Ticket × RequestId)
  delivered : List (Ticket × Nat)
  targets : List RequestId
deriving DecidableEq, Repr

namespace SteeringLedger

def empty : SteeringLedger := ⟨[], [], [], [], []⟩

/-- The ledger after one more observation. A hand-out gives every call the whole queue. -/
def record (L : SteeringLedger) : Observation → SteeringLedger
  | .queued requestId instruction =>
    let ticket : Ticket := ⟨L.accepted.length, requestId, instruction⟩
    { L with accepted := L.accepted ++ [ticket], queued := L.queued ++ [ticket] }
  | .unqueued target none => { L with targets := L.targets ++ [target] }
  | .unqueued target (some i) =>
    { L with
      queued := L.queued.eraseIdx i
      removed := L.removed ++ (L.queued[i]?.map fun ticket => (ticket, target)).toList
      targets := L.targets ++ [target] }
  | .handedOut calls instructions =>
    if instructions = [] then L
    else { L with
      queued := []
      delivered := L.delivered ++ L.queued.flatMap fun ticket => calls.map fun c => (ticket, c) }
  | _ => L

end SteeringLedger

def ledger (log : List Observation) : SteeringLedger := log.foldl SteeringLedger.record .empty

theorem ledger_concat (log : List Observation) (o : Observation) :
    ledger (log ++ [o]) = (ledger log).record o := by
  rw [ledger, List.foldl_append]
  rfl

/-- The tickets in the queue spell the stream's queue. Every ticket whose request is never
removed has been handed out once or is queued, and a removal took no other request's. -/
structure SteeringConserved (s : ControlStream) : Prop where
  spelled : (ledger s.log).queued.map Ticket.instruction = s.steeringInstructions
  once : ∀ t ∈ (ledger s.log).accepted, (∀ target ∈ (ledger s.log).targets,
    t.requestId ≠ some target) →
      ((ledger s.log).delivered.map Prod.fst).count t + (ledger s.log).queued.count t = 1
  own : ∀ r ∈ (ledger s.log).removed, r.1.requestId = some r.2

/-! ## The books -/

structure SteeringBooks (log : List Observation) (queue : List JsString) : Prop where
  spelled : (ledger log).queued.map Ticket.instruction = queue
  numbered : ∀ t ∈ (ledger log).accepted, t.number < (ledger log).accepted.length
  balanced : Balanced (ledger log).accepted
    ((ledger log).delivered.map Prod.fst ++ (ledger log).removed.map Prod.fst) (ledger log).queued
  own : ∀ r ∈ (ledger log).removed, r.1.requestId = some r.2
  targeted : ∀ r ∈ (ledger log).removed, r.2 ∈ (ledger log).targets

namespace SteeringBooks

variable {log : List Observation} {queue : List JsString}

theorem nil : SteeringBooks [] [] where
  spelled := rfl
  numbered := by simp [ledger, SteeringLedger.empty]
  balanced := Balanced.nil
  own := by simp [ledger, SteeringLedger.empty]
  targeted := by simp [ledger, SteeringLedger.empty]

section

variable (h : SteeringBooks log queue)
include h

theorem quiet {os : List Observation}
    (hos : ∀ o ∈ os, ∀ L : SteeringLedger, L.record o = L) : SteeringBooks (log ++ os) queue := by
  have hledger : ledger (log ++ os) = ledger log := by
    rw [ledger, List.foldl_append]
    exact foldl_quiet hos _
  exact ⟨hledger ▸ h.spelled, hledger ▸ h.numbered, hledger ▸ h.balanced, hledger ▸ h.own,
    hledger ▸ h.targeted⟩

theorem quiet_one {o : Observation}
    (ho : ∀ L : SteeringLedger, L.record o = L) : SteeringBooks (log ++ [o]) queue :=
  h.quiet (by simpa using ho)

/-- An accepted instruction gets a new ticket, which is queued. -/
theorem queued (id : Option RequestId) (instruction : JsString) :
    SteeringBooks (log ++ [.queued id instruction]) (queue ++ [instruction]) := by
  have hledger := ledger_concat log (.queued id instruction)
  have hnew : (⟨(ledger log).accepted.length, id, instruction⟩ : Ticket) ∉ (ledger log).accepted :=
    fun hmem => Nat.lt_irrefl _ (h.numbered _ hmem)
  refine ⟨?_, ?_, ?_, ?_, ?_⟩ <;> rw [hledger]
  · simp [SteeringLedger.record, h.spelled]
  · intro t ht
    simp only [SteeringLedger.record, List.mem_append, List.mem_singleton, List.length_append,
      List.length_singleton] at ht ⊢
    rcases ht with ht | rfl
    · exact Nat.lt_succ_of_lt (h.numbered t ht)
    · exact Nat.lt_succ_self _
  · exact h.balanced.open_item hnew
  · exact h.own
  · exact h.targeted

/-- A removal that finds no entry with its text. -/
theorem unqueued_none (target : RequestId) :
    SteeringBooks (log ++ [.unqueued target none]) queue := by
  have hledger := ledger_concat log (.unqueued target none)
  refine ⟨?_, ?_, ?_, ?_, ?_⟩ <;> rw [hledger]
  · exact h.spelled
  · exact h.numbered
  · exact h.balanced
  · exact h.own
  · intro r hr
    exact List.mem_append_left _ (h.targeted r hr)

/-- A removal that takes an entry of its own request. -/
theorem unqueued_some (target : RequestId) {i : Nat} {t : Ticket}
    (ht : (ledger log).queued[i]? = some t) (hown : t.requestId = some target) :
    SteeringBooks (log ++ [.unqueued target (some i)]) (queue.eraseIdx i) := by
  have hledger := ledger_concat log (.unqueued target (some i))
  obtain ⟨hi, hget⟩ := List.getElem?_eq_some_iff.mp ht
  have hrem : ((ledger log).record (.unqueued target (some i))).removed
      = (ledger log).removed ++ [(t, target)] := by
    simp [SteeringLedger.record, ht]
  refine ⟨?_, ?_, ?_, ?_, ?_⟩ <;> rw [hledger]
  · show ((ledger log).queued.eraseIdx i).map Ticket.instruction = queue.eraseIdx i
    rw [← h.spelled, List.eraseIdx_map]
  · exact h.numbered
  · refine h.balanced.discharge (d := [t]) ?_ ?_
    · exact (hget ▸ List.getElem_cons_eraseIdx_perm hi).symm
    · rw [hrem, List.map_append, ← List.append_assoc]
      exact .refl _
  · rw [hrem]
    intro r hr
    rcases List.mem_append.mp hr with hr | hr
    · exact h.own r hr
    · rw [List.mem_singleton.mp hr]
      exact hown
  · rw [hrem]
    intro r hr
    rcases List.mem_append.mp hr with hr | hr
    · exact List.mem_append_left _ (h.targeted r hr)
    · rw [List.mem_singleton.mp hr]
      exact List.mem_append_right _ (List.mem_singleton_self target)

theorem handedOut {calls : List Nat} (hcalls : queue = [] ∨ calls.length = 1) :
    SteeringBooks (log ++ [.handedOut calls queue]) [] := by
  by_cases hempty : queue = []
  · subst hempty
    exact h.quiet_one fun L => by simp [SteeringLedger.record]
  · obtain ⟨c, rfl⟩ := List.length_eq_one_iff.mp (hcalls.resolve_left hempty)
    have hledger := ledger_concat log (.handedOut [c] queue)
    rw [SteeringLedger.record, if_neg hempty] at hledger
    refine ⟨?_, ?_, ?_, ?_, ?_⟩ <;> rw [hledger]
    · rfl
    · exact h.numbered
    · refine h.balanced.discharge (d := (ledger log).queued) (by simp) ?_
      have hfst : ((ledger log).queued.flatMap fun t => [c].map fun c => (t, c)).map Prod.fst
          = (ledger log).queued := by
        simp [List.map_flatMap]
      rw [List.map_append, hfst, List.append_assoc, List.append_assoc]
      exact List.perm_append_comm.append_left _
    · exact h.own
    · exact h.targeted

end

end SteeringBooks

/-! ## What the stream does to its books -/

def ControlStream.steeringBooks (s : ControlStream) : Prop :=
  SteeringBooks s.log s.steeringInstructions

namespace ControlStream

variable {s : ControlStream}

theorem ApprovalsOnly.steeringBooks {s' : ControlStream} (h : ApprovalsOnly s s')
    (hs : s.steeringBooks) : s'.steeringBooks := by
  obtain ⟨os, hlog, hos⟩ := h.log
  rw [ControlStream.steeringBooks, hlog,
    h.read ControlStream.steeringInstructions fun _ _ _ _ _ => rfl]
  refine SteeringBooks.quiet hs fun o ho L => ?_
  have happroval := hos o ho
  cases o <;> first | rfl | exact happroval.elim

theorem resolveSteeringWaiters_nil_books (hs : s.steeringBooks) :
    (s.resolveSteeringWaiters []).steeringBooks := by
  rw [resolveSteeringWaiters]
  split
  · exact hs
  · exact SteeringBooks.quiet_one hs fun L => by simp [SteeringLedger.record]

theorem drainSteering_books (hs : s.steeringBooks) (hpaused : s.paused = false)
    (hone : s.steeringInstructions = [] ∨ s.steeringWaiters.length = 1) :
    s.drainSteering.steeringBooks := by
  rw [drainSteering, resolveSteeringWaiters, if_neg (by simp [hpaused])]
  refine SteeringBooks.handedOut hs ?_
  simpa using hone

theorem denyAllApprovals_books (reason : ApprovalTexts → JsString)
    (hs : s.steeringBooks) : (s.denyAllApprovals reason).steeringBooks :=
  (denyAllApprovals_approvalsOnly s reason).steeringBooks hs

/-- The ticket a removal of the request would take: the first queued one whose text is
the text of the request. -/
def removedTicket? (s : ControlStream) (target : RequestId) : Option Ticket :=
  (s.activeSteering.get? target).bind fun instruction =>
    (ledger s.log).queued.find? (·.instruction = instruction)

/-- A message keeps the steering: an instruction is handed to at most one waiting call,
and a removal takes a ticket of its own request, if any. -/
def MessageSteeringSafe (s : ControlStream) (message : ControlMessage) : Prop :=
  match message.body with
  | .steer _ _ => s.paused = false → s.steeringWaiters.length ≤ 1
  | .resume => s.steeringInstructions ≠ [] → s.steeringWaiters.length ≤ 1
  | .removeSteering target => ∀ t ∈ s.removedTicket? target, t.requestId = some target
  | _ => True

instance (s : ControlStream) (message : ControlMessage) :
    Decidable (s.MessageSteeringSafe message) := by
  unfold MessageSteeringSafe
  split <;> infer_instance

/-- The index the code finds among the texts is the one of the ticket. -/
theorem unqueueSteering_books {target : RequestId} {instruction : JsString} (hs : s.steeringBooks)
    (hown : ∀ t ∈ (ledger s.log).queued.find? (·.instruction = instruction),
      t.requestId = some target) :
    (s.unqueueSteering target instruction).steeringBooks := by
  have hindex : s.steeringInstructions.findIdx? (· = instruction)
      = (ledger s.log).queued.findIdx? (·.instruction = instruction) := by
    rw [← hs.spelled, List.findIdx?_map]
    rfl
  rw [unqueueSteering]
  cases hfound : s.steeringInstructions.findIdx? (· = instruction) with
  | none => exact SteeringBooks.unqueued_none hs target
  | some i =>
    rw [hfound] at hindex
    obtain ⟨hi, htext, hfirst⟩ := List.findIdx?_eq_some_iff_getElem.mp hindex.symm
    have hticket : (ledger s.log).queued[i]? = some (ledger s.log).queued[i] :=
      List.getElem?_eq_getElem hi
    refine SteeringBooks.unqueued_some hs target hticket (hown _ ?_)
    rw [Option.mem_def, List.find?_eq_some_iff_getElem]
    exact ⟨htext, i, hi, rfl, fun j hj => by simpa using hfirst j hj⟩

theorem applyMessage_books {s' : ControlStream} {message : ControlMessage}
    (hs : s.steeringBooks) (hsafe : s.MessageSteeringSafe message)
    (h : s.applyMessage message = .ok s') : s'.steeringBooks := by
  have hbegan : (s.observe (.began message)).steeringBooks :=
    SteeringBooks.quiet_one hs fun _ => rfl
  have hledger : ledger (s.observe (.began message)).log = ledger s.log :=
    ledger_concat s.log (.began message)
  obtain ⟨requestId, body⟩ := message
  cases body with
  | pause => cases h; exact hbegan
  | resume =>
    simp only [applyMessage] at h
    split at h
    · next hwait =>
      cases h
      refine drainSteering_books hbegan rfl (Or.inr ?_)
      have hone := hsafe
      simp only [Bool.and_eq_true, Bool.not_eq_true', List.isEmpty_eq_false_iff] at hwait
      have hpos := List.length_pos_iff.mpr hwait.1
      have hle := hsafe hwait.2
      exact Nat.le_antisymm hle hpos
    · cases h; exact hbegan
  | stop => cases h; exact denyAllApprovals_books _ (resolveSteeringWaiters_nil_books hbegan)
  | configure modelSelection => cases h; exact hbegan
  | configureShellSafety mode => cases h; exact hbegan
  | removeSteering target =>
    simp only [applyMessage] at h
    split at h
    · cases h
    · cases h
    · next instruction _ hact =>
      cases h
      refine unqueueSteering_books hbegan fun t ht => hsafe t ?_
      rw [hledger] at ht
      rw [removedTicket?, show s.activeSteering.get? target = some instruction from hact]
      exact ht
  | runbookExecute request =>
    simp only [applyMessage] at h
    split at h
    · cases h
    · split at h <;> cases h
      exact hbegan
  | resolveApproval kind id decision =>
    simp only [applyMessage] at h
    split at h <;> cases h
    exact (resolveApprovalWaiter_approvalsOnly ..).steeringBooks hbegan
  | steer instruction modelSelection =>
    simp only [applyMessage] at h
    have hqueue : ((s.observe (.began ⟨requestId, .steer instruction modelSelection⟩)).queueSteering
        requestId instruction modelSelection).steeringBooks :=
      SteeringBooks.queued hbegan requestId instruction
    split at h
    · next hwait =>
      cases h
      simp only [Bool.and_eq_true, Bool.not_eq_true', List.isEmpty_eq_false_iff] at hwait
      refine drainSteering_books hqueue hwait.1 (Or.inr ?_)
      have hpos := List.length_pos_iff.mpr hwait.2
      have hle := hsafe hwait.1
      exact Nat.le_antisymm hle hpos
    · cases h; exact hqueue

/-- The message a line brings into effect, if any, keeps the steering. -/
def LineSteeringSafe (env : Platform) (s : ControlStream) (line : JsString) : Prop :=
  ∀ message ∈ freshMessage? env s line, s.MessageSteeringSafe message

instance (env : Platform) (s : ControlStream) (line : JsString) :
    Decidable (LineSteeringSafe env s line) :=
  inferInstanceAs (Decidable (∀ message ∈ freshMessage? env s line, s.MessageSteeringSafe message))

theorem handleLine_books {env : Platform} {line : JsString}
    (hs : s.steeringBooks) (hsafe : LineSteeringSafe env s line) :
    (s.handleLine env line).steeringBooks := by
  refine handleLine_invariant ?_ ?_ hs
  · intro s processed event hs
    exact SteeringBooks.quiet_one hs fun _ => rfl
  · intro message s' hfresh h
    exact applyMessage_books hs (hsafe message hfresh) h

theorem returnSteering_books (call : Nat) (hs : s.steeringBooks) :
    (s.returnSteering call).steeringBooks :=
  SteeringBooks.handedOut hs (Or.inr rfl)

/-- A call that has been woken takes the whole queue, or registers as a waiter. -/
theorem continueCall_books (next : Continuation) (hs : s.steeringBooks) :
    (s.continueCall next).steeringBooks := by
  cases next with
  | take call => exact returnSteering_books call hs
  | wait call signal =>
    simp only [continueCall]
    split
    · exact returnSteering_books call hs
    · next hempty =>
      have hnil : s.steeringInstructions = [] := by simpa using hempty
      split
      · exact SteeringBooks.quiet_one hs fun L => by simp [SteeringLedger.record]
      · rw [if_neg (by simp [hnil])]
        exact hs

end ControlStream

open ControlStream

/-! ## Runs -/

/-- Each line of a chunk keeps the steering; so does the last line, at the end of the
input, where what is still queued goes to one waiting call. -/
def SteeringSafe (env : Platform) (s : ControlStream) : Input → Prop
  | .data chunk => s.started = true →
    RunMeets (handleLine env) (LineSteeringSafe env) (s.keepRest chunk) (s.chunkLines chunk)
  | .ended => s.started = true →
    LineSteeringSafe env s.endInput (dropReturn s.buffer) ∧
      ((s.endInput.handleLine env (dropReturn s.buffer)).steeringInstructions = [] ∨
        (s.endInput.handleLine env (dropReturn s.buffer)).steeringWaiters.length = 1)
  | _ => True

instance (env : Platform) (s : ControlStream) (i : Input) : Decidable (SteeringSafe env s i) := by
  rcases i with _ | _ <;> (dsimp only [SteeringSafe]; infer_instance)

theorem step_books {env : Platform} {s : ControlStream} {i : Input} (hs : s.steeringBooks)
    (hsafe : SteeringSafe env s i) : (step env s i).steeringBooks := by
  cases i with
  | start =>
    simp only [step, start]
    split <;> exact hs
  | close =>
    have hclose : SteeringBooks (s.log ++ [.closed]) s.steeringInstructions :=
      SteeringBooks.quiet_one hs fun _ => rfl
    exact denyAllApprovals_books _ (resolveSteeringWaiters_nil_books hclose)
  | data chunk =>
    simp only [step]
    split
    · next hstart =>
      have hrest : (s.keepRest chunk).steeringBooks := hs
      exact runSteps_invariant_of_meets (fun _ _ => handleLine_books) hrest (hsafe hstart)
    · exact hs
  | ended =>
    simp only [step]
    split
    · next hstart =>
      obtain ⟨hline, hone⟩ := hsafe hstart
      have hread : (s.endInput.handleLine env (dropReturn s.buffer)).steeringBooks :=
        handleLine_books hs hline
      have hended : (({ s.endInput.handleLine env (dropReturn s.buffer) with
          paused := false }.observe .ended).resolveResumeWaiters).steeringBooks :=
        SteeringBooks.quiet_one hread fun _ => rfl
      exact denyAllApprovals_books _ (drainSteering_books hended rfl hone)
    · exact hs
  | take =>
    simp only [step, takeSteeringInstructions, waitUntilResumed]
    split <;> exact hs
  | wait signal =>
    simp only [step, waitForSteeringInstructions, waitUntilResumed]
    split <;> exact hs
  | shellApproval id signal => exact (waitForApproval_approvalsOnly s .shell id signal).steeringBooks hs
  | toolApproval id signal => exact (waitForApproval_approvalsOnly s .tool id signal).steeringBooks hs
  | abort signal =>
    simp only [step, abort]
    split
    · exact hs
    · have hleft : (s.abortSteering signal).steeringBooks :=
        SteeringBooks.quiet_one hs fun L => by simp [SteeringLedger.record]
      exact (abortApprovals_approvalsOnly _ .tool signal).steeringBooks
        ((abortApprovals_approvalsOnly _ .shell signal).steeringBooks hleft)
  | microtask =>
    simp only [step, runMicrotask]
    split
    · exact hs
    · exact continueCall_books (s := { s with microtasks := _ }) _ hs
  | setRunbookExecutionHandler handler => exact hs

/-- Balanced books conserve the steering: a ticket whose request is never removed is not
among those removed. -/
theorem conserved_of_books {s : ControlStream} (h : s.steeringBooks) : SteeringConserved s where
  spelled := h.spelled
  once t ht hnot := by
    have hrem : ((ledger s.log).removed.map Prod.fst).count t = 0 := by
      refine List.count_eq_zero.mpr fun hmem => ?_
      obtain ⟨r, hr, rfl⟩ := List.mem_map.mp hmem
      exact hnot r.2 (h.targeted r hr) (h.own r hr)
    have honce := h.balanced.once ht
    rw [List.count_append, hrem] at honce
    exact honce
  own := h.own

/-- **No lost and no duplicated steering**, in every run in which removals take their own
tickets and instructions are handed to at most one waiting call. -/
theorem reached_steeringConserved (env : Platform) (initial : List (RequestId × JsString))
    (inputs : List Input) (hsafe : RunMeets (step env) (SteeringSafe env) (.new initial) inputs) :
    SteeringConserved (reached env initial inputs) := by
  have hnew : (new initial).steeringBooks := SteeringBooks.nil
  exact conserved_of_books (runSteps_invariant_of_meets (fun _ _ => step_books) hnew hsafe)

/-- Two requests with the same text, and the removal of the first. -/
def steerA : ControlMessage := ⟨some ⟨js "A", by decide⟩, .steer (js "x") none⟩
def steerB : ControlMessage := ⟨some ⟨js "B", by decide⟩, .steer (js "x") none⟩
def removeA : ControlMessage := ⟨none, .removeSteering ⟨js "A", by decide⟩⟩

def steeringHost : Platform := messagePlatform [steerA, steerB, removeA] uuidText

/-- `A` is removed while both are queued; a call then takes what is left. -/
def removedInQueueRun : List Input :=
  [.start, .data (messageChunk [steerA, steerB]), .data (messageChunk [removeA]), .take, .microtask]

theorem reached_steeringConserved_removedInQueueRun :
    RunMeets (step steeringHost) (SteeringSafe steeringHost) (.new []) removedInQueueRun ∧
      SteeringConserved (reached steeringHost [] removedInQueueRun) := by
  have hsafe : RunMeets (step steeringHost) (SteeringSafe steeringHost) (.new [])
      removedInQueueRun := by decide +kernel
  exact ⟨hsafe, reached_steeringConserved steeringHost [] removedInQueueRun hsafe⟩

/-- `A` has been handed out when it is removed; the removal finds its text in the entry of
`B`, which is never handed out. -/
def removedAfterHandOutRun : List Input :=
  [.start, .data (messageChunk [steerA]), .take, .microtask, .data (messageChunk [steerB]),
    .data (messageChunk [removeA]), .take, .microtask]

theorem remove_takes_other_request :
    ¬SteeringConserved (reached steeringHost [] removedAfterHandOutRun) := by
  intro h
  exact absurd h.own (by decide +kernel)

end Beale.Control
