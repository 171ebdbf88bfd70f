import Beale.Control.Stream
import Beale.Library.Lines

/-!
# The framing of control lines

What is handed to `handleLine` is the text cut at its newlines, however the text is
cut into chunks: a line that a chunk leaves open waits in the buffer, and handling
lines touches neither the buffer nor the listeners.
-/

namespace Beale.Control

open Beale.Library ControlStream

/-- The lines that an input hands to `handleLine`. The end of the input hands over what
is left in the buffer, unless it is blank. -/
def ControlStream.passed (s : ControlStream) : Input → List JsString
  | .data chunk => if s.started then s.chunkLines chunk else []
  | .ended => if s.started then [dropReturn s.buffer].filter (!isBlank ·) else []
  | _ => []

/-- The lines that are handed to `handleLine` in a run. -/
def linesPassed (env : Platform) (s : ControlStream) : List Input → List JsString
  | [] => []
  | input :: inputs => s.passed input ++ linesPassed env (step env s input) inputs

/-- The lines of a text, the last one only if it is not blank. -/
def framed (text : JsString) : List JsString :=
  (splitLines text).1.map dropReturn ++ [dropReturn (splitLines text).2].filter (!isBlank ·)

/-! ## Cutting a text -/

theorem splitLines_eq (text : JsString) : splitLines text = cutLines 10 text := by
  induction text with
  | nil => rfl
  | cons u rest ih =>
    rw [splitLines, cutLines, ih]
    rcases cutLines 10 rest with ⟨_ | ⟨line, lines⟩, last⟩
    · rfl
    · rfl

theorem splitLines_append (text text' : JsString) :
    splitLines (text ++ text') =
      ((splitLines text).1 ++ (splitLines ((splitLines text).2 ++ text')).1,
        (splitLines ((splitLines text).2 ++ text')).2) := by
  simp only [splitLines_eq]
  exact cutLines_append 10 text text'

/-- What follows the last newline is one open line. -/
theorem splitLines_rest (text : JsString) :
    splitLines (splitLines text).2 = ([], (splitLines text).2) := by
  have happend := splitLines_append text []
  rw [List.append_nil, List.append_nil] at happend
  refine Prod.ext ?_ (congrArg Prod.snd happend).symm
  exact List.self_eq_append_right.mp (congrArg Prod.fst happend)

theorem framed_append (buffer chunk rest : JsString) :
    framed (buffer ++ chunk ++ rest) =
      (splitLines (buffer ++ chunk)).1.map dropReturn ++
        framed ((splitLines (buffer ++ chunk)).2 ++ rest) := by
  rw [framed, splitLines_append (buffer ++ chunk) rest, List.map_append, List.append_assoc]
  rfl

/-! ## What lines leave alone -/

variable {env : Platform} {s s' : ControlStream}

def ControlStream.intake (s : ControlStream) : JsString × Bool := (s.buffer, s.started)

theorem ControlStream.ApprovalsOnly.intake (h : ApprovalsOnly s s') : s'.intake = s.intake :=
  h.read ControlStream.intake fun _ _ _ _ _ => rfl

theorem resolveSteeringWaiters_intake (s : ControlStream) (instructions : List JsString) :
    (s.resolveSteeringWaiters instructions).intake = s.intake := by
  rw [resolveSteeringWaiters]
  split
  · rfl
  · rfl

theorem drainSteering_intake (s : ControlStream) : s.drainSteering.intake = s.intake :=
  resolveSteeringWaiters_intake _ _

theorem applyMessage_intake {message : ControlMessage} (h : s.applyMessage message = .ok s') :
    s'.intake = s.intake := by
  obtain ⟨requestId, body⟩ := message
  cases body with
  | pause | configure | configureShellSafety => cases h; rfl
  | resume | steer =>
    simp only [applyMessage] at h
    split at h <;> cases h
    · exact drainSteering_intake _
    · rfl
  | stop =>
    cases h
    exact (denyAllApprovals_approvalsOnly _ _).intake.trans (resolveSteeringWaiters_intake _ _)
  | removeSteering target =>
    simp only [applyMessage] at h
    split at h <;> cases h
    rfl
  | runbookExecute request =>
    simp only [applyMessage] at h
    split at h
    · cases h
    · split at h <;> cases h
      rfl
  | resolveApproval kind id decision =>
    simp only [applyMessage] at h
    split at h <;> cases h
    exact (resolveApprovalWaiter_approvalsOnly ..).intake

theorem handleLine_intake (env : Platform) (s : ControlStream) (line : JsString) :
    (s.handleLine env line).intake = s.intake :=
  handleLine_invariant (I := fun t => t.intake = s.intake) (fun _ _ _ h => h)
    (fun _ _ _ h => applyMessage_intake h) rfl

theorem handleData_intake (env : Platform) (s : ControlStream) (chunk : JsString) :
    (s.handleData env chunk).intake = (s.keepRest chunk).intake :=
  runSteps_invariant (I := fun t : ControlStream => t.intake = (s.keepRest chunk).intake)
    (fun t line h => (handleLine_intake env t line).trans h) rfl _

/-! ## Every partition -/

/-- What waits in the buffer goes before the chunks that come. -/
theorem linesPassed_chunks (hstart : s.started = true) (hbuffer : splitLines s.buffer = ([], s.buffer))
    (chunks : List JsString) :
    linesPassed env s (chunks.map .data ++ [.ended]) = framed (s.buffer ++ chunks.flatten) := by
  induction chunks generalizing s with
  | nil =>
    show s.passed .ended ++ [] = _
    rw [List.append_nil, List.flatten_nil, List.append_nil, framed, hbuffer]
    exact if_pos hstart
  | cons chunk chunks ih =>
    have hintake := handleData_intake env s chunk
    have hnext : (s.handleData env chunk).buffer = (splitLines (s.buffer ++ chunk)).2 :=
      congrArg Prod.fst hintake
    have hstep : step env s (.data chunk) = s.handleData env chunk := if_pos hstart
    have hrest := ih ((congrArg Prod.snd hintake).trans hstart) (hnext ▸ splitLines_rest _)
    rw [List.map_cons, List.cons_append, linesPassed, hstep, hrest, hnext, List.flatten_cons,
      ← List.append_assoc, framed_append]
    exact congrArg (· ++ _) (if_pos hstart)

/-- The lines that are handled are those of the text, in every partition of it into chunks. -/
theorem partition_lines (env : Platform) (initial : List (RequestId × JsString))
    (chunks : List JsString) :
    linesPassed env (.new initial) (.start :: (chunks.map .data ++ [.ended])) =
      framed chunks.flatten :=
  linesPassed_chunks rfl rfl chunks

end Beale.Control
