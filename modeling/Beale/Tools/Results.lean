import Beale.Library.Json
import Beale.Shell.Redaction

/-!
# Results of tools

A result is projected for the host, serialised for the model, and cut in its middle where it is too long.

- `projectToolResult`: the result of a shell tool without standard input and with redacted arguments.
- `truncateModelToolResult`: its first and last half, and a note between them.
- `previewText_take`: a preview starts as the text does.
-/

namespace Beale.Tools

open Beale.Library Beale.Shell

/-- Where the rest of a result is read in pages. -/
structure Pagination where
  toolActionId : JsString
  totalCharacters : Nat
  omittedStart : Nat
  omittedEnd : Nat

structure ToolResult where
  actionId : JsString
  toolName : JsString
  status : JsString
  summary : JsString
  output : Option Json
  /-- The compact projection, where there is one; it may be `undefined`. -/
  modelOutput : Option (Option Json)
  error : Option JsString
  followUpActions : List JsString
  pagination : Option Pagination

def isShellToolName (toolName : JsString) : Bool := toolName = js "shell.run" || toolName = js "shell_run"

/-- The value of `args`: an array of strings is redacted. -/
def redactArgs : Json → Json
  | .arr elements =>
    match elements.mapM Json.asString? with
    | some args => .arr ((redactShellArguments args).map .str)
    | none => .arr elements
  | value => value

/-- The spread of an array is an object with its indices. -/
def projectShellToolOutput : Json → Json
  | .obj members =>
    .obj ((members.filter (·.1 ≠ js "stdin")).map fun m => if m.1 = js "args" then (m.1, redactArgs m.2) else m)
  | .arr elements => .obj (elements.zipIdx.map fun e => (natText e.2, e.1))
  | output => output

def projectToolResult (result : ToolResult) : ToolResult :=
  if isShellToolName result.toolName then { result with output := result.output.map projectShellToolOutput } else result

def visibleOutput (result : ToolResult) : Option Json := result.modelOutput.getD result.output

/-- The text of a result: members that are `undefined` are left out. -/
def serializeModelToolResult (result : ToolResult) (output : Option Json) : JsString :=
  prettyPrint [] (.obj ([(js "status", .str result.status), (js "summary", .str result.summary)] ++
    (output.map fun value => (js "output", value)).toList ++
    (result.error.map fun message => (js "error", .obj [(js "message", .str message)])).toList ++
    [(js "followUpActions", .arr (result.followUpActions.map .str))]))

def modelToolResultMaxCharacters (toolName : JsString) : Nat :=
  ([(js "tool_result.page", 64000), (js "history.search", 12000), (js "history.mark_duplicate", 12000),
    (js "history.undo_duplicate", 12000), (js "finding.list", 8000), (js "runbook.get", 12000), (js "runbook.list", 8000),
    (js "repository.search", 16000), (js "repository.scan", 20000), (js "repository.history", 24000),
    (js "prior_art.search", 32000), (js "prior_art.fetch", 24000), (js "resource.catalog", 24000), (js "file.read", 24000),
    (js "shell.run", 24000)].lookup toolName).getD 32000

def intText (n : Int) : JsString := (JsNumber.integer n).text

def truncationNote (text : JsString) (maxCharacters : Nat) : Option Pagination → JsString
  | some pagination =>
    js "\n\n[Tool result truncated for model context: " ++
      intText ((pagination.omittedEnd : Int) - pagination.omittedStart) ++
      js " characters omitted. Call tool_result_page with toolActionId=" ++ quote pagination.toolActionId ++
      js " and offset=" ++ natText pagination.omittedStart ++
      js " to read the omitted text in bounded pages; continue with nextOffset.]\n\n"
  | none =>
    js "\n\n[Tool result truncated for model context: " ++ natText (text.length - maxCharacters) ++
      js " characters omitted. Re-run a narrower command if the omitted section is needed.]\n\n"

def truncateModelToolResult (text toolName : JsString) (pagination : Option Pagination) : JsString :=
  let maxCharacters := modelToolResultMaxCharacters toolName
  if text.length ≤ maxCharacters then text
  else text.take (maxCharacters / 2) ++ truncationNote text maxCharacters pagination ++ text.rtake (maxCharacters / 2)

/-- The text that the model is shown for a result: that of `projectModelToolResult`. -/
def previewText (result : ToolResult) : JsString :=
  let projected := projectToolResult result
  truncateModelToolResult (serializeModelToolResult projected (visibleOutput projected)) projected.toolName
    projected.pagination

/-! ## Projected results -/

def safeText (result : ToolResult) : JsString :=
  serializeModelToolResult (projectToolResult result) (visibleOutput (projectToolResult result))

section

variable (result : ToolResult)
include result

@[simp] theorem projectToolResult_toolName : (projectToolResult result).toolName = result.toolName := by
  rw [projectToolResult]
  split <;> rfl

@[simp] theorem projectToolResult_pagination :
    (projectToolResult result).pagination = result.pagination := by
  rw [projectToolResult]
  split <;> rfl

theorem projectToolResult_paginated (pagination : Option Pagination) :
    projectToolResult { result with pagination } = { projectToolResult result with pagination } := by
  simp only [projectToolResult]
  split <;> rfl

theorem safeText_paginated (pagination : Option Pagination) :
    safeText { result with pagination } = safeText result := by
  rw [safeText, projectToolResult_paginated]
  rfl

end

/-- Only the output of a shell tool is changed again by a second projection, and only where the model sees it. -/
theorem safeText_project_of_plain {result : ToolResult}
    (h : isShellToolName result.toolName = false ∨ result.modelOutput.isSome) :
    safeText (projectToolResult result) = safeText result := by
  rcases h with h | h
  · have hsame : projectToolResult result = result := by
      rw [projectToolResult, if_neg (by rw [h]; exact Bool.false_ne_true)]
    rw [hsame]
  · obtain ⟨output, houtput⟩ := Option.isSome_iff_exists.mp h
    have hserialize : ∀ projected : ToolResult, serializeModelToolResult (projectToolResult projected) output =
        serializeModelToolResult projected output := by
      intro projected
      rw [projectToolResult]
      split <;> rfl
    have hvis : ∀ projected : ToolResult, projected.modelOutput = some output →
        (projectToolResult projected).modelOutput = some output ∧ visibleOutput (projectToolResult projected) = output := by
      intro projected hprojected
      have hmodel : (projectToolResult projected).modelOutput = some output := by
        rw [projectToolResult]
        split <;> exact hprojected
      exact ⟨hmodel, by rw [visibleOutput, hmodel, Option.getD_some]⟩
    obtain ⟨hmodel, hfirst⟩ := hvis result houtput
    rw [safeText, safeText, (hvis _ hmodel).2, hfirst, hserialize]

theorem previewText_take (result : ToolResult) :
    (previewText result).take (modelToolResultMaxCharacters result.toolName / 2) =
      (safeText result).take (modelToolResultMaxCharacters result.toolName / 2) := by
  rw [previewText]
  simp only [projectToolResult_toolName, truncateModelToolResult]
  split
  · rfl
  · next hlong =>
    rw [List.append_assoc, List.take_append_of_le_length, List.take_take, Nat.min_self]
    · rfl
    · rw [List.length_take]
      omega

end Beale.Tools
