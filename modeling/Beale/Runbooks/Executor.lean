import Beale.Runbooks.Books

/-!
# Executions of a runbook

`createRunbookExecutor` runs the selected cells one after the other, then those that clean up, and records what came of
each. Every call of the store and of `onUpdate` may fail, and the trace of an execution says which ones did.

- `runCell`, `runBody`, `runCleanup`, `finish`: the parts of an execution.
-/

namespace Beale.Runbooks

open Beale.Library

/-! ## Selections -/

structure RunbookExecutionSelection where
  cellId : Option JsString
  startCellId : Option JsString
  endCellId : Option JsString

/-- The code cells, and whether each is active. -/
def Notebook.executableCells (notebook : Notebook) : List (RunbookExecutionPlanCell × Bool) :=
  (notebook.cells.mapIdx fun index cell =>
    if cell.code then
      some ({
        id := notebookCellId index cell, source := cell.source.flatten, language := cell.language,
        executor := notebookCellExecutor cell, features := cell.features, cwd := cell.cwd.filter (· ≠ []) },
        cellIsActive cell notebook.enabledFeatures)
    else none).filterMap id

/-- `executionPlan(id, selection)`: one active cell, or the active ones from a cell to another one. -/
def Notebook.selectCells (notebook : Notebook) (selection : RunbookExecutionSelection) :
    Option (List RunbookExecutionPlanCell) := do
  guard (selection.cellId.isNone || selection.startCellId.isNone && selection.endCellId.isNone)
  let cells := notebook.executableCells
  guard (cells ≠ [])
  match selection.cellId with
  | some cellId =>
    let cell ← cells.find? (·.1.id = cellId)
    guard cell.2
    return [cell.1]
  | none =>
    let startIndex ← match selection.startCellId with
      | some cellId => cells.findIdx? (·.1.id = cellId)
      | none => some 0
    let endIndex ← match selection.endCellId with
      | some cellId => cells.findIdx? (·.1.id = cellId)
      | none => some (cells.length - 1)
    guard (startIndex ≤ endIndex)
    let selected := (((cells.take (endIndex + 1)).drop startIndex).filter (·.2)).map (·.1)
    guard (selected ≠ [])
    return selected

/-! ## Calls -/

/-- A cell is run in the order of the selection, or to clean up after a failure. -/
inductive Phase where
  | body
  | cleanup
deriving DecidableEq

/-- What an execution calls of the store, and with which updates it calls `onUpdate`. -/
inductive ExecutorCall where
  | beginExecution
  | updateRunning
  | beginCellExecution (phase : Phase) (cellId : JsString)
  | updateCellRunning (phase : Phase) (cellId : JsString)
  | completeCellExecution (phase : Phase) (cellId : JsString)
  | updateCellCompleted (phase : Phase) (cellId : JsString)
  | skipCellExecutions
  | updateCellSkipped (cellId : JsString)
  | completeExecution
  | updateCompleted
deriving DecidableEq

/-- What happens to an execution. -/
structure ExecutorWorld where
  fails : ExecutorCall → Bool
  executeCell : Phase → JsString → Option RunOutcome
  aborted : JsString → Bool

structure RunbookExecutionRequest where
  runbookId : JsString
  selection : RunbookExecutionSelection

structure Execution where
  workspaceId : JsString
  runbookId : JsString
  runId : JsString
  startedAt : JsString
  completedAt : JsString
  contentRevision : Nat
  cells : List RunbookExecutionPlanCell

namespace Execution

/-- The executor, with the tables that its store writes. -/
structure State where
  tables : RunbookTables
  activeRunbooks : List JsString
  completedCellIds : List JsString
  /-- The cells that `runCell` was called for. -/
  attempts : List JsString
  calls : List (ExecutorCall × Bool)

section Run

variable (world : ExecutorWorld) (run : Execution)

/-- A call of the store; one that fails leaves the tables as they are. -/
def perform (call : ExecutorCall) (write : RunbookTables → Option RunbookTables) (s : State) : State × Bool :=
  match if world.fails call then none else write s.tables with
  | some tables => ({ s with tables, calls := s.calls ++ [(call, true)] }, true)
  | none => ({ s with calls := s.calls ++ [(call, false)] }, false)

def update (call : ExecutorCall) (s : State) : State × Bool := perform world call some s

/-! ## Parts -/

/-- The outcome of a cell; nothing, where `runCell` throws. -/
def runCell (phase : Phase) (cell : RunbookExecutionPlanCell) (s : State) : State × Option RunOutcome :=
  let s := { s with attempts := s.attempts ++ [cell.id] }
  match perform world (.beginCellExecution phase cell.id)
      (·.beginCellExecution run.workspaceId run.runbookId run.runId cell.id) s with
  | (s, false) => (s, none)
  | (s, true) =>
    match update world (.updateCellRunning phase cell.id) s with
    | (s, false) => (s, none)
    | (s, true) =>
      -- a command that throws is a failure of the cell
      let outcome := (world.executeCell phase cell.id).getD .failed
      match perform world (.completeCellExecution phase cell.id)
          (·.completeCellExecution run.workspaceId run.runbookId run.runId cell.id outcome) s with
      | (s, false) => (s, none)
      | (s, true) =>
        let s := { s with completedCellIds := s.completedCellIds ++ [cell.id] }
        match update world (.updateCellCompleted phase cell.id) s with
        | (s, false) => (s, none)
        | (s, true) => (s, some outcome)

/-- The cells up to the first that does not succeed. -/
def runCells : List RunbookExecutionPlanCell → State → State × RunOutcome
  | [], s => (s, .succeeded)
  | cell :: rest, s =>
    if world.aborted cell.id then (s, .failed)
    else match runCell world run .body cell s with
      | (s, none) => (s, .failed)
      | (s, some .succeeded) => runCells rest s
      | (s, some outcome) => (s, outcome)

def runBody (s : State) : State × RunOutcome :=
  match update world .updateRunning s with
  | (s, false) => (s, .failed)
  | (s, true) => runCells world run run.cells s

/-- The cells that clean up and have no result. -/
def cleanupCells (s : State) : List RunbookExecutionPlanCell :=
  run.cells.filter fun cell => !s.completedCellIds.contains cell.id && cell.features.contains (js "cleanup")

/-- Each of them is tried, whatever came of the one before. -/
def runCleanup (s : State) : State :=
  (run.cleanupCells s).foldl (fun s cell => (runCell world run .cleanup cell s).1) s

def skippedCellIds (s : State) : List JsString :=
  (run.cells.filter fun cell => !s.completedCellIds.contains cell.id).map (·.id)

def updateSkipped : List JsString → State → State × Bool
  | [], s => (s, true)
  | cellId :: rest, s =>
    match update world (.updateCellSkipped cellId) s with
    | (s, false) => (s, false)
    | (s, true) => updateSkipped rest s

/-- The cells without a result are skipped. -/
def skip (s : State) : State × Bool :=
  if run.skippedCellIds s = [] then (s, true)
  else match perform world .skipCellExecutions
      (·.skipCellExecutions run.workspaceId run.runbookId run.runId (run.skippedCellIds s)) s with
    | (s', false) => (s', false)
    | (s', true) => updateSkipped world (run.skippedCellIds s) s'

/-- The end of an execution: where a call throws, the rest is left out. -/
def finish (outcome : RunOutcome) (s : State) : State :=
  match skip world run s with
  | (s, false) => s
  | (s, true) =>
    match perform world .completeExecution
        (·.completeExecution run.workspaceId run.runbookId run.runId outcome run.completedAt) s with
    | (s, false) => s
    | (s, true) =>
      let s := { s with activeRunbooks := s.activeRunbooks.filter (· ≠ run.runbookId) }
      (update world .updateCompleted s).1

/-- What is left to do after the body. -/
def settle (body : State × RunOutcome) : State :=
  finish world run body.2 (if body.2 = .succeeded then body.1 else runCleanup world run body.1)

/-- The executor before an execution. -/
def start (tables : RunbookTables) (activeRunbooks : List JsString) : State := ⟨tables, activeRunbooks, [], [], []⟩

def prepare (tables : RunbookTables) (workspaceId runId startedAt completedAt : JsString) (request : RunbookExecutionRequest) :
    Option Execution := do
  let row ← tables.readRow workspaceId request.runbookId
  guard (row.duplicateOfRunbookId = none)
  let cells ← row.notebook.selectCells request.selection
  return {
    workspaceId, runId, startedAt, completedAt, cells
    runbookId := request.runbookId, contentRevision := row.contentRevision }

/-- One execution; nothing, where the runbook is being executed. -/
def execute (tables : RunbookTables) (activeRunbooks : List JsString) : Option State :=
  if activeRunbooks.contains run.runbookId then none
  else
    match perform world .beginExecution
        (·.beginExecution run.workspaceId run.runbookId run.runId (run.cells.map (·.id)) run.startedAt
          (some run.contentRevision)) (start tables (activeRunbooks ++ [run.runbookId])) with
    | (s, false) => some { s with activeRunbooks := s.activeRunbooks.filter (· ≠ run.runbookId) }
    | (s, true) => some (settle world run (runBody world run s))

/-- An execution that a request starts, and what is left of it; nothing, where the request is refused. -/
def executeRunbook (tables : RunbookTables) (activeRunbooks : List JsString) (workspaceId runId startedAt completedAt : JsString)
    (request : RunbookExecutionRequest) : Option (Execution × State) := do
  let run ← prepare tables workspaceId runId startedAt completedAt request
  let s ← execute world run tables activeRunbooks
  return (run, s)

end Run

end Execution

end Beale.Runbooks
