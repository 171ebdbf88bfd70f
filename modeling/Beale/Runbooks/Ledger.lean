import Beale.Library.JsMap
import Beale.Library.Run
import Beale.Runbooks.Notebook

/-!
# The ledger of runbook executions

The tables of `RunbookStore`: the runbooks, their executions, and what each cell of an execution came to. A step is one
transaction of the store of a workspace; where it throws, it is rolled back.

- `beginExecution`, `completeCellExecution`, `completeExecution`: what they write to the ledger.
-/

namespace Beale.Runbooks

open Beale.Library

structure RunbookRow where
  workspaceId : JsString
  revision : Nat
  contentRevision : Nat
  duplicateOfRunbookId : Option JsString
  notebook : Notebook
deriving DecidableEq

inductive RunStatus where
  | running
  | ended (outcome : RunOutcome)
deriving DecidableEq

structure RunSnapshot where
  contentRevision : Nat
  enabledFeatures : List JsString
  cells : List RunbookExecutionPlanCell
deriving DecidableEq

/-- A row of `app_server_runbook_executions`. -/
structure RunRow where
  runId : JsString
  runbookId : JsString
  workspaceId : JsString
  status : RunStatus
  startedAt : JsString
  completedAt : Option JsString
  selectedCellCount : Nat
  completedCellCount : Nat
  contentRevision : Nat
  snapshot : RunSnapshot
  selectedCellIds : List JsString
  requiredCellIds : List JsString
  fullRun : Bool
deriving DecidableEq

/-- A row of `app_server_runbook_cell_executions`. -/
structure CellRow where
  runId : JsString
  cellId : JsString
  outcome : RunOutcome
deriving DecidableEq

structure RunbookTables where
  runbooks : JsMap JsString RunbookRow
  runs : List RunRow
  cellRuns : List CellRow

def RunbookTables.empty : RunbookTables := ⟨.empty, [], []⟩

namespace RunbookTables

variable (tables : RunbookTables)

def readRow (workspaceId id : JsString) : Option RunbookRow :=
  (tables.runbooks.get? id).filter (·.workspaceId = workspaceId)

/-! ## Runbooks -/

def create (workspaceId id : JsString) (notebook : Notebook) : Option RunbookTables :=
  if tables.runbooks.has id then none
  else some { tables with runbooks := tables.runbooks.set id {
    workspaceId, revision := 1, contentRevision := 1, duplicateOfRunbookId := none, notebook } }

/-- `append`, `configure` and `editCell`, with the change that they make to the notebook. -/
def editContent (workspaceId id : JsString) (expectedRevision : Nat) (edit : Notebook → Option Notebook) :
    Option RunbookTables := do
  let row ← tables.readRow workspaceId id
  guard (row.duplicateOfRunbookId = none ∧ row.revision = expectedRevision)
  let notebook ← edit row.notebook
  return { tables with runbooks := tables.runbooks.set id {
    row with notebook, revision := row.revision + 1, contentRevision := row.contentRevision + 1 } }

def markDuplicate (workspaceId id : JsString) (expectedRevision : Nat) (parentRunbookId : JsString) :
    Option RunbookTables := do
  let current ← tables.readRow workspaceId id
  guard (current.revision = expectedRevision ∧ current.duplicateOfRunbookId = none ∧ parentRunbookId ≠ id)
  let parent ← tables.readRow workspaceId parentRunbookId
  guard (parent.duplicateOfRunbookId = none ∧ ∀ row ∈ tables.runbooks.values, row.duplicateOfRunbookId ≠ some id)
  return { tables with runbooks := tables.runbooks.set id {
    current with duplicateOfRunbookId := some parentRunbookId, revision := current.revision + 1 } }

def undoDuplicate (workspaceId id : JsString) (expectedRevision : Nat) : Option RunbookTables := do
  let current ← tables.readRow workspaceId id
  guard (current.revision = expectedRevision ∧ current.duplicateOfRunbookId ≠ none)
  return { tables with runbooks := tables.runbooks.set id {
    current with duplicateOfRunbookId := none, revision := current.revision + 1 } }

/-! ## Executions -/

/-- The record of an execution in the notebook and, with `persistExecution`, in the ledger. -/
def updateNotebook (workspaceId id : JsString) (mutate : RunbookRow → Option Notebook)
    (persistExecution : RunbookRow → RunbookTables → Option RunbookTables) : Option RunbookTables := do
  let row ← tables.readRow workspaceId id
  guard (row.duplicateOfRunbookId = none)
  let notebook ← mutate row
  let tables ← persistExecution row tables
  return { tables with runbooks := tables.runbooks.set id { row with notebook, revision := row.revision + 1 } }

def newRun (workspaceId id runId : JsString) (cellIds : List JsString) (startedAt : JsString) (row : RunbookRow) :
    RunRow where
  runId := runId
  runbookId := id
  workspaceId := workspaceId
  status := .running
  startedAt := startedAt
  completedAt := none
  selectedCellCount := cellIds.length
  completedCellCount := 0
  contentRevision := row.contentRevision
  snapshot := ⟨row.contentRevision, row.notebook.enabledFeatures, row.notebook.plan⟩
  selectedCellIds := cellIds
  requiredCellIds := row.notebook.plan.map (·.id)
  fullRun := cellIds = row.notebook.plan.map (·.id)

def insertRun (run : RunRow) : Option RunbookTables :=
  if tables.runs.any (·.runId = run.runId) then none else some { tables with runs := tables.runs ++ [run] }

def beginExecution (workspaceId id runId : JsString) (cellIds : List JsString) (startedAt : JsString)
    (expectedContentRevision : Option Nat) : Option RunbookTables :=
  tables.updateNotebook workspaceId id
    (fun row => do
      guard (∀ expected ∈ expectedContentRevision, expected = row.contentRevision)
      let plan ← row.notebook.executionPlan
      guard (cellIds ≠ [] ∧ cellIds.Nodup ∧ ∀ cellId ∈ cellIds, cellId ∈ plan.map (·.id))
      return (row.notebook.recordRun runId none).recordCells runId cellIds .queued)
    fun row tables => tables.insertRun (newRun workspaceId id runId cellIds startedAt row)

def beginCellExecution (workspaceId id runId cellId : JsString) : Option RunbookTables :=
  tables.updateNotebook workspaceId id (fun row => row.notebook.recordCell runId cellId .running) fun _ => some

/-- The execution of a runbook that is running under an id. -/
def isActive (workspaceId id runId : JsString) (run : RunRow) : Bool :=
  run.runId = runId && run.runbookId = id && run.workspaceId = workspaceId && run.status = .running

def persistCell (workspaceId id runId cellId : JsString) (outcome : RunOutcome) : Option RunbookTables := do
  guard (tables.runs.any fun run => isActive workspaceId id runId run && run.selectedCellIds.contains cellId)
  guard (¬ tables.cellRuns.any fun cell => cell.runId = runId ∧ cell.cellId = cellId)
  return {
    tables with
    cellRuns := tables.cellRuns ++ [⟨runId, cellId, outcome⟩]
    runs := tables.runs.map fun run =>
      if isActive workspaceId id runId run then { run with completedCellCount := run.completedCellCount + 1 } else run }

def completeCellExecution (workspaceId id runId cellId : JsString) (outcome : RunOutcome) : Option RunbookTables :=
  tables.updateNotebook workspaceId id (fun row => row.notebook.recordCell runId cellId (.ended outcome))
    fun _ tables => tables.persistCell workspaceId id runId cellId outcome

def skipCellExecutions (workspaceId id runId : JsString) (cellIds : List JsString) : Option RunbookTables :=
  if cellIds = [] then some tables
  else tables.updateNotebook workspaceId id (fun row => some (row.notebook.recordCells runId cellIds .skipped)) fun _ => some

/-- A selected cell of the run without a result, or with one that is not successful. -/
def incomplete (runId : JsString) : Bool :=
  tables.runs.any fun run => run.runId = runId && run.selectedCellIds.any fun cellId =>
    let results := tables.cellRuns.filter fun cell => cell.runId = run.runId ∧ cell.cellId = cellId
    results.isEmpty || results.any (·.outcome ≠ .succeeded)

def persistOutcome (workspaceId id runId : JsString) (outcome : RunOutcome) (completedAt : JsString) :
    Option RunbookTables := do
  guard (outcome = .succeeded → tables.incomplete runId = false)
  guard (tables.runs.any (isActive workspaceId id runId))
  return {
    tables with
    runs := tables.runs.map fun run =>
      if isActive workspaceId id runId run then { run with status := .ended outcome, completedAt := some completedAt }
      else run }

def completeExecution (workspaceId id runId : JsString) (outcome : RunOutcome) (completedAt : JsString) :
    Option RunbookTables :=
  tables.updateNotebook workspaceId id (fun row => some (row.notebook.recordRun runId (some outcome)))
    fun _ tables => tables.persistOutcome workspaceId id runId outcome completedAt

end RunbookTables

/-- A call of the store of a workspace. -/
inductive RunbookCall where
  | create (id : JsString) (notebook : Notebook)
  | append (id : JsString) (expectedRevision : Nat) (cells : List RunbookCellInput) (replaceCells : Bool)
  | configure (id : JsString) (expectedRevision : Nat) (enabledFeatures : List JsString)
      (cellFeatures : List (JsString × List JsString)) (cellExecutors : List (JsString × CellExecutor))
  | editCell (id : JsString) (expectedRevision : Nat) (cellId source : JsString)
  | markDuplicate (id : JsString) (expectedRevision : Nat) (parentRunbookId : JsString)
  | undoDuplicate (id : JsString) (expectedRevision : Nat)
  /-- The id of the run is `runbook_run_` and a new UUID. -/
  | beginExecution (id uuid : JsString) (cellIds : List JsString) (startedAt : JsString) (expectedContentRevision : Option Nat)
  | beginCellExecution (id runId cellId : JsString)
  | completeCellExecution (id runId cellId : JsString) (outcome : RunOutcome)
  | skipCellExecutions (id runId : JsString) (cellIds : List JsString)
  | completeExecution (id runId : JsString) (outcome : RunOutcome) (completedAt : JsString)

def runIdOf (uuid : JsString) : JsString := js "runbook_run_" ++ uuid

structure RunbookEvent where
  workspaceId : JsString
  call : RunbookCall

/-- What a call makes of the tables; nothing, where it throws. -/
def RunbookTables.attempt (tables : RunbookTables) (event : RunbookEvent) : Option RunbookTables :=
  match event.call with
  | .create id notebook => tables.create event.workspaceId id notebook
  | .append id expectedRevision cells replaceCells =>
    tables.editContent event.workspaceId id expectedRevision (·.append cells replaceCells)
  | .configure id expectedRevision enabledFeatures cellFeatures cellExecutors =>
    tables.editContent event.workspaceId id expectedRevision (·.configure enabledFeatures cellFeatures cellExecutors)
  | .editCell id expectedRevision cellId source =>
    tables.editContent event.workspaceId id expectedRevision (·.editCell cellId source)
  | .markDuplicate id expectedRevision parentRunbookId =>
    tables.markDuplicate event.workspaceId id expectedRevision parentRunbookId
  | .undoDuplicate id expectedRevision => tables.undoDuplicate event.workspaceId id expectedRevision
  | .beginExecution id uuid cellIds startedAt expectedContentRevision =>
    tables.beginExecution event.workspaceId id (runIdOf uuid) cellIds startedAt expectedContentRevision
  | .beginCellExecution id runId cellId => tables.beginCellExecution event.workspaceId id runId cellId
  | .completeCellExecution id runId cellId outcome =>
    tables.completeCellExecution event.workspaceId id runId cellId outcome
  | .skipCellExecutions id runId cellIds => tables.skipCellExecutions event.workspaceId id runId cellIds
  | .completeExecution id runId outcome completedAt =>
    tables.completeExecution event.workspaceId id runId outcome completedAt

def RunbookTables.step (tables : RunbookTables) (event : RunbookEvent) : RunbookTables :=
  (tables.attempt event).getD tables

end Beale.Runbooks
