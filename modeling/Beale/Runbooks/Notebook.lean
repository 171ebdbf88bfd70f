import Beale.Library.Json
import Beale.Runbooks.SourceLines

/-!
# Notebooks of runbooks

The cells of a notebook, the edits of its content, and what an execution of it records in it.

- `Notebook.append`, `Notebook.configure`, `Notebook.editCell`: the edits.
- `Notebook.executionPlan`: the active code cells.
- `plan_mapCells`: what does not touch the content of a cell does not touch the plan.
-/

namespace Beale.Runbooks

open Beale.Library

structure TartVmExecutor where
  vmName : JsString
  artifactId : Option JsString
  workspacePath : Option JsString
  runAsRoot : Bool
  transport : JsString
  argv : List JsString
  timeoutSeconds : Nat
  retainOnFailure : Bool
deriving DecidableEq

inductive CellExecutor where
  | host (timeoutSeconds : Nat)
  | tartVm (executor : TartVmExecutor)
deriving DecidableEq

def runbookDefaultTimeoutSeconds : Nat := 300

def maxRunbookMutationCells : Nat := 100

def maxCellSourceLength : Nat := 64000

/-- How a run, or the run of a cell, has ended. -/
inductive RunOutcome where
  | succeeded
  | failed
  | blocked
deriving DecidableEq

inductive CellRunStatus where
  | queued
  | running
  | ended (outcome : RunOutcome)
  | skipped
deriving DecidableEq

structure NotebookCell where
  id : Option JsString
  code : Bool
  source : List JsString
  language : Option JsString
  cwd : Option JsString
  executor : Option CellExecutor
  features : List JsString
  /-- `latestRun` -/
  latestRun : Option (JsString × CellRunStatus)
deriving DecidableEq

structure Notebook where
  cells : List NotebookCell
  enabledFeatures : List JsString
  /-- `latestRun`, where it is `running` or has ended. -/
  latestRun : Option (JsString × Option RunOutcome)
deriving DecidableEq

structure RunbookExecutionPlanCell where
  id : JsString
  source : JsString
  language : Option JsString
  executor : CellExecutor
  features : List JsString
  cwd : Option JsString
deriving DecidableEq

structure RunbookCellInput where
  uuid : JsString
  code : Bool
  source : JsString
  features : List JsString
  executor : Option CellExecutor
  language : Option JsString
  cwd : Option JsString

def notebookCellId (index : Nat) (cell : NotebookCell) : JsString :=
  match cell.id with
  | some id => if isBlank id then js "cell-" ++ natText (index + 1) else trim id
  | none => js "cell-" ++ natText (index + 1)

def notebookCellExecutor (cell : NotebookCell) : CellExecutor :=
  cell.executor.getD (.host runbookDefaultTimeoutSeconds)

def cellIsActive (cell : NotebookCell) (enabledFeatures : List JsString) : Bool :=
  cell.features.any enabledFeatures.contains

def inputToNotebookCell (input : RunbookCellInput) : NotebookCell where
  id := some (js "cell-" ++ input.uuid)
  code := input.code
  source := sourceLines input.source
  language := input.language.filter (· ≠ [])
  cwd := input.cwd.filter (· ≠ [])
  executor := input.executor
  features := input.features
  latestRun := none

/-- What `validateCell` asks of the text, which it keeps as it is. -/
def validSource (source : JsString) : Bool := !isBlank source && source.length ≤ maxCellSourceLength

/-- What `requiredText` reads of the text of an edit. -/
def requiredSource (source : JsString) : Option JsString :=
  if validSource source then some (trim source) else none

namespace Notebook

variable (notebook : Notebook)

def mapCells (f : Nat → NotebookCell → NotebookCell) : Notebook := { notebook with cells := notebook.cells.mapIdx f }

def cellIndex (cellId : JsString) : Option Nat := (notebook.cells.mapIdx notebookCellId).idxOf? cellId

/-- What becomes of the first cell with an id. -/
def changeCell (cellId : JsString) (accepts : NotebookCell → Bool) (f : NotebookCell → NotebookCell) : Option Notebook := do
  let index ← notebook.cellIndex cellId
  let cell ← notebook.cells[index]?
  guard (accepts cell)
  return notebook.mapCells fun i other => if i = index then f other else other

/-! ## Edits -/

def append (cells : List RunbookCellInput) (replaceCells : Bool) : Option Notebook := do
  guard (cells ≠ [] ∧ cells.length ≤ maxRunbookMutationCells ∧ ∀ cell ∈ cells, validSource cell.source)
  return { notebook with cells := (if replaceCells then [] else notebook.cells) ++ cells.map inputToNotebookCell }

def configure (enabledFeatures : List JsString) (cellFeatures : List (JsString × List JsString))
    (cellExecutors : List (JsString × CellExecutor)) : Option Notebook := do
  guard ((cellFeatures.map Prod.fst).Nodup ∧ (cellExecutors.map Prod.fst).Nodup)
  let notebook ← cellFeatures.foldlM (fun (notebook : Notebook) change =>
    notebook.changeCell change.1 (fun _ => true) fun cell => { cell with features := change.2 }) notebook
  let notebook ← cellExecutors.foldlM (fun (notebook : Notebook) change =>
    notebook.changeCell change.1 NotebookCell.code fun cell => { cell with executor := some change.2 }) notebook
  return { notebook with enabledFeatures }

/-- The cell is one to be run again. -/
def editCell (cellId source : JsString) : Option Notebook := do
  let source ← requiredSource source
  notebook.changeCell cellId NotebookCell.code fun cell => { cell with source := sourceLines source, latestRun := none }

/-! ## Executions -/

def planCell (enabledFeatures : List JsString) (index : Nat) (cell : NotebookCell) : Option RunbookExecutionPlanCell :=
  if cell.code && cellIsActive cell enabledFeatures then
    some {
      id := notebookCellId index cell, source := cell.source.flatten, language := cell.language,
      executor := notebookCellExecutor cell, features := cell.features, cwd := cell.cwd.filter (· ≠ []) }
  else none

/-- The active code cells. -/
def plan : List RunbookExecutionPlanCell := (notebook.cells.mapIdx (planCell notebook.enabledFeatures)).filterMap id

def executionPlan : Option (List RunbookExecutionPlanCell) := if notebook.plan = [] then none else some notebook.plan

def recordRun (runId : JsString) (outcome : Option RunOutcome) : Notebook :=
  { notebook with latestRun := some (runId, outcome) }

def setCellExecution (runId : JsString) (status : CellRunStatus) (cell : NotebookCell) : NotebookCell :=
  { cell with latestRun := some (runId, status) }

def recordCells (runId : JsString) (cellIds : List JsString) (status : CellRunStatus) : Notebook :=
  notebook.mapCells fun index cell =>
    if cellIds.contains (notebookCellId index cell) then setCellExecution runId status cell else cell

def recordCell (runId cellId : JsString) (status : CellRunStatus) : Option Notebook :=
  notebook.changeCell cellId NotebookCell.code (setCellExecution runId status)

/-! ## What does not touch the plan -/

variable {notebook}

theorem plan_mapCells {f : Nat → NotebookCell → NotebookCell}
    (hf : ∀ enabledFeatures index cell, planCell enabledFeatures index (f index cell) = planCell enabledFeatures index cell) :
    (notebook.mapCells f).plan = notebook.plan := by
  rw [plan, mapCells, List.mapIdx_mapIdx]
  have hcells : (fun index => planCell notebook.enabledFeatures index ∘ f index) = planCell notebook.enabledFeatures :=
    funext fun index => funext fun cell => hf _ index cell
  rw [hcells, plan]

theorem planCell_setCellExecution (runId : JsString) (status : CellRunStatus) (enabledFeatures : List JsString)
    (index : Nat) (cell : NotebookCell) :
    planCell enabledFeatures index (setCellExecution runId status cell) = planCell enabledFeatures index cell := rfl

@[simp] theorem plan_recordRun (runId : JsString) (outcome : Option RunOutcome) :
    (notebook.recordRun runId outcome).plan = notebook.plan := rfl

@[simp] theorem plan_recordCells (runId : JsString) (cellIds : List JsString) (status : CellRunStatus) :
    (notebook.recordCells runId cellIds status).plan = notebook.plan := by
  refine plan_mapCells fun enabledFeatures index cell => ?_
  split
  · exact planCell_setCellExecution runId status enabledFeatures index cell
  · rfl

section

variable {notebook' : Notebook} {runId cellId : JsString} {status : CellRunStatus}
  (h : notebook.recordCell runId cellId status = some notebook')
include h

theorem plan_recordCell : notebook'.plan = notebook.plan := by
  simp only [recordCell, changeCell, optionBind_some, optionPure_some] at h
  obtain ⟨found, -, cell, -, -, -, rfl⟩ := h
  refine plan_mapCells fun enabledFeatures index cell => ?_
  split
  · exact planCell_setCellExecution runId status enabledFeatures index cell
  · rfl

theorem enabledFeatures_recordCell : notebook'.enabledFeatures = notebook.enabledFeatures := by
  simp only [recordCell, changeCell, optionBind_some, optionPure_some] at h
  obtain ⟨found, -, cell, -, -, -, rfl⟩ := h
  rfl

end

end Notebook

end Beale.Runbooks
