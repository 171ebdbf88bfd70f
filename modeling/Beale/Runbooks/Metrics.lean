import Beale.Library.OrderBy
import Beale.Runbooks.Ledger

/-!
# The two readers of the ledger

`RunbookStore` and the memory summary report the executions of a runbook, and the latest successful one of them.

- `readExecutionMetrics`: as the store reads them, by queries.
- `runbookExecutionMetrics`: as the summary does, in one pass over the rows of the workspace.
- `summaryLatestSuccessfulRunId_eq`: which run the summary reports.
-/

namespace Beale.Runbooks

open Beale.Library

structure RunbookExecutionMetrics where
  runCount : Nat
  completedRunCount : Nat
  executedCellCount : Nat
  latest : Option (JsString × RunStatus × JsString)
  latestSuccessfulRunId : Option JsString
deriving DecidableEq

def emptyRunbookExecutionMetrics : RunbookExecutionMetrics := ⟨0, 0, 0, none, none⟩

def byStart : RunRow → RunRow → Ordering := compareLex (compareOn RunRow.startedAt) (compareOn RunRow.runId)

/-- `completed_at, started_at, run_id` -/
def byCompletion : RunRow → RunRow → Ordering := compareLex (compareOn RunRow.completedAt) byStart

instance : Std.TransCmp byStart :=
  inferInstanceAs (Std.TransCmp (compareLex (compareOn RunRow.startedAt) (compareOn RunRow.runId)))

instance : Std.TransCmp byCompletion :=
  inferInstanceAs (Std.TransCmp (compareLex (compareOn RunRow.completedAt) byStart))

def RunRow.succeeded (run : RunRow) : Bool := run.status = .ended .succeeded

namespace RunbookTables

variable (tables : RunbookTables)

/-! ## The store -/

def runsOf (workspaceId id : JsString) : List RunRow :=
  tables.runs.filter fun run => run.runbookId = id ∧ run.workspaceId = workspaceId

/-- A success that stands for the current content of its runbook. -/
def isCurrentSuccess (run : RunRow) : Bool :=
  run.succeeded && run.fullRun && (tables.runbooks.get? run.runbookId).any (·.contentRevision = run.contentRevision) &&
    run.selectedCellCount = run.completedCellCount

def readExecutionMetrics (workspaceId id : JsString) : RunbookExecutionMetrics where
  runCount := (tables.runsOf workspaceId id).length
  completedRunCount := (tables.runsOf workspaceId id).countP (·.status ≠ .running)
  executedCellCount := ((tables.runsOf workspaceId id).map (·.completedCellCount)).sum
  latest := (firstBy byStart (fun _ => true) (tables.runsOf workspaceId id)).map fun run =>
    (run.runId, run.status, run.startedAt)
  latestSuccessfulRunId := (firstBy byCompletion tables.isCurrentSuccess (tables.runsOf workspaceId id)).map (·.runId)

end RunbookTables

/-! ## The summary -/

def observeRun (result : JsMap JsString RunbookExecutionMetrics) (run : RunRow) :
    JsMap JsString RunbookExecutionMetrics :=
  let metrics := (result.get? run.runbookId).getD emptyRunbookExecutionMetrics
  result.set run.runbookId {
    runCount := metrics.runCount + 1
    completedRunCount := metrics.completedRunCount + if run.status ≠ .running then 1 else 0
    executedCellCount := metrics.executedCellCount + run.completedCellCount
    latest := metrics.latest.or (some (run.runId, run.status, run.startedAt))
    latestSuccessfulRunId :=
      if run.succeeded ∧ metrics.latestSuccessfulRunId.getD [] = [] then some run.runId
      else metrics.latestSuccessfulRunId }

def RunbookTables.runbookExecutionMetrics (tables : RunbookTables) (workspaceId : JsString) :
    JsMap JsString RunbookExecutionMetrics :=
  (orderByDesc byStart (tables.runs.filter (·.workspaceId = workspaceId))).foldl observeRun .empty

/-- The latest success of a runbook among the rows that were read. -/
def latestIn (result : JsMap JsString RunbookExecutionMetrics) (id : JsString) : Option JsString :=
  ((result.get? id).getD emptyRunbookExecutionMetrics).latestSuccessfulRunId

def RunbookTables.summaryLatestSuccessfulRunId (tables : RunbookTables) (workspaceId id : JsString) : Option JsString :=
  latestIn (tables.runbookExecutionMetrics workspaceId) id

/-! ## What they report -/

variable {result : JsMap JsString RunbookExecutionMetrics}

theorem latestIn_observeRun {id : JsString} (run : RunRow) (hid : latestIn result id ≠ some []) :
    latestIn (observeRun result run) id =
      (latestIn result id).or (if run.runbookId = id ∧ run.succeeded then some run.runId else none) := by
  by_cases hrun : run.runbookId = id
  · subst hrun
    rw [latestIn, observeRun, JsMap.get?_set, if_pos rfl, Option.getD_some]
    by_cases hsucc : run.succeeded = true
    · cases hlatest : latestIn result run.runbookId with
      | none =>
        rw [latestIn] at hlatest
        simp [hsucc, hlatest]
      | some latest =>
        have hlatest' : latest ≠ [] := fun heq => hid (by rw [hlatest, heq])
        rw [latestIn] at hlatest
        simp [hlatest, hlatest']
    · simp [hsucc, latestIn]
  · rw [latestIn, observeRun, JsMap.get?_set, if_neg (Ne.symm hrun), if_neg (fun h => hrun h.1), Option.or_none, latestIn]

theorem latestIn_foldl {rows : List RunRow} (hids : ∀ run ∈ rows, run.runId ≠ []) {id : JsString}
    (hid : latestIn result id ≠ some []) :
    latestIn (rows.foldl observeRun result) id =
      (latestIn result id).or ((rows.find? fun run => run.runbookId = id ∧ run.succeeded).map (·.runId)) := by
  induction rows generalizing result with
  | nil => rw [List.foldl_nil, List.find?_nil, Option.map_none, Option.or_none]
  | cons run rows ih =>
    have hstep := latestIn_observeRun run hid
    have hnext : latestIn (observeRun result run) id ≠ some [] := by
      rw [hstep]
      cases hlatest : latestIn result id with
      | some latest => rwa [Option.some_or, ← hlatest]
      | none =>
        rw [Option.none_or]
        split
        · exact fun heq => hids run List.mem_cons_self (Option.some.inj heq)
        · nofun
    rw [List.foldl_cons, ih (fun other hother => hids other (List.mem_cons_of_mem _ hother)) hnext, hstep, Option.or_assoc]
    by_cases hrun : run.runbookId = id ∧ run.succeeded
    · rw [if_pos hrun, List.find?_cons_of_pos (by simpa using hrun), Option.some_or, Option.map_some]
    · rw [if_neg hrun, List.find?_cons_of_neg (by simpa using hrun), Option.none_or]

theorem summaryLatestSuccessfulRunId_eq {tables : RunbookTables} (hids : ∀ run ∈ tables.runs, run.runId ≠ [])
    (workspaceId id : JsString) :
    tables.summaryLatestSuccessfulRunId workspaceId id =
      (firstBy byStart (fun run => run.runbookId = id ∧ run.succeeded)
        (tables.runs.filter (·.workspaceId = workspaceId))).map (·.runId) := by
  have hrows : ∀ run ∈ orderByDesc byStart (tables.runs.filter (·.workspaceId = workspaceId)), run.runId ≠ [] :=
    fun run hrun => hids run (List.mem_filter.mp (mem_orderByDesc.mp hrun)).1
  have hnone : latestIn .empty id ≠ some [] := nofun
  exact latestIn_foldl hrows hnone

end Beale.Runbooks
