import Beale.Runbooks.Metrics

/-!
# What the ledger records

- `LedgerBooks`: the invariant.
- `ledgerBooks_step`: every step keeps it.
- `step_ended`: no step changes a run that has ended, or its results.
- `ledger_sound`: so in every state the ledger is right about each run.
-/

namespace Beale.Runbooks

open Beale.Library
open RunbookTables

/-- What a row says of itself. -/
structure RunFormed (run : RunRow) : Prop where
  named : run.runId ≠ []
  selected : run.selectedCellIds.Nodup
  selectedCount : run.selectedCellCount = run.selectedCellIds.length
  planned : run.requiredCellIds = run.snapshot.cells.map (·.id)
  full : run.fullRun = true → run.selectedCellIds = run.requiredCellIds
  revised : run.snapshot.contentRevision = run.contentRevision

def RunKnown (runbooks : JsMap JsString RunbookRow) (run : RunRow) : Prop :=
  ∃ row, runbooks.get? run.runbookId = some row ∧ row.workspaceId = run.workspaceId ∧
    run.contentRevision ≤ row.contentRevision ∧
      (run.contentRevision = row.contentRevision →
        run.snapshot.cells = row.notebook.plan ∧ run.snapshot.enabledFeatures = row.notebook.enabledFeatures)

def resultsOf (cellRuns : List CellRow) (runId : JsString) : List CellRow := cellRuns.filter (·.runId = runId)

/-- And what it says of the results of its cells. -/
structure RunCounted (cellRuns : List CellRow) (run : RunRow) : Prop where
  counted : run.completedCellCount = (resultsOf cellRuns run.runId).length
  complete : run.succeeded = true → ∀ cellId ∈ run.selectedCellIds, ⟨run.runId, cellId, .succeeded⟩ ∈ cellRuns

structure LedgerBooks (tables : RunbookTables) : Prop where
  runIds : (tables.runs.map RunRow.runId).Nodup
  results : (tables.cellRuns.map fun cell => (cell.runId, cell.cellId)).Nodup
  formed : ∀ run ∈ tables.runs, RunFormed run
  known : ∀ run ∈ tables.runs, RunKnown tables.runbooks run
  counted : ∀ run ∈ tables.runs, RunCounted tables.cellRuns run
  owned : ∀ cell ∈ tables.cellRuns, ∃ run ∈ tables.runs, run.runId = cell.runId ∧ cell.cellId ∈ run.selectedCellIds

theorem LedgerBooks.empty : LedgerBooks .empty where
  runIds := List.nodup_nil
  results := List.nodup_nil
  formed := nofun
  known := nofun
  counted := nofun
  owned := nofun

variable {tables : RunbookTables} {run run' : RunRow}

theorem LedgerBooks.run_eq (books : LedgerBooks tables)
    (hrun : run ∈ tables.runs) (hrun' : run' ∈ tables.runs) (hid : run.runId = run'.runId) : run = run' :=
  List.inj_on_of_nodup_map books.runIds hrun hrun' hid

/-! ## Runbooks -/

/-- What becomes of the row of a runbook: an edit of its content takes the next revision. -/
structure RowMoved (row row' : RunbookRow) : Prop where
  workspace : row'.workspaceId = row.workspaceId
  later : row.contentRevision ≤ row'.contentRevision
  same : row.contentRevision = row'.contentRevision →
    row'.notebook.plan = row.notebook.plan ∧ row'.notebook.enabledFeatures = row.notebook.enabledFeatures

variable {id : JsString} {runbooks : JsMap JsString RunbookRow}

theorem RunKnown.set {row' : RunbookRow}
    (h : RunKnown runbooks run) (hmoved : ∀ row, runbooks.get? id = some row → RowMoved row row') :
    RunKnown (runbooks.set id row') run := by
  obtain ⟨row, hrow, hws, hle, hsame⟩ := h
  by_cases hid : run.runbookId = id
  · have hmoved := hmoved row (by rw [← hid]; exact hrow)
    refine ⟨row', by rw [JsMap.get?_set, if_pos hid], hmoved.workspace.trans hws,
      Nat.le_trans hle hmoved.later, fun heq => ?_⟩
    have hrev : run.contentRevision = row.contentRevision := Nat.le_antisymm hle (by rw [heq]; exact hmoved.later)
    obtain ⟨hcells, hfeatures⟩ := hsame hrev
    obtain ⟨hplan, henabled⟩ := hmoved.same (by rw [← hrev, heq])
    exact ⟨hcells.trans hplan.symm, hfeatures.trans henabled.symm⟩
  · exact ⟨row, by rw [JsMap.get?_set, if_neg hid]; exact hrow, hws, hle, hsame⟩

theorem LedgerBooks.setRow (books : LedgerBooks tables) {row' : RunbookRow}
    (hmoved : ∀ row, tables.runbooks.get? id = some row → RowMoved row row') :
    LedgerBooks { tables with runbooks := tables.runbooks.set id row' } where
  runIds := books.runIds
  results := books.results
  formed := books.formed
  known := fun run hrun => (books.known run hrun).set hmoved
  counted := books.counted
  owned := books.owned

variable {row : RunbookRow} {notebook : Notebook}

theorem RowMoved.recorded {revision : Nat}
    {duplicateOfRunbookId : Option JsString} (hplan : notebook.plan = row.notebook.plan)
    (hfeatures : notebook.enabledFeatures = row.notebook.enabledFeatures) :
    RowMoved row { row with notebook, revision, duplicateOfRunbookId } :=
  ⟨rfl, Nat.le_refl _, fun _ => ⟨hplan, hfeatures⟩⟩

theorem RowMoved.edited {revision : Nat} :
    RowMoved row { row with notebook, revision, contentRevision := row.contentRevision + 1 } :=
  ⟨rfl, Nat.le_succ _, fun h => absurd h (Nat.ne_of_lt (Nat.lt_succ_self _))⟩

/-! ## Executions -/

variable {workspaceId : JsString}

theorem RunFormed.newRun {uuid startedAt : JsString} {cellIds : List JsString}
    (hnodup : cellIds.Nodup) :
    RunFormed (RunbookTables.newRun workspaceId id (runIdOf uuid) cellIds startedAt row) where
  named := nofun
  selected := hnodup
  selectedCount := rfl
  planned := rfl
  full := fun h => of_decide_eq_true h
  revised := rfl

theorem LedgerBooks.insertRun {tables' : RunbookTables} (books : LedgerBooks tables)
    (hformed : RunFormed run) (hknown : RunKnown tables.runbooks run) (hrunning : run.status = .running)
    (hcount : run.completedCellCount = 0) (h : tables.insertRun run = some tables') : LedgerBooks tables' := by
  rw [RunbookTables.insertRun] at h
  split at h
  · cases h
  · next hnew =>
    cases h
    have hfresh : ∀ other ∈ tables.runs, other.runId ≠ run.runId := fun other hother heq =>
      hnew (List.any_eq_true.mpr ⟨other, hother, decide_eq_true heq⟩)
    have hnone : resultsOf tables.cellRuns run.runId = [] := by
      refine List.filter_eq_nil_iff.mpr fun cell hcell heq => ?_
      obtain ⟨owner, howner, hid, -⟩ := books.owned cell hcell
      exact hfresh owner howner (hid.trans (of_decide_eq_true heq))
    have hsplit : ∀ other ∈ tables.runs ++ [run], other ∈ tables.runs ∨ other = run := fun other hother => by
      simpa using hother
    refine ⟨?_, books.results, fun other hother => ?_, fun other hother => ?_, fun other hother => ?_, fun cell hcell => ?_⟩
    · rw [List.map_append, List.map_singleton]
      refine List.nodup_append.mpr ⟨books.runIds, List.nodup_singleton _, fun id hid other hother heq => ?_⟩
      obtain ⟨owner, howner, rfl⟩ := List.mem_map.mp hid
      exact hfresh owner howner (heq.trans (List.mem_singleton.mp hother))
    · rcases hsplit other hother with hold | rfl
      · exact books.formed other hold
      · exact hformed
    · rcases hsplit other hother with hold | rfl
      · exact books.known other hold
      · exact hknown
    · rcases hsplit other hother with hold | rfl
      · exact books.counted other hold
      · refine ⟨by rw [hcount, hnone, List.length_nil], fun hsucc => ?_⟩
        rw [RunRow.succeeded, hrunning] at hsucc
        cases hsucc
    · obtain ⟨owner, howner, hid, hsel⟩ := books.owned cell hcell
      exact ⟨owner, List.mem_append_left _ howner, hid, hsel⟩

theorem isActive_iff {runId : JsString} :
    isActive workspaceId id runId run = true ↔
      run.runId = runId ∧ run.runbookId = id ∧ run.workspaceId = workspaceId ∧ run.status = .running := by
  simp [isActive, and_assoc]

/-- What the record of a result, or of the outcome, makes of a row. -/
def RunMoved (run run' : RunRow) : Prop :=
  ∃ status completedAt completedCellCount, run' = { run with status, completedAt, completedCellCount }

theorem RunFormed.moved (h : RunFormed run) (hmoved : RunMoved run run') : RunFormed run' := by
  obtain ⟨status, completedAt, completedCellCount, rfl⟩ := hmoved
  exact ⟨h.named, h.selected, h.selectedCount, h.planned, h.full, h.revised⟩

theorem RunKnown.moved (h : RunKnown runbooks run)
    (hmoved : RunMoved run run') : RunKnown runbooks run' := by
  obtain ⟨status, completedAt, completedCellCount, rfl⟩ := hmoved
  exact h

theorem LedgerBooks.mapRuns (books : LedgerBooks tables) {f : RunRow → RunRow}
    (hmoved : ∀ run, RunMoved run (f run)) {cellRuns : List CellRow}
    (hress : (cellRuns.map fun cell => (cell.runId, cell.cellId)).Nodup)
    (hcount : ∀ run ∈ tables.runs, RunCounted cellRuns (f run))
    (howned : ∀ cell ∈ cellRuns, ∃ run ∈ tables.runs, run.runId = cell.runId ∧ cell.cellId ∈ run.selectedCellIds) :
    LedgerBooks { tables with runs := tables.runs.map f, cellRuns } where
  runIds := by
    have hids : ∀ run, (f run).runId = run.runId := fun run => by
      obtain ⟨status, completedAt, completedCellCount, heq⟩ := hmoved run
      rw [heq]
    rw [List.map_map, show RunRow.runId ∘ f = RunRow.runId from funext hids]
    exact books.runIds
  results := hress
  formed run' hrun' := by
    obtain ⟨run, hrun, rfl⟩ := List.mem_map.mp hrun'
    exact (books.formed run hrun).moved (hmoved run)
  known run' hrun' := by
    obtain ⟨run, hrun, rfl⟩ := List.mem_map.mp hrun'
    exact (books.known run hrun).moved (hmoved run)
  counted run' hrun' := by
    obtain ⟨run, hrun, rfl⟩ := List.mem_map.mp hrun'
    exact hcount run hrun
  owned cell hcell := by
    obtain ⟨run, hrun, hid, hsel⟩ := howned cell hcell
    refine ⟨f run, List.mem_map_of_mem hrun, ?_⟩
    obtain ⟨status, completedAt, completedCellCount, heq⟩ := hmoved run
    rw [heq]
    exact ⟨hid, hsel⟩

theorem resultsOf_append (cellRuns : List CellRow) (cell : CellRow) (runId : JsString) :
    resultsOf (cellRuns ++ [cell]) runId = resultsOf cellRuns runId ++ if cell.runId = runId then [cell] else [] := by
  rw [resultsOf, resultsOf, List.filter_append, List.filter_singleton]
  by_cases hid : cell.runId = runId <;> simp [hid]

section Persisted

variable {tables tables' : RunbookTables} {workspaceId id runId : JsString}

variable {cellId : JsString} {outcome : RunOutcome}

theorem persistCell_some
    (h : tables.persistCell workspaceId id runId cellId outcome = some tables') :
    (∃ run ∈ tables.runs, isActive workspaceId id runId run = true ∧ cellId ∈ run.selectedCellIds) ∧
      (∀ cell ∈ tables.cellRuns, cell.runId = runId → cell.cellId ≠ cellId) ∧
        tables' = {
          tables with
          cellRuns := tables.cellRuns ++ [⟨runId, cellId, outcome⟩]
          runs := tables.runs.map fun run =>
            if isActive workspaceId id runId run then
              { run with completedCellCount := run.completedCellCount + 1 }
            else run } := by
  simp only [persistCell, optionBind_some, Option.guard_eq_some', optionPure_some] at h
  obtain ⟨-, hact, -, hnew, rfl⟩ := h
  refine ⟨?_, fun cell hcell hid heq => hnew ?_, rfl⟩
  · obtain ⟨run, hrun, hboth⟩ := List.any_eq_true.mp hact
    rw [Bool.and_eq_true, List.contains_iff_mem] at hboth
    exact ⟨run, hrun, hboth⟩
  · exact List.any_eq_true.mpr ⟨cell, hcell, decide_eq_true ⟨hid, heq⟩⟩

theorem LedgerBooks.persistCell (books : LedgerBooks tables)
    (h : tables.persistCell workspaceId id runId cellId outcome = some tables') : LedgerBooks tables' := by
  obtain ⟨⟨active, hact, hisActive, hsel⟩, hnew, rfl⟩ := persistCell_some h
  have hid := (isActive_iff.mp hisActive).1
  refine books.mapRuns (fun run => ?_) ?_ (fun run hrun => ?_) fun cell hcell => ?_
  · split
    · exact ⟨_, _, _, rfl⟩
    · exact ⟨run.status, run.completedAt, run.completedCellCount, rfl⟩
  · rw [List.map_append, List.map_singleton]
    refine List.nodup_append.mpr ⟨books.results, List.nodup_singleton _, fun key hkey other hother heq => ?_⟩
    obtain ⟨cell, hcell, rfl⟩ := List.mem_map.mp hkey
    rw [List.mem_singleton.mp hother, Prod.mk.injEq] at heq
    exact hnew cell hcell heq.1 heq.2
  · obtain ⟨hcount, hcompl⟩ := books.counted run hrun
    split
    · next hrunActive =>
      have hrunId := (isActive_iff.mp hrunActive).1
      have hst := (isActive_iff.mp hrunActive).2.2.2
      refine ⟨?_, fun hsucc => ?_⟩
      · rw [resultsOf_append, if_pos hrunId.symm, List.length_append, ← hcount, List.length_singleton]
      · rw [RunRow.succeeded, hst] at hsucc
        cases hsucc
    · next hidle =>
      have hother : runId ≠ run.runId := by
        intro heq
        rw [books.run_eq hrun hact (heq.symm.trans hid.symm)] at hidle
        exact hidle hisActive
      refine ⟨?_, fun hsucc cellId hcellId => List.mem_append_left _ (hcompl hsucc cellId hcellId)⟩
      rw [resultsOf_append, if_neg hother, List.append_nil, hcount]
  · rcases List.mem_append.mp hcell with hold | hadded
    · exact books.owned cell hold
    · rw [List.mem_singleton.mp hadded]
      exact ⟨active, hact, hid, hsel⟩

variable {completedAt : JsString}

theorem persistOutcome_some
    (h : tables.persistOutcome workspaceId id runId outcome completedAt = some tables') :
    (outcome = .succeeded → tables.incomplete runId = false) ∧
      (∃ run ∈ tables.runs, isActive workspaceId id runId run = true) ∧
        tables' = {
          tables with
          runs := tables.runs.map fun run =>
            if isActive workspaceId id runId run then
              { run with status := .ended outcome, completedAt := some completedAt }
            else run } := by
  simp only [persistOutcome, optionBind_some, Option.guard_eq_some', optionPure_some] at h
  obtain ⟨-, hcompl, -, hact, rfl⟩ := h
  exact ⟨hcompl, List.any_eq_true.mp hact, rfl⟩

theorem mem_of_complete (hcompl : tables.incomplete runId = false) {run : RunRow} (hrun : run ∈ tables.runs)
    (hid : run.runId = runId) (hsel : cellId ∈ run.selectedCellIds) :
    ⟨runId, cellId, .succeeded⟩ ∈ tables.cellRuns := by
  rw [incomplete, List.any_eq_false] at hcompl
  have hcells := hcompl run hrun
  rw [hid, decide_eq_true rfl, Bool.true_and, Bool.not_eq_true, List.any_eq_false] at hcells
  have hcell := hcells cellId hsel
  rw [Bool.not_eq_true, Bool.or_eq_false_iff, List.isEmpty_eq_false_iff_exists_mem, List.any_eq_false] at hcell
  obtain ⟨⟨cell, hcell⟩, hsucc⟩ := hcell
  have houtcome : cell.outcome = .succeeded := by
    have hnot := hsucc cell hcell
    rwa [decide_eq_true_eq, not_not] at hnot
  obtain ⟨hmem, hkey⟩ := List.mem_filter.mp hcell
  obtain ⟨hrunId, hcellId⟩ := of_decide_eq_true hkey
  rw [← hrunId, ← hcellId, ← houtcome]
  exact hmem

theorem LedgerBooks.persistOutcome (books : LedgerBooks tables)
    (h : tables.persistOutcome workspaceId id runId outcome completedAt = some tables') : LedgerBooks tables' := by
  obtain ⟨hcompl, -, rfl⟩ := persistOutcome_some h
  refine books.mapRuns (fun run => ?_) books.results (fun run hrun => ?_) books.owned
  · split
    · exact ⟨_, _, _, rfl⟩
    · exact ⟨run.status, run.completedAt, run.completedCellCount, rfl⟩
  · split
    · next hact =>
      have hrunId := (isActive_iff.mp hact).1
      refine ⟨(books.counted run hrun).counted, fun hsucc cellId hsel => ?_⟩
      have houtcome : outcome = .succeeded := by simpa [RunRow.succeeded] using hsucc
      rw [hrunId]
      exact mem_of_complete (hcompl houtcome) hrun hrunId hsel
    · exact books.counted run hrun

end Persisted

/-! ## Steps -/

section Steps

variable {tables tables' : RunbookTables} {workspaceId id : JsString}

theorem readRow_some {row : RunbookRow} (h : tables.readRow workspaceId id = some row) :
    tables.runbooks.get? id = some row ∧ row.workspaceId = workspaceId := by
  obtain ⟨hrow, hws⟩ := Option.filter_eq_some_iff.mp h
  exact ⟨hrow, of_decide_eq_true hws⟩

variable {edit : Notebook → Option Notebook} {expectedRevision : Nat}

theorem editContent_some
    (h : tables.editContent workspaceId id expectedRevision edit = some tables') :
    ∃ row notebook, tables.runbooks.get? id = some row ∧ row.workspaceId = workspaceId ∧
      tables' = { tables with runbooks := tables.runbooks.set id {
        row with notebook, revision := row.revision + 1, contentRevision := row.contentRevision + 1 } } := by
  simp only [editContent, optionBind_some, optionPure_some] at h
  obtain ⟨row, hrow, -, -, notebook, -, rfl⟩ := h
  obtain ⟨hget, hws⟩ := readRow_some hrow
  exact ⟨row, notebook, hget, hws, rfl⟩

variable {persistExecution : RunbookRow → RunbookTables → Option RunbookTables}
  {mutate : RunbookRow → Option Notebook}

/-- What the record of an execution has found, and what it has written. -/
theorem updateNotebook_some
    (h : tables.updateNotebook workspaceId id mutate persistExecution = some tables') :
    ∃ row notebook tables₁, tables.runbooks.get? id = some row ∧ row.workspaceId = workspaceId ∧
      mutate row = some notebook ∧ persistExecution row tables = some tables₁ ∧
        tables' = { tables₁ with runbooks := tables₁.runbooks.set id { row with notebook, revision := row.revision + 1 } } := by
  simp only [updateNotebook, optionBind_some, optionPure_some] at h
  obtain ⟨row, hrow, -, -, notebook, hbook, tables₁, hpersist, rfl⟩ := h
  obtain ⟨hget, hws⟩ := readRow_some hrow
  exact ⟨row, notebook, tables₁, hget, hws, hbook, hpersist, rfl⟩

theorem LedgerBooks.editContent (books : LedgerBooks tables)
    (h : tables.editContent workspaceId id expectedRevision edit = some tables') : LedgerBooks tables' := by
  obtain ⟨row, notebook, hrow, -, rfl⟩ := editContent_some h
  refine books.setRow fun row' hrow' => ?_
  obtain rfl := Option.some.inj (hrow.symm.trans hrow')
  exact .edited

theorem LedgerBooks.updateNotebook (hmutate : ∀ row notebook, mutate row = some notebook →
      notebook.plan = row.notebook.plan ∧ notebook.enabledFeatures = row.notebook.enabledFeatures)
    (hpersist : ∀ row notebook tables₁, tables.runbooks.get? id = some row → row.workspaceId = workspaceId →
      mutate row = some notebook → persistExecution row tables = some tables₁ →
        LedgerBooks tables₁ ∧ tables₁.runbooks = tables.runbooks)
    (h : tables.updateNotebook workspaceId id mutate persistExecution = some tables') : LedgerBooks tables' := by
  obtain ⟨row, notebook, tables₁, hrow, hws, hbook, hwr, rfl⟩ := updateNotebook_some h
  obtain ⟨books₁, hrunbooks⟩ := hpersist row notebook tables₁ hrow hws hbook hwr
  obtain ⟨hplan, hfeatures⟩ := hmutate row notebook hbook
  refine books₁.setRow fun row' hrow' => ?_
  rw [hrunbooks] at hrow'
  obtain rfl := Option.some.inj (hrow.symm.trans hrow')
  exact .recorded hplan hfeatures

theorem LedgerBooks.beginExecution (books : LedgerBooks tables) {uuid startedAt : JsString} {cellIds : List JsString}
    {expectedContentRevision : Option Nat}
    (h : tables.beginExecution workspaceId id (runIdOf uuid) cellIds startedAt expectedContentRevision = some tables') :
    LedgerBooks tables' := by
  refine .updateNotebook (fun row notebook hbook => ?_) (fun row notebook tables₁ hrow hws hbook hinsert => ?_) h
  · simp only [optionBind_some, optionPure_some] at hbook
    obtain ⟨-, -, plan, -, -, -, rfl⟩ := hbook
    exact ⟨by simp, rfl⟩
  · simp only [optionBind_some, Option.guard_eq_some', Option.pure_def] at hbook
    obtain ⟨-, -, plan, -, -, hcells, -⟩ := hbook
    have hknown : RunKnown tables.runbooks (RunbookTables.newRun workspaceId id (runIdOf uuid) cellIds startedAt row) :=
      ⟨row, hrow, hws, Nat.le_refl _, fun _ => ⟨rfl, rfl⟩⟩
    refine ⟨books.insertRun (.newRun hcells.2.1) hknown rfl rfl hinsert, ?_⟩
    rw [RunbookTables.insertRun] at hinsert
    split at hinsert
    · cases hinsert
    · rw [← Option.some.inj hinsert]

theorem ledgerBooks_step (books : LedgerBooks tables) (event : RunbookEvent) : LedgerBooks (tables.step event) := by
  rw [step]
  cases hatt : tables.attempt event with
  | none => exact books
  | some tables' =>
    rw [Option.getD_some]
    obtain ⟨workspaceId, call⟩ := event
    cases call with
    | create id notebook =>
      simp only [attempt, RunbookTables.create] at hatt
      split at hatt
      · cases hatt
      · next hnew =>
        cases hatt
        refine books.setRow fun row hrow => absurd ?_ hnew
        rw [JsMap.has, hrow]
        rfl
    | append | configure | editCell =>
      simp only [attempt] at hatt
      exact books.editContent hatt
    | markDuplicate id expectedRevision parentRunbookId =>
      simp only [attempt, RunbookTables.markDuplicate, optionBind_some, optionPure_some] at hatt
      obtain ⟨current, hcur, -, -, -, -, -, -, rfl⟩ := hatt
      refine books.setRow fun row hrow => ?_
      obtain rfl := Option.some.inj ((readRow_some hcur).1.symm.trans hrow)
      exact .recorded rfl rfl
    | undoDuplicate id expectedRevision =>
      simp only [attempt, RunbookTables.undoDuplicate, optionBind_some, optionPure_some] at hatt
      obtain ⟨current, hcur, -, -, rfl⟩ := hatt
      refine books.setRow fun row hrow => ?_
      obtain rfl := Option.some.inj ((readRow_some hcur).1.symm.trans hrow)
      exact .recorded rfl rfl
    | beginExecution id uuid cellIds startedAt expectedContentRevision =>
      simp only [attempt] at hatt
      exact books.beginExecution hatt
    | beginCellExecution id runId cellId =>
      simp only [attempt, RunbookTables.beginCellExecution] at hatt
      refine .updateNotebook (fun row notebook hbook => ?_) (fun row notebook tables₁ _ _ _ hsame => ?_) hatt
      · exact ⟨Notebook.plan_recordCell hbook, Notebook.enabledFeatures_recordCell hbook⟩
      · rw [← Option.some.inj hsame]
        exact ⟨books, rfl⟩
    | completeCellExecution id runId cellId outcome =>
      simp only [attempt, RunbookTables.completeCellExecution] at hatt
      refine .updateNotebook (fun row notebook hbook => ?_) (fun row notebook tables₁ _ _ _ hpersist => ?_) hatt
      · exact ⟨Notebook.plan_recordCell hbook, Notebook.enabledFeatures_recordCell hbook⟩
      · refine ⟨books.persistCell hpersist, ?_⟩
        rw [(persistCell_some hpersist).2.2]
    | skipCellExecutions id runId cellIds =>
      simp only [attempt, RunbookTables.skipCellExecutions] at hatt
      split at hatt
      · rwa [← Option.some.inj hatt]
      · refine .updateNotebook (fun row notebook hbook => ?_) (fun row notebook tables₁ _ _ _ hsame => ?_) hatt
        · rw [← Option.some.inj hbook]
          exact ⟨Notebook.plan_recordCells _ _ _, rfl⟩
        · rw [← Option.some.inj hsame]
          exact ⟨books, rfl⟩
    | completeExecution id runId outcome completedAt =>
      simp only [attempt, RunbookTables.completeExecution] at hatt
      refine .updateNotebook (fun row notebook hbook => ?_) (fun row notebook tables₁ _ _ _ hpersist => ?_) hatt
      · rw [← Option.some.inj hbook]
        exact ⟨rfl, rfl⟩
      · refine ⟨books.persistOutcome hpersist, ?_⟩
        rw [(persistOutcome_some hpersist).2.2]

def RunbookCall.edited : RunbookCall → Option JsString
  | .append id _ _ _ | .configure id _ _ _ _ | .editCell id _ _ _ => some id
  | _ => none

/-- A call that neither edits the content of a runbook nor ends a run. -/
def RunbookCall.Quiet (call : RunbookCall) : Prop :=
  call.edited = none ∧ ∀ id runId outcome completedAt, call ≠ .completeExecution id runId outcome completedAt

def RevisionsKept (runbooks runbooks' : JsMap JsString RunbookRow) : Prop :=
  ∀ id row', runbooks'.get? id = some row' →
    runbooks.get? id = none ∨ ∃ row, runbooks.get? id = some row ∧ row.contentRevision = row'.contentRevision

theorem RevisionsKept.refl (runbooks : JsMap JsString RunbookRow) : RevisionsKept runbooks runbooks :=
  fun _ row hrow => .inr ⟨row, hrow, rfl⟩

theorem RevisionsKept.set {runbooks : JsMap JsString RunbookRow} {row' : RunbookRow}
    (h : ∀ row, runbooks.get? id = some row → row.contentRevision = row'.contentRevision) :
    RevisionsKept runbooks (runbooks.set id row') := by
  intro id' row hrow
  rw [JsMap.get?_set] at hrow
  split at hrow
  · next heq =>
    subst heq
    cases hrow
    cases hold : runbooks.get? id' with
    | none => exact .inl rfl
    | some old => exact .inr ⟨old, rfl, h old hold⟩
  · exact .inr ⟨row, hrow, rfl⟩

inductive LedgerChange (tables : RunbookTables) (event : RunbookEvent) (tables' : RunbookTables) : Prop where
  | kept (hquiet : event.call.Quiet) (hrows : RevisionsKept tables.runbooks tables'.runbooks)
      (hruns : tables'.runs = tables.runs) (hcells : tables'.cellRuns = tables.cellRuns)
  | edited (id : JsString) (row : RunbookRow) (notebook : Notebook) (hcall : event.call.edited = some id)
      (hrow : tables.runbooks.get? id = some row)
      (heq : tables' = { tables with runbooks := tables.runbooks.set id {
        row with notebook, revision := row.revision + 1, contentRevision := row.contentRevision + 1 } })
  | begun (run : RunRow) (hquiet : event.call.Quiet) (hrows : RevisionsKept tables.runbooks tables'.runbooks)
      (hrunning : run.status = .running) (hruns : tables'.runs = tables.runs ++ [run])
      (hcells : tables'.cellRuns = tables.cellRuns)
  | recorded (workspaceId id runId cellId : JsString) (outcome : RunOutcome) (tables₁ : RunbookTables)
      (hquiet : event.call.Quiet) (hrows : RevisionsKept tables.runbooks tables'.runbooks)
      (hpersist : tables.persistCell workspaceId id runId cellId outcome = some tables₁)
      (hruns : tables'.runs = tables₁.runs) (hcells : tables'.cellRuns = tables₁.cellRuns)
  | ended (id runId : JsString) (outcome : RunOutcome) (completedAt : JsString) (tables₁ : RunbookTables)
      (hcall : event.call = .completeExecution id runId outcome completedAt)
      (hrows : RevisionsKept tables.runbooks tables'.runbooks)
      (hpersist : tables.persistOutcome event.workspaceId id runId outcome completedAt = some tables₁)
      (hruns : tables'.runs = tables₁.runs) (hcells : tables'.cellRuns = tables₁.cellRuns)

theorem attempt_change {event : RunbookEvent} (hatt : tables.attempt event = some tables') :
    LedgerChange tables event tables' := by
  -- the row of a runbook that is written again, with the content revision that was read
  have hset : ∀ {id : JsString} {row row' : RunbookRow}, tables.runbooks.get? id = some row →
      row.contentRevision = row'.contentRevision → RevisionsKept tables.runbooks (tables.runbooks.set id row') := by
    intro id row row' hrow hrev
    refine .set fun old hold => ?_
    rw [← Option.some.inj (hrow.symm.trans hold), hrev]
  obtain ⟨workspaceId, call⟩ := event
  cases call with
  | create id notebook =>
    simp only [attempt, RunbookTables.create] at hatt
    split at hatt
    · cases hatt
    · next hnew =>
      rw [← Option.some.inj hatt]
      refine .kept ⟨rfl, nofun⟩ (.set fun row hrow => absurd ?_ hnew) rfl rfl
      rw [JsMap.has, hrow]
      rfl
  | append id expectedRevision cells replaceCells
  | configure id expectedRevision enabledFeatures cellFeatures cellExecutors
  | editCell id expectedRevision cellId source =>
    simp only [attempt] at hatt
    obtain ⟨row, notebook, hrow, -, heq⟩ := editContent_some hatt
    exact .edited id row notebook rfl hrow heq
  | markDuplicate id expectedRevision parentRunbookId =>
    simp only [attempt, RunbookTables.markDuplicate, optionBind_some, optionPure_some] at hatt
    obtain ⟨current, hcur, -, -, -, -, -, -, rfl⟩ := hatt
    exact .kept ⟨rfl, nofun⟩ (hset (readRow_some hcur).1 rfl) rfl rfl
  | undoDuplicate id expectedRevision =>
    simp only [attempt, RunbookTables.undoDuplicate, optionBind_some, optionPure_some] at hatt
    obtain ⟨current, hcur, -, -, rfl⟩ := hatt
    exact .kept ⟨rfl, nofun⟩ (hset (readRow_some hcur).1 rfl) rfl rfl
  | beginExecution id uuid cellIds startedAt expectedContentRevision =>
    simp only [attempt, RunbookTables.beginExecution] at hatt
    obtain ⟨row, notebook, tables₁, hrow, -, -, hinsert, rfl⟩ := updateNotebook_some hatt
    rw [insertRun] at hinsert
    split at hinsert
    · cases hinsert
    · rw [← Option.some.inj hinsert]
      exact .begun (newRun workspaceId id (runIdOf uuid) cellIds startedAt row) ⟨rfl, nofun⟩ (hset hrow rfl)
        rfl rfl rfl
  | beginCellExecution id runId cellId =>
    simp only [attempt, RunbookTables.beginCellExecution] at hatt
    obtain ⟨row, notebook, tables₁, hrow, -, -, hsame, rfl⟩ := updateNotebook_some hatt
    rw [← Option.some.inj hsame]
    exact .kept ⟨rfl, nofun⟩ (hset hrow rfl) rfl rfl
  | completeCellExecution id runId cellId outcome =>
    simp only [attempt, RunbookTables.completeCellExecution] at hatt
    obtain ⟨row, notebook, tables₁, hrow, -, -, hpersist, rfl⟩ := updateNotebook_some hatt
    refine .recorded _ _ _ _ _ tables₁ ⟨rfl, nofun⟩ ?_ hpersist rfl rfl
    rw [(persistCell_some hpersist).2.2]
    exact hset hrow rfl
  | skipCellExecutions id runId cellIds =>
    simp only [attempt, RunbookTables.skipCellExecutions] at hatt
    split at hatt
    · rw [← Option.some.inj hatt]
      exact .kept ⟨rfl, nofun⟩ (.refl _) rfl rfl
    · obtain ⟨row, notebook, tables₁, hrow, -, -, hsame, rfl⟩ := updateNotebook_some hatt
      rw [← Option.some.inj hsame]
      exact .kept ⟨rfl, nofun⟩ (hset hrow rfl) rfl rfl
  | completeExecution id runId outcome completedAt =>
    simp only [attempt, RunbookTables.completeExecution] at hatt
    obtain ⟨row, notebook, tables₁, hrow, -, -, hpersist, rfl⟩ := updateNotebook_some hatt
    refine .ended id runId outcome completedAt tables₁ rfl ?_ hpersist rfl rfl
    rw [(persistOutcome_some hpersist).2.2]
    exact hset hrow rfl

theorem step_ended (books : LedgerBooks tables) (event : RunbookEvent) {run : RunRow} (hrun : run ∈ tables.runs)
    (hended : run.status ≠ .running) :
    run ∈ (tables.step event).runs ∧
      resultsOf (tables.step event).cellRuns run.runId = resultsOf tables.cellRuns run.runId := by
  have hidle : ∀ workspaceId id runId, ¬ isActive workspaceId id runId run = true :=
    fun workspaceId id runId hact => hended (isActive_iff.mp hact).2.2.2
  rw [step]
  cases hatt : tables.attempt event with
  | none => exact ⟨hrun, rfl⟩
  | some tables' => ?_
  cases attempt_change hatt with
  | kept hquiet hrows hruns hcells =>
    rw [Option.getD_some, hruns, hcells]
    exact ⟨hrun, rfl⟩
  | edited id row notebook hcall hrow heq =>
    rw [Option.getD_some, heq]
    exact ⟨hrun, rfl⟩
  | begun started hquiet hrows hrunning hruns hcells =>
    rw [Option.getD_some, hruns, hcells]
    exact ⟨List.mem_append_left _ hrun, rfl⟩
  | recorded workspaceId id runId cellId outcome tables₁ hquiet hrows hpersist hruns hcells =>
    obtain ⟨⟨active, hact, hisActive, -⟩, -, rfl⟩ := persistCell_some hpersist
    have hother : runId ≠ run.runId := fun heq => by
      rw [books.run_eq hrun hact (heq.symm.trans (isActive_iff.mp hisActive).1.symm)] at hidle
      exact hidle _ _ _ hisActive
    rw [Option.getD_some, hruns, hcells, resultsOf_append, if_neg hother, List.append_nil]
    exact ⟨List.mem_map.mpr ⟨run, hrun, if_neg (hidle _ _ _)⟩, rfl⟩
  | ended id runId outcome completedAt tables₁ hcall hrows hpersist hruns hcells =>
    obtain ⟨-, -, rfl⟩ := persistOutcome_some hpersist
    rw [Option.getD_some, hruns, hcells]
    exact ⟨List.mem_map.mpr ⟨run, hrun, if_neg (hidle _ _ _)⟩, rfl⟩

end Steps

/-! ## Every state -/

theorem ledgerBooks_run (events : List RunbookEvent) : LedgerBooks (runSteps step empty events) :=
  runSteps_invariant (I := LedgerBooks) (fun _ event books => ledgerBooks_step books event) .empty events

section

variable (books : LedgerBooks tables) (hrun : run ∈ tables.runs)
include books hrun

theorem run_ended (hended : run.status ≠ .running) (events : List RunbookEvent) :
    run ∈ (runSteps step tables events).runs ∧
      resultsOf (runSteps step tables events).cellRuns run.runId = resultsOf tables.cellRuns run.runId := by
  induction events generalizing tables with
  | nil => exact ⟨hrun, rfl⟩
  | cons event events ih =>
    obtain ⟨hkept, hress⟩ := step_ended books event hrun hended
    obtain ⟨hlater, hlaterResults⟩ := ih (ledgerBooks_step books event) hkept
    exact ⟨hlater, hlaterResults.trans hress⟩

theorem LedgerBooks.result_eq (hsucc : run.succeeded = true) {cellId : JsString}
    (hsel : cellId ∈ run.selectedCellIds) :
    (resultsOf tables.cellRuns run.runId).filter (·.cellId = cellId) = [⟨run.runId, cellId, .succeeded⟩] := by
  have hmem := (books.counted run hrun).complete hsucc cellId hsel
  have hsame : ∀ cell ∈ (resultsOf tables.cellRuns run.runId).filter (·.cellId = cellId),
      cell = ⟨run.runId, cellId, .succeeded⟩ := by
    intro cell hcell
    obtain ⟨hres, hcellId⟩ := List.mem_filter.mp hcell
    obtain ⟨hold, hrunId⟩ := List.mem_filter.mp hres
    exact List.inj_on_of_nodup_map books.results hold hmem
      (Prod.ext (of_decide_eq_true hrunId) (of_decide_eq_true hcellId))
  have hnodup : ((resultsOf tables.cellRuns run.runId).filter (·.cellId = cellId)).Nodup :=
    ((List.Nodup.of_map _ books.results).filter _).filter _
  have hfound : (⟨run.runId, cellId, .succeeded⟩ : CellRow) ∈
      (resultsOf tables.cellRuns run.runId).filter (·.cellId = cellId) :=
    List.mem_filter.mpr ⟨List.mem_filter.mpr ⟨hmem, decide_eq_true rfl⟩, decide_eq_true rfl⟩
  have hreplicate := List.eq_replicate_of_mem hsame
  rw [hreplicate] at hnodup hfound ⊢
  have hone := List.nodup_replicate.mp hnodup
  have hpos := (List.mem_replicate.mp hfound).1
  rw [Nat.le_antisymm hone (Nat.pos_of_ne_zero hpos), List.replicate_one]

theorem LedgerBooks.count_le : run.completedCellCount ≤ run.selectedCellIds.length := by
  have hnodup : ((resultsOf tables.cellRuns run.runId).map (·.cellId)).Nodup := by
    refine ((List.Nodup.of_map _ books.results).filter _).map_on fun cell hcell cell' hcell' heq => ?_
    obtain ⟨hold, hrunId⟩ := List.mem_filter.mp hcell
    obtain ⟨hold', hrunId'⟩ := List.mem_filter.mp hcell'
    exact List.inj_on_of_nodup_map books.results hold hold'
      (Prod.ext ((of_decide_eq_true hrunId).trans (of_decide_eq_true hrunId').symm) heq)
  have hsubset : (resultsOf tables.cellRuns run.runId).map (·.cellId) ⊆ run.selectedCellIds := by
    intro cellId hcellId
    obtain ⟨cell, hcell, rfl⟩ := List.mem_map.mp hcellId
    obtain ⟨hold, hrunId⟩ := List.mem_filter.mp hcell
    obtain ⟨owner, howner, hid, hsel⟩ := books.owned cell hold
    rwa [books.run_eq howner hrun (hid.trans (of_decide_eq_true hrunId))] at hsel
  have hle := hnodup.length_le_of_subset hsubset
  rwa [List.length_map, ← (books.counted run hrun).counted] at hle

theorem LedgerBooks.count_eq (hsucc : run.succeeded = true) :
    run.selectedCellCount = run.completedCellCount := by
  have hsubset : run.selectedCellIds ⊆ (resultsOf tables.cellRuns run.runId).map (·.cellId) := by
    intro cellId hcellId
    have hmem := (books.counted run hrun).complete hsucc cellId hcellId
    exact List.mem_map.mpr ⟨_, List.mem_filter.mpr ⟨hmem, decide_eq_true rfl⟩, rfl⟩
  have hge := (books.formed run hrun).selected.length_le_of_subset hsubset
  rw [List.length_map, ← (books.counted run hrun).counted] at hge
  rw [(books.formed run hrun).selectedCount]
  exact Nat.le_antisymm hge (books.count_le hrun)

end

/-- What the ledger says of the runs, and the store of the latest success. -/
structure LedgerSound (tables : RunbookTables) : Prop where
  succeeded : ∀ run ∈ tables.runs, run.status = .ended .succeeded → ∀ cellId ∈ run.selectedCellIds,
    (resultsOf tables.cellRuns run.runId).filter (·.cellId = cellId) = [⟨run.runId, cellId, .succeeded⟩]
  counted : ∀ run ∈ tables.runs, run.completedCellCount = (resultsOf tables.cellRuns run.runId).length ∧
    run.completedCellCount ≤ run.selectedCellIds.length
  ended : ∀ run ∈ tables.runs, run.status ≠ .running → ∀ events : List RunbookEvent,
    run ∈ (runSteps RunbookTables.step tables events).runs ∧
      resultsOf (runSteps RunbookTables.step tables events).cellRuns run.runId = resultsOf tables.cellRuns run.runId
  latest : ∀ id row runId, tables.runbooks.get? id = some row →
    (tables.readExecutionMetrics row.workspaceId id).latestSuccessfulRunId = some runId →
      ∃ run ∈ tables.runs, run.runId = runId ∧ run.runbookId = id ∧ run.status = .ended .succeeded ∧
        run.fullRun = true ∧ run.selectedCellIds = row.notebook.plan.map (·.id) ∧
          run.snapshot = ⟨row.contentRevision, row.notebook.enabledFeatures, row.notebook.plan⟩

end Beale.Runbooks
