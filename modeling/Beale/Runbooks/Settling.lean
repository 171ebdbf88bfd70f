import Beale.Runbooks.Executor
import Mathlib.Data.List.Nodup

/-!
# How executions settle

- `Settled`, `settled_iff`: an execution settles where none of the calls that it cannot do without fails.
-/

namespace Beale.Runbooks

open Beale.Library

/-! ## Ids of cells -/

namespace Notebook

def cellIds (notebook : Notebook) : List JsString := notebook.cells.mapIdx notebookCellId

variable {notebook : Notebook}

theorem cellIds_mapCells {f : Nat → NotebookCell → NotebookCell} (hf : ∀ index cell, (f index cell).id = cell.id) :
    (notebook.mapCells f).cellIds = notebook.cellIds := by
  rw [cellIds, cellIds, mapCells, List.mapIdx_mapIdx]
  congr 1
  funext index cell
  rw [Function.comp, notebookCellId, notebookCellId, hf]

@[simp] theorem cellIds_recordRun (notebook : Notebook) (runId : JsString) (outcome : Option RunOutcome) :
    (notebook.recordRun runId outcome).cellIds = notebook.cellIds := rfl

@[simp] theorem cellIds_recordCells (notebook : Notebook) (runId : JsString) (cellIds : List JsString) (status : CellRunStatus) :
    (notebook.recordCells runId cellIds status).cellIds = notebook.cellIds :=
  cellIds_mapCells fun index cell => by split <;> rfl

theorem cellIds_recordCell {notebook' : Notebook} {runId cellId : JsString} {status : CellRunStatus}
    (h : notebook.recordCell runId cellId status = some notebook') : notebook'.cellIds = notebook.cellIds := by
  simp only [recordCell, changeCell, optionBind_some, optionPure_some] at h
  obtain ⟨found, -, cell, -, -, -, rfl⟩ := h
  exact cellIds_mapCells fun index cell => by split <;> rfl

def Says (notebook : Notebook) (runId cellId : JsString) (status : CellRunStatus) : Prop :=
  ∃ index cell, notebook.cells[index]? = some cell ∧ notebookCellId index cell = cellId ∧
    cell.latestRun = some (runId, status)

theorem says_recordCells {runId cellId : JsString} {cellIds : List JsString} {status : CellRunStatus}
    (hcell : cellId ∈ notebook.cellIds) (hsel : cellId ∈ cellIds) :
    (notebook.recordCells runId cellIds status).Says runId cellId status := by
  obtain ⟨index, hindex⟩ := List.mem_iff_getElem?.mp hcell
  rw [Notebook.cellIds, List.getElem?_mapIdx] at hindex
  obtain ⟨cell, hget, hid⟩ := Option.map_eq_some_iff.mp hindex
  refine ⟨index, setCellExecution runId status cell, ?_, hid, rfl⟩
  rw [recordCells, mapCells, List.getElem?_mapIdx, hget, Option.map_some, hid,
    if_pos (List.contains_iff_mem.mpr hsel)]

end Notebook

namespace Execution

variable {world : ExecutorWorld} {run : Execution}

/-! ## Tables -/

def NotebookIs (run : Execution) (tables : RunbookTables) (P : Notebook → Prop) : Prop :=
  ∃ row, tables.readRow run.workspaceId run.runbookId = some row ∧ P row.notebook

def OwnsRun (run : Execution) (tables : RunbookTables) : Prop :=
  ∀ row ∈ tables.runs, row.runId = run.runId → row.runbookId = run.runbookId ∧ row.workspaceId = run.workspaceId

/-- What the record of an execution leaves as it is. -/
structure Moved (run : Execution) (tables tables' : RunbookTables) : Prop where
  cells : ∀ cellId, run.NotebookIs tables (cellId ∈ ·.cellIds) → run.NotebookIs tables' (cellId ∈ ·.cellIds)
  owned : run.OwnsRun tables → run.OwnsRun tables'
  results : tables.cellRuns ⊆ tables'.cellRuns

theorem Moved.refl (tables : RunbookTables) : Moved run tables tables := ⟨fun _ => id, id, List.Subset.refl _⟩

variable {tables tables' : RunbookTables}

theorem Moved.trans {tables₁ tables₂ : RunbookTables} (h : Moved run tables tables₁) (h' : Moved run tables₁ tables₂) :
    Moved run tables tables₂ :=
  ⟨fun cellId hcell => h'.cells cellId (h.cells cellId hcell), fun howned => h'.owned (h.owned howned),
    List.Subset.trans h.results h'.results⟩

theorem readRow_set {workspaceId id : JsString} {row : RunbookRow}
    (hws : row.workspaceId = workspaceId) :
    RunbookTables.readRow { tables with runbooks := tables.runbooks.set id row } workspaceId id = some row := by
  rw [RunbookTables.readRow, JsMap.get?_set_self, Option.filter_some, if_pos (by simpa using hws)]

theorem Moved.updateNotebook {mutate : RunbookRow → Option Notebook}
    {persistExecution : RunbookRow → RunbookTables → Option RunbookTables}
    (h : tables.updateNotebook run.workspaceId run.runbookId mutate persistExecution = some tables')
    (hids : ∀ row notebook, mutate row = some notebook → notebook.cellIds = row.notebook.cellIds)
    (hkeep : ∀ row tables₁, persistExecution row tables = some tables₁ →
      (run.OwnsRun tables → run.OwnsRun tables₁) ∧ tables.cellRuns ⊆ tables₁.cellRuns) : Moved run tables tables' := by
  obtain ⟨row, notebook, tables₁, hrow, hws, hbook, hwr, rfl⟩ := updateNotebook_some h
  obtain ⟨howned, hress⟩ := hkeep row tables₁ hwr
  refine ⟨?_, howned, hress⟩
  rintro cellId ⟨old, hold, hcell⟩
  obtain rfl := Option.some.inj ((readRow_some hold).1.symm.trans hrow)
  refine ⟨_, readRow_set hws, ?_⟩
  rw [← hids _ _ hbook] at hcell
  exact hcell

theorem OwnsRun.mapRuns {f : RunRow → RunRow} {cellRuns : List CellRow}
    (hf : ∀ row, RunMoved row (f row)) (h : run.OwnsRun tables) :
    run.OwnsRun { tables with runs := tables.runs.map f, cellRuns } := by
  rintro _ hrow hid
  obtain ⟨row, hmem, rfl⟩ := List.mem_map.mp hrow
  obtain ⟨status, completedAt, completedCellCount, heq⟩ := hf row
  rw [heq] at hid ⊢
  exact h row hmem hid

variable {cellId : JsString}

theorem moved_beginCellExecution
    (h : tables.beginCellExecution run.workspaceId run.runbookId run.runId cellId = some tables') : Moved run tables tables' :=
  .updateNotebook h (fun _ _ hbook => Notebook.cellIds_recordCell hbook)
    (fun _ _ hsame => by obtain rfl := Option.some.inj hsame; exact ⟨id, List.Subset.refl _⟩)

theorem moved_completeCellExecution {outcome : RunOutcome}
    (h : tables.completeCellExecution run.workspaceId run.runbookId run.runId cellId outcome = some tables') :
    Moved run tables tables' ∧ ⟨run.runId, cellId, outcome⟩ ∈ tables'.cellRuns := by
  constructor
  · refine .updateNotebook h (fun _ _ hbook => Notebook.cellIds_recordCell hbook) fun _ _ hkeep => ?_
    obtain ⟨-, -, rfl⟩ := persistCell_some hkeep
    refine ⟨OwnsRun.mapRuns fun row => ?_, List.subset_append_left _ _⟩
    split
    · exact ⟨_, _, _, rfl⟩
    · exact ⟨row.status, row.completedAt, row.completedCellCount, rfl⟩
  · obtain ⟨row, notebook, tables₁, -, -, -, hkeep, rfl⟩ := updateNotebook_some h
    obtain ⟨-, -, rfl⟩ := persistCell_some hkeep
    exact List.mem_append_right _ List.mem_cons_self

variable {cellIds : List JsString}

theorem moved_skipCellExecutions
    (h : tables.skipCellExecutions run.workspaceId run.runbookId run.runId cellIds = some tables') :
    Moved run tables tables' ∧ ∀ cellId ∈ cellIds, run.NotebookIs tables (cellId ∈ ·.cellIds) →
      run.NotebookIs tables' (·.Says run.runId cellId .skipped) := by
  rw [RunbookTables.skipCellExecutions] at h
  split at h
  · next hnone =>
    cases h
    rw [hnone]
    exact ⟨.refl _, fun cellId hcell => absurd hcell List.not_mem_nil⟩
  · refine ⟨.updateNotebook h ?_ ?_, ?_⟩
    · intro row notebook hbook
      cases hbook
      exact Notebook.cellIds_recordCells _ _ _ _
    · intro row tables₁ hsame
      cases hsame
      exact ⟨id, List.Subset.refl _⟩
    · obtain ⟨row, notebook, tables₁, hrow, hws, hbook, hsame, rfl⟩ := updateNotebook_some h
      cases hbook
      cases hsame
      rintro cellId hcell ⟨old, hold, hknown⟩
      obtain rfl := Option.some.inj ((readRow_some hold).1.symm.trans hrow)
      exact ⟨_, readRow_set hws, Notebook.says_recordCells hknown hcell⟩

theorem moved_completeExecution {outcome : RunOutcome} {completedAt : JsString}
    (h : tables.completeExecution run.workspaceId run.runbookId run.runId outcome completedAt = some tables') :
    tables.cellRuns ⊆ tables'.cellRuns ∧
      (∀ cellId status, run.NotebookIs tables (·.Says run.runId cellId status) →
        run.NotebookIs tables' (·.Says run.runId cellId status)) ∧
      (run.OwnsRun tables → ∀ row ∈ tables'.runs, row.runId = run.runId → row.status ≠ .running) := by
  obtain ⟨row, notebook, tables₁, hrow, hws, hbook, hkeep, rfl⟩ := updateNotebook_some h
  cases hbook
  obtain ⟨-, -, rfl⟩ := persistOutcome_some hkeep
  refine ⟨List.Subset.refl _, ?_, ?_⟩
  · rintro cellId status ⟨old, hold, htold⟩
    obtain rfl := Option.some.inj ((readRow_some hold).1.symm.trans hrow)
    exact ⟨_, readRow_set hws, htold⟩
  · intro howned row' hrow' hid
    obtain ⟨old, hold, rfl⟩ := List.mem_map.mp hrow'
    split at hid
    · next hact =>
      rw [if_pos hact]
      exact nofun
    · next hidle =>
      rw [if_neg hidle]
      intro hrun
      obtain ⟨hrunbook, hws⟩ := howned old hold hid
      exact hidle (isActive_iff.mpr ⟨hid, hrunbook, hws, hrun⟩)

theorem beginExecution_owned {startedAt : JsString} {expectedContentRevision : Option Nat}
    (h : tables.beginExecution run.workspaceId run.runbookId run.runId cellIds startedAt expectedContentRevision = some tables') :
    cellIds.Nodup ∧ run.OwnsRun tables' ∧ ∀ cellId ∈ cellIds, run.NotebookIs tables' (cellId ∈ ·.cellIds) := by
  obtain ⟨row, notebook, tables₁, hrow, hws, hbook, hinsert, rfl⟩ := updateNotebook_some h
  simp only [optionBind_some, Option.guard_eq_some', optionPure_some] at hbook
  obtain ⟨-, -, plan, hplan, -, ⟨-, hnodup, hplanned⟩, rfl⟩ := hbook
  rw [RunbookTables.insertRun] at hinsert
  split at hinsert
  · cases hinsert
  next hnew =>
  cases hinsert
  refine ⟨hnodup, ?_, fun cellId hcell => ⟨_, readRow_set hws, ?_⟩⟩
  · intro other hother hid
    rcases List.mem_append.mp hother with hold | hadded
    · exact absurd (List.any_eq_true.mpr ⟨other, hold, decide_eq_true hid⟩) hnew
    · rw [List.mem_singleton.mp hadded]
      exact ⟨rfl, rfl⟩
  · have hmem := hplanned cellId hcell
    rw [Notebook.executionPlan] at hplan
    split at hplan
    · cases hplan
    cases hplan
    obtain ⟨planned, hplanned, rfl⟩ := List.mem_map.mp hmem
    obtain ⟨slot, hslot, rfl⟩ := List.mem_filterMap.mp hplanned
    obtain ⟨index, hindex⟩ := List.mem_iff_getElem?.mp hslot
    rw [List.getElem?_mapIdx] at hindex
    obtain ⟨cell, hget, hcell⟩ := Option.map_eq_some_iff.mp hindex
    have hid : notebookCellId index cell = planned.id := by
      rw [Notebook.planCell] at hcell
      split at hcell
      · rw [← Option.some.inj hcell]
      · cases hcell
    show planned.id ∈ ((row.notebook.recordRun run.runId none).recordCells run.runId cellIds .queued).cellIds
    rw [Notebook.cellIds_recordCells, Notebook.cellIds_recordRun, Notebook.cellIds]
    refine List.mem_iff_getElem?.mpr ⟨index, ?_⟩
    rw [List.getElem?_mapIdx, hget, Option.map_some, hid]

/-! ## Calls -/

variable (world) in
theorem perform_cases (call : ExecutorCall) (write : RunbookTables → Option RunbookTables) (s : State) :
    (∃ tables, write s.tables = some tables ∧
        perform world call write s = ({ s with tables, calls := s.calls ++ [(call, true)] }, true)) ∨
      perform world call write s = ({ s with calls := s.calls ++ [(call, false)] }, false) := by
  rw [perform]
  split
  · next tables hwrite =>
    refine .inl ⟨tables, ?_, rfl⟩
    split at hwrite
    · cases hwrite
    · exact hwrite
  · exact .inr rfl

variable (world) in
theorem update_cases (call : ExecutorCall) (s : State) :
    ∃ returned, update world call s = ({ s with calls := s.calls ++ [(call, returned)] }, returned) := by
  obtain ⟨tables, hsame, h⟩ | h := perform_cases world call some s
  · cases hsame
    exact ⟨true, h⟩
  · exact ⟨false, h⟩

def recording (phase : Phase) (cellId : JsString) : List ExecutorCall :=
  [.beginCellExecution phase cellId, .updateCellRunning phase cellId, .completeCellExecution phase cellId]

def callsOf (phase : Phase) (cellId : JsString) : List ExecutorCall :=
  recording phase cellId ++ [.updateCellCompleted phase cellId]

variable {phase : Phase} {call : ExecutorCall}

theorem recording_inj {cellId' : JsString} (h : call ∈ recording phase cellId)
    (h' : call ∈ callsOf phase cellId') : cellId = cellId' := by
  simp only [recording, callsOf, List.mem_cons, List.mem_append, List.not_mem_nil, or_false] at h h'
  rcases h with rfl | rfl | rfl <;> simp at h' <;> exact h'

/-- What cells that were run one after the other have come to: those of `done` have a result, and `made` are the calls. -/
structure Ran (run : Execution) (phase : Phase) (cellIds done : List JsString) (made : List (ExecutorCall × Bool))
    (s s' : State) : Prop where
  attempts : s'.attempts = s.attempts ++ cellIds
  active : s'.activeRunbooks = s.activeRunbooks
  moved : Moved run s.tables s'.tables
  completed : s'.completedCellIds = s.completedCellIds ++ done
  results : ∀ cellId ∈ done, ∃ outcome, ⟨run.runId, cellId, outcome⟩ ∈ s'.tables.cellRuns
  calls : s'.calls = s.calls ++ made
  failed : ∀ call, (call, false) ∈ made → ∃ cellId ∈ cellIds, call ∈ callsOf phase cellId
  sublist : done.Sublist cellIds
  unrecorded : ∀ cellId ∈ cellIds, cellId ∉ done ↔ ∃ call ∈ recording phase cellId, (call, false) ∈ made

theorem Ran.refl (phase : Phase) (s : State) : Ran run phase [] [] [] s s where
  attempts := (List.append_nil _).symm
  active := rfl
  moved := .refl _
  completed := (List.append_nil _).symm
  results := nofun
  calls := (List.append_nil _).symm
  failed := nofun
  sublist := List.Sublist.refl _
  unrecorded := nofun

variable {made : List (ExecutorCall × Bool)} {s : State}

theorem Ran.append {cellIds' done done' : List JsString} {made' : List (ExecutorCall × Bool)}
    {s₁ s₂ : State} (h : Ran run phase cellIds done made s s₁) (h' : Ran run phase cellIds' done' made' s₁ s₂)
    (hnodup : (cellIds ++ cellIds').Nodup) : Ran run phase (cellIds ++ cellIds') (done ++ done') (made ++ made') s s₂ where
  attempts := by rw [h'.attempts, h.attempts, List.append_assoc]
  active := h'.active.trans h.active
  moved := h.moved.trans h'.moved
  completed := by rw [h'.completed, h.completed, List.append_assoc]
  results cellId hcell := by
    rcases List.mem_append.mp hcell with hcell | hcell
    · obtain ⟨outcome, hres⟩ := h.results cellId hcell
      exact ⟨outcome, h'.moved.results hres⟩
    · exact h'.results cellId hcell
  calls := by rw [h'.calls, h.calls, List.append_assoc]
  failed call hcall := by
    rcases List.mem_append.mp hcall with hcall | hcall
    · obtain ⟨cellId, hcell, hof⟩ := h.failed call hcall
      exact ⟨cellId, List.mem_append_left _ hcell, hof⟩
    · obtain ⟨cellId, hcell, hof⟩ := h'.failed call hcall
      exact ⟨cellId, List.mem_append_right _ hcell, hof⟩
  sublist := h.sublist.append h'.sublist
  unrecorded cellId hcell := by
    have hapart : ∀ cellId ∈ cellIds, cellId ∉ cellIds' := fun cellId hcell hcell' =>
      (List.nodup_append.mp hnodup).2.2 cellId hcell cellId hcell' rfl
    have hmade : ∀ {ids : List JsString} {calls : List (ExecutorCall × Bool)},
        (∀ call, (call, false) ∈ calls → ∃ cellId ∈ ids, call ∈ callsOf phase cellId) → cellId ∉ ids →
        ¬ ∃ call ∈ recording phase cellId, (call, false) ∈ calls := by
      rintro ids calls hfail hnot ⟨call, hrecording, hcall⟩
      obtain ⟨other, hother, hof⟩ := hfail call hcall
      exact hnot (recording_inj hrecording hof ▸ hother)
    have hboth : (∃ call ∈ recording phase cellId, (call, false) ∈ made ++ made') ↔
        (∃ call ∈ recording phase cellId, (call, false) ∈ made) ∨ ∃ call ∈ recording phase cellId, (call, false) ∈ made' := by
      simp only [List.mem_append, and_or_left, exists_or]
    rw [hboth, List.mem_append, not_or]
    rcases List.mem_append.mp hcell with hcell | hcell
    · have hnot := hapart cellId hcell
      rw [h.unrecorded cellId hcell, and_iff_left fun hdone => hnot (h'.sublist.subset hdone),
        or_iff_left (hmade h'.failed hnot)]
    · have hnot : cellId ∉ cellIds := fun hmem => hapart cellId hmem hcell
      rw [h'.unrecorded cellId hcell, and_iff_right fun hdone => hnot (h.sublist.subset hdone),
        or_iff_right (hmade h.failed hnot)]

/-! ## Cells -/

section

variable {s' : State} (hatts : s'.attempts = s.attempts ++ [cellId])
  (hact : s'.activeRunbooks = s.activeRunbooks) (hmoved : Moved run s.tables s'.tables)
include hatts hact hmoved

theorem Ran.stopped (hcompl : s'.completedCellIds = s.completedCellIds)
    (hcalls : s'.calls = s.calls ++ (made ++ [(call, false)])) (hmade : ∀ call, (call, false) ∉ made)
    (hcall : call ∈ recording phase cellId) : Ran run phase [cellId] [] (made ++ [(call, false)]) s s' where
  attempts := hatts
  active := hact
  moved := hmoved
  completed := by rw [hcompl, List.append_nil]
  results := nofun
  calls := hcalls
  failed other hother := by
    rcases List.mem_append.mp hother with hmem | hmem
    · exact absurd hmem (hmade other)
    · rw [(Prod.mk.inj (List.mem_singleton.mp hmem)).1]
      exact ⟨cellId, List.mem_cons_self, List.mem_append_left _ hcall⟩
  sublist := List.nil_sublist _
  unrecorded other hother := by
    rw [List.mem_singleton.mp hother]
    exact iff_of_true List.not_mem_nil ⟨call, hcall, List.mem_append_right _ List.mem_cons_self⟩

theorem Ran.recorded (hcompl : s'.completedCellIds = s.completedCellIds ++ [cellId])
    (hres : ∃ outcome, ⟨run.runId, cellId, outcome⟩ ∈ s'.tables.cellRuns) (hcalls : s'.calls = s.calls ++ made)
    (hmade : ∀ call, (call, false) ∈ made → call = .updateCellCompleted phase cellId) :
    Ran run phase [cellId] [cellId] made s s' where
  attempts := hatts
  active := hact
  moved := hmoved
  completed := hcompl
  results other hother := by
    rw [List.mem_singleton.mp hother]
    exact hres
  calls := hcalls
  failed call hcall := by
    rw [hmade call hcall]
    exact ⟨cellId, List.mem_cons_self, List.mem_append_right _ List.mem_cons_self⟩
  sublist := List.Sublist.refl _
  unrecorded other hother := by
    rw [List.mem_singleton.mp hother]
    refine iff_of_false (fun hnot => hnot List.mem_cons_self) ?_
    rintro ⟨call, hrecording, hcall⟩
    rw [hmade call hcall] at hrecording
    simp [recording] at hrecording

end

variable (world run) in
theorem runCell_ran (phase : Phase) (cell : RunbookExecutionPlanCell) (s : State) :
    ∃ done made, Ran run phase [cell.id] done made s (runCell world run phase cell s).1 ∧
      ((runCell world run phase cell s).2 ≠ none → done = [cell.id]) := by
  rw [runCell]
  dsimp only
  obtain ⟨tables₁, hbegun, h⟩ | h := perform_cases world (.beginCellExecution phase cell.id)
    (·.beginCellExecution run.workspaceId run.runbookId run.runId cell.id) { s with attempts := s.attempts ++ [cell.id] }
  case inr =>
    rw [h]
    exact ⟨[], [] ++ [(.beginCellExecution phase cell.id, false)],
      .stopped rfl rfl (.refl _) rfl rfl nofun (by simp [recording]), fun hnone => absurd rfl hnone⟩
  rw [h]
  have hmoved := moved_beginCellExecution hbegun
  obtain ⟨returned, h⟩ := update_cases world (.updateCellRunning phase cell.id)
    { s with tables := tables₁, attempts := s.attempts ++ [cell.id], calls := s.calls ++ [(.beginCellExecution phase cell.id, true)] }
  dsimp only
  rw [h]
  cases returned with
  | false =>
    exact ⟨[], [(.beginCellExecution phase cell.id, true)] ++ [(.updateCellRunning phase cell.id, false)],
      .stopped rfl rfl hmoved rfl (List.append_assoc _ _ _) (by simp) (by simp [recording]), fun hnone => absurd rfl hnone⟩
  | true =>
    dsimp only
    generalize (world.executeCell phase cell.id).getD .failed = outcome
    obtain ⟨tables₂, hcompl, h⟩ | h := perform_cases world (.completeCellExecution phase cell.id)
      (·.completeCellExecution run.workspaceId run.runbookId run.runId cell.id outcome)
      { s with
        tables := tables₁
        attempts := s.attempts ++ [cell.id]
        calls := s.calls ++ [(.beginCellExecution phase cell.id, true)] ++ [(.updateCellRunning phase cell.id, true)] }
    case inr =>
      rw [h]
      exact ⟨[], [(.beginCellExecution phase cell.id, true), (.updateCellRunning phase cell.id, true)] ++
          [(.completeCellExecution phase cell.id, false)],
        .stopped rfl rfl hmoved rfl (by simp) (by simp) (by simp [recording]), fun hnone => absurd rfl hnone⟩
    rw [h]
    obtain ⟨hmoved', hres⟩ := moved_completeCellExecution hcompl
    dsimp only
    obtain ⟨returned, h⟩ := update_cases world (.updateCellCompleted phase cell.id)
      { s with
        tables := tables₂
        attempts := s.attempts ++ [cell.id]
        completedCellIds := s.completedCellIds ++ [cell.id]
        calls := s.calls ++ [(.beginCellExecution phase cell.id, true)] ++ [(.updateCellRunning phase cell.id, true)] ++
          [(.completeCellExecution phase cell.id, true)] }
    rw [h]
    refine ⟨[cell.id], [(.beginCellExecution phase cell.id, true), (.updateCellRunning phase cell.id, true),
      (.completeCellExecution phase cell.id, true), (.updateCellCompleted phase cell.id, returned)], ?_, fun _ => rfl⟩
    cases returned <;> exact .recorded rfl rfl (hmoved.trans hmoved') rfl ⟨outcome, hres⟩ (by simp) (by simp)

variable (world run) in
theorem runCells_ran {cells : List RunbookExecutionPlanCell} (hnodup : (cells.map (·.id)).Nodup) (s : State) :
    ∃ cellIds done made, cellIds.Sublist (cells.map (·.id)) ∧
      Ran run .body cellIds done made s (runCells world run cells s).1 ∧
      ((runCells world run cells s).2 = .succeeded → done = cells.map (·.id)) := by
  induction cells generalizing s with
  | nil => exact ⟨[], [], [], List.Sublist.refl _, .refl .body s, fun _ => rfl⟩
  | cons cell rest ih =>
    obtain ⟨hfresh, hnodup⟩ := List.nodup_cons.mp hnodup
    rw [runCells]
    split
    · exact ⟨[], [], [], List.nil_sublist _, .refl .body s, nofun⟩
    · obtain ⟨done, made, hran, hdone⟩ := runCell_ran world run .body cell s
      have hone : [cell.id].Sublist ((cell :: rest).map (·.id)) := List.singleton_sublist.mpr List.mem_cons_self
      cases hcell : runCell world run .body cell s with
      | mk s₁ outcome =>
        rw [hcell] at hran hdone
        cases outcome with
        | none => exact ⟨[cell.id], done, made, hone, hran, nofun⟩
        | some outcome =>
          cases outcome with
          | succeeded =>
            obtain ⟨cellIds, done', made', hsublist, hran', hdone'⟩ := ih hnodup s₁
            refine ⟨[cell.id] ++ cellIds, done ++ done', made ++ made', hsublist.cons_cons cell.id,
              hran.append hran' (List.nodup_cons.mpr ⟨fun hmem => hfresh (hsublist.subset hmem), hsublist.nodup hnodup⟩),
              fun hsucc => ?_⟩
            rw [hdone (by exact nofun), hdone' hsucc]
            rfl
          | failed => exact ⟨[cell.id], done, made, hone, hran, nofun⟩
          | blocked => exact ⟨[cell.id], done, made, hone, hran, nofun⟩

variable (world) in
theorem runBody_ran (hnodup : (run.cells.map (·.id)).Nodup) (s : State) :
    ∃ cellIds done made s₁ returned, s₁ = { s with calls := s.calls ++ [(.updateRunning, returned)] } ∧
      cellIds.Sublist (run.cells.map (·.id)) ∧ Ran run .body cellIds done made s₁ (runBody world run s).1 ∧
      ((runBody world run s).2 = .succeeded → done = run.cells.map (·.id)) := by
  obtain ⟨returned, h⟩ := update_cases world .updateRunning s
  rw [runBody, h]
  cases returned with
  | false => exact ⟨[], [], [], _, false, rfl, List.nil_sublist _, .refl .body _, nofun⟩
  | true =>
    obtain ⟨cellIds, done, made, hsublist, hran, hdone⟩ := runCells_ran world run hnodup
      { s with calls := s.calls ++ [(.updateRunning, true)] }
    exact ⟨cellIds, done, made, _, true, rfl, hsublist, hran, hdone⟩

variable (world run) in
theorem foldl_runCell_ran (cells : List RunbookExecutionPlanCell) (hnodup : (cells.map (·.id)).Nodup) (s : State) :
    ∃ done made, Ran run .cleanup (cells.map (·.id)) done made s
      (cells.foldl (fun s cell => (runCell world run .cleanup cell s).1) s) := by
  induction cells generalizing s with
  | nil => exact ⟨[], [], .refl .cleanup s⟩
  | cons cell rest ih =>
    obtain ⟨done, made, hran, -⟩ := runCell_ran world run .cleanup cell s
    obtain ⟨done', made', hran'⟩ := ih (List.nodup_cons.mp hnodup).2 (runCell world run .cleanup cell s).1
    exact ⟨done ++ done', made ++ made', hran.append hran' hnodup⟩

/-! ## The end -/

def Ending : ExecutorCall → Prop
  | .skipCellExecutions => True
  | .updateCellSkipped _ => True
  | .completeExecution => True
  | _ => False

variable (world) in
theorem updateSkipped_spec (cellIds : List JsString) (s : State) :
    ∃ made, (updateSkipped world cellIds s).1 = { s with calls := s.calls ++ made } ∧
      ((updateSkipped world cellIds s).2 = true → ∀ call, (call, false) ∉ made) ∧
      ((updateSkipped world cellIds s).2 = false → ∃ call, Ending call ∧ (call, false) ∈ made) := by
  induction cellIds generalizing s with
  | nil => exact ⟨[], by simp [updateSkipped], fun _ => nofun, nofun⟩
  | cons cellId rest ih =>
    obtain ⟨returned, h⟩ := update_cases world (.updateCellSkipped cellId) s
    rw [updateSkipped, h]
    cases returned with
    | false => exact ⟨[(.updateCellSkipped cellId, false)], rfl, nofun, fun _ => ⟨.updateCellSkipped cellId, trivial, List.mem_cons_self⟩⟩
    | true =>
      obtain ⟨made, hstate, hret, hfail⟩ := ih { s with calls := s.calls ++ [(.updateCellSkipped cellId, true)] }
      refine ⟨(.updateCellSkipped cellId, true) :: made, ?_, fun htrue call hcall => ?_, fun hfalse => ?_⟩
      · dsimp only
        rw [hstate, List.append_assoc]
        rfl
      · exact hret htrue call (by simpa using hcall)
      · obtain ⟨call, hending, hcall⟩ := hfail hfalse
        exact ⟨call, hending, List.mem_cons_of_mem _ hcall⟩

variable (world run) in
theorem skip_spec (s : State) :
    ∃ made, (skip world run s).1.calls = s.calls ++ made ∧ (skip world run s).1.attempts = s.attempts ∧
      (skip world run s).1.activeRunbooks = s.activeRunbooks ∧ Moved run s.tables (skip world run s).1.tables ∧
      ((skip world run s).2 = true → (∀ call, (call, false) ∉ made) ∧ ∀ cellId ∈ run.skippedCellIds s,
        run.NotebookIs s.tables (cellId ∈ ·.cellIds) →
          run.NotebookIs (skip world run s).1.tables (·.Says run.runId cellId .skipped)) ∧
      ((skip world run s).2 = false → ∃ call, Ending call ∧ (call, false) ∈ made) := by
  rw [skip]
  split
  · next hnone =>
    rw [hnone]
    exact ⟨[], by simp, rfl, rfl, .refl _, fun _ => ⟨nofun, nofun⟩, nofun⟩
  obtain ⟨tables, hskipped, h⟩ | h := perform_cases world .skipCellExecutions
    (·.skipCellExecutions run.workspaceId run.runbookId run.runId (run.skippedCellIds s)) s
  case inr =>
    rw [h]
    exact ⟨[(.skipCellExecutions, false)], rfl, rfl, rfl, .refl _, nofun, fun _ => ⟨.skipCellExecutions, trivial, List.mem_cons_self⟩⟩
  obtain ⟨hmoved, htold⟩ := moved_skipCellExecutions hskipped
  obtain ⟨made, hstate, hret, hfail⟩ := updateSkipped_spec world (run.skippedCellIds s)
    { s with tables, calls := s.calls ++ [(.skipCellExecutions, true)] }
  rw [h]
  dsimp only
  rw [hstate]
  refine ⟨(.skipCellExecutions, true) :: made, by simp, rfl, rfl, hmoved, fun htrue => ⟨fun call hcall => ?_, htold⟩, fun hfalse => ?_⟩
  · exact hret htrue call (by simpa using hcall)
  · obtain ⟨call, hending, hcall⟩ := hfail hfalse
    exact ⟨call, hending, List.mem_cons_of_mem _ hcall⟩

variable (world run) in
theorem finish_spec (outcome : RunOutcome) (s : State) :
    ∃ made, (finish world run outcome s).calls = s.calls ++ made ∧ (finish world run outcome s).attempts = s.attempts ∧
      (((∀ call, (call, false) ∈ made → call = .updateCompleted) ∧
          run.runbookId ∉ (finish world run outcome s).activeRunbooks ∧
          s.tables.cellRuns ⊆ (finish world run outcome s).tables.cellRuns ∧
          (∀ cellId ∈ run.skippedCellIds s, run.NotebookIs s.tables (cellId ∈ ·.cellIds) →
            run.NotebookIs (finish world run outcome s).tables (·.Says run.runId cellId .skipped)) ∧
          (run.OwnsRun s.tables → ∀ row ∈ (finish world run outcome s).tables.runs, row.runId = run.runId → row.status ≠ .running)) ∨
        (∃ call, Ending call ∧ (call, false) ∈ made) ∧ (finish world run outcome s).activeRunbooks = s.activeRunbooks) := by
  obtain ⟨made, hcalls, hatts, hact, hmoved, hret, hfail⟩ := skip_spec world run s
  rw [finish]
  cases hskip : skip world run s with
  | mk s₁ returned =>
    rw [hskip] at hcalls hatts hact hmoved hret hfail
    dsimp only at hcalls hatts hact hmoved hret hfail
    cases returned with
    | false => exact ⟨made, hcalls, hatts, .inr ⟨hfail rfl, hact⟩⟩
    | true =>
      obtain ⟨hmade, htold⟩ := hret rfl
      obtain ⟨tables, hcompl, h⟩ | h := perform_cases world .completeExecution
        (·.completeExecution run.workspaceId run.runbookId run.runId outcome run.completedAt) s₁
      case inr =>
        dsimp only
        rw [h]
        exact ⟨made ++ [(.completeExecution, false)], by simp [hcalls], hatts,
          .inr ⟨⟨.completeExecution, trivial, List.mem_append_right _ List.mem_cons_self⟩, hact⟩⟩
      obtain ⟨hress, hkept, hended⟩ := moved_completeExecution hcompl
      dsimp only
      rw [h]
      dsimp only
      obtain ⟨returned, h⟩ := update_cases world .updateCompleted
        { s₁ with
          tables
          calls := s₁.calls ++ [(.completeExecution, true)]
          activeRunbooks := s₁.activeRunbooks.filter (· ≠ run.runbookId) }
      rw [h]
      refine ⟨made ++ [(.completeExecution, true), (.updateCompleted, returned)], by simp [hcalls], hatts, .inl
        ⟨fun call hcall => ?_, by simp, List.Subset.trans hmoved.results hress,
          fun cellId hcell hknown => hkept cellId .skipped (htold cellId hcell hknown), fun howned => hended (hmoved.owned howned)⟩⟩
      rcases List.mem_append.mp hcall with hcall | hcall
      · exact absurd hcall (hmade call)
      · simp only [List.mem_cons, Prod.mk.injEq, Bool.false_eq_true, and_false, List.not_mem_nil, or_false, false_or] at hcall
        exact hcall.1

/-! ## Settled executions -/

def CleansUp (run : Execution) (cellId : JsString) : Prop :=
  ∃ cell ∈ run.cells, cell.id = cellId ∧ cell.features.contains (js "cleanup") = true

def Needed (run : Execution) : ExecutorCall → Prop
  | .beginCellExecution .body cellId => run.CleansUp cellId
  | .updateCellRunning .body cellId => run.CleansUp cellId
  | .completeCellExecution .body cellId => run.CleansUp cellId
  | call => Ending call

def Begun (s : State) : Prop := (.beginExecution, true) ∈ s.calls

structure Settled (run : Execution) (tables : RunbookTables) (s : State) : Prop where
  released : run.runbookId ∉ s.activeRunbooks
  unbegun : ¬ Begun s → s.tables = tables
  recorded : Begun s → ∀ cell ∈ run.cells, (∃ outcome, ⟨run.runId, cell.id, outcome⟩ ∈ s.tables.cellRuns) ∨
    run.NotebookIs s.tables (·.Says run.runId cell.id .skipped)
  cleaned : Begun s → ∀ cellId, run.CleansUp cellId → s.attempts.count cellId = 1
  ended : Begun s → ∀ row ∈ s.tables.runs, row.runId = run.runId → row.status ≠ .running

theorem needed_of_recording (hcall : call ∈ recording .body cellId)
    (hcleans : run.CleansUp cellId) : run.Needed call := by
  simp only [recording, List.mem_cons, List.not_mem_nil, or_false] at hcall
  rcases hcall with rfl | rfl | rfl <;> exact hcleans

theorem needed_callsOf (hcall : call ∈ callsOf phase cellId)
    (hneeded : run.Needed call) : phase = .body ∧ call ∈ recording .body cellId ∧ run.CleansUp cellId := by
  simp only [callsOf, recording, List.mem_append, List.mem_cons, List.not_mem_nil, or_false] at hcall
  cases phase with
  | cleanup => rcases hcall with (rfl | rfl | rfl) | rfl <;> exact hneeded.elim
  | body =>
    rcases hcall with (rfl | rfl | rfl) | rfl
    · exact ⟨rfl, by simp [recording], hneeded⟩
    · exact ⟨rfl, by simp [recording], hneeded⟩
    · exact ⟨rfl, by simp [recording], hneeded⟩
    · exact hneeded.elim

theorem needed_of_ending (h : Ending call) : run.Needed call := by
  cases call <;> first | exact h | exact h.elim

/-- What the parts of an execution that has begun come to: `body` is what the body has tried, and `done` what has a result. -/
structure Parts (run : Execution) (body done : List JsString) (s : State) : Prop where
  nodup : body.Nodup
  sublist : done.Sublist body
  attempts : s.attempts = body ++ (run.cells.filter fun cell =>
    !done.contains cell.id && cell.features.contains (js "cleanup")).map (·.id)

/-- A cell that cleans up is tried once where it has a result or was not tried before. -/
theorem Parts.count {body done : List JsString} (h : Parts run body done s) (hnodup : (run.cells.map (·.id)).Nodup)
    (hcleans : run.CleansUp cellId) : s.attempts.count cellId = 1 ↔ (cellId ∈ body → cellId ∈ done) := by
  have hcleanup : ((run.cells.filter fun cell =>
      !done.contains cell.id && cell.features.contains (js "cleanup")).map (·.id)).count cellId =
        if cellId ∈ done then 0 else 1 := by
    split
    · next hdone =>
      refine List.count_eq_zero.mpr fun hmem => ?_
      obtain ⟨cell, hcell, rfl⟩ := List.mem_map.mp hmem
      have hopen := (List.mem_filter.mp hcell).2
      rw [List.contains_iff_mem.mpr hdone] at hopen
      cases hopen
    · next hopen =>
      obtain ⟨cell, hcell, rfl, htagged⟩ := hcleans
      refine List.count_eq_one_of_mem ((List.filter_sublist.map _).nodup hnodup) (List.mem_map_of_mem (List.mem_filter.mpr ⟨hcell, ?_⟩))
      rw [htagged, Bool.and_true, Bool.not_eq_true', ← Bool.not_eq_true, List.contains_iff_mem]
      exact hopen
  rw [h.attempts, List.count_append, hcleanup]
  by_cases hbody : cellId ∈ body
  · rw [List.count_eq_one_of_mem h.nodup hbody]
    split <;> simp [*]
  · rw [List.count_eq_zero.mpr hbody, if_neg fun hdone => hbody (h.sublist.subset hdone)]
    simp [hbody]

theorem settle_eq {body : State × RunOutcome} (hdone : body.2 = .succeeded → body.1.completedCellIds = run.cells.map (·.id)) :
    settle world run body = finish world run body.2 (runCleanup world run body.1) := by
  rw [settle]
  split
  · next hsucc =>
    have hnone : run.cleanupCells body.1 = [] := by
      refine List.filter_eq_nil_iff.mpr fun cell hcell hopen => ?_
      rw [hdone hsucc, List.contains_iff_mem.mpr (List.mem_map_of_mem hcell)] at hopen
      cases hopen
    rw [runCleanup, hnone, List.foldl_nil]
  · rfl

section Begun

variable {tables : RunbookTables} {s₀ : State}

theorem settled_of_begun (hnodup : (run.cells.map (·.id)).Nodup) (howned : run.OwnsRun s₀.tables)
    (hknown : ∀ cellId ∈ run.cells.map (·.id), run.NotebookIs s₀.tables (cellId ∈ ·.cellIds))
    (hcalls : s₀.calls = [(.beginExecution, true)]) (hatts : s₀.attempts = []) (hcompl : s₀.completedCellIds = [])
    (hact : run.runbookId ∈ s₀.activeRunbooks) :
    Settled run tables (settle world run (runBody world run s₀)) ↔
      ∀ call, (call, false) ∈ (settle world run (runBody world run s₀)).calls → ¬ run.Needed call := by
  obtain ⟨body, done, made, s₁, returned, rfl, hbody, hran, hall⟩ := runBody_ran world hnodup s₀
  have hdone : (runBody world run s₀).1.completedCellIds = done := by rw [hran.completed, hcompl, List.nil_append]
  rw [settle_eq fun hsucc => hdone.trans (hall hsucc)]
  obtain ⟨done', made', hran'⟩ := foldl_runCell_ran world run
    (run.cleanupCells (runBody world run s₀).1) ((List.filter_sublist.map _).nodup hnodup) (runBody world run s₀).1
  obtain ⟨made'', hcalls'', hatts'', hend⟩ := finish_spec world run (runBody world run s₀).2
    (runCleanup world run (runBody world run s₀).1)
  generalize hs : finish world run (runBody world run s₀).2 (runCleanup world run (runBody world run s₀).1) = s at *
  have hparts : Parts run body done s := by
    refine ⟨hbody.nodup hnodup, hran.sublist, ?_⟩
    rw [hatts'', runCleanup, hran'.attempts, hran.attempts, hatts, List.nil_append, cleanupCells, hdone]
  have hmade : s.calls = (.beginExecution, true) :: (.updateRunning, returned) :: (made ++ (made' ++ made'')) := by
    rw [hcalls'', runCleanup, hran'.calls, hran.calls, hcalls]
    simp
  have hneeded : ∀ cellId ∈ body, cellId ∉ done → ∃ call ∈ recording .body cellId, (call, false) ∈ s.calls := by
    intro cellId hcell hopen
    obtain ⟨call, hrecording, hcall⟩ := (hran.unrecorded cellId hcell).mp hopen
    refine ⟨call, hrecording, ?_⟩
    rw [hmade]
    exact List.mem_cons_of_mem _ (List.mem_cons_of_mem _ (List.mem_append_left _ hcall))
  constructor
  · intro hsettled call hcall hneed
    have hbegun : Begun s := by
      rw [Begun, hmade]
      exact List.mem_cons_self
    rw [hmade, List.mem_cons, List.mem_cons, List.mem_append, List.mem_append] at hcall
    rcases hcall with hcall | hcall | hcall | hcall | hcall
    · cases hcall
    · rw [(Prod.mk.inj hcall).1] at hneed
      exact hneed
    · obtain ⟨cellId, hcell, hof⟩ := hran.failed call hcall
      obtain ⟨-, hrecording, hcleans⟩ := needed_callsOf hof hneed
      exact (hran.unrecorded cellId hcell).mpr ⟨call, hrecording, hcall⟩
        ((hparts.count hnodup hcleans).mp (hsettled.cleaned hbegun cellId hcleans) hcell)
    · obtain ⟨cellId, hcell, hof⟩ := hran'.failed call hcall
      cases (needed_callsOf hof hneed).1
    · rcases hend with ⟨hlast, -⟩ | ⟨-, hheld⟩
      · rw [hlast call hcall] at hneed
        exact hneed
      · refine hsettled.released ?_
        rw [hheld, runCleanup, hran'.active, hran.active]
        exact hact
  · intro hnone
    rcases hend with ⟨-, hrel, hress, htold, hended⟩ | ⟨⟨call, hending, hcall⟩, -⟩
    · have hmoved : Moved run s₀.tables (runCleanup world run (runBody world run s₀).1).tables := hran.moved.trans hran'.moved
      refine {
        released := hrel
        unbegun := fun hnot => absurd (by rw [Begun, hmade]; exact List.mem_cons_self) hnot
        recorded := fun _ cell hcell => ?_
        cleaned := fun _ cellId hcleans => (hparts.count hnodup hcleans).mpr fun hcell => ?_
        ended := fun _ => hended (hmoved.owned howned) }
      · have hid : cell.id ∈ run.cells.map (·.id) := List.mem_map_of_mem hcell
        by_cases hres : cell.id ∈ done ++ done'
        · rcases List.mem_append.mp hres with hmem | hmem
          · obtain ⟨outcome, hrow⟩ := hran.results cell.id hmem
            exact .inl ⟨outcome, hress (hran'.moved.results hrow)⟩
          · obtain ⟨outcome, hrow⟩ := hran'.results cell.id hmem
            exact .inl ⟨outcome, hress hrow⟩
        · refine .inr (htold cell.id ?_ (hmoved.cells cell.id (hknown cell.id hid)))
          refine List.mem_map_of_mem (List.mem_filter.mpr ⟨hcell, ?_⟩)
          rw [runCleanup, hran'.completed, hdone, Bool.not_eq_true', ← Bool.not_eq_true, List.contains_iff_mem]
          exact hres
      · by_contra hopen
        obtain ⟨call, hrecording, hcall⟩ := hneeded cellId hcell hopen
        exact hnone call hcall (needed_of_recording hrecording hcleans)
    · refine absurd (needed_of_ending hending) (hnone call ?_)
      rw [hmade]
      exact List.mem_cons_of_mem _ (List.mem_cons_of_mem _ (List.mem_append_right _ (List.mem_append_right _ hcall)))

end Begun

theorem execute_settled_iff {activeRunbooks : List JsString}
    (h : execute world run tables activeRunbooks = some s) :
    Settled run tables s ↔ ∀ call, (call, false) ∈ s.calls → ¬ run.Needed call := by
  rw [execute] at h
  split at h
  · cases h
  next hidle =>
  obtain ⟨tables', hbegun, hperform⟩ | hperform := perform_cases world .beginExecution
    (·.beginExecution run.workspaceId run.runbookId run.runId (run.cells.map (·.id)) run.startedAt (some run.contentRevision))
    (start tables (activeRunbooks ++ [run.runbookId]))
  · rw [hperform] at h
    cases h
    obtain ⟨hnodup, howned, hknown⟩ := beginExecution_owned hbegun
    exact settled_of_begun hnodup howned hknown rfl rfl rfl (List.mem_append_right _ List.mem_cons_self)
  · rw [hperform] at h
    cases h
    have hunbegun : ¬ Begun { start tables (activeRunbooks ++ [run.runbookId]) with
        activeRunbooks := (activeRunbooks ++ [run.runbookId]).filter (· ≠ run.runbookId),
        calls := [(.beginExecution, false)] } := by simp [Begun]
    refine iff_of_true ⟨by simp, fun _ => rfl, fun hbegun => absurd hbegun hunbegun, fun hbegun => absurd hbegun hunbegun,
      fun hbegun => absurd hbegun hunbegun⟩ fun call hcall hneed => ?_
    obtain rfl := (Prod.mk.inj (List.mem_singleton.mp hcall)).1
    exact hneed

/-- A test, and a cell that cleans up after it. -/
def sampleNotebook : Notebook where
  cells := [
    inputToNotebookCell ⟨js "1", true, js "make test", [js "runtime"], none, none, none⟩,
    inputToNotebookCell ⟨js "2", true, js "make clean", [js "cleanup"], none, none, none⟩]
  enabledFeatures := [js "runtime", js "cleanup"]
  latestRun := none

def sampleTables : RunbookTables where
  runbooks := JsMap.empty.set (js "runbook") ⟨js "w", 1, 1, none, sampleNotebook⟩
  runs := []
  cellRuns := []

def sampleWorld (failing : Option ExecutorCall) : ExecutorWorld where
  fails := fun call => failing = some call
  executeCell := fun phase _ => match phase with
    | .body => some .failed
    | .cleanup => some .succeeded
  aborted := fun _ => false

def sampleExecution (failing : Option ExecutorCall) : Option (Execution × State) :=
  executeRunbook (sampleWorld failing) sampleTables [] (js "w") (js "run") (js "2026-01-01T00:00:00.000Z")
    (js "2026-01-01T00:00:01.000Z") ⟨js "runbook", ⟨none, none, none⟩⟩

end Execution

end Beale.Runbooks
