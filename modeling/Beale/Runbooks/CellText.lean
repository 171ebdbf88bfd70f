import Beale.Runbooks.Ledger

/-!
# Text of a cell

From the text that a call supplies for a cell to the text that is executed and hashed.

- `createNotebook`: the notebook that a runbook starts with.
- `textKept_iff`: the texts that every notebook they are supplied to holds.
-/

namespace Beale.Runbooks

open Beale.Library

/-! ## Notebooks with a text -/

def runbookDefaultFeatures : List JsString := [js "setup", js "runtime", js "cleanup"]

def purposeCell (uuid title purpose : JsString) : RunbookCellInput where
  uuid := uuid
  code := false
  source := js "# " ++ title ++ [lineFeed, lineFeed] ++ purpose
  features := runbookDefaultFeatures
  executor := none
  language := none
  cwd := none

def createNotebook (uuid title purpose : JsString) (cells : List RunbookCellInput) (enabledFeatures : List JsString) :
    Notebook where
  cells := inputToNotebookCell (purposeCell uuid title purpose) :: cells.map inputToNotebookCell
  enabledFeatures := enabledFeatures
  latestRun := none

def RunRow.contentHash (digest : RunSnapshot → JsString) (run : RunRow) : JsString := digest run.snapshot

namespace Notebook

/-- The notebook with a text at a cell just as it was supplied. -/
def withText (notebook : Notebook) (index : Nat) (text : JsString) : Notebook :=
  notebook.mapCells fun i cell => if i = index then { cell with source := [text] } else cell

/-- A notebook reads, executes and hashes a text at a cell. -/
structure HoldsText (notebook : Notebook) (index : Nat) (text : JsString) : Prop where
  read : ∀ cell, notebook.cells[index]? = some cell → cell.source.flatten = text
  executed : notebook.executionPlan = (notebook.withText index text).executionPlan
  hashed : ∀ (digest : RunSnapshot → JsString) (workspaceId id runId : JsString) (cellIds : List JsString)
    (startedAt : JsString) (row : RunbookRow), row.notebook = notebook →
    (RunbookTables.newRun workspaceId id runId cellIds startedAt row).contentHash digest =
      (RunbookTables.newRun workspaceId id runId cellIds startedAt
        { row with notebook := notebook.withText index text }).contentHash digest

theorem planCell_source {cell : NotebookCell} {lines : List JsString} (h : lines.flatten = cell.source.flatten)
    (enabledFeatures : List JsString) (index : Nat) :
    planCell enabledFeatures index { cell with source := lines } = planCell enabledFeatures index cell := by
  rw [planCell, planCell, ← h]
  rfl

variable {notebook : Notebook} {index : Nat}

section

variable {text : JsString}
  (hread : ∀ cell, notebook.cells[index]? = some cell → cell.source.flatten = text)
include hread

theorem plan_withText : (notebook.withText index text).plan = notebook.plan := by
  rw [plan, plan, withText, mapCells, List.mapIdx_mapIdx]
  congr 1
  refine List.ext_getElem? fun i => ?_
  rw [List.getElem?_mapIdx, List.getElem?_mapIdx]
  cases hcell : notebook.cells[i]? with
  | none => rfl
  | some cell =>
    by_cases hi : i = index
    · subst hi
      simp only [Option.map_some, Function.comp, if_true]
      rw [planCell_source (by simp [hread cell hcell])]
    · simp [hi]

theorem HoldsText.of_read : notebook.HoldsText index text where
  read := hread
  executed := by rw [executionPlan, executionPlan, plan_withText hread]
  hashed digest workspaceId id runId cellIds startedAt row hrow := by
    rw [RunRow.contentHash, RunRow.contentHash]
    congr 1
    rw [RunbookTables.newRun, RunbookTables.newRun, hrow]
    dsimp only
    rw [plan_withText hread]
    rfl

end

theorem cell_append {notebook' : Notebook} {cells : List RunbookCellInput} {replaceCells : Bool}
    {input : RunbookCellInput} (h : notebook.append cells replaceCells = some notebook') (hinput : cells[index]? = some input) :
    notebook'.cells[(if replaceCells then 0 else notebook.cells.length) + index]? = some (inputToNotebookCell input) := by
  simp only [append, optionBind_some, optionPure_some] at h
  obtain ⟨-, -, rfl⟩ := h
  cases replaceCells with
  | true => simp [hinput]
  | false =>
    simp only [Bool.false_eq_true, if_false]
    rw [List.getElem?_append_right (Nat.le_add_right _ _), Nat.add_sub_cancel_left, List.getElem?_map, hinput]
    rfl

theorem cell_editCell {notebook' : Notebook} {cellId source : JsString}
    (h : notebook.editCell cellId source = some notebook') (hindex : notebook.cellIndex cellId = some index) :
    validSource source = true ∧ ∃ cell, notebook'.cells[index]? = some cell ∧ cell.source = sourceLines (trim source) := by
  simp only [editCell, requiredSource, changeCell, optionBind_some, optionPure_some, Option.some.injEq,
    Option.ite_none_right_eq_some] at h
  obtain ⟨_, ⟨hvalid, rfl⟩, found, hfound, cell, hcell, -, -, rfl⟩ := h
  obtain rfl := Option.some.inj (hfound.symm.trans hindex)
  refine ⟨hvalid, { cell with source := sourceLines (trim source), latestRun := none }, ?_, rfl⟩
  simp [mapCells, hcell]

end Notebook

/-! ## Texts that are kept -/

/-- A text is what a cell reads, executes and hashes, wherever it is supplied. -/
structure TextKept (text : JsString) : Prop where
  joined : (sourceLines text).flatten = text
  created : ∀ (uuid title purpose : JsString) (cells : List RunbookCellInput) (enabledFeatures : List JsString)
    (index : Nat) (input : RunbookCellInput), cells[index]? = some input → input.source = text →
    (createNotebook uuid title purpose cells enabledFeatures).HoldsText (index + 1) text
  appended : ∀ (notebook notebook' : Notebook) (cells : List RunbookCellInput) (replaceCells : Bool) (index : Nat)
    (input : RunbookCellInput), notebook.append cells replaceCells = some notebook' → cells[index]? = some input →
    input.source = text → notebook'.HoldsText ((if replaceCells then 0 else notebook.cells.length) + index) text
  edited : ∀ (notebook notebook' : Notebook) (cellId : JsString) (index : Nat),
    notebook.editCell cellId text = some notebook' → notebook.cellIndex cellId = some index → notebook'.HoldsText index text

theorem holdsText_input {notebook : Notebook} {index : Nat} {text : JsString} {input : RunbookCellInput}
    (hcell : notebook.cells[index]? = some (inputToNotebookCell input)) (htext : input.source = text)
    (hjoined : (sourceLines text).flatten = text) : notebook.HoldsText index text := by
  refine .of_read fun cell hread => ?_
  obtain rfl := Option.some.inj (hcell.symm.trans hread)
  rw [inputToNotebookCell, htext, hjoined]

def oneCell : Notebook where
  cells := [inputToNotebookCell ⟨[], true, [], [], none, none, none⟩]
  enabledFeatures := []
  latestRun := none

theorem trim_of_edited {text : JsString} (hedited : ∀ (notebook notebook' : Notebook) (cellId : JsString) (index : Nat),
    notebook.editCell cellId text = some notebook' → notebook.cellIndex cellId = some index → notebook'.HoldsText index text)
    (hvalid : validSource text = true) : trim text = text := by
  have hindex : oneCell.cellIndex (js "cell-") = some 0 := by decide
  obtain ⟨notebook, hbook⟩ : ∃ notebook, oneCell.editCell (js "cell-") text = some notebook := by
    rw [Notebook.editCell, requiredSource, if_pos hvalid]
    exact ⟨_, rfl⟩
  obtain ⟨-, cell, hcell, hsrc⟩ := Notebook.cell_editCell hbook hindex
  have hread := (hedited _ _ _ _ hbook hindex).read cell hcell
  rw [hsrc] at hread
  -- neither the lines nor trimming add a unit
  have htrimmed : (trim text).Sublist text :=
    (trimEnd_isPrefix _).sublist.trans (List.dropWhile_sublist isWhitespace)
  refine htrimmed.eq_of_length_le ?_
  calc text.length = (sourceLines (trim text)).flatten.length := by rw [hread]
    _ ≤ (trim text).length := (flatten_sourceLines_sublist _).length_le

/-- A text is kept where it has no line terminator but `\n` and, if an edit can supply it, no white space at its ends. -/
theorem textKept_iff (text : JsString) :
    TextKept text ↔ (∀ u ∈ text, isSeparator u = false) ∧ (validSource text = true → trim text = text) := by
  constructor
  · intro hkept
    exact ⟨(flatten_sourceLines_iff text).1 hkept.joined, trim_of_edited hkept.edited⟩
  · rintro ⟨hseparators, htrim⟩
    have hjoined := (flatten_sourceLines_iff text).2 hseparators
    refine {
      joined := hjoined
      created := fun uuid title purpose cells enabledFeatures index input hinput htext => ?_
      appended := fun notebook notebook' cells replaceCells index input happend hinput htext =>
        holdsText_input (Notebook.cell_append happend hinput) htext hjoined
      edited := fun notebook notebook' cellId index hedit hindex => ?_ }
    · exact holdsText_input (by simp [createNotebook, hinput]) htext hjoined
    · obtain ⟨hvalid, cell, hcell, hsource⟩ := Notebook.cell_editCell hedit hindex
      refine .of_read fun other hother => ?_
      obtain rfl := Option.some.inj (hcell.symm.trans hother)
      rw [hsource, htrim hvalid, hjoined]

/-- The lines that end in `\r\n`. -/
theorem carriageReturn_lost : ¬ TextKept (js "echo a\r\necho b") := fun hkept =>
  absurd ((flatten_sourceLines_iff _).1 hkept.joined 13 (by decide)) (by decide)

end Beale.Runbooks
