import Beale.Runbooks.Books

/-!
# The latest success that the two readers show

The store reports a full run of the current content that has completed last, the summary the success that was started
last, of whatever content and selection.

- `summary_agrees_iff`: the readers agree all along a run if and only if each of its steps meets the condition.
-/

namespace Beale.Runbooks

open Beale.Library

/-- Both readers show the same run as the latest success of every runbook. -/
def SummaryAgrees (tables : RunbookTables) : Prop :=
  ∀ id row, tables.runbooks.get? id = some row →
    tables.summaryLatestSuccessfulRunId row.workspaceId id =
      (tables.readExecutionMetrics row.workspaceId id).latestSuccessfulRunId

def RunbookTables.successesOf (tables : RunbookTables) (id : JsString) : List RunRow :=
  tables.runs.filter fun run => run.runbookId = id ∧ run.succeeded

def RunRow.covers (contentRevision : Nat) (run : RunRow) : Prop :=
  run.fullRun = true ∧ run.contentRevision = contentRevision

/-- The success that was started last covers the content, and no other one that does was completed after it. -/
def ShownRight (successes : List RunRow) (contentRevision : Nat) : Prop :=
  successes = [] ∨ ∃ run ∈ successes, run.covers contentRevision ∧
    (∀ other ∈ successes, byStart other run ≠ .gt) ∧
      ∀ other ∈ successes, other.covers contentRevision → byCompletion other run ≠ .gt

structure SucceedsInOrder (successes : List RunRow) (contentRevision : Nat) (run : RunRow) (completedAt : JsString) :
    Prop where
  last : (∀ other ∈ successes, byStart other run ≠ .gt) → run.covers contentRevision ∧
    ∀ other ∈ successes, other.covers contentRevision → compare other.completedAt (some completedAt) ≠ .gt
  earlier : (∃ other ∈ successes, byStart other run = .gt) → run.covers contentRevision →
    ∃ other ∈ successes, other.covers contentRevision ∧ compare (some completedAt) other.completedAt ≠ .gt

/-- The condition on a step, where it is not rolled back. -/
structure SuccessKept (tables : RunbookTables) (event : RunbookEvent) : Prop where
  edited : (tables.attempt event).isSome → ∀ id, event.call.edited = some id → tables.successesOf id = []
  succeeded : (tables.attempt event).isSome → ∀ id runId completedAt run row,
    event.call = .completeExecution id runId .succeeded completedAt → run ∈ tables.runs → run.runId = runId →
      tables.runbooks.get? id = some row →
        SucceedsInOrder (tables.successesOf id) row.contentRevision run completedAt

/-! ## What the readers show -/

theorem keyed_byStart {rows : List RunRow} (hnodup : (rows.map RunRow.runId).Nodup) : Keyed byStart rows := by
  intro run hrun other hother heq
  obtain ⟨-, hid⟩ := compareLex_eq_eq.mp heq
  exact List.inj_on_of_nodup_map hnodup hrun hother (Std.compare_eq_iff_eq.mp hid)

theorem keyed_byCompletion {rows : List RunRow} (hnodup : (rows.map RunRow.runId).Nodup) : Keyed byCompletion rows := by
  intro run hrun other hother heq
  exact keyed_byStart hnodup run hrun other hother (compareLex_eq_eq.mp heq).2

section Shown

variable {tables : RunbookTables} {id : JsString} {row : RunbookRow}

theorem mem_successesOf {run : RunRow} :
    run ∈ tables.successesOf id ↔ run ∈ tables.runs ∧ run.runbookId = id ∧ run.succeeded = true := by
  rw [RunbookTables.successesOf, List.mem_filter, decide_eq_true_eq]

section

variable {run : RunRow} (books : LedgerBooks tables) (hrow : tables.runbooks.get? id = some row)
  (hrun : run ∈ tables.runs) (hid : run.runbookId = id)
include books hrow hrun hid

theorem LedgerBooks.workspace_eq : run.workspaceId = row.workspaceId := by
  obtain ⟨row', hrow', hws, -⟩ := books.known run hrun
  rw [hid, hrow] at hrow'
  rw [← hws, Option.some.inj hrow']

theorem isCurrentSuccess_iff :
    tables.isCurrentSuccess run = true ↔ run.succeeded = true ∧ run.covers row.contentRevision := by
  simp only [RunbookTables.isCurrentSuccess, hid, hrow, Bool.and_eq_true, Option.any_some, decide_eq_true_eq, RunRow.covers]
  constructor
  · rintro ⟨⟨⟨hsucc, hfull⟩, hrev⟩, -⟩
    exact ⟨hsucc, hfull, hrev.symm⟩
  · rintro ⟨hsucc, hfull, hrev⟩
    exact ⟨⟨⟨hsucc, hfull⟩, hrev.symm⟩, books.count_eq hrun hsucc⟩

end

theorem mem_runsOf {workspaceId : JsString} {run : RunRow} :
    run ∈ tables.runsOf workspaceId id ↔ run ∈ tables.runs ∧ run.runbookId = id ∧ run.workspaceId = workspaceId := by
  rw [RunbookTables.runsOf, List.mem_filter, decide_eq_true_eq]

theorem shownRight_iff (books : LedgerBooks tables) (hrow : tables.runbooks.get? id = some row) :
    tables.summaryLatestSuccessfulRunId row.workspaceId id =
      (tables.readExecutionMetrics row.workspaceId id).latestSuccessfulRunId ↔
        ShownRight (tables.successesOf id) row.contentRevision := by
  have hids : ∀ run ∈ tables.runs, run.runId ≠ [] := fun run hrun => (books.formed run hrun).named
  have hstart : Keyed byStart (tables.runs.filter (·.workspaceId = row.workspaceId)) :=
    keyed_byStart (books.runIds.sublist (List.filter_sublist.map _))
  have hcompletion : Keyed byCompletion (tables.runsOf row.workspaceId id) :=
    keyed_byCompletion (books.runIds.sublist (List.filter_sublist.map _))
  rw [summaryLatestSuccessfulRunId_eq hids, RunbookTables.readExecutionMetrics]
  constructor
  · intro heq
    cases hfirst : firstBy byStart (fun run => decide (run.runbookId = id ∧ run.succeeded))
        (tables.runs.filter (·.workspaceId = row.workspaceId)) with
    | none =>
      refine .inl (List.eq_nil_iff_forall_not_mem.mpr fun run hrun => ?_)
      obtain ⟨hmem, hid, hsucc⟩ := mem_successesOf.mp hrun
      have hnone := firstBy_eq_none.mp hfirst run
        (List.mem_filter.mpr ⟨hmem, decide_eq_true (books.workspace_eq hrow hmem hid)⟩)
      exact of_decide_eq_false hnone ⟨hid, hsucc⟩
    | some run =>
      rw [hfirst, Option.map_some] at heq
      obtain ⟨latest, hlatest, hrunId⟩ := Option.map_eq_some_iff.mp heq.symm
      obtain ⟨hmem, hsuccess, hmax⟩ := firstBy_spec hfirst
      obtain ⟨hlatestMem, hcur, hlast⟩ := firstBy_spec hlatest
      have hrun := (List.mem_filter.mp hmem).1
      obtain ⟨hlatestRun, hlatestId, -⟩ := mem_runsOf.mp hlatestMem
      obtain rfl := books.run_eq hlatestRun hrun hrunId
      obtain ⟨hsucc, hcovers⟩ := (isCurrentSuccess_iff books hrow hrun hlatestId).mp hcur
      refine .inr ⟨latest, mem_successesOf.mpr ⟨hrun, hlatestId, hsucc⟩, hcovers, fun other hother => ?_,
        fun other hother hcoversOther => ?_⟩
      · obtain ⟨hotherMem, hid, hotherSucceeded⟩ := mem_successesOf.mp hother
        exact hmax other (List.mem_filter.mpr ⟨hotherMem, decide_eq_true (books.workspace_eq hrow hotherMem hid)⟩)
          (decide_eq_true ⟨hid, hotherSucceeded⟩)
      · obtain ⟨hotherMem, hid, hotherSucceeded⟩ := mem_successesOf.mp hother
        exact hlast other (mem_runsOf.mpr ⟨hotherMem, hid, books.workspace_eq hrow hotherMem hid⟩)
          ((isCurrentSuccess_iff books hrow hotherMem hid).mpr ⟨hotherSucceeded, hcoversOther⟩)
  · rintro (hnone | ⟨run, hrun, hcovers, hmax, hlast⟩)
    · have hidle : ∀ run ∈ tables.runs, run.runbookId = id → run.succeeded = false := by
        intro run hrun hid
        refine Bool.eq_false_iff.mpr fun hsucc => ?_
        have hmem := mem_successesOf.mpr ⟨hrun, hid, hsucc⟩
        rw [hnone] at hmem
        cases hmem
      have hsum : firstBy byStart (fun run => decide (run.runbookId = id ∧ run.succeeded))
          (tables.runs.filter (·.workspaceId = row.workspaceId)) = none := by
        refine firstBy_eq_none.mpr fun run hrun => decide_eq_false fun h => ?_
        rw [hidle run (List.mem_filter.mp hrun).1 h.1] at h
        cases h.2
      have hstore : firstBy byCompletion tables.isCurrentSuccess (tables.runsOf row.workspaceId id) = none := by
        refine firstBy_eq_none.mpr fun run hrun => ?_
        obtain ⟨hmem, hid, -⟩ := mem_runsOf.mp hrun
        rw [RunbookTables.isCurrentSuccess, hidle run hmem hid, Bool.false_and, Bool.false_and, Bool.false_and]
      rw [hsum, hstore]
    · obtain ⟨hmem, hid, hsucc⟩ := mem_successesOf.mp hrun
      have hws := books.workspace_eq hrow hmem hid
      have hsum := (firstBy_eq_some (p := fun run => decide (run.runbookId = id ∧ run.succeeded)) hstart).mpr
        ⟨List.mem_filter.mpr ⟨hmem, decide_eq_true hws⟩, decide_eq_true ⟨hid, hsucc⟩, fun other hother hp =>
          hmax other (mem_successesOf.mpr ⟨(List.mem_filter.mp hother).1, of_decide_eq_true hp⟩)⟩
      have hstore := (firstBy_eq_some (p := tables.isCurrentSuccess) hcompletion).mpr
        ⟨mem_runsOf.mpr ⟨hmem, hid, hws⟩, (isCurrentSuccess_iff books hrow hmem hid).mpr ⟨hsucc, hcovers⟩,
          fun other hother hp => by
            obtain ⟨hotherMem, hotherId, -⟩ := mem_runsOf.mp hother
            obtain ⟨hotherSucceeded, hotherCovers⟩ := (isCurrentSuccess_iff books hrow hotherMem hotherId).mp hp
            exact hlast other (mem_successesOf.mpr ⟨hotherMem, hotherId, hotherSucceeded⟩) hotherCovers⟩
      rw [hsum, hstore]

end Shown

/-! ## What a step does to it -/

section ShownRight

variable {successes successes' : List RunRow} {contentRevision : Nat}

theorem ShownRight.congr (h : ∀ run, run ∈ successes ↔ run ∈ successes') :
    ShownRight successes contentRevision ↔ ShownRight successes' contentRevision := by
  have hnil : successes = [] ↔ successes' = [] := by
    rw [List.eq_nil_iff_forall_not_mem, List.eq_nil_iff_forall_not_mem]
    exact forall_congr' fun run => not_congr (h run)
  rw [ShownRight, ShownRight, hnil]
  simp only [h]

theorem shownRight_edited (hearlier : ∀ run ∈ successes, run.contentRevision ≤ contentRevision) :
    ShownRight successes (contentRevision + 1) ↔ successes = [] := by
  refine ⟨?_, .inl⟩
  rintro (hnone | ⟨run, hrun, hcovers, -⟩)
  · exact hnone
  · have hle := hearlier run hrun
    have heq := hcovers.2
    omega

theorem completedAt_ne_gt {run other : RunRow} (h : byCompletion run other ≠ .gt) :
    compare run.completedAt other.completedAt ≠ .gt := by
  intro hgt
  exact h (by rw [byCompletion, compareLex, compareOn, hgt, Ordering.gt_then])

theorem byCompletion_ne_gt {run other : RunRow} (hcompl : compare run.completedAt other.completedAt ≠ .gt)
    (hstart : byStart run other ≠ .gt) : byCompletion run other ≠ .gt := by
  rw [byCompletion, compareLex, compareOn]
  cases hcmp : compare run.completedAt other.completedAt with
  | lt => nofun
  | eq => exact hstart
  | gt => exact absurd hcmp hcompl

theorem shownRight_succeeded {run : RunRow} {completedAt : JsString} (hright : ShownRight successes contentRevision)
    (hnew : ∀ other ∈ successes, other.runId ≠ run.runId)
    (hmem : ∀ other, other ∈ successes' ↔
      other ∈ successes ∨ other = { run with status := .ended .succeeded, completedAt := some completedAt }) :
    ShownRight successes' contentRevision ↔ SucceedsInOrder successes contentRevision run completedAt := by
  have hself := (hmem _).mpr (.inr rfl)
  constructor
  · rintro (hnone | ⟨shown, hshown, hcovers, hmax, hlast⟩)
    · rw [hnone] at hself
      cases hself
    rcases (hmem shown).mp hshown with hold | rfl
    · -- an earlier success is shown, so that it was started later
      have hlater : byStart shown run = .gt := by
        by_contra hle
        have hended := hmax _ hself
        have hbef : byStart run shown ≠ .gt := hended
        obtain ⟨-, hid⟩ := compareLex_eq_eq.mp (eq_of_ne_gt hle hbef)
        exact hnew shown hold (Std.compare_eq_iff_eq.mp hid)
      refine ⟨fun hfirst => absurd hlater (hfirst shown hold), fun _ hrun => ⟨shown, hold, hcovers, ?_⟩⟩
      exact completedAt_ne_gt (hlast _ hself hrun)
    · refine ⟨fun _ => ⟨hcovers, fun other hother hother' => ?_⟩, ?_⟩
      · exact completedAt_ne_gt (hlast other ((hmem other).mpr (.inl hother)) hother')
      · rintro ⟨other, hother, hgt⟩
        exact absurd hgt (hmax other ((hmem other).mpr (.inl hother)))
  · intro horder
    by_cases hfirst : ∀ other ∈ successes, byStart other run ≠ .gt
    · obtain ⟨hcovers, hlast⟩ := horder.last hfirst
      refine .inr ⟨_, hself, hcovers, fun other hother => ?_, fun other hother hother' => ?_⟩
      · rcases (hmem other).mp hother with hold | rfl
        · exact hfirst other hold
        · exact fun hgt => nomatch hgt.symm.trans Std.ReflCmp.compare_self
      · rcases (hmem other).mp hother with hold | rfl
        · exact byCompletion_ne_gt (hlast other hold hother') (hfirst other hold)
        · exact fun hgt => nomatch hgt.symm.trans Std.ReflCmp.compare_self
    · simp only [not_forall, not_not] at hfirst
      obtain ⟨later, hlater, hgt⟩ := hfirst
      rcases hright with hnone | ⟨shown, hshown, hcovers, hmax, hlast⟩
      · rw [hnone] at hlater
        cases hlater
      have hbef : byStart run shown ≠ .gt := by
        have hle : byStart run later ≠ .gt := by
          have hswap : byStart run later = (byStart later run).swap := Std.OrientedCmp.eq_swap
          rw [hswap, hgt]
          nofun
        exact ne_gt_trans hle (hmax later hlater)
      refine .inr ⟨shown, (hmem shown).mpr (.inl hshown), hcovers, fun other hother => ?_, fun other hother hother' => ?_⟩
      · rcases (hmem other).mp hother with hold | rfl
        · exact hmax other hold
        · exact hbef
      · rcases (hmem other).mp hother with hold | rfl
        · exact hlast other hold hother'
        · obtain ⟨ended, hended, hendedCovers, hle⟩ := horder.earlier ⟨later, hlater, hgt⟩ hother'
          exact byCompletion_ne_gt (ne_gt_trans hle (completedAt_ne_gt (hlast ended hended hendedCovers))) hbef

end ShownRight

section Steps

variable {tables tables' : RunbookTables} {event : RunbookEvent}

theorem summaryAgrees_iff (books : LedgerBooks tables) : SummaryAgrees tables ↔
    ∀ id row, tables.runbooks.get? id = some row → ShownRight (tables.successesOf id) row.contentRevision :=
  forall_congr' fun _ => forall_congr' fun _ => forall_congr' fun hrow => shownRight_iff books hrow

theorem LedgerBooks.successesOf_none (books : LedgerBooks tables) {id : JsString}
    (hnone : tables.runbooks.get? id = none) : tables.successesOf id = [] := by
  refine List.eq_nil_iff_forall_not_mem.mpr fun run hrun => ?_
  obtain ⟨hmem, hid, -⟩ := mem_successesOf.mp hrun
  obtain ⟨row, hrow, -⟩ := books.known run hmem
  rw [hid, hnone] at hrow
  cases hrow

/-- Where neither the successes nor the content revisions change, what is shown does not. -/
theorem SummaryAgrees.kept (hagrees : SummaryAgrees tables) (books : LedgerBooks tables) (books' : LedgerBooks tables')
    (hrows : RevisionsKept tables.runbooks tables'.runbooks)
    (hsuccesses : ∀ run, run.succeeded = true → (run ∈ tables'.runs ↔ run ∈ tables.runs)) : SummaryAgrees tables' := by
  have hmem : ∀ id run, run ∈ tables.successesOf id ↔ run ∈ tables'.successesOf id := by
    intro id run
    rw [mem_successesOf, mem_successesOf]
    exact ⟨fun h => ⟨(hsuccesses run h.2.2).mpr h.1, h.2⟩, fun h => ⟨(hsuccesses run h.2.2).mp h.1, h.2⟩⟩
  refine (summaryAgrees_iff books').mpr fun id row' hrow' => ?_
  rw [← ShownRight.congr (hmem id)]
  rcases hrows id row' hrow' with hnone | ⟨row, hrow, hrev⟩
  · exact .inl (books.successesOf_none hnone)
  · rw [← hrev]
    exact (summaryAgrees_iff books).mp hagrees id row hrow

theorem mem_map_succeeded {f : RunRow → RunRow} {rows : List RunRow} {run : RunRow}
    (hf : ∀ other, (other.succeeded = true ∨ (f other).succeeded = true) → f other = other)
    (hrun : run.succeeded = true) : run ∈ rows.map f ↔ run ∈ rows := by
  constructor
  · intro hmem
    obtain ⟨other, hother, rfl⟩ := List.mem_map.mp hmem
    rwa [hf other (.inr hrun)]
  · intro hmem
    exact List.mem_map.mpr ⟨run, hmem, hf run (.inl hrun)⟩

section

variable (hagrees : SummaryAgrees tables) (books : LedgerBooks tables)
include hagrees books

theorem SummaryAgrees.edited {id : JsString}
    {row row' : RunbookRow} (hrow : tables.runbooks.get? id = some row)
    (hrev : row'.contentRevision = row.contentRevision + 1)
    (books' : LedgerBooks { tables with runbooks := tables.runbooks.set id row' }) :
    SummaryAgrees { tables with runbooks := tables.runbooks.set id row' } ↔ tables.successesOf id = [] := by
  have hearlier : ∀ run ∈ tables.successesOf id, run.contentRevision ≤ row.contentRevision := by
    intro run hrun
    obtain ⟨hmem, hid, -⟩ := mem_successesOf.mp hrun
    obtain ⟨found, hfound, -, hle, -⟩ := books.known run hmem
    rw [hid, hrow] at hfound
    rwa [Option.some.inj hfound]
  have hedited := shownRight_edited hearlier
  rw [← hrev] at hedited
  rw [summaryAgrees_iff books']
  constructor
  · intro h
    exact hedited.mp (h id row' (by rw [JsMap.get?_set, if_pos rfl]))
  · intro hnone other found hfound
    rw [JsMap.get?_set] at hfound
    split at hfound
    · next heq =>
      subst heq
      rw [← Option.some.inj hfound]
      exact hedited.mpr hnone
    · exact (summaryAgrees_iff books).mp hagrees other found hfound

theorem SummaryAgrees.succeeded (books' : LedgerBooks tables')
    {id runId completedAt : JsString} {run : RunRow} {row : RunbookRow}
    (hrows : RevisionsKept tables.runbooks tables'.runbooks) (hrow : tables.runbooks.get? id = some row)
    (hkept : ∃ row', tables'.runbooks.get? id = some row') (hrun : run ∈ tables.runs) (hrunId : run.runId = runId)
    (hact : RunbookTables.isActive row.workspaceId id runId run = true)
    (hruns : tables'.runs = tables.runs.map fun run =>
      if RunbookTables.isActive row.workspaceId id runId run then
        { run with status := .ended .succeeded, completedAt := some completedAt }
      else run) :
    SummaryAgrees tables' ↔ SucceedsInOrder (tables.successesOf id) row.contentRevision run completedAt := by
  obtain ⟨-, hid, -, hrunning⟩ := isActive_iff.mp hact
  have hidle : run.succeeded = false := by
    rw [RunRow.succeeded, hrunning]
    rfl
  have hmem : ∀ other, other ∈ tables'.runs ∧ other.succeeded = true ↔
      other ∈ tables.runs ∧ other.succeeded = true ∨
        other = { run with status := .ended .succeeded, completedAt := some completedAt } := by
    intro other
    rw [hruns, List.mem_map]
    constructor
    · rintro ⟨⟨before, hbef, rfl⟩, hsucc⟩
      by_cases hisActive : RunbookTables.isActive row.workspaceId id runId before = true
      · rw [books.run_eq hbef hrun ((isActive_iff.mp hisActive).1.trans hrunId.symm), if_pos hact]
        exact .inr rfl
      · rw [if_neg hisActive] at hsucc ⊢
        exact .inl ⟨hbef, hsucc⟩
    · rintro (⟨hother, hsucc⟩ | rfl)
      · refine ⟨⟨other, hother, if_neg fun hisActive => ?_⟩, hsucc⟩
        rw [RunRow.succeeded, (isActive_iff.mp hisActive).2.2.2] at hsucc
        cases hsucc
      · exact ⟨⟨run, hrun, if_pos hact⟩, rfl⟩
  have hnew : ∀ other ∈ tables.successesOf id, other.runId ≠ run.runId := by
    intro other hother heq
    obtain ⟨hotherMem, -, hsucc⟩ := mem_successesOf.mp hother
    rw [books.run_eq hotherMem hrun heq, hidle] at hsucc
    cases hsucc
  have hsame : ∀ runbook other, other ∈ tables'.successesOf runbook ↔ other ∈ tables.successesOf runbook ∨
      runbook = id ∧ other = { run with status := .ended .succeeded, completedAt := some completedAt } := by
    intro runbook other
    rw [mem_successesOf, mem_successesOf]
    constructor
    · rintro ⟨hother, hotherId, hsucc⟩
      rcases (hmem other).mp ⟨hother, hsucc⟩ with ⟨hold, -⟩ | rfl
      · exact .inl ⟨hold, hotherId, hsucc⟩
      · exact .inr ⟨hotherId.symm.trans hid, rfl⟩
    · rintro (⟨hother, hotherId, hsucc⟩ | ⟨rfl, rfl⟩)
      · exact ⟨((hmem other).mpr (.inl ⟨hother, hsucc⟩)).1, hotherId, hsucc⟩
      · exact ⟨((hmem _).mpr (.inr rfl)).1, hid, rfl⟩
  have hright := (summaryAgrees_iff books).mp hagrees
  have hself : ∀ other, other ∈ tables'.successesOf id ↔ other ∈ tables.successesOf id ∨
      other = { run with status := .ended .succeeded, completedAt := some completedAt } := by
    intro other
    rw [hsame, eq_self, true_and]
  rw [← shownRight_succeeded (hright id row hrow) hnew hself, summaryAgrees_iff books']
  constructor
  · intro h
    obtain ⟨row', hrow'⟩ := hkept
    rcases hrows id row' hrow' with hnone | ⟨found, hfound, hrev⟩
    · rw [hrow] at hnone
      cases hnone
    · rw [Option.some.inj (hrow.symm.trans hfound), hrev]
      exact h id row' hrow'
  · intro h runbook row' hrow'
    by_cases heq : runbook = id
    · subst heq
      rcases hrows runbook row' hrow' with hnone | ⟨found, hfound, hrev⟩
      · rw [hrow] at hnone
        cases hnone
      · rwa [← hrev, ← Option.some.inj (hrow.symm.trans hfound)]
    · have hrest : ∀ other, other ∈ tables.successesOf runbook ↔ other ∈ tables'.successesOf runbook := by
        intro other
        rw [hsame]
        exact ⟨.inl, fun h => h.resolve_right fun h => heq h.1⟩
      rw [← ShownRight.congr hrest]
      rcases hrows runbook row' hrow' with hnone | ⟨found, hfound, hrev⟩
      · exact .inl (books.successesOf_none hnone)
      · rw [← hrev]
        exact hright runbook found hfound

theorem SummaryAgrees.quiet (books' : LedgerBooks tables')
    (hatt : tables.attempt event = some tables') (hquiet : event.call.Quiet) : SummaryAgrees tables' := by
  cases attempt_change hatt with
  | kept hquiet' hrows hruns hcells => exact hagrees.kept books books' hrows fun run _ => by rw [hruns]
  | edited id row notebook hcall =>
    rw [hquiet.1] at hcall
    cases hcall
  | begun started hquiet' hrows hrun hruns hcells =>
    refine hagrees.kept books books' hrows fun run hsucc => ?_
    rw [hruns, List.mem_append, List.mem_singleton]
    refine ⟨fun h => h.resolve_right ?_, .inl⟩
    rintro rfl
    rw [RunRow.succeeded, hrun] at hsucc
    cases hsucc
  | recorded workspaceId id runId cellId outcome tables₁ hquiet' hrows hkeep hruns hcells =>
    refine hagrees.kept books books' hrows fun run hsucc => ?_
    rw [hruns, (persistCell_some hkeep).2.2]
    refine mem_map_succeeded (fun other hother => if_neg fun hisActive => ?_) hsucc
    have hrun := (isActive_iff.mp hisActive).2.2.2
    rw [if_pos hisActive] at hother
    simp [RunRow.succeeded, hrun] at hother
  | ended id runId outcome completedAt tables₁ hcall => exact absurd hcall (hquiet.2 id runId outcome completedAt)

theorem SummaryAgrees.ended (books' : LedgerBooks tables')
    {workspaceId id runId completedAt : JsString} {outcome : RunOutcome} {tables₁ : RunbookTables}
    (hoccurred : outcome ≠ .succeeded) (hrows : RevisionsKept tables.runbooks tables'.runbooks)
    (hkeep : tables.persistOutcome workspaceId id runId outcome completedAt = some tables₁)
    (hruns : tables'.runs = tables₁.runs) : SummaryAgrees tables' := by
  refine hagrees.kept books books' hrows fun run hsucc => ?_
  rw [hruns, (persistOutcome_some hkeep).2.2]
  refine mem_map_succeeded (fun other hother => if_neg fun hisActive => ?_) hsucc
  have hrun := (isActive_iff.mp hisActive).2.2.2
  rw [if_pos hisActive] at hother
  simp [RunRow.succeeded, hrun, hoccurred] at hother

end

theorem successKept_iff (books : LedgerBooks tables) (hagrees : SummaryAgrees tables) :
    SummaryAgrees (tables.step event) ↔ SuccessKept tables event := by
  have books' := ledgerBooks_step books event
  rw [RunbookTables.step] at books' ⊢
  cases hatt : tables.attempt event with
  | none =>
    rw [Option.getD_none]
    refine ⟨fun _ => ⟨fun hsome => ?_, fun hsome => ?_⟩, fun _ => hagrees⟩ <;>
    · rw [hatt] at hsome
      cases hsome
  | some tables' =>
    rw [hatt, Option.getD_some] at books'
    rw [Option.getD_some]
    have hsome : (tables.attempt event).isSome := by rw [hatt]; rfl
    have hquiet : event.call.Quiet → (SummaryAgrees tables' ↔ SuccessKept tables event) := by
      intro hquiet
      refine ⟨fun _ => ⟨fun _ id hid => ?_, fun _ id runId completedAt run row hcall => ?_⟩,
        fun _ => hagrees.quiet books books' hatt hquiet⟩
      · rw [hquiet.1] at hid
        cases hid
      · exact absurd hcall (hquiet.2 _ _ _ _)
    cases attempt_change hatt with
    | kept hquiet' hrows hruns hcells => exact hquiet hquiet'
    | begun started hquiet' hrows hrunning hruns hcells => exact hquiet hquiet'
    | recorded workspaceId id runId cellId outcome tables₁ hquiet' hrows hkeep hruns hcells => exact hquiet hquiet'
    | edited id row notebook hcall hrow heq =>
      rw [heq] at books' ⊢
      rw [hagrees.edited books hrow rfl books']
      constructor
      · intro hnone
        refine ⟨fun _ other hother => ?_, fun _ other runId completedAt run row hcall' => ?_⟩
        · rwa [Option.some.inj (hother.symm.trans hcall)]
        · rw [hcall'] at hcall
          cases hcall
      · exact fun hkept => hkept.edited hsome id hcall
    | ended id runId outcome completedAt tables₁ hcall hrows hkeep hruns hcells =>
      by_cases hsucc : outcome = .succeeded
      · subst hsucc
        obtain ⟨-, ⟨run, hrun, hact⟩, htables₁⟩ := persistOutcome_some hkeep
        obtain ⟨hrunId, hid, hws, -⟩ := isActive_iff.mp hact
        obtain ⟨row, hrow, hrowWorkspace, -⟩ := books.known run hrun
        rw [hid] at hrow
        rw [← hws, ← hrowWorkspace] at hact htables₁
        obtain ⟨row', hrow', -⟩ := books'.known _ (by
          rw [hruns, htables₁]
          exact List.mem_map_of_mem hrun)
        rw [if_pos hact, hid] at hrow'
        rw [hagrees.succeeded books books' hrows hrow ⟨row', hrow'⟩ hrun hrunId hact (by rw [hruns, htables₁])]
        constructor
        · intro horder
          refine ⟨fun _ other hother => ?_, fun _ other otherId time other' found hcall' hother hotherId hfound => ?_⟩
          · rw [hcall] at hother
            cases hother
          · rw [hcall] at hcall'
            cases hcall'
            rw [books.run_eq hother hrun (hotherId.trans hrunId.symm), ← Option.some.inj (hrow.symm.trans hfound)]
            exact horder
        · exact fun hkept => hkept.succeeded hsome id runId completedAt run row hcall hrun hrunId hrow
      · refine ⟨fun _ => ⟨fun _ other hother => ?_, fun _ other otherId time other' found hcall' => ?_⟩,
          fun _ => hagrees.ended books books' hsucc hrows hkeep hruns⟩
        · rw [hcall] at hother
          cases hother
        · rw [hcall] at hcall'
          cases hcall'
          exact absurd rfl hsucc

end Steps

/-- The summary and the store agree in every state of a run if and only if each step of it meets the condition. -/
theorem summary_agrees_iff (events : List RunbookEvent) :
    RunMeets RunbookTables.step (fun tables event => SummaryAgrees (tables.step event)) .empty events ↔
      RunMeets RunbookTables.step SuccessKept .empty events := by
  have hiff : ∀ tables event, LedgerBooks tables ∧ SummaryAgrees tables →
      (SummaryAgrees (tables.step event) ↔ SuccessKept tables event) :=
    fun tables event h => successKept_iff h.1 h.2
  have hkeeps : ∀ tables event, LedgerBooks tables ∧ SummaryAgrees tables → SuccessKept tables event →
      LedgerBooks (tables.step event) ∧ SummaryAgrees (tables.step event) :=
    fun tables event h hkept => ⟨ledgerBooks_step h.1 event, (successKept_iff h.1 h.2).mpr hkept⟩
  exact runMeets_iff_of_invariant hiff hkeeps ⟨.empty, nofun⟩ events

def editedRun : List RunbookEvent :=
  let cell := inputToNotebookCell ⟨js "1", true, js "id", [js "setup"], none, none, none⟩
  [⟨js "w", .create (js "b") ⟨[cell], [js "setup"], none⟩⟩,
    ⟨js "w", .beginExecution (js "b") (js "1") [js "cell-1"] (js "2026-01-01T00:00:00.000Z") none⟩,
    ⟨js "w", .completeCellExecution (js "b") (runIdOf (js "1")) (js "cell-1") .succeeded⟩,
    ⟨js "w", .completeExecution (js "b") (runIdOf (js "1")) .succeeded (js "2026-01-01T00:00:01.000Z")⟩,
    ⟨js "w", .editCell (js "b") 4 (js "cell-1") (js "whoami")⟩]

/-- The summary still shows the run, and the store none. -/
theorem editedRun_disagrees : ¬ SummaryAgrees (runSteps RunbookTables.step .empty editedRun) := by
  intro hagrees
  obtain ⟨row, hrow, hworkspace⟩ : ∃ row,
      (runSteps RunbookTables.step .empty editedRun).runbooks.get? (js "b") = some row ∧ row.workspaceId = js "w" :=
    ⟨_, rfl, rfl⟩
  have hshown := hagrees (js "b") row hrow
  rw [hworkspace] at hshown
  have hsummary : (runSteps RunbookTables.step .empty editedRun).summaryLatestSuccessfulRunId (js "w") (js "b") =
      some (runIdOf (js "1")) := by decide +kernel
  have hstore : ((runSteps RunbookTables.step .empty editedRun).readExecutionMetrics (js "w") (js "b")).latestSuccessfulRunId =
      none := by decide +kernel
  rw [hsummary, hstore] at hshown
  cases hshown

end Beale.Runbooks
