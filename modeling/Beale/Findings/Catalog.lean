import Beale.Findings.AuditLog

/-!
# The compact read of the catalog

- `mem_compactEvidenceRows`, `any_compact`: the rows the compact read keeps.
- `validIndependentEvidence_eq`: a review, and whether it was qualified.
- `CatalogFaithful`, `compact_checklist_eq_iff`: when the checklists of the two reads are the same.
- `unqualified_review_completes_catalog`: a review that only the compact read counts.
-/

namespace Beale.Findings

open Beale.Library

variable {env : FindingPlatform} {db : Database}

/-! ## Checklists -/

theorem checklistItem_status {key label completeDetail missingDetail : JsString}
    {complete required : Bool} :
    (checklistItem key label complete required completeDetail missingDetail).status = .complete ↔
      complete = true := by
  unfold checklistItem
  cases complete with
  | true => simp
  | false => cases required <;> simp

theorem checklistItem_inj {key label completeDetail missingDetail : JsString}
    {complete complete' required : Bool}
    (h : checklistItem key label complete required completeDetail missingDetail =
      checklistItem key label complete' required completeDetail missingDetail) :
    complete = complete' := by
  rw [Bool.eq_iff_iff, ← checklistItem_status, h, checklistItem_status]

theorem checklistItems_inj {claim : FindingSummary} {facts facts' : EvidenceFacts} {rank : Nat}
    (h : checklistItems claim facts rank = checklistItems claim facts' rank) : facts = facts' := by
  unfold checklistItems at h
  simp only [List.cons.injEq] at h
  obtain ⟨-, hdirect, -, -, -, hrepro, -, hpositive, hnegative, -, -, -, -, hindep, -⟩ := h
  have hdirect := checklistItem_inj hdirect
  have hrepro := checklistItem_inj hrepro
  have hpositive := checklistItem_inj hpositive
  have hnegative := checklistItem_inj hnegative
  have hindep := checklistItem_inj hindep
  cases facts
  cases facts'
  simp only at hdirect hrepro hpositive hnegative hindep
  rw [hdirect, hrepro, hpositive, hnegative, hindep]

/-- Two sets of evidence of a claim give the same checklists where they give the same facts. -/
theorem checklists_eq_iff {claim claim' : FindingSummary}
    (hclaim : { claim' with evidence := claim.evidence } = claim) :
    (∀ target, candidateCompletionChecklist env claim' target =
        candidateCompletionChecklist env claim target) ↔
      evidenceFacts env claim' = evidenceFacts env claim := by
  have hid : claim'.id = claim.id := by
    rw [← hclaim]
  have hitems : ∀ facts rank, checklistItems claim' facts rank = checklistItems claim facts rank := by
    intro facts rank
    rw [← hclaim]
    rfl
  constructor
  · intro h
    have hverif := congrArg CompletionChecklist.items (h .verified)
    unfold candidateCompletionChecklist at hverif
    simp only [hitems] at hverif
    exact checklistItems_inj hverif
  · intro h target
    unfold candidateCompletionChecklist
    rw [h, hid]
    simp only [hitems]

/-! ## The rows of the compact read -/

theorem mem_of_mem_uniqueById {α : Type} {rows : List (JsString × α)} {item : JsString × α}
    (h : item ∈ uniqueById rows) : item ∈ rows := by
  unfold uniqueById at h
  have hfold : ∀ (rest seen : List (JsString × α)),
      item ∈ rest.foldl (fun seen row => if row.1 ∈ seen.map Prod.fst then seen else seen ++ [row]) seen →
      item ∈ seen ∨ item ∈ rest := by
    intro rest
    induction rest with
    | nil => exact fun seen h => .inl h
    | cons row rest ih =>
      intro seen h
      rw [List.foldl_cons] at h
      rcases ih _ h with hseen | hrest
      · split at hseen
        next => exact .inl hseen
        next =>
          rcases List.mem_append.mp hseen with hseen | hrow
          · exact .inl hseen
          · exact .inr (by simp [List.mem_singleton.mp hrow])
      · exact .inr (List.mem_cons_of_mem _ hrest)
  rcases hfold rows [] h with hnil | hrows
  · cases hnil
  · exact hrows

theorem exists_mem_uniqueById {α : Type} {rows : List (JsString × α)} {item : JsString × α}
    (h : item ∈ rows) : ∃ item' ∈ uniqueById rows, item'.1 = item.1 := by
  have hfold : ∀ (rest seen : List (JsString × α)), item ∈ rest ∨ item.1 ∈ seen.map Prod.fst →
      item.1 ∈ (rest.foldl (fun seen row =>
        if row.1 ∈ seen.map Prod.fst then seen else seen ++ [row]) seen).map Prod.fst := by
    intro rest
    induction rest with
    | nil =>
      rintro seen (hnil | hseen)
      · cases hnil
      · exact hseen
    | cons row rest ih =>
      intro seen h
      rw [List.foldl_cons]
      refine ih _ ?_
      rcases h with hmem | hseen
      · rcases List.mem_cons.mp hmem with rfl | hrest
        · refine .inr ?_
          split
          next hthere => exact hthere
          next => simp
        · exact .inl hrest
      · refine .inr ?_
        split
        next => exact hseen
        next => simp [hseen]
  obtain ⟨item', hmem, hid⟩ := List.mem_map.mp (hfold rows [] (.inl h))
  exact ⟨item', hmem, hid⟩

theorem mem_evidenceOf {id : JsString} {item : JsString × EvidenceRow} (h : item ∈ db.evidenceOf id) :
    db.evidence.get? item.1 = some item.2 := by
  unfold Database.evidenceOf at h
  rw [List.mem_insertionSort] at h
  exact JsMap.get?_of_mem (List.mem_filter.mp h).1

theorem mem_compactEvidenceRows {id : JsString} {item : JsString × EvidenceRow} :
    item ∈ compactEvidenceRows (db.evidenceOf id) ↔
      ((db.evidenceOf id).find? fun item => isDirectEvidence item.2) = some item ∨
      ((db.evidenceOf id).find? fun item => evidenceControlSql item.2 = some .positive) = some item ∨
      ((db.evidenceOf id).find? fun item => evidenceControlSql item.2 = some .negative) = some item ∨
      item ∈ db.evidenceOf id ∧ (item.2.kind = .runbookExecution ∨ item.2.independent = true) := by
  unfold compactEvidenceRows
  have hchosen : ∀ item, item ∈
      ((db.evidenceOf id).find? fun item => isDirectEvidence item.2).toList ++
        ((db.evidenceOf id).find? fun item => evidenceControlSql item.2 = some .positive).toList ++
        ((db.evidenceOf id).find? fun item => evidenceControlSql item.2 = some .negative).toList ++
        (db.evidenceOf id).filter (fun item =>
          item.2.kind = .runbookExecution ∨ item.2.independent = true) ↔
      ((db.evidenceOf id).find? fun item => isDirectEvidence item.2) = some item ∨
      ((db.evidenceOf id).find? fun item => evidenceControlSql item.2 = some .positive) = some item ∨
      ((db.evidenceOf id).find? fun item => evidenceControlSql item.2 = some .negative) = some item ∨
      item ∈ db.evidenceOf id ∧ (item.2.kind = .runbookExecution ∨ item.2.independent = true) := by
    intro item
    simp only [List.mem_append, Option.mem_toList, List.mem_filter,
      decide_eq_true_eq, or_assoc]
  rw [← hchosen]
  constructor
  · exact mem_of_mem_uniqueById
  · intro h
    obtain ⟨item', hmem, hid⟩ := exists_mem_uniqueById h
    -- an id has one row
    have hrow : ∀ item, item ∈ _ → item ∈ db.evidenceOf id := fun item h => by
      rcases (hchosen item).mp h with h | h | h | h
      · exact List.mem_of_find?_eq_some h
      · exact List.mem_of_find?_eq_some h
      · exact List.mem_of_find?_eq_some h
      · exact h.1
    have hitem := mem_evidenceOf (hrow item h)
    have hitem' := mem_evidenceOf (hrow item' (mem_of_mem_uniqueById hmem))
    rw [hid, hitem] at hitem'
    have hsame : item = item' := Prod.ext hid.symm (Option.some.inj hitem')
    rw [hsame]
    exact hmem

/-- What holds of some row holds of some row of the compact read, where that chooses one. -/
theorem any_compact {id : JsString} {q : JsString × EvidenceRow → Bool}
    (hq : ∀ item ∈ db.evidenceOf id, q item = true →
      ∃ item' ∈ compactEvidenceRows (db.evidenceOf id), q item' = true) :
    (compactEvidenceRows (db.evidenceOf id)).any q = (db.evidenceOf id).any q := by
  rw [Bool.eq_iff_iff, List.any_eq_true, List.any_eq_true]
  constructor
  · rintro ⟨item, hitem, h⟩
    refine ⟨item, ?_, h⟩
    rcases mem_compactEvidenceRows.mp hitem with h | h | h | h
    · exact List.mem_of_find?_eq_some h
    · exact List.mem_of_find?_eq_some h
    · exact List.mem_of_find?_eq_some h
    · exact h.1
  · rintro ⟨item, hitem, h⟩
    exact hq item hitem h

theorem exists_find? {α : Type} {rows : List α} {q : α → Bool} {item : α} (hitem : item ∈ rows)
    (h : q item = true) : ∃ item', rows.find? q = some item' ∧ q item' = true := by
  have hsome : (rows.find? q).isSome = true := List.find?_isSome.mpr ⟨item, hitem, h⟩
  obtain ⟨item', hfind⟩ := Option.isSome_iff_exists.mp hsome
  exact ⟨item', hfind, List.find?_some hfind⟩

/-! ## Reviews -/

/-- The row says nothing against the context of a review. -/
def isQualified (row : EvidenceRow) : Bool :=
  row.metadata.text (js "verificationContext") ≠ some (js "unqualified")

/-- What `validIndependentEvidence` asks beside the context of the review. -/
def boundReview (env : FindingPlatform) (db : Database) (claim : FindingSummary)
    (evidence : FindingEvidence) : Bool :=
  evidence.independent && evidence.kind ∈ reviewKinds &&
    truthy evidence.actorId && truthy evidence.sessionId && truthy evidence.referenceId &&
    (evidence.claimBindingHash = some (claimVerificationHash env claim) ||
      evidence.claimBindingHash = some (legacyClaimVerificationHash env db claim)) &&
    evidence.referenceId.any (successfulRunbookExecutionExists db.records claim) &&
    let authors := authorsBefore db claim.id
      ((recordedAt db claim.id evidence.id).getD (claim.revision + 1))
    !authors.isEmpty &&
      authors.all fun author => author.actorId.isSome && author.actorId ≠ evidence.actorId

theorem validIndependentEvidence_eq (claim : FindingSummary) (evidence : FindingEvidence) :
    validIndependentEvidence env db claim evidence =
      (boundReview env db claim evidence && isQualified evidence.toEvidenceRow) := by
  unfold validIndependentEvidence boundReview isQualified
  simp only
  ac_rfl

theorem boundReview_kind {claim : FindingSummary} {evidence : FindingEvidence}
    (h : boundReview env db claim evidence = true) :
    evidence.independent = true ∧ evidence.kind ∈ reviewKinds := by
  unfold boundReview at h
  simp only [Bool.and_eq_true, decide_eq_true_eq] at h
  exact ⟨h.1.1.1.1.1.1.1, h.1.1.1.1.1.1.2⟩

/-! ## The facts of a read -/

section

variable (claim : FindingSummary) (item : FindingEvidence)
include claim item

@[simp] theorem validatedEvidence_row :
    (validatedEvidence env db claim item).toEvidenceRow = item.toEvidenceRow := by
  unfold validatedEvidence
  split
  next => rfl
  next => split <;> rfl

@[simp] theorem validatedEvidence_id : (validatedEvidence env db claim item).id = item.id := by
  unfold validatedEvidence
  split
  next => rfl
  next => split <;> rfl

theorem evidenceControl_validated :
    evidenceControl env (validatedEvidence env db claim item) = evidenceControl env item := by
  unfold evidenceControl
  rw [validatedEvidence_row]

end

theorem validatedEvidence_reproduction {claim : FindingSummary} {item : FindingEvidence} :
    (decide ((validatedEvidence env db claim item).kind = .runbookExecution) &&
      decide ((validatedEvidence env db claim item).validated = some true)) =
      validReproductionEvidence db claim item := by
  rw [validatedEvidence_row]
  by_cases hkind : item.kind = .runbookExecution
  · unfold validatedEvidence
    simp [hkind]
  · unfold validReproductionEvidence
    simp [hkind]

theorem validatedEvidence_review {claim : FindingSummary} {item : FindingEvidence} :
    ((validatedEvidence env db claim item).independent &&
      decide ((validatedEvidence env db claim item).kind ∈ reviewKinds) &&
      decide ((validatedEvidence env db claim item).validated = some true)) =
      validIndependentEvidence env db claim item := by
  rw [validatedEvidence_row]
  by_cases hreview : item.independent = true ∧ item.kind ∈ reviewKinds
  · have hkind : item.kind ≠ .runbookExecution := fun hkind => by
      rw [hkind] at hreview
      exact absurd hreview.2 (by decide)
    unfold validatedEvidence
    rw [if_neg hkind, if_pos hreview]
    simp [hreview.1, hreview.2]
  · rw [validIndependentEvidence_eq]
    cases hbound : boundReview env db claim item with
    | true => exact absurd (boundReview_kind hbound) hreview
    | false =>
      rw [Bool.false_and, Bool.and_eq_false_iff]
      refine .inl ?_
      simpa using hreview

/-- The claim a read validates its evidence against: of the evidence the validation needs
nothing. -/
def readClaim (db : Database) (id : JsString) (row : ClaimRow) : FindingSummary :=
  summaryOf id row (db.evidenceOf id).length [] (db.componentsOf id)
    (db.duplicatesOf row.workspaceId id)

theorem readRow_evidence (id : JsString) (row : ClaimRow) (compact : Bool) :
    (readRow env db id row compact).evidence =
      (groupedEvidence db id compact).map (validatedEvidence env db (readClaim db id row)) := rfl

theorem evidenceFacts_readRow (id : JsString) (row : ClaimRow) (compact : Bool) :
    evidenceFacts env (readRow env db id row compact) =
      { direct := (groupedEvidence db id compact).any fun item => isDirectEvidence item.toEvidenceRow
        reproduction := truthy row.reproductionRunbookId &&
          (groupedEvidence db id compact).any (validReproductionEvidence db (readClaim db id row))
        independent :=
          (groupedEvidence db id compact).any (validIndependentEvidence env db (readClaim db id row))
        positive := (groupedEvidence db id compact).any fun item =>
          evidenceControl env item = some .positive
        negative := (groupedEvidence db id compact).any fun item =>
          evidenceControl env item = some .negative } := by
  unfold evidenceFacts
  simp only [readRow_evidence, List.any_map, Function.comp_def, validatedEvidence_row,
    evidenceControl_validated]
  have hrepro : ∀ item : FindingEvidence, (decide (item.kind = .runbookExecution) &&
      decide ((validatedEvidence env db (readClaim db id row) item).validated = some true)) =
      validReproductionEvidence db (readClaim db id row) item := fun item => by
    rw [← @validatedEvidence_reproduction env, validatedEvidence_row]
  have hreview : ∀ item : FindingEvidence, (item.independent && decide (item.kind ∈ reviewKinds) &&
      decide ((validatedEvidence env db (readClaim db id row) item).validated = some true)) =
      validIndependentEvidence env db (readClaim db id row) item := fun item => by
    rw [← validatedEvidence_review, validatedEvidence_row]
  simp only [hrepro, hreview]
  rfl

/-! ## The two reads -/

/-- Where the catalog may read less: if a review passes every check but its context, a qualified
one passes too, and the two ways to read a control find the same ones. -/
structure CatalogFaithful (env : FindingPlatform) (db : Database) (id : JsString) (row : ClaimRow) :
    Prop where
  reviews : ∀ item ∈ db.evidenceOf id,
    boundReview env db (readClaim db id row) (fullEvidence item) = true →
    ∃ item ∈ db.evidenceOf id,
      boundReview env db (readClaim db id row) (fullEvidence item) = true ∧ isQualified item.2 = true
  controls : ∀ control, (∃ item ∈ db.evidenceOf id, evidenceControlSql item.2 = some control) ↔
    ∃ item ∈ db.evidenceOf id, evidenceControl env (fullEvidence item) = some control

theorem evidenceControl_compact (item : JsString × EvidenceRow) :
    evidenceControl env (compactEvidence item) = evidenceControlSql item.2 := by
  have hsum : env.toLowerCase [] = [] := env.toLowerCase_ascii [] (by simp)
  have htext : ∀ control : Control, env.toLowerCase control.text = control.text := by
    intro control
    cases control with
    | positive => exact env.toLowerCase_ascii _ (List.forall_iff_forall_mem.mp (by decide))
    | negative => exact env.toLowerCase_ascii _ (List.forall_iff_forall_mem.mp (by decide))
  have hnorm : ∀ control : Control, normalizedText control.text = some control.text := by
    intro control
    cases control <;> decide
  unfold evidenceControl compactEvidence
  cases evidenceControlSql item.2 with
  | none =>
    show controlOf none (env.toLowerCase []) = none
    rw [hsum]
    decide
  | some control =>
    have hread : Metadata.text (controlMetadata (some control)) (js "control") = some control.text := by
      cases control <;> rfl
    simp only [hread, Option.bind_some, hnorm, Option.map_some, htext, hsum]
    cases control <;> decide

/-- The compact read does not know the context of a review. -/
theorem validIndependentEvidence_compact (claim : FindingSummary) (item : JsString × EvidenceRow) :
    validIndependentEvidence env db claim (compactEvidence item) =
      boundReview env db claim (fullEvidence item) := by
  rw [validIndependentEvidence_eq]
  have hcontext : ∀ control, Metadata.text (controlMetadata control) (js "verificationContext") = none := by
    intro control
    cases control <;> rfl
  have hqualified : isQualified (compactEvidence item).toEvidenceRow = true := by
    refine decide_eq_true ?_
    show Metadata.text (controlMetadata _) (js "verificationContext") ≠ _
    rw [hcontext]
    nofun
  rw [hqualified, Bool.and_true]
  rfl

theorem facts_full (id : JsString) (row : ClaimRow) :
    evidenceFacts env (readRow env db id row false) =
      { direct := (db.evidenceOf id).any fun item => isDirectEvidence item.2
        reproduction := truthy row.reproductionRunbookId && (db.evidenceOf id).any fun item =>
          validReproductionEvidence db (readClaim db id row) (fullEvidence item)
        independent := (db.evidenceOf id).any fun item =>
          boundReview env db (readClaim db id row) (fullEvidence item) && isQualified item.2
        positive := (db.evidenceOf id).any fun item =>
          evidenceControl env (fullEvidence item) = some .positive
        negative := (db.evidenceOf id).any fun item =>
          evidenceControl env (fullEvidence item) = some .negative } := by
  rw [evidenceFacts_readRow]
  simp only [groupedEvidence, Bool.false_eq_true, if_false, List.any_map, Function.comp_def,
    validIndependentEvidence_eq]
  rfl

theorem facts_compact (id : JsString) (row : ClaimRow) :
    evidenceFacts env (readRow env db id row true) =
      { direct := (db.evidenceOf id).any fun item => isDirectEvidence item.2
        reproduction := truthy row.reproductionRunbookId && (db.evidenceOf id).any fun item =>
          validReproductionEvidence db (readClaim db id row) (fullEvidence item)
        independent := (db.evidenceOf id).any fun item =>
          boundReview env db (readClaim db id row) (fullEvidence item)
        positive := (db.evidenceOf id).any fun item => evidenceControlSql item.2 = some .positive
        negative := (db.evidenceOf id).any fun item => evidenceControlSql item.2 = some .negative } := by
  have hdirect : (compactEvidenceRows (db.evidenceOf id)).any (fun item => isDirectEvidence item.2) =
      (db.evidenceOf id).any fun item => isDirectEvidence item.2 :=
    any_compact fun item hitem h => by
      obtain ⟨item', hfind, h'⟩ :=
        exists_find? (q := fun item => isDirectEvidence item.2) hitem h
      exact ⟨item', mem_compactEvidenceRows.mpr (.inl hfind), h'⟩
  have hrepro : (compactEvidenceRows (db.evidenceOf id)).any (fun item =>
        validReproductionEvidence db (readClaim db id row) (fullEvidence item)) =
      (db.evidenceOf id).any fun item =>
        validReproductionEvidence db (readClaim db id row) (fullEvidence item) :=
    any_compact fun item hitem h => by
      refine ⟨item, mem_compactEvidenceRows.mpr (.inr (.inr (.inr ⟨hitem, .inl ?_⟩))), h⟩
      unfold validReproductionEvidence at h
      simp only [Bool.and_eq_true, decide_eq_true_eq] at h
      exact h.1.1
  have hreview : (compactEvidenceRows (db.evidenceOf id)).any (fun item =>
        boundReview env db (readClaim db id row) (fullEvidence item)) =
      (db.evidenceOf id).any fun item =>
        boundReview env db (readClaim db id row) (fullEvidence item) :=
    any_compact fun item hitem h =>
      ⟨item, mem_compactEvidenceRows.mpr
        (.inr (.inr (.inr ⟨hitem, .inr (boundReview_kind h).1⟩))), h⟩
  have hcontrol : ∀ control, (compactEvidenceRows (db.evidenceOf id)).any (fun item =>
        decide (evidenceControlSql item.2 = some control)) =
      (db.evidenceOf id).any fun item => decide (evidenceControlSql item.2 = some control) := by
    intro control
    refine any_compact fun item hitem h => ?_
    obtain ⟨item', hfind, h'⟩ :=
      exists_find? (q := fun item => evidenceControlSql item.2 = some control) hitem h
    refine ⟨item', mem_compactEvidenceRows.mpr ?_, h'⟩
    cases control with
    | positive => exact .inr (.inl hfind)
    | negative => exact .inr (.inr (.inl hfind))
  have hreproduced : ∀ item, validReproductionEvidence db (readClaim db id row) (compactEvidence item) =
      validReproductionEvidence db (readClaim db id row) (fullEvidence item) := fun _ => rfl
  have hdirectRow : ∀ item, isDirectEvidence (compactEvidence item).toEvidenceRow =
      isDirectEvidence item.2 := fun _ => rfl
  rw [evidenceFacts_readRow]
  simp only [groupedEvidence, if_true, List.any_map, Function.comp_def, hdirectRow, hreproduced,
    validIndependentEvidence_compact, evidenceControl_compact, hdirect, hrepro, hreview, hcontrol]

/-- The checklists of the two reads of a claim are the same, for every target, if and only if the
compact read leaves out nothing that counts. -/
theorem compact_checklist_eq_iff (env : FindingPlatform) (db : Database) (workspaceId id : JsString) :
    (∀ target,
      (readFinding env db workspaceId id true).map (candidateCompletionChecklist env · target) =
        (readFinding env db workspaceId id false).map (candidateCompletionChecklist env · target)) ↔
      ∀ row, db.claimIn workspaceId id = some row → CatalogFaithful env db id row := by
  unfold readFinding
  cases hrow : db.claimIn workspaceId id with
  | none => simp
  | some row =>
    have hfacts : (∀ target, candidateCompletionChecklist env (readRow env db id row true) target =
        candidateCompletionChecklist env (readRow env db id row false) target) ↔
        CatalogFaithful env db id row := by
      rw [checklists_eq_iff (by rfl), facts_full, facts_compact]
      simp only [EvidenceFacts.mk.injEq, true_and]
      constructor
      · rintro ⟨hreview, hpositive, hnegative⟩
        constructor
        · intro item hitem hbound
          rw [List.any_eq_true.mpr ⟨item, hitem, hbound⟩, eq_comm, List.any_eq_true] at hreview
          obtain ⟨item', hitem', h⟩ := hreview
          rw [Bool.and_eq_true] at h
          exact ⟨item', hitem', h⟩
        · intro control
          have hcontrol : (db.evidenceOf id).any (fun item =>
              decide (evidenceControlSql item.2 = some control)) = (db.evidenceOf id).any fun item =>
              decide (evidenceControl env (fullEvidence item) = some control) := by
            cases control with
            | positive => exact hpositive
            | negative => exact hnegative
          rw [Bool.eq_iff_iff, List.any_eq_true, List.any_eq_true] at hcontrol
          simpa only [decide_eq_true_eq] using hcontrol
      · intro h
        have hcontrol : ∀ control, (db.evidenceOf id).any (fun item =>
            decide (evidenceControlSql item.2 = some control)) = (db.evidenceOf id).any fun item =>
            decide (evidenceControl env (fullEvidence item) = some control) := by
          intro control
          rw [Bool.eq_iff_iff, List.any_eq_true, List.any_eq_true]
          simpa only [decide_eq_true_eq] using h.controls control
        refine ⟨?_, hcontrol .positive, hcontrol .negative⟩
        rw [Bool.eq_iff_iff, List.any_eq_true, List.any_eq_true]
        constructor
        · rintro ⟨item, hitem, hbound⟩
          obtain ⟨item', hitem', h'⟩ := h.reviews item hitem hbound
          exact ⟨item', hitem', Bool.and_eq_true_iff.mpr h'⟩
        · rintro ⟨item, hitem, hbound⟩
          exact ⟨item, hitem, (Bool.and_eq_true_iff.mp hbound).1⟩
    simp only [Option.map_some, Option.some.injEq, forall_eq']
    exact hfacts

/-! ## An unqualified review -/

/-- A platform whose hash is the text itself. -/
def reviewPlatform : FindingPlatform := { plainPlatform with sha256 := id }

def referenceTo (kind : EvidenceKind) (reference : String) (independent : Bool) : FindingEvidenceInput where
  kind := kind
  referenceId := some (js reference)
  contentHash := none
  summary := js "seen"
  sessionId := none
  actorId := none
  independent := independent
  metadata := []

def observed (revision : Nat) (item : FindingEvidenceInput) (runbookId : Option JsString) :
    TransitionFindingInput where
  expectedRevision := revision
  toStatus := .observed
  reason := js "more evidence"
  evidence := [item]
  sourceRevision := none
  environmentFingerprint := none
  reproductionRunbookId := runbookId.map some
  stepsToReproduce := none
  reportId := none
  disclosureReference := none
  classification := none
  surfaceId := none

/-- A runbook and its one run, which has succeeded. -/
def succeededRun : Records where
  runbooks := [⟨js "book", js "w", none, 1⟩]
  executions := [⟨js "run", js "book", js "w", js "succeeded", true, 1, some (js "hash"), 1, 1,
    some (js "revision"), some (js "environment"), [js "cell"]⟩]
  cells := [⟨js "run", js "cell", some (js "succeeded"), some 0⟩]
  reports := []

/-- The store after an agent has observed a finding and linked its runbook, and another agent, whose
context is not fresh, has reviewed it. -/
def reviewedStore : Database :=
  (runOf reviewPlatform (.outside succeededRun ::
    (started 0 (callOf "a", .create .observed
        { titled "t" none with
          sourceRevision := some (js "revision")
          environmentFingerprint := some (js "environment")
          evidence := [referenceTo .artifact "artifact" false] } none) 6 ++
      started 1 (callOf "b", .transition (js "claim_a0")
        (observed 1 (referenceTo .artifact "log" false) (some (js "book"))) false) 11 ++
      started 2 ({ callOf "c" with sessionId := some (js "session"), actorId := some (js "reviewer") },
        .transition (js "claim_a0") (observed 2 (referenceTo .independentVerification "run" true) none)
          false) 11))).store

/-- The catalog takes the review for an independent verification, the full read does not. -/
theorem unqualified_review_completes_catalog :
    (readFinding reviewPlatform reviewedStore (js "w") (js "claim_a0") true).map
        (candidateCompletionChecklist reviewPlatform · .verified) ≠
      (readFinding reviewPlatform reviewedStore (js "w") (js "claim_a0") false).map
        (candidateCompletionChecklist reviewPlatform · .verified) := by
  decide +kernel

end Beale.Findings
