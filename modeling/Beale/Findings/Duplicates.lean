import Beale.Findings.AuditLog

/-!
# Duplicates

- `Advance.forest`: a commit keeps them so, where a new mark meets what `markDuplicate` has
  checked.
- `StepMeets`, `reached_forest`: and so does every run in which that is still true at the commit.
- `crossed_marks_make_a_cycle`: two clients that have both checked before either commits.
-/

namespace Beale.Findings

open Beale.Library

variable {env : FindingPlatform} {db db' : Database}

/-- A duplicate's parent is there, is no duplicate, and shares its workspace and its subject. -/
def Forest (db : Database) : Prop :=
  ∀ id row parent, db.claims.get? id = some row → row.duplicateOfClaimId = some parent →
    ∃ parentRow, db.claims.get? parent = some parentRow ∧ parentRow.duplicateOfClaimId = none ∧
      parentRow.workspaceId = row.workspaceId ∧ parentRow.subjectId = row.subjectId

theorem Forest.canonical {id child : JsString} {row childRow : ClaimRow} (h : Forest db)
    (hrow : db.claims.get? id = some row) (hchild : db.claims.get? child = some childRow)
    (hdup : childRow.duplicateOfClaimId = some id) : row.duplicateOfClaimId = none := by
  obtain ⟨row', hrow', hnone, -⟩ := h child childRow id hchild hdup
  obtain rfl := Option.some.inj (hrow.symm.trans hrow')
  exact hnone

/-- What `markDuplicate` has checked of the store: the parent is no duplicate, and the claim has
none. -/
def MayMark (db : Database) (id parent : JsString) : Prop :=
  (∀ row ∈ db.claims.get? parent, row.duplicateOfClaimId = none) ∧
    ∀ child ∈ db.claims.entries, child.2.duplicateOfClaimId ≠ some id

instance (db : Database) (id parent : JsString) : Decidable (MayMark db id parent) :=
  inferInstanceAs (Decidable (_ ∧ _))

/-- The claims that point to `id` still find it, as long as it has not become a duplicate. -/
theorem Forest.set {id : JsString} {row' : ClaimRow} (h : Forest db)
    (hclaims : db'.claims = db.claims.set id row')
    (hold : ∀ child childRow, db.claims.get? child = some childRow → child ≠ id →
      childRow.duplicateOfClaimId = some id → row'.duplicateOfClaimId = none ∧
        row'.workspaceId = childRow.workspaceId ∧ row'.subjectId = childRow.subjectId)
    (hnew : ∀ parent, row'.duplicateOfClaimId = some parent → parent ≠ id ∧
      ∃ parentRow, db.claims.get? parent = some parentRow ∧ parentRow.duplicateOfClaimId = none ∧
        parentRow.workspaceId = row'.workspaceId ∧ parentRow.subjectId = row'.subjectId) :
    Forest db' := by
  intro child childRow parent hchild hpar
  rw [hclaims, JsMap.get?_set] at hchild
  rw [hclaims, JsMap.get?_set]
  by_cases hid : child = id
  · rw [if_pos hid] at hchild
    cases hchild
    obtain ⟨hne, parentRow, hparentRow⟩ := hnew parent hpar
    rw [if_neg hne]
    exact ⟨parentRow, hparentRow⟩
  · rw [if_neg hid] at hchild
    by_cases hparentId : parent = id
    · subst hparentId
      rw [if_pos rfl]
      exact ⟨row', rfl, hold child childRow hchild hid hpar⟩
    · rw [if_neg hparentId]
      exact h child childRow parent hchild hpar

theorem Advance.forest {op : Operation} (h : Advance op db db') (htree : Forest db)
    (hmark : ∀ id row expectedRevision text reason parent,
      op = .markDuplicate id expectedRevision text reason → normalizedText text = some parent →
      db.claims.get? id = some row → row.revision = expectedRevision →
      row.duplicateOfClaimId = none → MayMark db id parent) : Forest db' := by
  obtain ⟨id, row', t, hwr, hchange⟩ := h
  cases hchange with
  | created status input surfaceId _ _ hop hnew hrev hdup =>
    refine htree.set hwr.claims (fun child childRow hchild _ hpar => ?_) fun parent hpar => ?_
    · -- nothing points to a claim that is not there
      obtain ⟨row, hrow, -⟩ := htree child childRow id hchild hpar
      rw [hnew] at hrow
      cases hrow
    · rw [hdup] at hpar
      cases hpar
  | moved row _ _ hrow htgt hrev hws hsubj _ _ _ _ hdup =>
    have hkids : ∀ child childRow, db.claims.get? child = some childRow →
        childRow.duplicateOfClaimId = some id → row.duplicateOfClaimId = none ∧
          row'.workspaceId = childRow.workspaceId ∧ row'.subjectId = childRow.subjectId := by
      intro child childRow hchild hpar
      obtain ⟨row₀, hrow₀, hnone, hworkspace₀, hsubject₀⟩ := htree child childRow id hchild hpar
      obtain rfl := Option.some.inj (hrow.symm.trans hrow₀)
      exact ⟨hnone, hws.trans hworkspace₀, hsubj.trans hsubject₀⟩
    cases hdup with
    | kept hsame =>
      refine htree.set hwr.claims (fun child childRow hchild _ hpar => ?_)
        fun parent hpar => ?_
      · obtain ⟨hnone, hshared⟩ := hkids child childRow hchild hpar
        exact ⟨hsame.trans hnone, hshared⟩
      · rw [hsame] at hpar
        obtain ⟨parentRow, hparentRow, hnone, hworkspace₀, hsubject₀⟩ := htree id row parent hrow hpar
        refine ⟨?_, parentRow, hparentRow, hnone, hworkspace₀.trans hws.symm,
          hsubject₀.trans hsubj.symm⟩
        rintro rfl
        obtain rfl := Option.some.inj (hrow.symm.trans hparentRow)
        rw [hnone] at hpar
        cases hpar
    | cleared hnone =>
      refine htree.set hwr.claims (fun child childRow hchild _ hpar => ?_)
        fun parent hpar => ?_
      · exact ⟨hnone, (hkids child childRow hchild hpar).2⟩
      · rw [hnone] at hpar
        cases hpar
    | marked expectedRevision text reason parent parentRow hop hpar hrow₀ hrow' hne hget
        hworkspace₀ hsubject₀ =>
      rw [hop] at htgt
      have hexp : row.revision = expectedRevision :=
        ((Prod.mk.inj (Option.some.inj htgt)).2).symm
      obtain ⟨hcanonical, hchildless⟩ :=
        hmark id row expectedRevision text reason parent hop hpar hrow hexp hrow₀
      refine htree.set hwr.claims (fun child childRow hchild _ hpar => ?_)
        fun parent' hpar' => ?_
      · exact absurd hpar (hchildless (child, childRow) (JsMap.mem_of_get? hchild))
      · obtain rfl := Option.some.inj (hrow'.symm.trans hpar')
        exact ⟨hne, parentRow, hget, hcanonical parentRow hget, hworkspace₀.trans hws.symm,
          hsubject₀.trans hsubj.symm⟩

theorem Forest.quiet (h : Forest db) (hquiet : protocol.quiet db db') : Forest db' := by
  have hclaims : db'.claims = db.claims := by rw [show db' = _ from hquiet]
  unfold Forest
  rw [hclaims]
  exact h

/-! ## Runs -/

/-- A task that is about to commit a `markDuplicate` of a claim that is still as expected: what it
has checked of the other claims is still true. -/
def StepMeets (p : Clients) : Event → Prop
  | .turn k =>
    match p.tasks[k]? with
    | some ⟨(_, .markDuplicate id expectedRevision text _), .transact _ _⟩ =>
      ∀ parent ∈ normalizedText text, ∀ row ∈ p.store.claims.get? id,
        row.revision = expectedRevision → row.duplicateOfClaimId = none → MayMark p.store id parent
    | _ => True
  | _ => True

instance (p : Clients) (i : Event) : Decidable (StepMeets p i) := by
  unfold StepMeets
  split
  next => split <;> infer_instance
  next => infer_instance

/-- In every run whose marks commit in a store that still meets their checks, the duplicate links
have depth one. -/
theorem reached_forest (env : FindingPlatform) (is : List Event)
    (hmeets : RunMeets (step env) StepMeets (Pool.new Database.empty) is) :
    Forest (runOf env is).store ∧
      ∀ id row child childRow, (runOf env is).store.claims.get? id = some row →
        (runOf env is).store.claims.get? child = some childRow →
        childRow.duplicateOfClaimId = some id → row.duplicateOfClaimId = none := by
  have hforest : Kept (runOf env is) ∧ Forest (runOf env is).store := by
    refine runSteps_invariant_of_meets (I := fun p : Clients => Kept p ∧ Forest p.store)
      (fun p i h hi => ⟨step_kept h.1 i, ?_⟩) ⟨runOf_kept env [], ?_⟩ hmeets
    · rcases step_cases h.1 i with hquiet | ⟨k, call, op, body, next, rfl, hk, hown⟩
      · exact h.2.quiet hquiet
      · refine hown.forest h.2 fun id row expectedRevision text reason parent hop => ?_
        rw [hop] at hk
        intro hparent hrow hrevision hnone
        unfold StepMeets at hi
        simp only [hk] at hi
        exact hi parent hparent row hrow hrevision hnone
    · intro id row parent hrow
      cases hrow
  exact ⟨hforest.2, fun id row child childRow hrow hchild => hforest.2.canonical hrow hchild⟩

/-! ## Two marks -/

def creation (ids : String) : Call × Operation := (callOf ids, .create .hypothesis (titled "t" none) none)

/-- One claim is marked as a duplicate of another, at its first revision. -/
def mark (id parent : String) : Call × Operation :=
  (callOf id, .markDuplicate (js id) 1 (js parent) (js "same"))

def twoClaims : List Event := started 0 (creation "a") 6 ++ started 1 (creation "b") 6

theorem reached_forest_marked :
    Forest (runOf plainPlatform (twoClaims ++ started 2 (mark "claim_a0" "claim_b0") 16)).store ∧
      ∀ id row child childRow,
        (runOf plainPlatform (twoClaims ++ started 2 (mark "claim_a0" "claim_b0") 16)).store.claims.get?
          id = some row →
        (runOf plainPlatform (twoClaims ++ started 2 (mark "claim_a0" "claim_b0") 16)).store.claims.get?
          child = some childRow →
        childRow.duplicateOfClaimId = some id → row.duplicateOfClaimId = none :=
  reached_forest plainPlatform _ (by decide +kernel)

/-- What a claim is marked as a duplicate of. -/
def duplicateOf (db : Database) (id : JsString) : Option JsString :=
  (db.claims.get? id).bind (·.duplicateOfClaimId)

/-- Two claims that are duplicates of each other. -/
theorem not_forest_of_cycle {a b : JsString} (hab : duplicateOf db a = some b)
    (hba : duplicateOf db b = some a) : ¬Forest db := by
  intro htree
  obtain ⟨rowA, hrowA, hduplicateA⟩ := Option.bind_eq_some_iff.mp hab
  obtain ⟨rowB, hrowB, hduplicateB⟩ := Option.bind_eq_some_iff.mp hba
  rw [htree.canonical hrowA hrowB hduplicateB] at hduplicateA
  cases hduplicateA

/-- The store after two marks of which both have been checked before either commits. -/
def crossedStore : Database :=
  (runOf plainPlatform (twoClaims ++ started 2 (mark "claim_a0" "claim_b0") 10 ++
    started 3 (mark "claim_b0" "claim_a0") 10 ++ [.turn 2, .turn 3])).store

theorem crossed_marks_make_a_cycle :
    duplicateOf crossedStore (js "claim_a0") = some (js "claim_b0") ∧
      duplicateOf crossedStore (js "claim_b0") = some (js "claim_a0") ∧ ¬Forest crossedStore := by
  have hab : duplicateOf crossedStore (js "claim_a0") = some (js "claim_b0") := by decide +kernel
  have hba : duplicateOf crossedStore (js "claim_b0") = some (js "claim_a0") := by decide +kernel
  exact ⟨hab, hba, not_forest_of_cycle hab hba⟩

end Beale.Findings
