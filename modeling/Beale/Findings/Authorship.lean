import Beale.Findings.Sequence

/-!
# Authors and reviewers

- `AuthorInv`, `step_authorInv`: the writes of a reviewer are older than the review, and seen.
-/

namespace Beale.Findings

open Beale.Library

variable {env : FindingPlatform} {db db' : Database} {call : Call}

/-! ## Content -/

/-- The fields of a claim that its verification hash is of. -/
structure Content where
  title : JsString
  summary : JsString
  impact : JsString
  stepsToReproduce : JsString
  classification : Classification
  components : List JsString
  sourceRevision : Option JsString
  environmentFingerprint : Option JsString
  reproductionRunbookId : Option JsString
deriving DecidableEq, Repr

def ClaimRow.content (row : ClaimRow) (components : List JsString) : Content where
  title := row.title
  summary := row.summary
  impact := row.impact
  stepsToReproduce := row.stepsToReproduce
  classification := row.classification
  components := components
  sourceRevision := row.sourceRevision
  environmentFingerprint := row.environmentFingerprint
  reproductionRunbookId := row.reproductionRunbookId

def FindingSummary.content (claim : FindingSummary) : Content :=
  claim.toClaimRow.content claim.componentClaimIds

/-- The content of a claim in the store. -/
def contentOf (db : Database) (id : JsString) : Option Content :=
  (db.claims.get? id).map fun row => row.content (db.componentsOf id)

variable {row row' : ClaimRow}

theorem ContentKept.content (h : ContentKept row row') (components : List JsString) :
    row'.content components = row.content components := by
  unfold ClaimRow.content
  rw [h.title, h.summary, h.impact, h.stepsToReproduce, h.classification, h.sourceRevision,
    h.environmentFingerprint, h.reproductionRunbookId]

/-! ## What a call records -/

variable {evidence : List NormalizedEvidence} {items : List FindingEvidenceInput}
  {sessionId actorId : Option JsString} {modelAuthored : Bool}

/-- A stored item is attributed to the call, where it is independent, and bound to no content. -/
theorem normalizeEvidenceInputs_ok {fresh : Bool}
    (h : normalizeEvidenceInputs items sessionId actorId fresh modelAuthored = .ok evidence) :
    ∀ item ∈ evidence, (∃ input ∈ items, item.independent = input.independent) ∧
      (item.independent = true → item.actorId = actorId) ∧ item.claimBindingHash = none := by
  unfold normalizeEvidenceInputs at h
  induction items generalizing evidence with
  | nil =>
    cases h
    simp
  | cons input rest ih =>
    rw [List.mapM_cons] at h
    obtain ⟨first, hfirst, h₁⟩ := Client.exceptBind_ok.mp h
    obtain ⟨others, hothers, h₂⟩ := Client.exceptBind_ok.mp h₁
    obtain rfl := Except.ok.inj h₂
    obtain ⟨summary, -, h₃⟩ := Client.exceptBind_ok.mp hfirst
    obtain rfl := Except.ok.inj h₃
    intro item hitem
    rcases List.mem_cons.mp hitem with rfl | hitem
    · exact ⟨⟨input, by simp, rfl⟩, fun hindep => if_pos hindep, rfl⟩
    · obtain ⟨⟨input', hinput', hsame⟩, hrest⟩ := ih hothers item hitem
      exact ⟨⟨input', List.mem_cons_of_mem _ hinput', hsame⟩, hrest⟩

theorem boundEvidence_ok {fresh : Bool} (env : FindingPlatform)
    (reviewed : FindingSummary) (h : normalizeEvidenceInputs items sessionId actorId fresh modelAuthored = .ok evidence) :
    ∀ item ∈ boundEvidence env reviewed evidence,
      (∃ input ∈ items, item.independent = input.independent) ∧
      (item.independent = true → item.actorId = actorId) := by
  intro item hitem
  unfold boundEvidence at hitem
  obtain ⟨item₀, hitem₀, rfl⟩ := List.mem_map.mp hitem
  obtain ⟨hinput, hactor, -⟩ := normalizeEvidenceInputs_ok h item₀ hitem₀
  split
  next => exact ⟨hinput, hactor⟩
  next => exact ⟨hinput, hactor⟩

variable {classification : Classification}

theorem creationChecks_ok {status : CreationStatus} {input : CreateFindingInput}
    (h : creationChecks call status input = .ok (evidence, classification)) :
    normalizeEvidenceInputs input.evidence call.sessionId call.actorId false false = .ok evidence := by
  obtain ⟨evidence', hnorm, h⟩ := Client.exceptBind_ok.mp h
  obtain ⟨-, h⟩ := Client.exceptGuard_ok.mp h
  obtain ⟨_, -, h⟩ := Client.exceptBind_ok.mp h
  obtain ⟨rfl, -⟩ := Prod.mk.inj (Except.ok.inj h)
  exact hnorm

structure Recorded (call : Call) (id : JsString) (row' : ClaimRow) (t : TransitionRow)
    (db db' : Database) : Prop where
  claims : db'.claims = db.claims.set id row'
  next : ∀ row, db.claims.get? id = some row → row'.revision = row.revision + 1
  first : db.claims.get? id = none → row'.revision = 1
  transitions : db'.transitions = db.transitions.set (id, row'.revision) t
  fresh : db.transitions.get? (id, row'.revision) = none
  actor : t.actorId = call.actorId
  evidenceKept : ∀ e row, db.evidence.get? e = some row → db'.evidence.get? e = some row
  evidenceAdded : ∀ e row, db'.evidence.get? e = some row → db.evidence.get? e = some row ∨
    db.evidence.get? e = none ∧ row.claimId = id ∧ e ∈ t.evidenceIds ∧
      (row.independent = true → row.actorId = call.actorId)
  listed : ∀ e ∈ t.evidenceIds, db.evidence.get? e = none ∧
    (∃ row, db'.evidence.get? e = some row) ∧ evidencePrefix <+: e
  components : ∀ id', id' ≠ id → db'.componentsOf id' = db.componentsOf id'

variable {id : JsString} {t : TransitionRow}

theorem Recorded.of_added {db₁ : Database} {items : List NormalizedEvidence} {ids : List JsString}
    (hadded : EvidenceAdded id call.now items ids db db₁)
    (hitems : ∀ item ∈ items, item.independent = true → item.actorId = call.actorId)
    (hevidence : db'.evidence = db₁.evidence) (hids : t.evidenceIds = ids)
    (hclaims : db'.claims = db.claims.set id row')
    (hnext : ∀ row, db.claims.get? id = some row → row'.revision = row.revision + 1)
    (hfirst : db.claims.get? id = none → row'.revision = 1)
    (htrans : db'.transitions = db.transitions.set (id, row'.revision) t)
    (hfresh : db.transitions.get? (id, row'.revision) = none) (hactor : t.actorId = call.actorId)
    (hcomps : ∀ id', id' ≠ id → db'.components.get? id' = db.components.get? id') :
    Recorded call id row' t db db' where
  claims := hclaims
  next := hnext
  first := hfirst
  transitions := htrans
  fresh := hfresh
  actor := hactor
  evidenceKept e row he := by
    rw [hevidence]
    exact hadded.kept e row he
  evidenceAdded e row he := by
    rw [hevidence] at he
    rcases hadded.added e row he with hold | ⟨hnew, hmem, item, hitem, rfl⟩
    · exact .inl hold
    · exact .inr ⟨hnew, rfl, hids ▸ hmem, hitems item hitem⟩
  listed e he := by
    rw [hids] at he
    rw [hevidence]
    exact hadded.listed e he
  components id' hne := by
    unfold Database.componentsOf
    rw [hcomps id' hne]

theorem updateTransaction_recorded {current : FindingSummary}
    {guard : ClaimRow → Bool} {f : ClaimRow → ClaimRow} {toStatus : FindingStatus}
    {reason : Except JsString JsString} {operatorOverride : Bool}
    (h : updateTransaction call id current guard f toStatus reason call.actorId operatorOverride db
      = .ok db') (hnext : ∀ row, (f row).revision = current.revision + 1) :
    ∃ row t, db.claims.get? id = some row ∧ Recorded call id (f row) t db db' ∧
      db'.components = db.components := by
  obtain ⟨row, text, hrow, hrevision, -, hfresh, rfl⟩ := updateTransaction_ok h
  refine ⟨row, recordedTransition call (some current.status) toStatus text call.actorId []
    operatorOverride, hrow, ?_, rfl⟩
  refine .of_added (.nil id call.now db) (by simp) rfl rfl rfl (fun row₀ hrow₀ => ?_) (fun hnone => ?_)
    ?_ ?_ rfl fun _ _ => rfl
  · obtain rfl := Option.some.inj (hrow.symm.trans hrow₀)
    rw [hnext, hrevision]
  · rw [hrow] at hnone
    cases hnone
  · rw [hnext]
  · rw [hnext]
    exact hfresh

/-! ## What each operation does to the content -/

def namesContent (input : ReviseResearchClaimInput) : Bool :=
  input.title.isSome || input.summary.isSome || input.impact.isSome || input.stepsToReproduce.isSome ||
    input.classification.isSome || input.componentClaimIds.isSome

/-- What a call does to the content and the evidence of the claim it writes. -/
inductive Effect (env : FindingPlatform) (call : Call) (db : Database) (id : JsString) (db' : Database) :
    Operation → Prop
  | created (status : CreationStatus) (input : CreateFindingInput) (surfaceId : Option JsString)
    (hnone : db.claims.get? id = none)
    (hunbound : ∀ e row, db'.evidence.get? e = some row → db.evidence.get? e = none →
      row.claimBindingHash = none) : Effect env call db id db' (.create status input surfaceId)
  | transitioned (input : TransitionFindingInput) (fresh : Bool) (current : FindingSummary)
    (classification : Classification)
    (hfound : readFinding env db call.workspaceId id false = some current)
    (hrevision : current.revision = input.expectedRevision)
    (hclass : claimClassification (input.classification.getD current.classification.1) =
      .ok classification)
    (hbefore : contentOf db id = some current.content)
    (hafter : contentOf db' id = some (reviewedClaim current input classification).content)
    (hreview : ∀ e row, db'.evidence.get? e = some row → db.evidence.get? e = none →
      row.independent = true → input.evidence.any (·.independent) = true) :
    Effect env call db id db' (.transition id input fresh)
  | revised (input : ReviseResearchClaimInput) (current : FindingSummary)
    (hfound : readFinding env db call.workspaceId id false = some current)
    (hrevision : current.revision = input.expectedRevision)
    (hcontent : namesContent input = false → contentOf db' id = contentOf db id)
    (hevidence : db'.evidence = db.evidence) : Effect env call db id db' (.revise id input)
  | kept (op : Operation) (hcontent : contentOf db' id = contentOf db id)
    (hevidence : db'.evidence = db.evidence) : Effect env call db id db' op

theorem contentOf_of_set (h : db'.claims = db.claims.set id row') :
    contentOf db' id = some (row'.content (db'.componentsOf id)) := by
  unfold contentOf
  rw [h, JsMap.get?_set_self]
  rfl

theorem contentOf_of_row (h : db.claims.get? id = some row) :
    contentOf db id = some (row.content (db.componentsOf id)) := by
  unfold contentOf
  rw [h]
  rfl

def Operation.isOverride : Operation → Bool
  | .transitionByHuman _ _ _ => true
  | _ => false

theorem transitionedRow_content {input : TransitionFindingInput}
    {tracking : Option FindingSecurityTracking}
    {staleReason : Option JsString} {now : JsString} {components : List JsString}
    (hclass : claimClassification (input.classification.getD row.classification.1) = .ok classification) :
    (transitionedRow input (readRow env db id row false)
      (reviewedClaim (readRow env db id row false) input classification) tracking staleReason now
      row).content components =
    (reviewedClaim (readRow env db id row false) input classification).toClaimRow.content components := by
  have hrow : (if input.classification.isNone = true then row.classification else classification) =
      classification := by
    cases hnamed : input.classification with
    | some named => rfl
    | none =>
      rw [hnamed] at hclass
      exact Except.ok.inj ((claimClassification_self row.classification).symm.trans hclass)
  unfold ClaimRow.content transitionedRow
  simp only [reviewedClaim, hrow]
  rfl

variable {op : Operation}

/-- What a call has written, of which claim, and where that is a change of its status to verified,
it is a transition with evidence that has been accepted. -/
theorem Performed.recorded (h : Performed env call db op db') (hop : op.isOverride = false) :
    ∃ id row' t, Recorded call id row' t db db' ∧ Effect env call db id db' op := by
  cases h with
  | created status input surfaceId evidence classification components _ hchecks _ h =>
    obtain ⟨db₁, evidenceIds, row, text, hnew, hadded, hnone, -, -, hfresh, rfl⟩ := insertFinding_ok h
    obtain ⟨hrevision, -⟩ := newClaim_ok hnew
    have hitems := normalizeEvidenceInputs_ok (creationChecks_ok hchecks)
    refine ⟨newClaimId env call input, row, recordedTransition call none status.status text
      call.actorId evidenceIds false, ?_, .created status input surfaceId hnone fun e row' he hnew => ?_⟩
    · refine .of_added hadded (fun item hitem => (hitems item hitem).2.1) rfl rfl rfl
        (fun row₀ hrow₀ => ?_) (fun _ => hrevision) ?_ ?_ rfl fun id' hne => ?_
      · rw [hnone] at hrow₀
        cases hrow₀
      · rw [hrevision]
      · rw [hrevision]
        exact hfresh
      · show (db.components.set (newClaimId env call input) components).get? id' = _
        rw [JsMap.get?_set, if_neg hne]
    · rcases hadded.added e row' he with hold | ⟨-, -, item, hitem, rfl⟩
      · rw [hnew] at hold
        cases hold
      · exact (hitems item hitem).2.2
  | transitioned id input fresh body _ hbody h =>
    obtain ⟨current, newEvidence, classification, tracking, hfound, -, hexp, -, -, hnorm, hclass,
      -, rfl⟩ := transitionBody_ok hbody
    obtain ⟨db₁, evidenceIds, row, staleReason, text, -, hadded, hrow, hrevision, hfresh, rfl⟩ :=
      transitionTransaction_ok h
    have hitems := boundEvidence_ok env (reviewedClaim current input classification) hnorm
    have hcomps : db₁.components = db.components := by rw [hadded.others]
    refine ⟨id, transitionedRow input current (reviewedClaim current input classification) tracking
        staleReason call.now row, recordedTransition call (some current.status) input.toStatus text
        call.actorId evidenceIds false, ?_,
      .transitioned input fresh current classification hfound hexp hclass ?_ ?_
        fun e row' he hnew hindep => ?_⟩
    · refine .of_added hadded (fun item hitem => (hitems item hitem).2) rfl rfl rfl
        (fun row₀ hrow₀ => ?_) (fun hnone => ?_) rfl hfresh rfl fun id' _ => ?_
      · obtain rfl := Option.some.inj (hrow.symm.trans hrow₀)
        show current.revision + 1 = _
        rw [hrevision]
      · rw [hrow] at hnone
        cases hnone
      · rw [hcomps]
    · obtain ⟨-, rfl⟩ := readFinding_row hfound hrow
      show contentOf db id = some (row.content (db.componentsOf id))
      exact contentOf_of_row hrow
    · obtain ⟨-, rfl⟩ := readFinding_row hfound hrow
      have hclass : claimClassification (input.classification.getD row.classification.1) =
        .ok classification := hclass
      rw [contentOf_of_set rfl, transitionedRow_content hclass]
      congr 2
      unfold Database.componentsOf
      rw [hcomps]
      rfl
    · rcases hadded.added e row' he with hold | ⟨-, -, item, hitem, rfl⟩
      · rw [hnew] at hold
        cases hold
      · obtain ⟨input', hinput', hsame⟩ := (hitems item hitem).1
        exact List.any_eq_true.mpr ⟨input', hinput', hsame ▸ hindep⟩
  | revised id input current classification components body _ hchecks hcomps hbody h =>
    obtain ⟨hfound, hrevision, hclass⟩ := reviseChecks_ok hchecks
    obtain ⟨tracking, rfl⟩ := reviseBody_ok hbody
    obtain ⟨row, title, confidence, text, htitle, hrow, hrow', -, hfresh, rfl⟩ :=
      reviseTransaction_ok h
    obtain ⟨-, rfl⟩ := readFinding_row hfound hrow
    refine ⟨id, revisedRow input (readRow env db id row false) classification tracking title confidence
        call.now row, recordedTransition call (some row.status) row.status text call.actorId [] false,
      ?_, .revised input _ hfound hrevision (fun hnames => ?_) rfl⟩
    · refine .of_added (.nil id call.now db) (by simp) rfl rfl rfl (fun row₀ hrow₀ => ?_)
        (fun hnone => ?_) rfl hfresh rfl fun id' hne => ?_
      · obtain rfl := Option.some.inj (hrow.symm.trans hrow₀)
        rfl
      · rw [hrow] at hnone
        cases hnone
      · show (if input.componentClaimIds.isSome = true then db.components.set id components
          else db.components).get? id' = _
        split
        next => rw [JsMap.get?_set, if_neg hne]
        next => rfl
    · unfold namesContent at hnames
      simp only [Bool.or_eq_false_iff, Option.isSome_eq_false_iff, Option.isNone_iff_eq_none] at hnames
      obtain ⟨⟨⟨⟨⟨hnoTitle, hnoSummary⟩, hnoImpact⟩, hnoSteps⟩, hnoClass⟩, hnoComponents⟩ := hnames
      rw [hnoTitle] at htitle
      rw [contentOf_of_set rfl, contentOf_of_row hrow]
      unfold revisedRow ClaimRow.content
      simp only [hnoSummary, hnoImpact, hnoSteps, hnoClass, hnoComponents, ← Except.ok.inj htitle]
      rfl
  | updated _ id current guard f toStatus reason actorId operatorOverride _ hf hnext hoverride hactor h =>
    cases operatorOverride with
    | true =>
      obtain ⟨revision, status, rfl⟩ := hoverride rfl
      cases hop
    | false =>
      obtain ⟨rfl, -⟩ := hactor rfl
      obtain ⟨row, t, hrow, hrec, hcomps⟩ := updateTransaction_recorded h hnext
      refine ⟨id, f row, t, hrec, .kept op ?_ ?_⟩
      · have hsame : db'.componentsOf id = db.componentsOf id := by
          unfold Database.componentsOf
          rw [hcomps]
        rw [contentOf_of_set hrec.claims, contentOf_of_row hrow, hsame, (hf row).content]
      · obtain ⟨_, _, -, -, -, -, rfl⟩ := updateTransaction_ok h
        rfl

/-! ## Authors -/

/-- A change of the content of a claim. -/
structure Write where
  claimId : JsString
  revision : Nat
  actorId : Option JsString
deriving DecidableEq, Repr

/-- The store, and every change of content there has been. -/
structure Authored where
  db : Database
  writes : List Write

namespace Authored

/-- A fresh store. -/
def new : Authored := ⟨.empty, []⟩

/-- What has changed between two stores. -/
def newWrites (db db' : Database) (actorId : Option JsString) : List Write :=
  (db'.claims.entries.filter fun item => contentOf db item.1 ≠ contentOf db' item.1).map fun item =>
    ⟨item.1, item.2.revision, actorId⟩

/-- One call, by its actor. -/
def step (env : FindingPlatform) (s : Authored) : Request → Authored
  | .operation call op =>
    { db := perform env s.db (.operation call op)
      writes := s.writes ++ newWrites s.db (perform env s.db (.operation call op)) call.actorId }
  | .records records => { s with db := changeRecords s.db records }

def Seen (s : Authored) (w : Write) : Prop :=
  ∀ t ∈ s.db.transitions.get? (w.claimId, w.revision), countsAsAuthorship w.revision t = true

instance (s : Authored) (w : Write) : Decidable (s.Seen w) :=
  inferInstanceAs (Decidable (∀ t ∈ s.db.transitions.get? (w.claimId, w.revision), _ = true))

end Authored

/-- An actor has reviewed a claim: there is evidence of its own that is independent and bound. -/
def ReviewedBy (db : Database) (id : JsString) (actorId : Option JsString) : Prop :=
  ∃ item ∈ db.evidence.entries, item.2.claimId = id ∧ item.2.independent = true ∧
    item.2.claimBindingHash.isSome = true ∧ item.2.actorId = actorId

instance (db : Database) (id : JsString) (actorId : Option JsString) :
    Decidable (ReviewedBy db id actorId) :=
  inferInstanceAs (Decidable (∃ item ∈ db.evidence.entries, _))

/-- What a transition must not do, under a classification: review a claim whose content its actor
has changed unseen, or changes with it; or change the content its actor has reviewed. -/
def TransitionFair (s : Authored) (call : Call) (id : JsString) (input : TransitionFindingInput)
    (current : FindingSummary) (classification : Classification) : Prop :=
  (input.evidence.any (·.independent) = true →
    (∀ w ∈ s.writes, w.claimId = id → w.actorId = call.actorId → s.Seen w) ∧
      (reviewedClaim current input classification).content = current.content) ∧
  ((reviewedClaim current input classification).content ≠ current.content →
    ¬ReviewedBy s.db id call.actorId)

instance (s : Authored) (call : Call) (id : JsString) (input : TransitionFindingInput)
    (current : FindingSummary) (classification : Classification) :
    Decidable (TransitionFair s call id input current classification) :=
  inferInstanceAs (Decidable (_ ∧ _))

/-- An actor reviews a claim only if each change of its content it has made is one the author
query counts, and does not change the content from then on. -/
def ReviewsFairly (env : FindingPlatform) (s : Authored) : Request → Prop
  | .operation call (.transition id input _) =>
    ∀ current ∈ readFinding env s.db call.workspaceId id false,
      current.revision = input.expectedRevision →
      match claimClassification (input.classification.getD current.classification.1) with
      | .ok classification => TransitionFair s call id input current classification
      | .error _ => True
  | .operation call (.revise id input) =>
    ∀ current ∈ readFinding env s.db call.workspaceId id false,
      current.revision = input.expectedRevision → namesContent input = true →
        ¬ReviewedBy s.db id call.actorId
  | _ => True

instance (env : FindingPlatform) (s : Authored) (request : Request) :
    Decidable (ReviewsFairly env s request) := by
  unfold ReviewsFairly
  split
  next =>
    refine @Option.decidableForallMem _ _ (fun current => ?_) _
    refine @instDecidableForall _ _ _ ?_
    split <;> infer_instance
  next => infer_instance
  next => infer_instance

/-! ## The writes of a reviewer -/

/-- What every fair run keeps. -/
structure AuthorInv (s : Authored) : Prop where
  claimed : ∀ e row, s.db.evidence.get? e = some row →
    ∃ claim, s.db.claims.get? row.claimId = some claim
  listed : ∀ id r t, s.db.transitions.get? (id, r) = some t → ∀ e ∈ t.evidenceIds,
    evidencePrefix <+: e ∧ ∃ row, s.db.evidence.get? e = some row
  bounded : ∀ id r t, s.db.transitions.get? (id, r) = some t →
    ∃ claim, s.db.claims.get? id = some claim ∧ r ≤ claim.revision
  writes : ∀ w ∈ s.writes, ∃ t, s.db.transitions.get? (w.claimId, w.revision) = some t ∧
    t.actorId = w.actorId
  reviews : ∀ e row, s.db.evidence.get? e = some row → row.independent = true →
    row.claimBindingHash.isSome = true →
    ∃ v t, s.db.transitions.get? (row.claimId, v) = some t ∧ e ∈ t.evidenceIds ∧
      t.actorId = row.actorId ∧
      (∀ r t', s.db.transitions.get? (row.claimId, r) = some t' → e ∈ t'.evidenceIds → r = v) ∧
      ∀ w ∈ s.writes, w.claimId = row.claimId → w.actorId = row.actorId → w.revision < v ∧ s.Seen w

theorem authorInv_new : AuthorInv .new where
  claimed e row h := by cases h
  listed id r t h := by cases h
  bounded id r t h := by cases h
  writes w h := by cases h
  reviews e row h := by cases h

theorem Recorded.mem_newWrites (h : Recorded call id row' t db db') {w : Write}
    (hw : w ∈ Authored.newWrites db db' call.actorId) :
    w = ⟨id, row'.revision, call.actorId⟩ ∧ contentOf db id ≠ contentOf db' id := by
  unfold Authored.newWrites at hw
  obtain ⟨⟨id', row⟩, hmem, rfl⟩ := List.mem_map.mp hw
  obtain ⟨hentry, hchanges⟩ := List.mem_filter.mp hmem
  have hchange : contentOf db id' ≠ contentOf db' id' := by simpa using hchanges
  have hget : db'.claims.get? id' = some row := JsMap.get?_of_mem hentry
  rw [h.claims, JsMap.get?_set] at hget
  by_cases hid : id' = id
  · subst hid
    rw [if_pos rfl] at hget
    cases hget
    exact ⟨rfl, hchange⟩
  · -- the content of the others is as before
    refine absurd ?_ hchange
    unfold contentOf
    rw [h.claims, JsMap.get?_set, if_neg hid, h.components id' hid]

variable {s : Authored}

theorem Effect.not_reviewed (h : Effect env call s.db id db' op) (hinv : AuthorInv s)
    (hfair : ReviewsFairly env s (.operation call op))
    (hchange : contentOf s.db id ≠ contentOf db' id) : ¬ReviewedBy s.db id call.actorId := by
  cases h with
  | created status input surfaceId hnone =>
    rintro ⟨item, hitem, hid, -⟩
    obtain ⟨claim, hclaim⟩ := hinv.claimed item.1 item.2 (JsMap.get?_of_mem hitem)
    rw [hid, hnone] at hclaim
    cases hclaim
  | transitioned input fresh current classification hfound hrevision hclass hbefore hafter =>
    have hfair := hfair current hfound hrevision
    simp only [hclass] at hfair
    refine hfair.2 fun hsame => hchange ?_
    rw [hbefore, hafter, hsame]
  | revised input current hfound hrevision hcontent =>
    refine hfair current hfound hrevision ?_
    by_contra hnames
    exact hchange (hcontent (by simpa using hnames)).symm
  | kept _ hcontent => exact absurd hcontent.symm hchange

/-- A call that has added bound evidence of a review: its actor has made no change that is not
counted, and makes none with it. -/
theorem Effect.reviewed
    (h : Effect env call s.db id db' op) (hfair : ReviewsFairly env s (.operation call op))
    {e : JsString} {row : EvidenceRow} (he : db'.evidence.get? e = some row)
    (hnew : s.db.evidence.get? e = none) (hindep : row.independent = true)
    (hbound : row.claimBindingHash.isSome = true) :
    (∀ w ∈ s.writes, w.claimId = id → w.actorId = call.actorId → s.Seen w) ∧
      contentOf s.db id = contentOf db' id := by
  cases h with
  | created status input surfaceId hnone hunbound =>
    rw [hunbound e row he hnew] at hbound
    cases hbound
  | transitioned input fresh current classification hfound hrevision hclass hbefore hafter hreview =>
    have hfair := hfair current hfound hrevision
    simp only [hclass] at hfair
    obtain ⟨hseen, hsame⟩ := hfair.1 (hreview e row he hnew hindep)
    refine ⟨hseen, ?_⟩
    rw [hbefore, hafter, hsame]
  | revised input current hfound hrevision hcontent hevidence =>
    rw [hevidence, hnew] at he
    cases he
  | kept _ hcontent hevidence =>
    rw [hevidence, hnew] at he
    cases he

theorem recorded_authorInv (hrec : Recorded call id row' t s.db db')
    (heff : Effect env call s.db id db' op) (hfair : ReviewsFairly env s (.operation call op))
    (hinv : AuthorInv s) :
    AuthorInv ⟨db', s.writes ++ Authored.newWrites s.db db' call.actorId⟩ := by
  -- the rows that were there
  have hclaim : ∀ id' claim, s.db.claims.get? id' = some claim →
      ∃ claim', db'.claims.get? id' = some claim' ∧ claim.revision ≤ claim'.revision := by
    intro id' claim hget
    rw [hrec.claims, JsMap.get?_set]
    by_cases hid : id' = id
    · rw [if_pos hid]
      rw [hid] at hget
      exact ⟨row', rfl, by have := hrec.next claim hget; omega⟩
    · rw [if_neg hid]
      exact ⟨claim, hget, Nat.le_refl _⟩
  have hself : db'.claims.get? id = some row' := by
    rw [hrec.claims]
    exact JsMap.get?_set_self _ _ _
  have hlog : ∀ id' r t', db'.transitions.get? (id', r) = some t' →
      s.db.transitions.get? (id', r) = some t' ∨ (id' = id ∧ r = row'.revision) ∧ t' = t := by
    intro id' r t' hget
    rw [hrec.transitions, JsMap.get?_set] at hget
    split at hget
    next hkey =>
      obtain ⟨rfl, rfl⟩ := Prod.mk.inj hkey
      exact .inr ⟨⟨rfl, rfl⟩, (Option.some.inj hget).symm⟩
    next => exact .inl hget
  have hkept : ∀ id' r t', s.db.transitions.get? (id', r) = some t' →
      db'.transitions.get? (id', r) = some t' := by
    intro id' r t' hget
    rw [hrec.transitions, JsMap.get?_set]
    split
    next hkey =>
      rw [hkey, hrec.fresh] at hget
      cases hget
    next => exact hget
  have hnewLog : db'.transitions.get? (id, row'.revision) = some t := by
    rw [hrec.transitions]
    exact JsMap.get?_set_self _ _ _
  have hwrites : ∀ w ∈ s.writes ++ Authored.newWrites s.db db' call.actorId, w ∈ s.writes ∨
      w = ⟨id, row'.revision, call.actorId⟩ ∧ contentOf s.db id ≠ contentOf db' id := by
    intro w hw
    rcases List.mem_append.mp hw with hw | hw
    · exact .inl hw
    · exact .inr (hrec.mem_newWrites hw)
  have hseen : ∀ w ∈ s.writes, s.Seen w →
      Authored.Seen ⟨db', s.writes ++ Authored.newWrites s.db db' call.actorId⟩ w := by
    intro w hw hseen t' ht'
    obtain ⟨t₀, ht₀, -⟩ := hinv.writes w hw
    obtain rfl := Option.some.inj ((hkept _ _ _ ht₀).symm.trans ht')
    exact hseen t₀ ht₀
  constructor
  · intro e row he
    rcases hrec.evidenceAdded e row he with hold | ⟨-, hid, -⟩
    · obtain ⟨claim, hget⟩ := hinv.claimed e row hold
      obtain ⟨claim', hget', -⟩ := hclaim _ _ hget
      exact ⟨claim', hget'⟩
    · rw [hid]
      exact ⟨row', hself⟩
  · intro id' r t' ht' e he
    rcases hlog id' r t' ht' with hold | ⟨-, rfl⟩
    · obtain ⟨hstarts, row, hrow⟩ := hinv.listed id' r t' hold e he
      exact ⟨hstarts, row, hrec.evidenceKept e row hrow⟩
    · obtain ⟨-, hthere, hstarts⟩ := hrec.listed e he
      exact ⟨hstarts, hthere⟩
  · intro id' r t' ht'
    rcases hlog id' r t' ht' with hold | ⟨⟨rfl, rfl⟩, -⟩
    · obtain ⟨claim, hget, hle⟩ := hinv.bounded id' r t' hold
      obtain ⟨claim', hget', hle'⟩ := hclaim _ _ hget
      exact ⟨claim', hget', Nat.le_trans hle hle'⟩
    · exact ⟨row', hself, Nat.le_refl _⟩
  · intro w hw
    rcases hwrites w hw with hold | ⟨rfl, -⟩
    · obtain ⟨t', ht', hactor⟩ := hinv.writes w hold
      exact ⟨t', hkept _ _ _ ht', hactor⟩
    · exact ⟨t, hnewLog, hrec.actor⟩
  · intro e row he hindep hbound
    rcases hrec.evidenceAdded e row he with hold | ⟨hnew, rfl, hmem, hactor⟩
    · -- an older review: the actor does not change the content now
      obtain ⟨v, t', ht', hmem, hactor, hunique, hall⟩ := hinv.reviews e row hold hindep hbound
      refine ⟨v, t', hkept _ _ _ ht', hmem, hactor, fun r t'' ht'' hmem'' => ?_, fun w hw hid hwrote => ?_⟩
      · rcases hlog _ _ _ ht'' with hold'' | ⟨-, rfl⟩
        · exact hunique r t'' hold'' hmem''
        · rw [(hrec.listed e hmem'').1] at hold
          cases hold
      · rcases hwrites w hw with hw | ⟨rfl, hchange⟩
        · obtain ⟨hlt, hcount⟩ := hall w hw hid hwrote
          exact ⟨hlt, hseen w hw hcount⟩
        · exact absurd ⟨(e, row), JsMap.mem_of_get? hold, hid.symm, hindep, hbound, hwrote.symm⟩
            (heff.not_reviewed hinv hfair hchange)
    · -- the review of this call
      obtain ⟨hcount, hsame⟩ := heff.reviewed hfair he hnew hindep hbound
      have hactor := hactor hindep
      refine ⟨row'.revision, t, hnewLog, hmem, by rw [hrec.actor, hactor],
        fun r t'' ht'' hmem'' => ?_, fun w hw hid hwrote => ?_⟩
      · rcases hlog _ _ _ ht'' with hold'' | ⟨⟨-, rfl⟩, -⟩
        · obtain ⟨-, row'', hrow''⟩ := hinv.listed _ _ _ hold'' e hmem''
          rw [hnew] at hrow''
          cases hrow''
        · rfl
      · rcases hwrites w hw with hw | ⟨-, hchange⟩
        · refine ⟨?_, hseen w hw (hcount w hw hid (hwrote.trans hactor))⟩
          obtain ⟨t₀, ht₀, -⟩ := hinv.writes w hw
          obtain ⟨claim, hget, hle⟩ := hinv.bounded _ _ _ ht₀
          rw [hid] at hget
          have := hrec.next claim hget
          omega
        · exact absurd hsame hchange

theorem step_authorInv {request : Request} (hinv : AuthorInv s)
    (hfair : ReviewsFairly env s request)
    (hoverride : ∀ call op, request = .operation call op → op.isOverride = false) :
    AuthorInv (s.step env request) := by
  cases request with
  | records records => exact ⟨hinv.claimed, hinv.listed, hinv.bounded, hinv.writes, hinv.reviews⟩
  | operation call op =>
    show AuthorInv ⟨_, _⟩
    rcases perform_cases env s.db call op with hsame | hperf
    · rw [hsame]
      have hnone : Authored.newWrites s.db s.db call.actorId = [] := by simp [Authored.newWrites]
      rw [hnone, List.append_nil]
      exact hinv
    · obtain ⟨id, row', t, hrec, heff⟩ := hperf.recorded (hoverride call op rfl)
      exact recorded_authorInv hrec heff hfair hinv

end Beale.Findings
