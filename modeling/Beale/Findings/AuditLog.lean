import Beale.Findings.Statements

/-!
# The audit log of the claims

- `runOf`, `FindingsAudited`, `reached_findingsAudited`: the log in every run, what commits, and
  that one of two operations on the same revision fails.
- `repeated_creation_writes_nothing`: a claim that is created from its memory node once more.
-/

namespace Beale.Findings

open Beale.Library

variable {env : FindingPlatform} {db db' : Database}

/-! ## The log of a claim -/

structure AuditLog (row : ClaimRow) (log : Nat → Option TransitionRow) : Prop where
  positive : 1 ≤ row.revision
  rows : ∀ r, (∃ t, log r = some t) ↔ 1 ≤ r ∧ r ≤ row.revision
  first : ∀ t, log 1 = some t → t.fromStatus = none
  chained : ∀ r t t', log r = some t → log (r + 1) = some t' → t'.fromStatus = some t.toStatus
  last : ∀ t, log row.revision = some t → t.toStatus = row.status
  allowed : ∀ r t status, log r = some t → t.fromStatus = some status → t.operatorOverride = false →
    t.toStatus = status ∨ t.toStatus ∈ allowedTransitions status

variable {log : Nat → Option TransitionRow}

theorem AuditLog.new {row : ClaimRow} {t : TransitionRow} (hrevision : row.revision = 1)
    (hfrom : t.fromStatus = none) (hto : t.toStatus = row.status)
    (hlog : ∀ r, log r = if r = 1 then some t else none) : AuditLog row log where
  positive := by omega
  rows r := by
    rw [hlog, hrevision]
    split
    next hr => simp [hr]
    next hr => simp; omega
  first t' h := by
    rw [hlog, if_pos rfl] at h
    rw [← Option.some.inj h, hfrom]
  chained r t₁ t₂ h₁ h₂ := by
    rw [hlog] at h₁ h₂
    split at h₁
    next hr =>
      rw [if_neg (by omega)] at h₂
      cases h₂
    next => cases h₁
  last t' h := by
    rw [hlog, if_pos hrevision] at h
    rw [← Option.some.inj h, hto]
  allowed r t' status h hst _ := by
    rw [hlog] at h
    split at h
    next =>
      rw [← Option.some.inj h, hfrom] at hst
      cases hst
    next => cases h

theorem AuditLog.extend {row row' : ClaimRow} {t : TransitionRow} {log' : Nat → Option TransitionRow}
    (h : AuditLog row log) (hrevision : row'.revision = row.revision + 1)
    (hfrom : t.fromStatus = some row.status) (hto : t.toStatus = row'.status)
    (hallowed : t.operatorOverride = false →
      row'.status = row.status ∨ row'.status ∈ allowedTransitions row.status)
    (hlog : ∀ r, log' r = if r = row'.revision then some t else log r) : AuditLog row' log' where
  positive := by omega
  rows r := by
    rw [hlog]
    split
    next hr => simp; omega
    next hr =>
      rw [h.rows]
      omega
  first t' h' := by
    have := h.positive
    rw [hlog, if_neg (by omega)] at h'
    exact h.first t' h'
  chained r t₁ t₂ h₁ h₂ := by
    rw [hlog] at h₁ h₂
    split at h₂
    next hr =>
      -- the new row starts where the last one ended
      obtain rfl := Option.some.inj h₂
      rw [if_neg (by omega), show r = row.revision by omega] at h₁
      rw [hfrom, h.last t₁ h₁]
    next hr =>
      split at h₁
      next hr' =>
        have := (h.rows (r + 1)).mp ⟨t₂, h₂⟩
        omega
      next => exact h.chained r t₁ t₂ h₁ h₂
  last t' h' := by
    rw [hlog, if_pos rfl] at h'
    rw [← Option.some.inj h', hto]
  allowed r t' status h' hst hoverride := by
    rw [hlog] at h'
    split at h'
    next =>
      cases h'
      rw [hfrom] at hst
      rw [hto, ← Option.some.inj hst]
      exact hallowed hoverride
    next => exact h.allowed r t' status h' hst hoverride

/-- Every claim has its log, and there are no other transitions. -/
structure Logged (db : Database) : Prop where
  claims : ∀ id row, db.claims.get? id = some row →
    AuditLog row fun r => db.transitions.get? (id, r)
  others : ∀ id r, db.claims.get? id = none → db.transitions.get? (id, r) = none

/-! ## What a commit does -/

/-- The claim an operation is about, and the revision it expects. -/
def Operation.target : Operation → Option (JsString × Nat)
  | .create _ _ _ => none
  | .transition id input _ => some (id, input.expectedRevision)
  | .transitionByHuman id expectedRevision _ => some (id, expectedRevision)
  | .markDuplicate id expectedRevision _ _ => some (id, expectedRevision)
  | .undoDuplicate id expectedRevision _ => some (id, expectedRevision)
  | .revise id input => some (id, input.expectedRevision)
  | .recordTriagePacket id input => some (id, input.expectedRevision)

inductive DuplicateChange (op : Operation) (db : Database) (id : JsString) (row row' : ClaimRow) : Prop
  | kept (h : row'.duplicateOfClaimId = row.duplicateOfClaimId)
  | cleared (h : row'.duplicateOfClaimId = none)
  | marked (expectedRevision : Nat) (text reason parent : JsString) (parentRow : ClaimRow)
    (hop : op = .markDuplicate id expectedRevision text reason)
    (hparent : normalizedText text = some parent)
    (hrow : row.duplicateOfClaimId = none) (hrow' : row'.duplicateOfClaimId = some parent)
    (hne : parent ≠ id) (hget : db.claims.get? parent = some parentRow)
    (hworkspace : parentRow.workspaceId = row.workspaceId)
    (hsubject : parentRow.subjectId = row.subjectId)

/-- What an operation does to the claim it commits. -/
inductive Change (op : Operation) (db : Database) (id : JsString) :
    ClaimRow → TransitionRow → Prop where
  | created (status : CreationStatus) (input : CreateFindingInput) (surfaceId : Option JsString)
    (row' : ClaimRow) (t : TransitionRow) (hop : op = .create status input surfaceId)
    (hnew : db.claims.get? id = none) (hrevision : row'.revision = 1)
    (hduplicate : row'.duplicateOfClaimId = none) (hfrom : t.fromStatus = none)
    (hoverride : t.operatorOverride = false) : Change op db id row' t
  | moved (row row' : ClaimRow) (t : TransitionRow) (hrow : db.claims.get? id = some row)
    (htarget : op.target = some (id, row.revision)) (hrevision : row'.revision = row.revision + 1)
    (hworkspace : row'.workspaceId = row.workspaceId) (hsubject : row'.subjectId = row.subjectId)
    (hmemory : row'.memoryNodeId = row.memoryNodeId) (hfrom : t.fromStatus = some row.status)
    (hallowed : t.operatorOverride = false →
      row'.status = row.status ∨ row'.status ∈ allowedTransitions row.status)
    (hoverride : t.operatorOverride = true →
      ∃ expectedRevision toStatus, op = .transitionByHuman id expectedRevision toStatus)
    (hduplicate : DuplicateChange op db id row row') : Change op db id row' t

structure Written (id : JsString) (row' : ClaimRow) (t : TransitionRow) (db db' : Database) :
    Prop where
  claims : db'.claims = db.claims.set id row'
  fresh : db.transitions.get? (id, row'.revision) = none
  transitions : db'.transitions = db.transitions.set (id, row'.revision) t
  toStatus : t.toStatus = row'.status
  evidenceKept : ∀ e row, db.evidence.get? e = some row → db'.evidence.get? e = some row
  evidenceAdded : ∀ e row, db'.evidence.get? e = some row → db.evidence.get? e = some row ∨
    db.evidence.get? e = none ∧ row.claimId = id ∧ e ∈ t.evidenceIds
  components : ∀ id', id' ≠ id → db'.components.get? id' = db.components.get? id'
  records : db'.records = db.records

def Advance (op : Operation) (db db' : Database) : Prop :=
  ∃ id row' t, Written id row' t db db' ∧ Change op db id row' t

/-- The claims later on: none is gone, and at the same revision none has changed. -/
def Later (db db' : Database) : Prop :=
  ∀ id row, db.claims.get? id = some row → ∃ row', db'.claims.get? id = some row' ∧
    row.revision ≤ row'.revision ∧ (row'.revision = row.revision → row' = row) ∧
    row'.workspaceId = row.workspaceId ∧ row'.subjectId = row.subjectId ∧
    row'.memoryNodeId = row.memoryNodeId

theorem Later.refl (db : Database) : Later db db :=
  fun _ row h => ⟨row, h, Nat.le_refl _, fun _ => rfl, rfl, rfl, rfl⟩

variable {db'' : Database}

theorem Later.trans (h : Later db db') (h' : Later db' db'') : Later db db'' := by
  intro id row hrow
  obtain ⟨row', hrow', hle, hsame, hworkspace, hsubject, hmemory⟩ := h id row hrow
  obtain ⟨row'', hrow'', hle', hsame', hws', hsubj', hmemory'⟩ := h' id row' hrow'
  refine ⟨row'', hrow'', Nat.le_trans hle hle', fun heq => ?_, hws'.trans hworkspace,
    hsubj'.trans hsubject, hmemory'.trans hmemory⟩
  have hmiddle : row'.revision = row.revision := by omega
  rw [hsame' (by omega), hsame hmiddle]

theorem Advance.later {op : Operation} (h : Advance op db db') : Later db db' := by
  obtain ⟨id, row', t, hwr, hchange⟩ := h
  intro id' row hrow
  rw [hwr.claims, JsMap.get?_set]
  by_cases hid : id' = id
  · subst hid
    rw [if_pos rfl]
    refine ⟨row', rfl, ?_⟩
    cases hchange with
    | created _ _ _ _ _ _ hnew =>
      rw [hrow] at hnew
      cases hnew
    | moved row₀ _ _ hrow₀ _ hrevision hworkspace hsubject hmemory =>
      obtain rfl := Option.some.inj (hrow.symm.trans hrow₀)
      exact ⟨by omega, fun h => by omega, hworkspace, hsubject, hmemory⟩
  · rw [if_neg hid]
    exact ⟨row, hrow, Nat.le_refl _, fun _ => rfl, rfl, rfl, rfl⟩

theorem Advance.logged {op : Operation} (h : Advance op db db') (hlogged : Logged db) :
    Logged db' := by
  obtain ⟨id, row', t, hwr, hchange⟩ := h
  have hlog : ∀ id' r, db'.transitions.get? (id', r) =
      if id' = id ∧ r = row'.revision then some t else db.transitions.get? (id', r) := by
    intro id' r
    rw [hwr.transitions, JsMap.get?_set]
    simp only [Prod.mk.injEq]
  constructor
  · intro id' row hrow
    rw [hwr.claims, JsMap.get?_set] at hrow
    by_cases hid : id' = id
    · subst hid
      rw [if_pos rfl] at hrow
      cases hrow
      cases hchange with
      | created _ _ _ _ _ _ hnew hrevision _ hfrom =>
        refine .new hrevision hfrom hwr.toStatus fun r => ?_
        rw [hlog, hrevision, hlogged.others id' r hnew]
        simp
      | moved row₀ _ _ hrow₀ _ hrevision _ _ _ hfrom hallowed =>
        refine (hlogged.claims id' row₀ hrow₀).extend hrevision hfrom hwr.toStatus hallowed
          fun r => ?_
        rw [hlog]
        simp
    · rw [if_neg hid] at hrow
      have hsame : (fun r => db'.transitions.get? (id', r)) =
          fun r => db.transitions.get? (id', r) := by
        funext r
        rw [hlog, if_neg fun h => hid h.1]
      rw [hsame]
      exact hlogged.claims id' row hrow
  · intro id' r hnone
    rw [hwr.claims, JsMap.get?_set] at hnone
    split at hnone
    next => cases hnone
    next hid =>
      rw [hlog, if_neg fun h => hid h.1]
      exact hlogged.others id' r hnone

/-! ## What an operation has read -/

/-- The row of a summary, as it stands in the table. -/
def rowOf (row : ClaimRow) : ClaimRow :=
  { row with securityTracking := findingSecurityTracking row.securityTracking row.classification }

def ReadFrom (workspaceId id : JsString) (current : FindingSummary) (db : Database) : Prop :=
  ∃ db₀ row, Later db₀ db ∧ db₀.claims.get? id = some row ∧ row.workspaceId = workspaceId ∧
    current.id = id ∧ current.toClaimRow = rowOf row

variable {id workspaceId : JsString} {current : FindingSummary}

section

variable (h : ReadFrom workspaceId id current db)
include h

theorem ReadFrom.later (hlater : Later db db') : ReadFrom workspaceId id current db' := by
  obtain ⟨db₀, row, h₀, hrest⟩ := h
  exact ⟨db₀, row, h₀.trans hlater, hrest⟩

theorem ReadFrom.row {row : ClaimRow} (hrow : db.claims.get? id = some row)
    (hrevision : row.revision = current.revision) :
    current.toClaimRow = rowOf row ∧ row.workspaceId = workspaceId := by
  obtain ⟨db₀, row₀, hlater, hrow₀, hworkspace, -, hcur⟩ := h
  obtain ⟨row', hrow', -, hsame, -⟩ := hlater id row₀ hrow₀
  obtain rfl := Option.some.inj (hrow.symm.trans hrow')
  have hrevision₀ : current.toClaimRow.revision = row₀.revision := by
    rw [hcur]
    rfl
  obtain rfl := hsame (hrevision.trans hrevision₀)
  exact ⟨hcur, hworkspace⟩

theorem ReadFrom.exists_row : ∃ row, db.claims.get? id = some row ∧
      row.workspaceId = current.workspaceId ∧ row.subjectId = current.subjectId := by
  obtain ⟨db₀, row₀, hlater, hrow₀, -, -, hcur⟩ := h
  obtain ⟨row, hrow, -, -, hworkspace, hsubject, -⟩ := hlater id row₀ hrow₀
  have hworkspace₀ : current.toClaimRow.workspaceId = row₀.workspaceId := by
    rw [hcur]
    rfl
  have hsubject₀ : current.toClaimRow.subjectId = row₀.subjectId := by
    rw [hcur]
    rfl
  exact ⟨row, hrow, hworkspace.trans hworkspace₀.symm, hsubject.trans hsubject₀.symm⟩

end

theorem claimIn_some {row : ClaimRow} :
    db.claimIn workspaceId id = some row ↔
      db.claims.get? id = some row ∧ row.workspaceId = workspaceId := by
  unfold Database.claimIn
  rw [Option.filter_eq_some_iff]
  simp

variable {G : Database → Database → Prop}

theorem get_obeys {I : Database → Prop} (workspaceId id : JsString) (db : Database) :
    (get env workspaceId id).Obeys I Later G (fun found db' => Later db db' ∧
        ∀ current, found = some current → ReadFrom workspaceId id current db') db := by
  unfold get
  refine Client.Obeys.bind (Client.Obeys.query (Q := fun found db' => Later db db' ∧
    ∀ row n, found = some (row, n) → db'.claims.get? id = some row ∧ row.workspaceId = workspaceId)
    fun s' hlater _ => ⟨hlater, fun row n hfound => ?_⟩) fun found db₀ hfound => ?_
  · cases hrow : s'.claimIn workspaceId id with
    | none =>
      rw [hrow] at hfound
      cases hfound
    | some row' =>
      rw [hrow] at hfound
      obtain ⟨rfl, -⟩ := Prod.mk.inj (Option.some.inj hfound)
      exact claimIn_some.mp hrow
  · obtain ⟨h₀, hfound⟩ := hfound
    cases found with
    | none =>
      refine ⟨h₀, fun current h => ?_⟩
      cases h
    | some found =>
      obtain ⟨row, n⟩ := found
      obtain ⟨hrow, hworkspace⟩ := hfound row n rfl
      -- the statements that follow only make it later
      refine Client.Obeys.bind (Client.Obeys.query (Q := fun _ => Later db₀) fun s₁ h₁ _ => h₁)
        fun evidence s₁ h₁ => ?_
      refine Client.Obeys.bind (Client.Obeys.query (Q := fun _ => Later db₀)
        fun s₂ h₂ _ => h₁.trans h₂) fun components s₂ h₂ => ?_
      refine Client.Obeys.bind (Client.Obeys.query (Q := fun _ => Later db₀)
        fun s₃ h₃ _ => h₂.trans h₃) fun duplicates s₃ h₃ => ?_
      refine Client.Obeys.query fun s₄ h₄ _ => ⟨h₀.trans (h₃.trans h₄), fun current hcur => ?_⟩
      cases hcur
      exact ⟨db₀, row, h₃.trans h₄, hrow, hworkspace, rfl, rfl⟩

/-! ## Every operation advances one claim -/

section

variable (hread : ReadFrom workspaceId id current db)
include hread

variable {call : Call}

theorem updateTransaction_advance {op : Operation}
    {guard : ClaimRow → Bool} {f : ClaimRow → ClaimRow}
    {toStatus : FindingStatus} {reason : Except JsString JsString} {actorId : Option JsString}
    {operatorOverride : Bool}
    (h : updateTransaction call id current guard f toStatus reason actorId operatorOverride db
      = .ok db') (htarget : op.target = some (id, current.revision))
    (hf : ∀ row, (f row).revision = current.revision + 1 ∧ (f row).workspaceId = row.workspaceId ∧
      (f row).subjectId = row.subjectId ∧ (f row).memoryNodeId = row.memoryNodeId)
    (hst : ∀ row, row.status = current.status → (f row).status = toStatus)
    (hallowed : operatorOverride = false → toStatus = current.status)
    (hoverride : operatorOverride = true →
      ∃ expectedRevision toStatus, op = .transitionByHuman id expectedRevision toStatus)
    (hduplicate : ∀ row, guard row = true → current.toClaimRow = rowOf row →
      DuplicateChange op db id row (f row)) : Advance op db db' := by
  obtain ⟨row, text, hrow, hrevision, hguard, hfresh, rfl⟩ := updateTransaction_ok h
  obtain ⟨hcur, -⟩ := hread.row hrow hrevision
  obtain ⟨hnext, hworkspace, hsubject, hmemory⟩ := hf row
  have hsame : current.status = row.status := by
    show current.toClaimRow.status = _
    rw [hcur]
    rfl
  have hto : (f row).status = toStatus := hst row hsame.symm
  refine ⟨id, f row, recordedTransition call (some current.status) toStatus text actorId []
    operatorOverride, ?_, ?_⟩
  · constructor
    · rfl
    · rw [hnext]
      exact hfresh
    · rw [hnext]
    · exact hto.symm
    · exact fun _ _ h => h
    · exact fun _ _ h => .inl h
    · exact fun _ _ => rfl
    · rfl
  · refine .moved row _ _ hrow (hrevision ▸ htarget) (hrevision ▸ hnext) hworkspace hsubject hmemory
      (congrArg some hsame) (fun hover => .inl ?_) hoverride (hduplicate row hguard hcur)
    rw [hto, hallowed hover, hsame]

variable {tracking : Option FindingSecurityTracking}

theorem transitionTransaction_advance
    {input : TransitionFindingInput} {fresh : Bool} {reviewed : FindingSummary}
    {evidence : List NormalizedEvidence}
    (h : transitionTransaction env call id input current reviewed tracking evidence db = .ok db')
    (hrevision : current.revision = input.expectedRevision)
    (hallowed : input.toStatus = current.status ∨
      input.toStatus ∈ allowedTransitions current.status) :
    Advance (.transition id input fresh) db db' := by
  obtain ⟨db₁, evidenceIds, row, staleReason, text, -, hadded, hrow, hrow', hfresh, rfl⟩ :=
    transitionTransaction_ok h
  obtain ⟨hcur, -⟩ := hread.row hrow hrow'
  have hrest := hadded.others
  have hsame : current.status = row.status := by
    show current.toClaimRow.status = _
    rw [hcur]
    rfl
  refine ⟨id, transitionedRow input current reviewed tracking staleReason call.now row,
    recordedTransition call (some current.status) input.toStatus text call.actorId evidenceIds false,
    ?_, ?_⟩
  · constructor
    · rfl
    · exact hfresh
    · rfl
    · rfl
    · exact hadded.kept
    · intro e row he
      rcases hadded.added e row he with hold | ⟨hnew, hmem, item, -, rfl⟩
      · exact .inl hold
      · exact .inr ⟨hnew, rfl, hmem⟩
    · intro id' _
      rw [hrest]
    · rw [hrest]
  · refine .moved row _ _ hrow ?_ ?_ rfl rfl rfl (congrArg some hsame) (fun _ => ?_) nofun (.kept rfl)
    · rw [hrow', hrevision]
      rfl
    · show current.revision + 1 = _
      rw [hrow']
    · show input.toStatus = row.status ∨ input.toStatus ∈ allowedTransitions row.status
      rw [← hsame]
      exact hallowed

theorem reviseTransaction_advance
    {input : ReviseResearchClaimInput} {classification : Classification}
    {components : List JsString}
    (h : reviseTransaction call id input current classification components tracking db = .ok db')
    (hrevision : current.revision = input.expectedRevision) :
    Advance (.revise id input) db db' := by
  obtain ⟨row, title, confidence, text, -, hrow, hrow', -, hfresh, rfl⟩ := reviseTransaction_ok h
  obtain ⟨hcur, -⟩ := hread.row hrow hrow'
  have hsame : current.status = row.status := by
    show current.toClaimRow.status = _
    rw [hcur]
    rfl
  refine ⟨id, revisedRow input current classification tracking title confidence call.now row,
    recordedTransition call (some current.status) current.status text call.actorId [] false, ?_, ?_⟩
  · constructor
    · rfl
    · exact hfresh
    · rfl
    · exact hsame
    · exact fun _ _ h => h
    · exact fun _ _ h => .inl h
    · intro id' hne
      show (if input.componentClaimIds.isSome = true then db.components.set id components
        else db.components).get? id' = _
      split
      next => rw [JsMap.get?_set, if_neg hne]
      next => rfl
    · rfl
  · refine .moved row _ _ hrow ?_ ?_ rfl rfl rfl (congrArg some hsame) (fun _ => .inl rfl) (by rintro ⟨⟩)
      (.kept rfl)
    · rw [hrow', hrevision]
      rfl
    · show current.revision + 1 = _
      rw [hrow']

end

theorem insertFinding_advance {call : Call} {status : CreationStatus} {input : CreateFindingInput}
    {surfaceId : Option JsString} {evidence : List NormalizedEvidence}
    {classification : Classification} {components : List JsString}
    (h : insertFinding call status input surfaceId id evidence classification components db
      = .ok db') : Advance (.create status input surfaceId) db db' := by
  obtain ⟨db₁, evidenceIds, row, text, hnew, hadded, hnone, -, -, hfresh, rfl⟩ := insertFinding_ok h
  obtain ⟨hrevision, hst, hduplicate, -⟩ := newClaim_ok hnew
  have hrest := hadded.others
  refine ⟨id, row, recordedTransition call none status.status text call.actorId evidenceIds false,
    ?_, .created status input surfaceId _ _ rfl hnone hrevision hduplicate rfl rfl⟩
  constructor
  · rfl
  · rw [hrevision]
    exact hfresh
  · rw [hrevision]
  · exact hst.symm
  · exact hadded.kept
  · intro e row he
    rcases hadded.added e row he with hold | ⟨hnew, hmem, item, -, rfl⟩
    · exact .inl hold
    · exact .inr ⟨hnew, rfl, hmem⟩
  · intro id' hne
    show (db.components.set id components).get? id' = _
    rw [JsMap.get?_set, if_neg hne]
  · rw [hrest]

/-! ## Every operation keeps the protocol -/

/-- The claim store under any number of clients. The runbook and report tables change at will. -/
def protocol : Protocol (Call × Operation) Database where
  inv := Logged
  rely := Later
  quiet db db' := db' = { db with records := db'.records }
  own request := Advance request.2
  rely_refl := Later.refl
  rely_trans := Later.trans
  quiet_refl _ := rfl
  quiet_trans h h' := by
    rw [h'] at *
    rw [h]
  quiet_inv hinv h := by
    rw [h]
    exact ⟨hinv.claims, hinv.others⟩
  quiet_rely _ h := by
    rw [h]
    exact Later.refl _
  own_inv hinv h := h.logged hinv
  own_rely _ h := h.later

variable {call : Call} {op : Operation} {seen : Database}

theorem commit_obeys {body : Database → Except JsString Database} (workspaceId id : JsString)
    (h : ∀ db db', Later seen db → body db = .ok db' → Advance op db db') :
    (do Client.commit body; get env workspaceId id).Obeys Logged Later (Advance op)
      (fun _ _ => True) seen :=
  Client.Obeys.bind (Client.Obeys.commit (Q := fun _ _ => True)
    fun db hlater _ db' hbody => ⟨h db db' hlater hbody, trivial⟩) fun _ _ _ =>
      (get_readsOnly env workspaceId id).obeys (fun _ _ _ h => h) trivial

theorem read_check_obeys {β : Type} {checks : Option FindingSummary → Except JsString β}
    {rest : β → Client Database JsString (Option FindingSummary)} (workspaceId id : JsString)
    (h : ∀ current b db, ReadFrom workspaceId id current db → checks (some current) = .ok b →
      (rest b).Obeys Logged Later (Advance op) (fun _ _ => True) db)
    (hnone : ∀ b, checks none ≠ .ok b) :
    (do
      let current ← get env workspaceId id
      let b ← Client.check (checks current)
      rest b).Obeys Logged Later (Advance op) (fun _ _ => True) seen := by
  refine Client.Obeys.bind (get_obeys workspaceId id seen) fun found db hread => ?_
  refine Client.Obeys.bind (Client.Obeys.check (Q := fun b db' => db' = db ∧ checks found = .ok b)
    fun b hb => ⟨rfl, hb⟩) fun b db' hb => ?_
  obtain ⟨rfl, hb⟩ := hb
  cases found with
  | none => exact absurd hb (hnone b)
  | some current => exact h current b db' (hread.2 current rfl) hb

theorem transition_obeys (fresh : Bool) (id : JsString) (input : TransitionFindingInput) :
    (transition env call fresh id input).Obeys Logged Later (Advance (.transition id input fresh))
      (fun _ _ => True) seen := by
  refine read_check_obeys _ _ (fun current body db hread hbody => ?_) nofun
  obtain ⟨current', newEvidence, classification, tracking, hfound, -, hrevision, hallowed, -, -, -,
    -, rfl⟩ := transitionBody_ok hbody
  cases hfound
  exact commit_obeys _ _ fun db₁ db' hlater h =>
    transitionTransaction_advance (hread.later hlater) h hrevision hallowed

section

variable (id : JsString) (expectedRevision : Nat)

theorem transitionByHuman_obeys (toStatus : FindingStatus) :
    (transitionByHuman env call id expectedRevision toStatus).Obeys Logged Later
      (Advance (.transitionByHuman id expectedRevision toStatus)) (fun _ _ => True) seen := by
  have hrest : (do
      let current ← get env call.workspaceId id
      let body ← Client.check (transitionByHumanBody call id expectedRevision toStatus current)
      Client.commit body
      get env call.workspaceId id).Obeys Logged Later
        (Advance (.transitionByHuman id expectedRevision toStatus)) (fun _ _ => True) seen := by
    refine read_check_obeys _ _ (fun current body db hread hbody => ?_) nofun
    obtain ⟨current', text, hfound, hrevision, rfl⟩ := transitionByHumanBody_ok hbody
    cases hfound
    refine commit_obeys _ _ fun db₁ db' hlater h =>
      updateTransaction_advance (hread.later hlater) h ?_ (fun _ => ⟨rfl, rfl, rfl, rfl⟩) (fun _ _ => rfl)
        nofun (fun _ => ⟨expectedRevision, toStatus, rfl⟩) fun _ _ _ => .kept rfl
    rw [hrevision]
    rfl
  unfold transitionByHuman
  simp only
  split
  next => exact trivial
  next => exact hrest

theorem markDuplicate_obeys (text reason : JsString) :
    (markDuplicate env call id expectedRevision text reason).Obeys Logged Later
      (Advance (.markDuplicate id expectedRevision text reason)) (fun _ _ => True) seen := by
  unfold markDuplicate
  refine Client.Obeys.bind (get_obeys call.workspaceId id seen) fun found db hread => ?_
  refine Client.Obeys.bind (Client.Obeys.check (Q := fun b db' => db' = db ∧
    duplicateParentId id expectedRevision text found = .ok b) fun b hb => ⟨rfl, hb⟩)
    fun b db' hb => ?_
  obtain ⟨rfl, hchecks⟩ := hb
  obtain ⟨current, parentId⟩ := b
  obtain ⟨rfl, hrevision, hparent, hne⟩ := duplicateParentId_ok hchecks
  refine Client.Obeys.bind (get_obeys call.workspaceId parentId db')
    fun parentFound db₁ ⟨hlater, hparentRead⟩ => ?_
  refine Client.Obeys.bind (Client.Obeys.check (Q := fun body db'' => db'' = db₁ ∧
    markDuplicateBody call id reason current parentId parentFound = .ok body)
    fun body hbody => ⟨rfl, hbody⟩) fun body db'' hbody => ?_
  obtain ⟨rfl, hbody⟩ := hbody
  obtain ⟨parent, reason', rfl, hworkspace, hsubject, rfl⟩ := markDuplicateBody_ok hbody
  have hread := hread.2 current rfl
  have hparentRead := hparentRead parent rfl
  refine commit_obeys _ _ fun db₂ db₃ hlater' h => ?_
  refine updateTransaction_advance ((hread.later hlater).later hlater') h ?_ (fun _ => ⟨rfl, rfl, rfl, rfl⟩)
    (fun _ hsame => hsame) (fun _ => rfl) nofun fun row hguard hrow => ?_
  · rw [hrevision]
    rfl
  · -- the parent is still there, in the workspace and with the subject it was read with
    obtain ⟨parentRow, hparentRow, hparentWorkspace, hparentSubject⟩ :=
      (hparentRead.later hlater').exists_row
    have hcur : current.workspaceId = row.workspaceId ∧ current.subjectId = row.subjectId := by
      show current.toClaimRow.workspaceId = _ ∧ current.toClaimRow.subjectId = _
      rw [hrow]
      exact ⟨rfl, rfl⟩
    refine .marked expectedRevision text reason parentId parentRow rfl hparent ?_ rfl hne hparentRow ?_ ?_
    · simpa using hguard
    · rw [hparentWorkspace, hworkspace, hcur.1]
    · rw [hparentSubject, hsubject, hcur.2]

theorem undoDuplicate_obeys (reason : JsString) :
    (undoDuplicate env call id expectedRevision reason).Obeys Logged Later
      (Advance (.undoDuplicate id expectedRevision reason)) (fun _ _ => True) seen := by
  refine read_check_obeys _ _ (fun current body db hread hbody => ?_) nofun
  obtain ⟨current', text, hfound, hrevision, rfl⟩ := undoDuplicateBody_ok hbody
  cases hfound
  refine commit_obeys _ _ fun db₁ db' hlater h =>
    updateTransaction_advance (hread.later hlater) h ?_ (fun _ => ⟨rfl, rfl, rfl, rfl⟩)
      (fun _ hsame => hsame) (fun _ => rfl) nofun fun _ _ _ => .cleared rfl
  rw [hrevision]
  rfl

end

theorem revise_obeys (id : JsString) (input : ReviseResearchClaimInput) :
    (revise env call id input).Obeys Logged Later (Advance (.revise id input)) (fun _ _ => True)
      seen := by
  unfold revise
  refine Client.Obeys.bind (get_obeys call.workspaceId id seen) fun found db hread => ?_
  refine Client.Obeys.bind (Client.Obeys.check (Q := fun b db' => db' = db ∧
    reviseChecks id input found = .ok b) fun b hb => ⟨rfl, hb⟩) fun b db' hb => ?_
  obtain ⟨rfl, hchecks⟩ := hb
  obtain ⟨current, classification⟩ := b
  obtain ⟨rfl, hrevision, -⟩ := reviseChecks_ok hchecks
  -- the components are only read
  refine Client.Obeys.bind ((revisedComponents_readsOnly env call id input current
    classification).obeys (fun _ _ hlater hread => ReadFrom.later hread hlater)
    (hread.2 current rfl)) fun components db₁ hread => ?_
  refine Client.Obeys.bind (Client.Obeys.check (Q := fun body db'' => db'' = db₁ ∧
    reviseBody env call id input current classification components = .ok body)
    fun body hbody => ⟨rfl, hbody⟩) fun body db'' hbody => ?_
  obtain ⟨rfl, hbody⟩ := hbody
  obtain ⟨tracking, rfl⟩ := reviseBody_ok hbody
  exact commit_obeys _ _ fun db₂ db₃ hlater h =>
    reviseTransaction_advance (hread.later hlater) h hrevision

theorem recordTriagePacket_obeys (id : JsString) (input : TriagePacketInput) :
    (recordTriagePacket env call id input).Obeys Logged Later (Advance (.recordTriagePacket id input))
      (fun _ _ => True) seen := by
  refine read_check_obeys _ _ (fun current body db hread hbody => ?_) nofun
  obtain ⟨current', tracking, text, hfound, hrevision, rfl⟩ := recordTriagePacketBody_ok hbody
  cases hfound
  refine commit_obeys _ _ fun db₁ db' hlater h =>
    updateTransaction_advance (hread.later hlater) h ?_ (fun _ => ⟨rfl, rfl, rfl, rfl⟩)
      (fun _ hsame => hsame) (fun _ => rfl) nofun fun _ _ _ => .kept rfl
  rw [hrevision]
  rfl

/-- A creation from a memory node returns once there is a claim of the node. -/
def Returned (request : Call × Operation) (db : Database) : Prop :=
  ∀ status input surfaceId memory, request.2 = .create status input surfaceId →
    input.memory = some memory →
    ∃ id row, db.claims.get? id = some row ∧ row.workspaceId = request.1.workspaceId ∧
      row.memoryNodeId = some memory.id

variable {request : Call × Operation}

theorem Returned.later (h : Returned request db) (hlater : Later db db') :
    Returned request db' := by
  intro status input surfaceId memory hop hmemory
  obtain ⟨id, row, hrow, hworkspace, hnode⟩ := h status input surfaceId memory hop hmemory
  obtain ⟨row', hrow', -, -, hws', -, hnode'⟩ := hlater id row hrow
  exact ⟨id, row', hrow', hws'.trans hworkspace, hnode'.trans hnode⟩

theorem claimOfMemory_some {memory : MemoryNode}
    (h : claimOfMemory workspaceId memory db = some id) :
    ∃ row, db.claims.get? id = some row ∧ row.workspaceId = workspaceId ∧
      row.memoryNodeId = some memory.id := by
  unfold claimOfMemory at h
  obtain ⟨⟨id', row⟩, hfind, rfl⟩ := Option.map_eq_some_iff.mp h
  have hrow := List.find?_some hfind
  simp only [decide_eq_true_eq] at hrow
  exact ⟨row, JsMap.get?_of_mem (List.mem_of_find?_eq_some hfind), hrow.1, hrow.2⟩

theorem createWithStatus_obeys (status : CreationStatus) (input : CreateFindingInput)
    (surfaceId : Option JsString) :
    (createWithStatus env call status input surfaceId).Obeys Logged Later
      (Advance (.create status input surfaceId))
      (fun _ => Returned (call, .create status input surfaceId)) seen := by
  unfold createWithStatus
  have hex : (existingClaim call input).Obeys Logged Later
      (Advance (.create status input surfaceId)) (fun existing db' => ∀ id, existing = some id →
        Returned (call, .create status input surfaceId) db') seen := by
    unfold existingClaim
    cases hmemory : input.memory with
    | none =>
      intro id h
      cases h
    | some memory =>
      refine Client.Obeys.query fun db' _ _ id hfound status' input' surfaceId' memory' hop hmemory' => ?_
      obtain ⟨rfl, rfl, rfl⟩ := Operation.create.inj hop
      obtain rfl := Option.some.inj (hmemory.symm.trans hmemory')
      obtain ⟨row, hrow⟩ := claimOfMemory_some hfound
      exact ⟨id, row, hrow⟩
  refine Client.Obeys.bind hex fun existing db hfound => ?_
  cases existing with
  | some id =>
    exact (get_readsOnly env call.workspaceId id).obeys (fun _ _ hlater h => h.later hlater)
      (hfound id rfl)
  | none =>
    refine Client.Obeys.bind (Client.Obeys.check (Q := fun _ _ => True) fun _ _ => trivial)
      fun checked db₁ _ => ?_
    obtain ⟨evidence, classification⟩ := checked
    refine Client.Obeys.bind ((validatedComponents_readsOnly env call.workspaceId classification
      (input.componentClaimIds.getD []) none).obeys (Q := fun _ => True) (fun _ _ _ h => h) trivial)
      fun components db₂ _ => ?_
    refine Client.Obeys.bind (Client.Obeys.commit (Q := fun _ db' =>
      Returned (call, .create status input surfaceId) db')
      fun db₃ _ _ db₄ h => ⟨insertFinding_advance h, ?_⟩) fun _ db₅ hret =>
        (get_readsOnly env call.workspaceId _).obeys (fun _ _ hlater h => h.later hlater) hret
    -- the new claim is the node's
    intro status' input' surfaceId' memory hop hmemory
    obtain ⟨rfl, rfl, rfl⟩ := Operation.create.inj hop
    obtain ⟨db₁, evidenceIds, row, text, hnew, -, -, -, -, -, rfl⟩ := insertFinding_ok h
    obtain ⟨-, -, -, -, hworkspace, hnode⟩ := newClaim_ok hnew
    refine ⟨_, row, JsMap.get?_set_self _ _ _, hworkspace, ?_⟩
    rw [hnode, hmemory]
    rfl

/-- Nothing is asked of what the other operations return. -/
theorem obeys_returned {α : Type}
    {c : Client Database JsString α} (h : c.Obeys Logged Later G (fun _ _ => True) seen)
    (hop : ∀ status input surfaceId, request.2 ≠ .create status input surfaceId) :
    c.Obeys Logged Later G (fun _ => Returned request) seen :=
  h.mono fun _ _ _ status input surfaceId _ heq => absurd heq (hop status input surfaceId)

theorem program_obeys (request : Call × Operation) :
    (request.2.program env request.1).Obeys Logged Later (Advance request.2)
      (fun _ => Returned request) seen := by
  obtain ⟨call, op⟩ := request
  cases op with
  | create status input surfaceId => exact createWithStatus_obeys status input surfaceId
  | transition id input fresh => exact obeys_returned (transition_obeys fresh id input) (fun _ _ _ => nofun)
  | transitionByHuman id expectedRevision toStatus =>
    exact obeys_returned (transitionByHuman_obeys id expectedRevision toStatus) (fun _ _ _ => nofun)
  | markDuplicate id expectedRevision text reason =>
    exact obeys_returned (markDuplicate_obeys id expectedRevision text reason) (fun _ _ _ => nofun)
  | undoDuplicate id expectedRevision reason =>
    exact obeys_returned (undoDuplicate_obeys id expectedRevision reason) (fun _ _ _ => nofun)
  | revise id input => exact obeys_returned (revise_obeys id input) (fun _ _ _ => nofun)
  | recordTriagePacket id input => exact obeys_returned (recordTriagePacket_obeys id input) (fun _ _ _ => nofun)

/-! ## How often an operation commits -/

/-- One commit where the operation succeeds, none where it fails. A creation from a memory node
may have found its claim. -/
def Ended (request : Call × Operation) (n : Nat) : Except JsString (Option FindingSummary) → Prop
  | .ok _ => n = 1 ∨ n = 0 ∧ ∃ status input surfaceId memory,
      request.2 = .create status input surfaceId ∧ input.memory = some memory
  | .error _ => n = 0

/-- A claim that is read is returned. -/
theorem get_ends {P : Nat → Except JsString (Option FindingSummary) → Prop} {n : Nat}
    (workspaceId id : JsString) (h : ∀ found, P n (.ok found)) : (get env workspaceId id).Ends P n := by
  unfold get
  refine Client.Ends.bind (P := fun m r => m = n ∧ ∃ found, r = .ok found) (fun _ => ⟨rfl, _, rfl⟩)
    (fun _ _ h => ?_) fun m found hm => ?_
  · obtain ⟨-, _, h⟩ := h
    cases h
  · obtain ⟨rfl, -⟩ := hm
    cases found with
    | none => exact h none
    | some found => exact fun _ _ _ _ => h _

theorem commit_ends (body : Database → Except JsString Database) (workspaceId id : JsString) :
    (do Client.commit body; get env workspaceId id).Ends (Ended request) 0 :=
  Client.Ends.of_commit (fun _ => rfl) (get_ends workspaceId id fun _ => .inl rfl)

theorem read_check_ends
    {checks : Option FindingSummary → Except JsString (Database → Except JsString Database)}
    (workspaceId id : JsString) : (do
      let current ← get env workspaceId id
      let body ← Client.check (checks current)
      Client.commit body
      get env workspaceId id).Ends (Ended request) 0 :=
  .of_reads (get_readsOnly env workspaceId id) (fun _ => rfl) fun _ =>
    .of_reads (Client.readsOnly_check _) (fun _ => rfl) fun body => commit_ends body workspaceId id

theorem createWithStatus_ends (status : CreationStatus) (input : CreateFindingInput)
    (surfaceId : Option JsString) :
    (createWithStatus env call status input surfaceId).Ends
      (Ended (call, .create status input surfaceId)) 0 := by
  unfold createWithStatus existingClaim
  cases hmemory : input.memory with
  | none =>
    refine Client.Ends.of_reads (c := Client.check (creationChecks call status input))
      (Client.readsOnly_check _) (fun _ => rfl) fun checked => ?_
    exact .of_reads (validatedComponents_readsOnly env _ _ _ _) (fun _ => rfl)
      fun _ => commit_ends _ _ _
  | some memory =>
    refine .of_reads (Client.readsOnly_query _) (fun _ => rfl) fun existing => ?_
    cases existing with
    | some id =>
      exact get_ends _ _ fun _ => .inr ⟨rfl, status, input, surfaceId, memory, rfl, hmemory⟩
    | none =>
      refine .of_reads (Client.readsOnly_check _) (fun _ => rfl) fun checked => ?_
      exact .of_reads (validatedComponents_readsOnly env _ _ _ _) (fun _ => rfl)
        fun _ => commit_ends _ _ _

theorem transitionByHuman_ends (id : JsString) (expectedRevision : Nat) (toStatus : FindingStatus) :
    (transitionByHuman env call id expectedRevision toStatus).Ends
      (Ended (call, .transitionByHuman id expectedRevision toStatus)) 0 := by
  unfold transitionByHuman
  simp only
  split
  next => exact rfl
  next => exact read_check_ends _ _

theorem markDuplicate_ends (id : JsString) (expectedRevision : Nat) (text reason : JsString) :
    (markDuplicate env call id expectedRevision text reason).Ends
      (Ended (call, .markDuplicate id expectedRevision text reason)) 0 := by
  unfold markDuplicate
  refine .of_reads (get_readsOnly env _ _) (fun _ => rfl) fun found => ?_
  refine .of_reads (Client.readsOnly_check _) (fun _ => rfl) fun checked => ?_
  obtain ⟨current, parentId⟩ := checked
  refine .of_reads (get_readsOnly env _ _) (fun _ => rfl) fun parent => ?_
  exact .of_reads (Client.readsOnly_check _) (fun _ => rfl) fun body => commit_ends body _ _

theorem revise_ends (id : JsString) (input : ReviseResearchClaimInput) :
    (revise env call id input).Ends (Ended (call, .revise id input)) 0 := by
  unfold revise
  refine .of_reads (get_readsOnly env _ _) (fun _ => rfl) fun found => ?_
  refine .of_reads (Client.readsOnly_check _) (fun _ => rfl) fun checked => ?_
  obtain ⟨current, classification⟩ := checked
  refine .of_reads (revisedComponents_readsOnly env _ _ _ _ _) (fun _ => rfl) fun components => ?_
  exact .of_reads (Client.readsOnly_check _) (fun _ => rfl) fun body => commit_ends body _ _

theorem program_ends (request : Call × Operation) :
    (request.2.program env request.1).Ends (Ended request) 0 := by
  obtain ⟨call, op⟩ := request
  cases op with
  | create status input surfaceId => exact createWithStatus_ends status input surfaceId
  | transition id input fresh => exact read_check_ends _ _
  | transitionByHuman id expectedRevision toStatus =>
    exact transitionByHuman_ends id expectedRevision toStatus
  | markDuplicate id expectedRevision text reason =>
    exact markDuplicate_ends id expectedRevision text reason
  | undoDuplicate id expectedRevision reason => exact read_check_ends _ _
  | revise id input => exact revise_ends id input
  | recordTriagePacket id input => exact read_check_ends _ _

/-! ## Runs -/

/-- The clients of the claim store. -/
abbrev Clients := Pool (Call × Operation) Database JsString (Option FindingSummary)

/-- A client is started or takes its turn, or the runbook and report tables change. -/
abbrev Event := Turn (Call × Operation) Records

/-- The runbook and report tables change. -/
def changeRecords (db : Database) (records : Records) : Database := { db with records := records }

theorem changeRecords_quiet (db : Database) (records : Records) :
    protocol.quiet db (changeRecords db records) := rfl

def step (env : FindingPlatform) : Clients → Event → Clients :=
  Pool.step (fun request => request.2.program env request.1) changeRecords

/-- The clients after the given steps on a fresh database. -/
def runOf (env : FindingPlatform) (is : List Event) : Clients :=
  runSteps (step env) (Pool.new Database.empty) is

theorem logged_empty : Logged Database.empty where
  claims id row h := by simp [Database.empty] at h
  others id r _ := by simp [Database.empty]

/-- The clients keep the protocol. -/
abbrev Kept (p : Clients) : Prop :=
  p.Keeps protocol (fun request _ => Returned request) Ended Database.empty

variable {p : Clients}

theorem step_kept (h : Kept p) (i : Event) : Kept (step env p i) :=
  h.step (fun _ _ _ => program_obeys _) program_ends changeRecords_quiet i

theorem runOf_kept (env : FindingPlatform) (is : List Event) : Kept (runOf env is) :=
  runSteps_invariant (I := Kept) (fun _ i h => step_kept h i) (Pool.keeps_new logged_empty) is

/-- A step leaves the store to the other tables, or is a commit of an operation. -/
theorem step_cases (h : Kept p) (i : Event) :
    protocol.quiet p.store (step env p i).store ∨
      ∃ k call op body next, i = .turn k ∧ p.tasks[k]? = some ⟨(call, op), .transact body next⟩ ∧
        Advance op p.store (step env p i).store := by
  unfold step
  rcases h.step_cases changeRecords_quiet i with hquiet | ⟨k, task, body, next, hi, hk, hrest, -, hown⟩
  · exact .inl hquiet
  · refine .inr ⟨k, task.label.1, task.label.2, body, next, hi, ?_, hown⟩
    rw [hk, ← hrest]

/-- What may become of the tables: no row of the log or of the evidence changes, and a claim that has
its revision has its components and its evidence. -/
structure Extends (db db' : Database) : Prop where
  claims : Later db db'
  transitions : ∀ key t, db.transitions.get? key = some t → db'.transitions.get? key = some t
  evidence : ∀ e item, db.evidence.get? e = some item → db'.evidence.get? e = some item
  same : ∀ id row row', db.claims.get? id = some row → db'.claims.get? id = some row' →
    row'.revision = row.revision → db'.components.get? id = db.components.get? id ∧
      ∀ e item, db'.evidence.get? e = some item → item.claimId = id → db.evidence.get? e = some item

theorem Extends.records (db : Database) (records : Records) : Extends db { db with records } :=
  ⟨.refl db, fun _ _ h => h, fun _ _ h => h, fun _ _ _ _ _ _ => ⟨rfl, fun _ _ h _ => h⟩⟩

theorem Extends.trans (h : Extends db db') (h' : Extends db' db'') : Extends db db'' := by
  refine ⟨h.claims.trans h'.claims, fun key t ht => h'.transitions key t (h.transitions key t ht),
    fun e item he => h'.evidence e item (h.evidence e item he), fun id row row'' hrow hrow'' hrev => ?_⟩
  -- in between the revision was the same
  obtain ⟨row', hrow', hle, -⟩ := h.claims id row hrow
  obtain ⟨later, hlater, hle', -⟩ := h'.claims id row' hrow'
  obtain rfl := Option.some.inj (hlater.symm.trans hrow'')
  obtain ⟨hcomponents, hevidence⟩ := h.same id row row' hrow hrow' (by omega)
  obtain ⟨hcomponents', hevidence'⟩ := h'.same id row' later hrow' hlater (by omega)
  exact ⟨hcomponents'.trans hcomponents,
    fun e item he hid => hevidence e item (hevidence' e item he hid) hid⟩

theorem Advance.extended {op : Operation} (h : Advance op db db') : Extends db db' := by
  have hlater := h.later
  obtain ⟨id, row₁, t, hwr, hchange⟩ := h
  refine ⟨hlater, fun key t' hkey => ?_, hwr.evidenceKept, fun id' row row' hrow hrow' hrev => ?_⟩
  · rw [hwr.transitions, JsMap.get?_set]
    split
    next heq =>
      rw [heq, hwr.fresh] at hkey
      cases hkey
    next => exact hkey
  · by_cases hid : id' = id
    · -- the claim that is written has another revision
      subst hid
      rw [hwr.claims, JsMap.get?_set_self] at hrow'
      obtain rfl := Option.some.inj hrow'
      cases hchange with
      | created _ _ _ _ _ _ hnew =>
        rw [hrow] at hnew
        cases hnew
      | moved row₀ _ _ hrow₀ _ hrevision =>
        obtain rfl := Option.some.inj (hrow.symm.trans hrow₀)
        omega
    · refine ⟨hwr.components id' hid, fun e item he hclaim => ?_⟩
      rcases hwr.evidenceAdded e item he with hold | ⟨-, hclaim', -⟩
      · exact hold
      · exact absurd (hclaim.symm.trans hclaim') hid

theorem step_extends (h : Kept p) (i : Event) : Extends p.store (step env p i).store := by
  rcases step_cases h i with hquiet | ⟨k, call, op, body, next, -, -, hadvance⟩
  · rw [show (step env p i).store = _ from hquiet]
    exact .records _ _
  · exact hadvance.extended

/-- Whatever the clients do from some point of a run on, the history stays as it is there. -/
theorem reached_extends (env : FindingPlatform) (is js : List Event) :
    Extends (runOf env is).store (runOf env (is ++ js)).store := by
  unfold runOf
  rw [runSteps_append]
  exact (runSteps_invariant (I := fun p => Kept p ∧ Extends (runOf env is).store p.store)
    (fun p i h => ⟨step_kept h.1 i, h.2.trans (step_extends h.1 i)⟩)
    ⟨runOf_kept env is, .records _ _⟩ js).2

/-- A task that has returned. -/
def Succeeded (p : Clients) (k : Nat) (request : Call × Operation) (found : Option FindingSummary) :
    Prop :=
  p.tasks[k]? = some ⟨request, .done (.ok found)⟩

/-- A task that has thrown. -/
def Failed (p : Clients) (k : Nat) (request : Call × Operation) (error : JsString) : Prop :=
  p.tasks[k]? = some ⟨request, .done (.error error)⟩

structure FindingsAudited (p : Clients) : Prop where
  /-- every claim has its chain of transition rows, up to its revision and its status -/
  logged : Logged p.store
  /-- a commit is one advance of one claim, by the operation of its task -/
  commits : ∀ c ∈ p.commits, ∃ task : Task (Call × Operation) Database JsString (Option FindingSummary),
    p.tasks[c.task]? = some task ∧ Advance task.label.2 c.before c.after
  /-- nothing but the commits has changed claims, evidence, components and log -/
  linked : Linked protocol.quiet Database.empty p.commits p.store
  /-- an operation that succeeds commits once; or it creates from a memory node that has its claim -/
  succeeded : ∀ k request found, Succeeded p k request found → p.commitsOf k = 1 ∨
    p.commitsOf k = 0 ∧ ∃ status input surfaceId memory id row,
      request.2 = .create status input surfaceId ∧ input.memory = some memory ∧
      p.store.claims.get? id = some row ∧ row.workspaceId = request.1.workspaceId ∧
      row.memoryNodeId = some memory.id
  /-- an operation that fails has committed nothing -/
  failed : ∀ k request error, Failed p k request error → p.commitsOf k = 0
  /-- of two operations on the same revision of a claim, one at most succeeds -/
  optimistic : ∀ i j request request' found found', i ≠ j → Succeeded p i request found →
    Succeeded p j request' found' → ∀ id revision, request.2.target = some (id, revision) →
      request'.2.target ≠ some (id, revision)

variable {revision : Nat}

theorem Advance.target {op : Operation} (h : Advance op db db')
    (htarget : op.target = some (id, revision)) :
    (∃ row, db.claims.get? id = some row ∧ row.revision = revision) ∧
      ∃ row, db'.claims.get? id = some row ∧ row.revision = revision + 1 := by
  obtain ⟨id', row', t, hwr, hchange⟩ := h
  cases hchange with
  | created _ _ _ _ _ hop =>
    rw [hop] at htarget
    cases htarget
  | moved row _ _ hrow htgt' hrevision =>
    obtain ⟨rfl, rfl⟩ := Prod.mk.inj (Option.some.inj (htgt'.symm.trans htarget))
    refine ⟨⟨row, hrow, rfl⟩, row', ?_, hrevision⟩
    rw [hwr.claims]
    exact JsMap.get?_set_self _ _ _

/-- Once a claim has passed a revision, nothing commits on that revision. -/
theorem Later.not_target {op : Operation} {row : ClaimRow}
    (hlater : Later db db') (hrow : db.claims.get? id = some row)
    (hrevision : row.revision = revision + 1) (h : Advance op db' db'') :
    op.target ≠ some (id, revision) := by
  intro htarget
  obtain ⟨⟨row', hrow', hrev'⟩, -⟩ := h.target htarget
  obtain ⟨later, hget, hle, -⟩ := hlater id row hrow
  obtain rfl := Option.some.inj (hget.symm.trans hrow')
  omega

/-- Two commits on the same revision of a claim are one. -/
theorem commits_conflict (h : Kept p)
    {c c' : Commit Database} (hc : c ∈ p.commits) (hc' : c' ∈ p.commits)
    (hne : c.task ≠ c'.task) {op op' : Operation}
    (hop : Advance op c.before c.after) (hop' : Advance op' c'.before c'.after)
    (htarget : op.target = some (id, revision)) : op'.target ≠ some (id, revision) := by
  have howned : ∀ c ∈ p.commits, protocol.Owned c := fun c hc => by
    obtain ⟨task, -, hown⟩ := h.commits c hc
    exact ⟨task.label, hown⟩
  obtain ⟨-, -, hpairs⟩ := Protocol.Linked.rely logged_empty h.linked howned
  intro htgt'
  obtain ⟨i, hi, rfl⟩ := List.mem_iff_getElem.mp hc
  obtain ⟨j, hj, rfl⟩ := List.mem_iff_getElem.mp hc'
  have hij : i ≠ j := fun hij => hne (by simp only [hij])
  rw [List.pairwise_iff_getElem] at hpairs
  rcases Nat.lt_or_gt_of_ne hij with hlt | hgt
  · obtain ⟨-, row, hrow, hrevision⟩ := hop.target htarget
    exact (hpairs i j hi hj hlt).not_target hrow hrevision hop' htgt'
  · obtain ⟨-, row, hrow, hrevision⟩ := hop'.target htgt'
    exact (hpairs j i hj hi hgt).not_target hrow hrevision hop htarget

/-- In every run, the claims and their log agree, every operation that succeeds has committed
once, and one that fails has committed nothing. -/
theorem reached_findingsAudited (env : FindingPlatform) (is : List Event) :
    FindingsAudited (runOf env is) := by
  have h := runOf_kept env is
  have hsucceeded : ∀ k request found, Succeeded (runOf env is) k request found →
      (runOf env is).commitsOf k = 1 ∨ (runOf env is).commitsOf k = 0 ∧
        ∃ status input surfaceId memory id row,
          request.2 = .create status input surfaceId ∧ input.memory = some memory ∧
          (runOf env is).store.claims.get? id = some row ∧ row.workspaceId = request.1.workspaceId ∧
          row.memoryNodeId = some memory.id := by
    intro k request found hk
    obtain ⟨⟨seen, hseen, hreturned⟩, hends⟩ := h.tasks k _ hk
    rcases hends with hone | ⟨hzero, status, input, surfaceId, memory, hop, hmemory⟩
    · exact .inl hone
    · obtain ⟨id, row, hclaim⟩ := (Returned.later hreturned hseen) status input surfaceId memory hop hmemory
      exact .inr ⟨hzero, status, input, surfaceId, memory, id, row, hop, hmemory, hclaim⟩
  refine ⟨h.inv, h.commits, h.linked, hsucceeded, fun k request error hk => (h.tasks k _ hk).2, ?_⟩
  -- both operations have a target, so both have committed
  intro i j request request' found found' hij hi hj id revision htarget htarget'
  have hcommit : ∀ k request found, Succeeded (runOf env is) k request found →
      request.2.target = some (id, revision) →
      ∃ c ∈ (runOf env is).commits, c.task = k ∧ Advance request.2 c.before c.after := by
    intro k request found hk htarget
    rcases hsucceeded k request found hk with hone | ⟨-, _, _, _, _, _, _, hop, -⟩
    · have hpos : 0 < (runOf env is).commitsOf k := by omega
      obtain ⟨c, hc, hk'⟩ := List.countP_pos_iff.mp hpos
      have hk' : c.task = k := by simpa using hk'
      obtain ⟨task, htask, hown⟩ := h.commits c hc
      rw [hk', hk] at htask
      cases htask
      exact ⟨c, hc, hk', hown⟩
    · rw [hop] at htarget
      cases htarget
  obtain ⟨c, hc, rfl, hown⟩ := hcommit i request found hi htarget
  obtain ⟨c', hc', rfl, hown'⟩ := hcommit j request' found' hj htarget'
  exact commits_conflict h hc hc' hij hown hown' htarget htarget'

/-- A platform to run the store on. -/
def plainPlatform : FindingPlatform := ⟨fun _ => [], asciiLower, fun _ _ => rfl, fun _ => true⟩

/-- A call whose ids begin with the given text. -/
def callOf (ids : String) : Call where
  workspaceId := js "w"
  subjectId := js "s"
  sessionId := none
  author := none
  actorId := some (js "agent")
  now := js "2026-01-01T00:00:00.000Z"
  uuid k := js ids ++ natText k

def titled (title : String) (memory : Option MemoryNode) : CreateFindingInput where
  surfaceId := none
  memory := memory
  classification := some (js "security.bug")
  componentClaimIds := none
  title := js title
  summary := none
  impact := none
  stepsToReproduce := none
  rating := none
  confidence := some (.finite 1)
  sourceRevision := none
  environmentFingerprint := none
  evidence := []
  creationReason := none

def memoryNode : MemoryNode := ⟨js "m", js "hypothesis", [], none, 1⟩

/-- A task runs for some turns after it is started. -/
def started (k : Nat) (request : Call × Operation) (turns : Nat) : List Event :=
  .start request :: List.replicate turns (.turn k)

/-- A second creation from a memory node succeeds, and writes nothing. -/
theorem repeated_creation_writes_nothing :
    let create (ids : String) : Call × Operation :=
      (callOf ids, .create .hypothesis (titled "t" (some memoryNode)) none)
    let p := runOf plainPlatform (started 0 (create "a") 7 ++ started 1 (create "b") 6)
    (∃ found, Succeeded p 1 (create "b") (some found)) ∧ p.commitsOf 1 = 0 := by
  refine ⟨⟨_, rfl⟩, ?_⟩
  decide

end Beale.Findings
