import Beale.Findings.AuditLog

/-!
# Operations one after the other

- `run_read_check`, `run_commit`: what an operation reads, checks and commits.
-/

namespace Beale.Findings

open Beale.Library

variable {env : FindingPlatform} {db : Database} {call : Call}

/-- A call of the store, or a change of the runbook and report tables. -/
inductive Request where
  | operation (call : Call) (op : Operation)
  | records (records : Records)

/-- A call runs to its end. -/
def perform (env : FindingPlatform) (db : Database) : Request → Database
  | .operation call op => ((op.program env call).run db).2
  | .records records => changeRecords db records

/-- The store after the given requests on a fresh database. -/
def performAll (env : FindingPlatform) (requests : List Request) : Database :=
  runSteps (perform env) Database.empty requests

/-! ## What an operation does alone -/

/-- What a transaction leaves. -/
def committed (body : Database → Except JsString Database) (db : Database) : Database :=
  match body db with
  | .ok db' => db'
  | .error _ => db

theorem run_commit (body : Database → Except JsString Database) (workspaceId id : JsString) :
    ((do Client.commit body; get env workspaceId id).run db).2 = committed body db := by
  rw [Client.run_bind, Client.run_commit]
  unfold committed
  cases body db with
  | ok db' =>
    show ((get env workspaceId id).run db').2 = db'
    rw [run_get]
  | error e => rfl

theorem run_read_check {β : Type} {checks : Option FindingSummary → Except JsString β}
    {rest : β → Client Database JsString (Option FindingSummary)} (workspaceId id : JsString) :
    (do
      let current ← get env workspaceId id
      let b ← Client.check (checks current)
      rest b).run db =
      match checks (readFinding env db workspaceId id false) with
      | .ok b => (rest b).run db
      | .error e => (.error e, db) := by
  rw [Client.run_bind, run_get]
  simp only [Client.run_bind, Client.run_check]
  cases checks (readFinding env db workspaceId id false) with
  | ok b => rfl
  | error e => rfl

variable {workspaceId id : JsString}

theorem readFinding_some {compact : Bool} {found : FindingSummary}
    (h : readFinding env db workspaceId id compact = some found) :
    ∃ row, db.claims.get? id = some row ∧ row.workspaceId = workspaceId ∧
      found = readRow env db id row compact := by
  unfold readFinding at h
  obtain ⟨row, hrow, rfl⟩ := Option.map_eq_some_iff.mp h
  obtain ⟨hget, hws⟩ := claimIn_some.mp hrow
  exact ⟨row, hget, hws, rfl⟩

variable {current : FindingSummary}

theorem readFinding_row {row : ClaimRow}
    (h : readFinding env db workspaceId id false = some current) (hrow : db.claims.get? id = some row) :
    row.workspaceId = workspaceId ∧ current = readRow env db id row false := by
  obtain ⟨row', hrow', hws, hcur⟩ := readFinding_some h
  obtain rfl := Option.some.inj (hrow.symm.trans hrow')
  exact ⟨hws, hcur⟩

/-- What a client that only reads returns, in the store it leaves alone. -/
theorem run_readsOnly {β : Type} {c : Client Database JsString β} (h : c.ReadsOnly) (db : Database) :
    c.run db = ((c.run db).1, db) := Prod.ext rfl (h.run db)

/-- The fields a reviewer is bound to are as they were. -/
structure ContentKept (row row' : ClaimRow) : Prop where
  title : row'.title = row.title
  summary : row'.summary = row.summary
  impact : row'.impact = row.impact
  stepsToReproduce : row'.stepsToReproduce = row.stepsToReproduce
  classification : row'.classification = row.classification
  sourceRevision : row'.sourceRevision = row.sourceRevision
  environmentFingerprint : row'.environmentFingerprint = row.environmentFingerprint
  reproductionRunbookId : row'.reproductionRunbookId = row.reproductionRunbookId

inductive Performed (env : FindingPlatform) (call : Call) (db : Database) : Operation → Database → Prop
  | created (status : CreationStatus) (input : CreateFindingInput) (surfaceId : Option JsString)
    (evidence : List NormalizedEvidence) (classification : Classification)
    (components : List JsString) (db' : Database)
    (hchecks : creationChecks call status input = .ok (evidence, classification))
    (hcomponents : ((validatedComponents env call.workspaceId classification
      (input.componentClaimIds.getD []) none).run db).1 = .ok components)
    (h : insertFinding call status input surfaceId (newClaimId env call input) evidence classification
      components db = .ok db') :
    Performed env call db (.create status input surfaceId) db'
  | transitioned (id : JsString) (input : TransitionFindingInput) (fresh : Bool)
    (body : Database → Except JsString Database) (db' : Database)
    (hbody : transitionBody env call fresh id input
      (readFinding env db call.workspaceId id false) = .ok body)
    (h : body db = .ok db') : Performed env call db (.transition id input fresh) db'
  | revised (id : JsString) (input : ReviseResearchClaimInput) (current : FindingSummary)
    (classification : Classification) (components : List JsString)
    (body : Database → Except JsString Database) (db' : Database)
    (hchecks : reviseChecks id input (readFinding env db call.workspaceId id false) =
      .ok (current, classification))
    (hcomponents : ((revisedComponents env call id input current classification).run db).1 =
      .ok components)
    (hbody : reviseBody env call id input current classification components = .ok body)
    (h : body db = .ok db') : Performed env call db (.revise id input) db'
  | updated (op : Operation) (id : JsString) (current : FindingSummary) (guard : ClaimRow → Bool)
    (f : ClaimRow → ClaimRow) (toStatus : FindingStatus) (reason : Except JsString JsString)
    (actorId : Option JsString) (operatorOverride : Bool) (db' : Database)
    (hf : ∀ row, ContentKept row (f row))
    (hnext : ∀ row, (f row).revision = current.revision + 1)
    (hop : operatorOverride = true → ∃ revision status, op = .transitionByHuman id revision status)
    (hactor : operatorOverride = false → actorId = call.actorId ∧ ∀ row, (f row).status = row.status)
    (h : updateTransaction call id current guard f toStatus reason actorId operatorOverride db
      = .ok db') : Performed env call db op db'

theorem Performed.of_update {op : Operation}
    {guard : ClaimRow → Bool} {f : ClaimRow → ClaimRow} {reason : Except JsString JsString}
    {db' : Database}
    (h : updateTransaction call id current guard f current.status reason call.actorId false db
      = .ok db') (hf : ∀ row, ContentKept row (f row))
    (hnext : ∀ row, (f row).revision = current.revision + 1 ∧ (f row).status = row.status) :
    Performed env call db op db' :=
  .updated op id current guard f current.status reason call.actorId false db' hf
    (fun row => (hnext row).1) nofun (fun _ => ⟨rfl, fun row => (hnext row).2⟩) h

theorem committed_cases (body : Database → Except JsString Database) (db : Database) :
    committed body db = db ∨ body db = .ok (committed body db) := by
  unfold committed
  cases body db with
  | ok db' => exact .inr rfl
  | error e => exact .inl rfl

theorem read_commit_cases {checks : Option FindingSummary →
      Except JsString (Database → Except JsString Database)} (workspaceId id : JsString)
    {db' : Database}
    (h : db' = ((do
      let current ← get env workspaceId id
      let body ← Client.check (checks current)
      Client.commit body
      get env workspaceId id).run db).2) :
    db' = db ∨ ∃ body, checks (readFinding env db workspaceId id false) = .ok body ∧
      body db = .ok db' := by
  rw [run_read_check] at h
  cases hchecks : checks (readFinding env db workspaceId id false) with
  | error e =>
    rw [hchecks] at h
    exact .inl h
  | ok body =>
    rw [hchecks] at h
    simp only [run_commit] at h
    rcases committed_cases body db with hsame | hbody
    · exact .inl (h.trans hsame)
    · exact .inr ⟨body, rfl, h ▸ hbody⟩

theorem createWithStatus_cases (status : CreationStatus) (input : CreateFindingInput)
    (surfaceId : Option JsString) {db' : Database}
    (h : db' = ((createWithStatus env call status input surfaceId).run db).2) :
    db' = db ∨ Performed env call db (.create status input surfaceId) db' := by
  unfold createWithStatus at h
  rw [Client.run_bind, run_readsOnly (existingClaim_readsOnly call input)] at h
  cases hex : ((existingClaim call input).run db).1 with
  | error e =>
    rw [hex] at h
    exact .inl h
  | ok existing =>
    rw [hex] at h
    cases existing with
    | some id =>
      simp only [run_get] at h
      exact .inl h
    | none =>
      simp only [Client.run_bind, Client.run_check] at h
      cases hchecks : creationChecks call status input with
      | error e =>
        rw [hchecks] at h
        exact .inl h
      | ok checked =>
        obtain ⟨evidence, classification⟩ := checked
        rw [hchecks] at h
        simp only at h
        rw [run_readsOnly (validatedComponents_readsOnly env _ _ _ _)] at h
        cases hcomponents : ((validatedComponents env call.workspaceId classification
            (input.componentClaimIds.getD []) none).run db).1 with
        | error e =>
          rw [hcomponents] at h
          exact .inl h
        | ok components =>
          rw [hcomponents] at h
          simp only [← Client.run_bind] at h
          rw [run_commit] at h
          rcases committed_cases (insertFinding call status input surfaceId (newClaimId env call input)
            evidence classification components) db with hsame | hinsert
          · exact .inl (h.trans hsame)
          · exact .inr (.created status input surfaceId evidence classification components db' hchecks
              hcomponents (h ▸ hinsert))

theorem revise_cases (id : JsString) (input : ReviseResearchClaimInput) {db' : Database}
    (h : db' = ((revise env call id input).run db).2) :
    db' = db ∨ Performed env call db (.revise id input) db' := by
  unfold revise at h
  rw [run_read_check] at h
  cases hchecks : reviseChecks id input (readFinding env db call.workspaceId id false) with
  | error e =>
    rw [hchecks] at h
    exact .inl h
  | ok checked =>
    obtain ⟨current, classification⟩ := checked
    rw [hchecks] at h
    simp only at h
    rw [Client.run_bind, run_readsOnly (revisedComponents_readsOnly env call id input current _)] at h
    cases hcomponents : ((revisedComponents env call id input current classification).run db).1 with
    | error e =>
      rw [hcomponents] at h
      exact .inl h
    | ok components =>
      rw [hcomponents] at h
      simp only [Client.run_bind, Client.run_check] at h
      cases hbody : reviseBody env call id input current classification components with
      | error e =>
        rw [hbody] at h
        exact .inl h
      | ok body =>
        rw [hbody] at h
        simp only [← Client.run_bind] at h
        rw [run_commit] at h
        rcases committed_cases body db with hsame | hcommit
        · exact .inl (h.trans hsame)
        · exact .inr (.revised id input current classification components body db' hchecks hcomponents
            hbody (h ▸ hcommit))

theorem markDuplicate_cases (id : JsString) (expectedRevision : Nat) (text reason : JsString)
    {db' : Database} (h : db' = ((markDuplicate env call id expectedRevision text reason).run db).2) :
    db' = db ∨ Performed env call db (.markDuplicate id expectedRevision text reason) db' := by
  unfold markDuplicate at h
  rw [run_read_check] at h
  cases hchecks : duplicateParentId id expectedRevision text
      (readFinding env db call.workspaceId id false) with
  | error e =>
    rw [hchecks] at h
    exact .inl h
  | ok checked =>
    obtain ⟨current, parentId⟩ := checked
    rw [hchecks] at h
    rcases @read_commit_cases env db (markDuplicateBody call id reason current parentId)
      call.workspaceId parentId db' h with hsame | ⟨body, hbody, hcommit⟩
    · exact .inl hsame
    · obtain ⟨parent, text', -, -, -, rfl⟩ := markDuplicateBody_ok hbody
      exact .inr (.of_update hcommit (fun _ => ⟨rfl, rfl, rfl, rfl, rfl, rfl, rfl, rfl⟩)
        fun _ => ⟨rfl, rfl⟩)

theorem transitionByHuman_cases (id : JsString) (expectedRevision : Nat) (toStatus : FindingStatus)
    {db' : Database} (h : db' = ((transitionByHuman env call id expectedRevision toStatus).run db).2) :
    db' = db ∨ Performed env call db (.transitionByHuman id expectedRevision toStatus) db' := by
  unfold transitionByHuman at h
  simp only at h
  split at h
  next => exact .inl h
  next =>
    have h : db' = ((do
        let current ← get env call.workspaceId id
        let body ← Client.check (transitionByHumanBody call id expectedRevision toStatus current)
        Client.commit body
        get env call.workspaceId id).run db).2 := h
    rcases read_commit_cases call.workspaceId id h with hsame | ⟨body, hbody, hcommit⟩
    · exact .inl hsame
    · obtain ⟨current, text, -, -, rfl⟩ := transitionByHumanBody_ok hbody
      refine .inr (.updated _ id current _ _ _ _ _ _ db' ?_ ?_ ?_ ?_ hcommit)
      · exact fun _ => ⟨rfl, rfl, rfl, rfl, rfl, rfl, rfl, rfl⟩
      · exact fun _ => rfl
      · exact fun _ => ⟨expectedRevision, toStatus, rfl⟩
      · nofun

/-- What a call does to the store: nothing, or what its operation commits. -/
theorem perform_cases (env : FindingPlatform) (db : Database) (call : Call) (op : Operation) :
    perform env db (.operation call op) = db ∨
      Performed env call db op (perform env db (.operation call op)) := by
  cases op with
  | create status input surfaceId => exact createWithStatus_cases status input surfaceId rfl
  | transition id input fresh =>
    rcases read_commit_cases call.workspaceId id rfl with hsame | ⟨body, hbody, hcommit⟩
    · exact .inl hsame
    · exact .inr (.transitioned id input fresh body _ hbody hcommit)
  | transitionByHuman id expectedRevision toStatus =>
    exact transitionByHuman_cases id expectedRevision toStatus rfl
  | markDuplicate id expectedRevision text reason =>
    exact markDuplicate_cases id expectedRevision text reason rfl
  | undoDuplicate id expectedRevision reason =>
    rcases read_commit_cases call.workspaceId id rfl with hsame | ⟨body, hbody, hcommit⟩
    · exact .inl hsame
    · obtain ⟨current, text, -, -, rfl⟩ := undoDuplicateBody_ok hbody
      exact .inr (.of_update hcommit (fun _ => ⟨rfl, rfl, rfl, rfl, rfl, rfl, rfl, rfl⟩)
        fun _ => ⟨rfl, rfl⟩)
  | revise id input => exact revise_cases id input rfl
  | recordTriagePacket id input =>
    rcases read_commit_cases call.workspaceId id rfl with hsame | ⟨body, hbody, hcommit⟩
    · exact .inl hsame
    · obtain ⟨current, tracking, text, -, -, rfl⟩ := recordTriagePacketBody_ok hbody
      exact .inr (.of_update hcommit (fun _ => ⟨rfl, rfl, rfl, rfl, rfl, rfl, rfl, rfl⟩)
        fun _ => ⟨rfl, rfl⟩)

end Beale.Findings
