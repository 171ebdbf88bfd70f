import Beale.Findings.Store

/-!
# What the statements of the store do

- `updateClaim_ok`, `insertTransition_ok`, `writeComponents_ok`, `insertClaim_ok`: a statement
  that succeeds.
- `EvidenceAdded`, `insertEvidence_ok`: the evidence of one claim grows.
- `get_readsOnly`, `run_get`: a claim that is read alone is read in one go.
- `transitionTransaction_ok`, `updateTransaction_ok`, …: a transaction that commits.
- `transitionBody_ok`, `markDuplicateBody_ok`, …: what the checks before it have let through.
-/

namespace Beale.Findings

open Beale.Library
open Client (exceptBind_ok exceptGuard_ok)

variable {env : FindingPlatform} {db db' : Database}

/-! ## Rows -/

theorem has_iff {κ α : Type} [DecidableEq κ] {m : JsMap κ α} {key : κ} :
    m.has key = true ↔ ∃ value, m.get? key = some value := by
  unfold JsMap.has
  rw [Option.isSome_iff_exists]

variable {id claimId : JsString} {guard : ClaimRow → Bool} {f : ClaimRow → ClaimRow}

theorem updateClaim_ok {revision : Nat} :
    updateClaim id revision guard f db = .ok db' ↔
      ∃ row, db.claims.get? id = some row ∧ row.revision = revision ∧ guard row = true ∧
        db' = { db with claims := db.claims.set id (f row) } := by
  unfold updateClaim
  cases hrow : db.claims.get? id with
  | none => simp
  | some row =>
    by_cases hguard : row.revision = revision ∧ guard row = true
    · simp only [if_pos hguard, Except.ok.injEq, Option.some.injEq]
      constructor
      · rintro rfl
        exact ⟨row, rfl, hguard.1, hguard.2, rfl⟩
      · rintro ⟨row', rfl, -, -, rfl⟩
        rfl
    · simp only [if_neg hguard, Option.some.injEq]
      constructor
      · nofun
      · rintro ⟨row', rfl, hrev, hguard', -⟩
        exact absurd ⟨hrev, hguard'⟩ hguard

theorem insertTransition_ok {revision : Nat} {row : TransitionRow} :
    insertTransition claimId revision row db = .ok db' ↔
      db.transitions.get? (claimId, revision) = none ∧
        db' = { db with transitions := db.transitions.set (claimId, revision) row } := by
  unfold insertTransition JsMap.has
  cases db.transitions.get? (claimId, revision) with
  | none => simp [eq_comm]
  | some old => simp

theorem writeComponents_ok {ids : List JsString} :
    writeComponents claimId ids db = .ok db' ↔
      claimId ∉ ids ∧ (∀ id ∈ ids, ∃ row, db.claims.get? id = some row) ∧
        db' = { db with components := db.components.set claimId ids } := by
  unfold writeComponents
  by_cases hself : claimId ∈ ids
  · simp [hself]
  · simp only [if_neg hself]
    by_cases hmissing : (ids.any fun id => !db.claims.has id) = true
    · rw [if_pos hmissing]
      obtain ⟨id, hid, hnone⟩ := List.any_eq_true.mp hmissing
      constructor
      · rintro ⟨⟩
      · rintro ⟨-, hall, -⟩
        rw [has_iff.mpr (hall id hid)] at hnone
        cases hnone
    · rw [if_neg hmissing]
      have hall : ∀ id ∈ ids, ∃ row, db.claims.get? id = some row := fun id hid => by
        refine has_iff.mp ?_
        by_contra hnone
        exact hmissing (List.any_eq_true.mpr ⟨id, hid, by simpa using hnone⟩)
      constructor
      · intro h
        exact ⟨hself, hall, (Except.ok.inj h).symm⟩
      · rintro ⟨-, -, rfl⟩
        rfl

theorem insertClaim_ok {row : ClaimRow} (h : insertClaim id row db = .ok db') :
    db.claims.get? id = none ∧ db' = { db with claims := db.claims.set id row } := by
  unfold insertClaim at h
  split at h
  next => cases h
  next hnew =>
    split at h
    next => cases h
    next =>
      refine ⟨?_, (Except.ok.inj h).symm⟩
      cases hget : db.claims.get? id with
      | none => rfl
      | some old => exact absurd (has_iff.mpr ⟨old, hget⟩) hnew

/-! ## Evidence -/

/-- The text the id of every piece of evidence begins with. -/
def evidencePrefix : JsString := js "claim_evidence_"

/-- Evidence of one claim has been added: the given items under the given ids. -/
structure EvidenceAdded (claimId now : JsString) (items : List NormalizedEvidence)
    (ids : List JsString) (db db' : Database) : Prop where
  others : db' = { db with evidence := db'.evidence }
  kept : ∀ id row, db.evidence.get? id = some row → db'.evidence.get? id = some row
  added : ∀ id row, db'.evidence.get? id = some row → db.evidence.get? id = some row ∨
    db.evidence.get? id = none ∧ id ∈ ids ∧ ∃ item ∈ items, row = storedEvidence claimId now item
  listed : ∀ id ∈ ids, db.evidence.get? id = none ∧ (∃ row, db'.evidence.get? id = some row) ∧
    evidencePrefix <+: id

theorem EvidenceAdded.nil (claimId now : JsString) (db : Database) :
    EvidenceAdded claimId now [] [] db db :=
  ⟨rfl, fun _ _ h => h, fun _ _ h => .inl h, by simp⟩

variable {call : Call}

theorem insertEvidence_ok {items : List (NormalizedEvidence × Nat)} {ids : List JsString}
    (h : insertEvidence call claimId items db = .ok (db', ids)) :
    EvidenceAdded claimId call.now (items.map Prod.fst) ids db db' := by
  induction items generalizing db ids with
  | nil =>
    obtain ⟨rfl, rfl⟩ := Prod.mk.inj (Except.ok.inj h)
    exact .nil claimId call.now db
  | cons item rest ih =>
    obtain ⟨item, k⟩ := item
    unfold insertEvidence at h
    obtain ⟨db₁, hrow, h⟩ := exceptBind_ok.mp h
    obtain ⟨⟨db₂, ids'⟩, hrest, h⟩ := exceptBind_ok.mp h
    cases h
    have hrest := ih hrest
    unfold insertEvidenceRow at hrow
    split at hrow
    next => cases hrow
    next hnew =>
      cases hrow
      have hnone : db.evidence.get? (js "claim_evidence_" ++ call.uuid k) = none := by
        cases hget : db.evidence.get? (js "claim_evidence_" ++ call.uuid k) with
        | none => rfl
        | some old => exact absurd (has_iff.mpr ⟨old, hget⟩) hnew
      refine ⟨hrest.others, fun id row hrow => ?_, fun id row hrow => ?_, fun id hid => ?_⟩
      · refine hrest.kept id row ?_
        rw [JsMap.get?_set]
        split
        next hid =>
          rw [hid, hnone] at hrow
          cases hrow
        next => exact hrow
      · rcases hrest.added id row hrow with hold | ⟨hnew', hmem, item', hitem, rfl⟩
        · rw [JsMap.get?_set] at hold
          split at hold
          next hid =>
            cases hold
            exact .inr ⟨hid ▸ hnone, by simp [hid], item, by simp, rfl⟩
          next => exact .inl hold
        · rw [JsMap.get?_set] at hnew'
          split at hnew'
          next => cases hnew'
          next =>
            exact .inr ⟨hnew', List.mem_cons_of_mem _ hmem, item', by simp [hitem], rfl⟩
      · rcases List.mem_cons.mp hid with rfl | hid
        · exact ⟨hnone, ⟨_, hrest.kept _ _ (JsMap.get?_set_self _ _ _)⟩, List.prefix_append _ _⟩
        · obtain ⟨hunused, hthere⟩ := hrest.listed id hid
          refine ⟨?_, hthere⟩
          rw [JsMap.get?_set] at hunused
          split at hunused
          next => cases hunused
          next => exact hunused

/-! ## Reading a claim -/

section

variable (env : FindingPlatform)

theorem get_readsOnly (workspaceId id : JsString) : (get env workspaceId id).ReadsOnly := by
  unfold get
  refine .bind (Client.readsOnly_query _) fun found => ?_
  cases found with
  | none => trivial
  | some found =>
    exact .bind (Client.readsOnly_query _) fun _ => .bind (Client.readsOnly_query _) fun _ =>
      .bind (Client.readsOnly_query _) fun _ => Client.readsOnly_query _

theorem run_get (workspaceId id : JsString) (db : Database) :
    (get env workspaceId id).run db = (.ok (readFinding env db workspaceId id false), db) := by
  unfold get readFinding
  rw [Client.run_bind, Client.run_query]
  cases db.claimIn workspaceId id with
  | none => rfl
  | some row => rfl

theorem validatedComponent_readsOnly (workspaceId : JsString)
    (claimId : Option JsString) (id : JsString) :
    (validatedComponent env workspaceId claimId id).ReadsOnly := by
  refine .bind (Client.readsOnly_check _) fun _ => .bind (get_readsOnly _ _ _) fun component =>
    .bind (Client.readsOnly_check _) fun _ => ?_
  cases claimId with
  | none => trivial
  | some claimId => exact .bind (Client.readsOnly_query _) fun cycle => Client.readsOnly_check _

theorem validatedEach_readsOnly (workspaceId : JsString)
    (claimId : Option JsString) (ids : List JsString) :
    (validatedEach env workspaceId claimId ids).ReadsOnly := by
  induction ids with
  | nil => trivial
  | cons id rest ih => exact .bind (validatedComponent_readsOnly env workspaceId claimId id) fun _ => ih

theorem validatedComponents_readsOnly (workspaceId : JsString)
    (classification : Classification) (ids : List JsString) (claimId : Option JsString) :
    (validatedComponents env workspaceId classification ids claimId).ReadsOnly :=
  .bind (Client.readsOnly_check _) fun _ =>
    .bind (validatedEach_readsOnly env workspaceId claimId _) fun _ => Client.readsOnly_pure _

theorem revisedComponents_readsOnly (call : Call) (id : JsString)
    (input : ReviseResearchClaimInput) (current : FindingSummary) (classification : Classification) :
    (revisedComponents env call id input current classification).ReadsOnly := by
  unfold revisedComponents
  split
  next => trivial
  next => exact validatedComponents_readsOnly _ _ _ _ _

end

theorem existingClaim_readsOnly (call : Call) (input : CreateFindingInput) :
    (existingClaim call input).ReadsOnly := by
  unfold existingClaim
  cases input.memory with
  | none => trivial
  | some memory => exact Client.readsOnly_query _

/-! ## Transactions -/

/-- The transition row an operation records, beside its evidence. -/
def recordedTransition (call : Call) (fromStatus : Option FindingStatus) (toStatus : FindingStatus)
    (reason : JsString) (actorId : Option JsString) (evidenceIds : List JsString)
    (operatorOverride : Bool) : TransitionRow where
  fromStatus := fromStatus
  toStatus := toStatus
  reason := reason
  sessionId := call.sessionId
  actorId := actorId
  evidenceIds := evidenceIds
  createdAt := call.now
  operatorOverride := operatorOverride

variable {current : FindingSummary} {toStatus : FindingStatus}

theorem updateTransaction_ok
    {reason : Except JsString JsString} {actorId : Option JsString} {operatorOverride : Bool}
    (h : updateTransaction call id current guard f toStatus reason actorId operatorOverride db
      = .ok db') :
    ∃ row text, db.claims.get? id = some row ∧ row.revision = current.revision ∧
      guard row = true ∧ db.transitions.get? (id, current.revision + 1) = none ∧
      db' = { db with
        claims := db.claims.set id (f row)
        transitions := db.transitions.set (id, current.revision + 1)
          (recordedTransition call (some current.status) toStatus text actorId []
            operatorOverride) } := by
  unfold updateTransaction at h
  obtain ⟨db₁, hupd, h⟩ := exceptBind_ok.mp h
  obtain ⟨text, -, h⟩ := exceptBind_ok.mp h
  obtain ⟨row, hrow, hrev, hguard, rfl⟩ := updateClaim_ok.mp hupd
  obtain ⟨hfresh, rfl⟩ := insertTransition_ok.mp h
  exact ⟨row, text, hrow, hrev, hguard, hfresh, rfl⟩

variable {tracking : Option FindingSecurityTracking} {evidence : List NormalizedEvidence}

theorem transitionTransaction_ok {input : TransitionFindingInput} {reviewed : FindingSummary}
    (h : transitionTransaction env call id input current reviewed tracking evidence db = .ok db') :
    ∃ db₁ evidenceIds row staleReason text,
      validateTransitionEvidence env db reviewed input
        (current.evidence ++ evidence.zipIdx.map (pendingEvidence id call.now)) = .ok () ∧
      EvidenceAdded id call.now evidence evidenceIds db db₁ ∧
      db.claims.get? id = some row ∧ row.revision = current.revision ∧
      db.transitions.get? (id, current.revision + 1) = none ∧
      db' = { db₁ with
        claims := db.claims.set id
          (transitionedRow input current reviewed tracking staleReason call.now row)
        transitions := db.transitions.set (id, current.revision + 1)
          (recordedTransition call (some current.status) input.toStatus text call.actorId
            evidenceIds false) } := by
  unfold transitionTransaction at h
  obtain ⟨⟨⟩, hvalid, h₁⟩ := exceptBind_ok.mp h
  obtain ⟨⟨db₁, evidenceIds⟩, hinsert, h₂⟩ := exceptBind_ok.mp h₁
  obtain ⟨staleReason, -, h₃⟩ := exceptBind_ok.mp h₂
  obtain ⟨db₂, hupd, h₄⟩ := exceptBind_ok.mp h₃
  obtain ⟨text, -, h₅⟩ := exceptBind_ok.mp h₄
  have hadded := insertEvidence_ok hinsert
  rw [List.zipIdx_map_fst] at hadded
  obtain ⟨row, hrow, hrev, -, rfl⟩ := updateClaim_ok.mp hupd
  obtain ⟨hfresh, rfl⟩ := insertTransition_ok.mp h₅
  have hclaims : db₁.claims = db.claims := by rw [hadded.others]
  have htrans : db₁.transitions = db.transitions := by rw [hadded.others]
  rw [hclaims] at hrow
  simp only [htrans] at hfresh
  refine ⟨db₁, evidenceIds, row, staleReason, text, hvalid, hadded, hrow, hrev, hfresh, ?_⟩
  rw [hclaims, htrans]
  rfl

variable {input : ReviseResearchClaimInput} {classification : Classification}
  {components : List JsString}

theorem reviseTransaction_ok
    (h : reviseTransaction call id input current classification components tracking db = .ok db') :
    ∃ row title confidence text, revisedTitle current.title input.title = .ok title ∧
      db.claims.get? id = some row ∧ row.revision = current.revision ∧
      (input.componentClaimIds.isSome = true → id ∉ components) ∧
      db.transitions.get? (id, current.revision + 1) = none ∧
      db' = { db with
        claims := db.claims.set id
          (revisedRow input current classification tracking title confidence call.now row)
        components := if input.componentClaimIds.isSome then db.components.set id components
          else db.components
        transitions := db.transitions.set (id, current.revision + 1)
          (recordedTransition call (some current.status) current.status text call.actorId [] false) } := by
  unfold reviseTransaction at h
  obtain ⟨title, htitle, h₁⟩ := exceptBind_ok.mp h
  obtain ⟨confidence, -, h₂⟩ := exceptBind_ok.mp h₁
  obtain ⟨db₁, hupd, h₃⟩ := exceptBind_ok.mp h₂
  obtain ⟨db₂, hcomps, h₄⟩ := exceptBind_ok.mp h₃
  obtain ⟨text, -, h₅⟩ := exceptBind_ok.mp h₄
  unfold reviseComponents at hcomps
  obtain ⟨row, hrow, hrev, -, rfl⟩ := updateClaim_ok.mp hupd
  obtain ⟨hfresh, rfl⟩ := insertTransition_ok.mp h₅
  by_cases hsome : input.componentClaimIds.isSome = true
  · rw [if_pos hsome] at hcomps
    obtain ⟨hself, -, rfl⟩ := writeComponents_ok.mp hcomps
    refine ⟨row, title, confidence, text, htitle, hrow, hrev, fun _ => hself, hfresh, ?_⟩
    rw [if_pos hsome]
    rfl
  · rw [if_neg hsome] at hcomps
    cases hcomps
    refine ⟨row, title, confidence, text, htitle, hrow, hrev, fun h => absurd h hsome, hfresh, ?_⟩
    rw [if_neg hsome]
    rfl

variable {surfaceId : Option JsString} {status : CreationStatus}

theorem newClaim_ok {input : CreateFindingInput}
    {row : ClaimRow} (h : newClaim call status input surfaceId classification = .ok row) :
    row.revision = 1 ∧ row.status = status.status ∧ row.duplicateOfClaimId = none ∧
      row.classification = classification ∧ row.workspaceId = call.workspaceId ∧
      row.memoryNodeId = input.memory.map (·.id) := by
  unfold newClaim at h
  obtain ⟨title, -, h⟩ := exceptBind_ok.mp h
  obtain ⟨confidence, -, h⟩ := exceptBind_ok.mp h
  cases h
  exact ⟨rfl, rfl, rfl, rfl, rfl, rfl⟩

theorem insertFinding_ok {input : CreateFindingInput}
    (h : insertFinding call status input surfaceId id evidence classification components db
      = .ok db') :
    ∃ db₁ evidenceIds row text, newClaim call status input surfaceId classification = .ok row ∧
      EvidenceAdded id call.now evidence evidenceIds db db₁ ∧ db.claims.get? id = none ∧
      id ∉ components ∧
      (∀ component ∈ components, component ≠ id → ∃ other, db.claims.get? component = some other) ∧
      db.transitions.get? (id, 1) = none ∧
      db' = { db₁ with
        claims := db.claims.set id row
        components := db.components.set id components
        transitions := db.transitions.set (id, 1)
          (recordedTransition call none status.status text call.actorId evidenceIds false) } := by
  unfold insertFinding at h
  obtain ⟨row, hnew, h₁⟩ := exceptBind_ok.mp h
  obtain ⟨db₁, hclaim, h₂⟩ := exceptBind_ok.mp h₁
  obtain ⟨db₂, hcomps, h₃⟩ := exceptBind_ok.mp h₂
  obtain ⟨⟨db₃, evidenceIds⟩, hinsert, h₄⟩ := exceptBind_ok.mp h₃
  obtain ⟨hnone, rfl⟩ := insertClaim_ok hclaim
  obtain ⟨hself, hthere, rfl⟩ := writeComponents_ok.mp hcomps
  have hadded := insertEvidence_ok hinsert
  rw [List.zipIdx_map_fst] at hadded
  obtain ⟨hfresh, rfl⟩ := insertTransition_ok.mp h₄
  have hrest := hadded.others
  refine ⟨{ db with evidence := db₃.evidence }, evidenceIds, row, creationReasonOf status input, hnew,
    ⟨rfl, hadded.kept, hadded.added, hadded.listed⟩, hnone, hself, fun component hmem hne => ?_, ?_, ?_⟩
  · obtain ⟨other, hother⟩ := hthere component hmem
    rw [JsMap.get?_set, if_neg hne] at hother
    exact ⟨other, hother⟩
  · rw [hrest] at hfresh
    exact hfresh
  · rw [hrest]
    rfl

/-! ## Checks -/

theorem requireCanonicalClaim_ok {claim : FindingSummary} (h : requireCanonicalClaim claim = .ok ()) :
    truthy claim.duplicateOfClaimId = false := by
  unfold requireCanonicalClaim at h
  unfold truthy
  split at h
  next parent hpar =>
    split at h
    next hempty =>
      rw [hpar]
      simpa using hempty
    next => cases h
  next hnone =>
    rw [hnone]
    rfl

variable {expectedRevision : Nat}

theorem expectRevision_ok (h : expectRevision id expectedRevision current = .ok ()) :
    current.revision = expectedRevision := by
  unfold expectRevision at h
  split at h
  next => cases h
  next heq => exact not_not.mp heq

variable {found : Option FindingSummary} {body : Database → Except JsString Database}

theorem transitionBody_ok {fresh : Bool}
    {input : TransitionFindingInput} (h : transitionBody env call fresh id input found = .ok body) :
    ∃ current newEvidence classification tracking, found = some current ∧
      truthy current.duplicateOfClaimId = false ∧ current.revision = input.expectedRevision ∧
      (input.toStatus = current.status ∨ input.toStatus ∈ allowedTransitions current.status) ∧
      (current.status = input.toStatus → input.evidence ≠ []) ∧
      normalizeEvidenceInputs input.evidence call.sessionId call.actorId fresh call.author.isSome
        = .ok newEvidence ∧
      claimClassification (input.classification.getD current.classification.1)
        = .ok classification ∧ (newEvidence.any (·.independent) = true →
        claimVerificationHash env (reviewedClaim current input classification)
          = claimVerificationHash env current) ∧
      body = transitionTransaction env call id input current
        (reviewedClaim current input classification) tracking
        (boundEvidence env (reviewedClaim current input classification) newEvidence) := by
  cases found with
  | none => cases h
  | some current =>
    obtain ⟨_, hcanonical, h⟩ := exceptBind_ok.mp h
    obtain ⟨_, hrev, h⟩ := exceptBind_ok.mp h
    obtain ⟨hallow, h⟩ := exceptGuard_ok.mp h
    obtain ⟨hsome, h⟩ := exceptGuard_ok.mp h
    obtain ⟨-, h⟩ := exceptGuard_ok.mp h
    obtain ⟨newEvidence, hnorm, h⟩ := exceptBind_ok.mp h
    obtain ⟨classification, hclass, h⟩ := exceptBind_ok.mp h
    obtain ⟨tracking, -, h⟩ := exceptBind_ok.mp h
    obtain ⟨hhash, h⟩ := exceptGuard_ok.mp h
    refine ⟨current, newEvidence, classification, tracking, rfl,
      requireCanonicalClaim_ok hcanonical, expectRevision_ok hrev, ?_,
      fun heq hnil => hsome ⟨heq, by simp [hnil]⟩, hnorm, hclass,
      fun hany => ?_, (Except.ok.inj h).symm⟩
    · by_cases hsame : current.status = input.toStatus
      · exact .inl hsame.symm
      · exact .inr (not_not.mp fun hnot => hallow ⟨hsame, hnot⟩)
    · exact not_not.mp fun hne => hhash ⟨hany, hne⟩

theorem transitionByHumanBody_ok
    (h : transitionByHumanBody call id expectedRevision toStatus found = .ok body) :
    ∃ current text, found = some current ∧ current.revision = expectedRevision ∧
      body = updateTransaction call id current (fun _ => true) (fun row =>
          { row with
            status := toStatus
            staleFromStatus := none
            staleReason := none
            updatedAt := call.now
            revision := current.revision + 1 })
        toStatus text (some humanOperator) true := by
  cases found with
  | none => cases h
  | some current =>
    obtain ⟨_, -, h⟩ := exceptBind_ok.mp h
    obtain ⟨_, hrev, h⟩ := exceptBind_ok.mp h
    obtain ⟨-, h⟩ := exceptGuard_ok.mp h
    obtain ⟨-, h⟩ := exceptGuard_ok.mp h
    obtain ⟨-, h⟩ := exceptGuard_ok.mp h
    exact ⟨current, _, rfl, expectRevision_ok hrev, (Except.ok.inj h).symm⟩

theorem duplicateParentId_ok {text : JsString} {parent : JsString}
    (h : duplicateParentId id expectedRevision text found = .ok (current, parent)) :
    found = some current ∧ current.revision = expectedRevision ∧
      normalizedText text = some parent ∧ parent ≠ id := by
  cases found with
  | none => cases h
  | some current' =>
    obtain ⟨_, hrev, h⟩ := exceptBind_ok.mp h
    obtain ⟨-, h⟩ := exceptGuard_ok.mp h
    obtain ⟨parent', hpar, h⟩ := exceptBind_ok.mp h
    obtain ⟨hne, h⟩ := exceptGuard_ok.mp h
    cases h
    refine ⟨rfl, expectRevision_ok hrev, ?_, hne⟩
    unfold requiredText at hpar
    split at hpar
    next hsome => rw [hsome, Except.ok.inj hpar]
    next => cases hpar

theorem markDuplicateBody_ok {reason : JsString} {parentClaimId : JsString}
    (h : markDuplicateBody call id reason current parentClaimId found = .ok body) :
    ∃ parent text, found = some parent ∧ parent.workspaceId = current.workspaceId ∧
      parent.subjectId = current.subjectId ∧
      body = updateTransaction call id current (fun row => row.duplicateOfClaimId.isNone)
        (fun row =>
          { row with
            duplicateOfClaimId := some parentClaimId
            duplicateMarkedAt := some call.now
            updatedAt := call.now
            revision := current.revision + 1 })
        current.status text call.actorId false := by
  cases found with
  | none => cases h
  | some parent =>
    unfold markDuplicateBody at h
    obtain ⟨hws, h⟩ := exceptGuard_ok.mp h
    obtain ⟨hsubj, h⟩ := exceptGuard_ok.mp h
    obtain ⟨-, h⟩ := exceptGuard_ok.mp h
    obtain ⟨-, h⟩ := exceptGuard_ok.mp h
    obtain ⟨text, -, h⟩ := exceptBind_ok.mp h
    exact ⟨parent, _, rfl, not_not.mp hws, not_not.mp hsubj, (Except.ok.inj h).symm⟩

theorem undoDuplicateBody_ok {reason : JsString}
    (h : undoDuplicateBody call id expectedRevision reason found = .ok body) :
    ∃ current text, found = some current ∧ current.revision = expectedRevision ∧
      body = updateTransaction call id current (fun row => row.duplicateOfClaimId.isSome)
        (fun row =>
          { row with
            duplicateOfClaimId := none
            duplicateMarkedAt := none
            updatedAt := call.now
            revision := current.revision + 1 })
        current.status text call.actorId false := by
  cases found with
  | none => cases h
  | some current =>
    obtain ⟨_, hrev, h⟩ := exceptBind_ok.mp h
    obtain ⟨-, h⟩ := exceptGuard_ok.mp h
    obtain ⟨text, -, h⟩ := exceptBind_ok.mp h
    exact ⟨current, _, rfl, expectRevision_ok hrev, (Except.ok.inj h).symm⟩

theorem reviseChecks_ok (h : reviseChecks id input found = .ok (current, classification)) :
    found = some current ∧ current.revision = input.expectedRevision ∧
      claimClassification (input.classification.getD current.classification.1)
        = .ok classification := by
  cases found with
  | none => cases h
  | some current' =>
    obtain ⟨_, -, h⟩ := exceptBind_ok.mp h
    obtain ⟨_, hrev, h⟩ := exceptBind_ok.mp h
    obtain ⟨classification', hclass, h⟩ := exceptBind_ok.mp h
    cases h
    exact ⟨rfl, expectRevision_ok hrev, hclass⟩

theorem reviseBody_ok
    (h : reviseBody env call id input current classification components = .ok body) :
    ∃ tracking, body = reviseTransaction call id input current classification components tracking := by
  rw [reviseBody] at h
  obtain ⟨-, h⟩ := exceptGuard_ok.mp h
  obtain ⟨tracking, -, h⟩ := exceptBind_ok.mp h
  exact ⟨tracking, (Except.ok.inj h).symm⟩

theorem recordTriagePacketBody_ok {input : TriagePacketInput}
    (h : recordTriagePacketBody env call id input found = .ok body) :
    ∃ current tracking text, found = some current ∧ current.revision = input.expectedRevision ∧
      body = updateTransaction call id current (fun row => row.workspaceId = current.workspaceId)
        (fun row =>
          { row with
            securityTracking := some tracking
            updatedAt := call.now
            revision := current.revision + 1 })
        current.status text call.actorId false := by
  cases found with
  | none => cases h
  | some current =>
    obtain ⟨_, -, h⟩ := exceptBind_ok.mp h
    obtain ⟨hrev, h⟩ := exceptGuard_ok.mp h
    obtain ⟨tracking, -, h⟩ := exceptBind_ok.mp h
    obtain ⟨packet, -, h⟩ := exceptBind_ok.mp h
    exact ⟨current, _, _, rfl, not_not.mp hrev, (Except.ok.inj h).symm⟩

end Beale.Findings
