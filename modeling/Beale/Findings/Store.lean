import Beale.Findings.Tracking

/-!
# The operations of the claim store

Each operation reads (`get` and the checks of components), checks, writes in one
`BEGIN IMMEDIATE` transaction, and reads what it returns.
-/

namespace Beale.Findings

open Beale.Library

/-! ## Input -/

/-- The context of a store, and what a call is attributed to. `uuid` is what `randomUUID` gives
the call. -/
structure Call where
  workspaceId : JsString
  subjectId : JsString
  sessionId : Option JsString
  author : Option ModelAuthor
  actorId : Option JsString
  now : JsString
  uuid : Nat → JsString

structure FindingEvidenceInput where
  kind : EvidenceKind
  referenceId : Option JsString
  contentHash : Option JsString
  summary : JsString
  sessionId : Option (Option JsString)
  actorId : Option (Option JsString)
  independent : Bool
  metadata : Metadata

structure MemoryNode where
  id : JsString
  type : JsString
  summary : JsString
  surfaceId : Option JsString
  confidence : Rat
deriving DecidableEq, Repr

/-- A `CreateFindingInput`, with the memory node its `memoryNodeId` names in the workspace. -/
structure CreateFindingInput where
  surfaceId : Option JsString
  memory : Option MemoryNode
  classification : Option JsString
  componentClaimIds : Option (List JsString)
  title : JsString
  summary : Option JsString
  impact : Option JsString
  stepsToReproduce : Option JsString
  rating : Option Rating
  confidence : Option Number
  sourceRevision : Option JsString
  environmentFingerprint : Option JsString
  evidence : List FindingEvidenceInput
  creationReason : Option JsString

structure TransitionFindingInput where
  expectedRevision : Nat
  toStatus : FindingStatus
  reason : JsString
  evidence : List FindingEvidenceInput
  sourceRevision : Option (Option JsString)
  environmentFingerprint : Option (Option JsString)
  reproductionRunbookId : Option (Option JsString)
  stepsToReproduce : Option JsString
  reportId : Option (Option JsString)
  disclosureReference : Option (Option JsString)
  classification : Option JsString
  surfaceId : Option JsString

structure ReviseResearchClaimInput where
  expectedRevision : Nat
  reason : JsString
  surfaceId : Option (Option JsString)
  title : Option JsString
  summary : Option JsString
  impact : Option JsString
  stepsToReproduce : Option JsString
  rating : Option Rating
  confidence : Option Number
  classification : Option JsString
  componentClaimIds : Option (List JsString)
  securityTracking : Option SecurityTrackingUpdate

/-- The input of `recordTriagePacket`. -/
structure TriagePacketInput where
  expectedRevision : Nat
  artifactId : JsString
  contentHash : JsString
  sizeBytes : Nat
  replayRunId : JsString
  reason : JsString
deriving DecidableEq, Repr

/-! ## Evidence -/

/-- A piece of evidence in the form it is stored in. -/
structure NormalizedEvidence where
  kind : EvidenceKind
  referenceId : Option JsString
  contentHash : Option JsString
  summary : JsString
  sessionId : Option JsString
  actorId : Option JsString
  independent : Bool
  claimBindingHash : Option JsString
  metadata : Metadata

/-- The member `verificationContext` of an independent item's metadata. -/
def verificationContext (kind : EvidenceKind) (fresh modelAuthored : Bool) : JsString :=
  if kind = .humanReview ∧ modelAuthored ≠ true then js "human_operator"
  else if fresh then js "fresh_subagent"
  else js "unqualified"

def Metadata.set (metadata : Metadata) (key : JsString) (value : Json) : Metadata :=
  metadata.filter (fun member => member.1 ≠ key) ++ [(key, value)]

def normalizeEvidenceInputs (items : List FindingEvidenceInput)
    (defaultSessionId defaultActorId : Option JsString) (fresh modelAuthored : Bool) :
    Except JsString (List NormalizedEvidence) :=
  items.mapM fun item => do
    let summary ← requiredText item.summary (js "Finding evidence summary")
    .ok
      { kind := item.kind
        referenceId := nullableText item.referenceId
        contentHash := nullableText item.contentHash
        summary := summary
        sessionId := if item.independent then defaultSessionId else
          match item.sessionId with
          | none => defaultSessionId
          | some value => nullableText value
        actorId := if item.independent then defaultActorId else
          match item.actorId with
          | none => defaultActorId
          | some value => nullableText value
        independent := item.independent
        claimBindingHash := none
        metadata := if item.independent then
            item.metadata.set (js "verificationContext")
              (.str (verificationContext item.kind fresh modelAuthored))
          else item.metadata }

/-! ## Statements -/

/-- `INSERT INTO app_server_claim_evidence`, of one row. -/
def insertEvidenceRow (db : Database) (id : JsString) (row : EvidenceRow) : Except JsString Database :=
  if db.evidence.has id then
    .error (js "UNIQUE constraint failed: app_server_claim_evidence.id")
  else .ok { db with evidence := db.evidence.set id row }

def storedEvidence (claimId now : JsString) (item : NormalizedEvidence) : EvidenceRow where
  claimId := claimId
  kind := item.kind
  referenceId := item.referenceId
  contentHash := item.contentHash
  summary := item.summary
  sessionId := item.sessionId
  actorId := item.actorId
  independent := item.independent
  claimBindingHash := item.claimBindingHash
  metadata := item.metadata
  createdAt := now

/-- An item as `validateTransitionEvidence` sees it before it is stored. -/
def pendingEvidence (claimId now : JsString) (item : NormalizedEvidence × Nat) : FindingEvidence :=
  { storedEvidence claimId now item.1 with
    id := js "pending_" ++ natText item.2
    validated := none }

/-- `insertEvidence(findingId, evidence, now)`, with the ids of the rows. -/
def insertEvidence (call : Call) (claimId : JsString) :
    List (NormalizedEvidence × Nat) → Database → Except JsString (Database × List JsString)
  | [], db => .ok (db, [])
  | (item, k) :: rest, db => do
    let id := js "claim_evidence_" ++ call.uuid k
    let db ← insertEvidenceRow db id (storedEvidence claimId call.now item)
    let (db, ids) ← insertEvidence call claimId rest db
    .ok (db, id :: ids)

def insertTransition (claimId : JsString) (revision : Nat) (row : TransitionRow) (db : Database) :
    Except JsString Database :=
  if db.transitions.has (claimId, revision) then
    .error (js "UNIQUE constraint failed: app_server_claim_transitions.claim_id, app_server_claim_transitions.claim_revision")
  else .ok { db with transitions := db.transitions.set (claimId, revision) row }

def writeComponents (claimId : JsString) (componentIds : List JsString) (db : Database) :
    Except JsString Database :=
  if claimId ∈ componentIds then .error (js "CHECK constraint failed: claim_id <> component_claim_id")
  else if componentIds.any fun id => !db.claims.has id then
    .error (js "FOREIGN KEY constraint failed")
  else .ok { db with components := db.components.set claimId componentIds }

/-- `UPDATE app_server_research_claims SET … WHERE id = ? AND revision = ? AND …`, of which one
row has to change. -/
def updateClaim (id : JsString) (revision : Nat) (guard : ClaimRow → Bool) (f : ClaimRow → ClaimRow)
    (db : Database) : Except JsString Database :=
  match db.claims.get? id with
  | some row =>
    if row.revision = revision ∧ guard row = true then
      .ok { db with claims := db.claims.set id (f row) }
    else .error (js "Research claim revision conflict for " ++ id ++ js ".")
  | none => .error (js "Research claim revision conflict for " ++ id ++ js ".")

/-- `INSERT INTO app_server_research_claims`. -/
def insertClaim (id : JsString) (row : ClaimRow) (db : Database) : Except JsString Database :=
  if db.claims.has id then .error (js "UNIQUE constraint failed: app_server_research_claims.id")
  else if row.memoryNodeId.isSome ∧ (db.claims.values.any fun other =>
      other.workspaceId = row.workspaceId ∧ other.memoryNodeId = row.memoryNodeId) = true then
    .error (js "UNIQUE constraint failed: app_server_research_claims.workspace_id, app_server_research_claims.legacy_memory_node_id")
  else .ok { db with claims := db.claims.set id row }

/-! ## Components -/

/-- What one step along the component links reaches, in addition. -/
def reachStep (db : Database) (reached : List JsString) : List JsString :=
  unique (reached ++ reached.flatMap db.componentsOf)

/-- The recursive query `dependencies(id)` of a claim: its components, theirs, and so on. As many
rounds as there are links reach everything. -/
def dependencies (db : Database) (id : JsString) : List JsString :=
  (reachStep db)^[db.components.values.flatten.length] (db.componentsOf id)

def isComponent (claim : FindingSummary) : Bool :=
  !truthy claim.duplicateOfClaimId && claim.projection = .finding && claim.status ≠ .rejected &&
    securityClassification claim.classification

/-- The query for cycles, where the chain is there already. -/
def refuseCycle (claimId : Option JsString) (id : JsString) : Client Database JsString Unit :=
  match claimId with
  | some claimId => do
    let cycle ← Client.query fun db => decide (claimId ∈ dependencies db id)
    Client.check (if cycle then
      .error (js "A security chain cannot contain a cycle of component findings.") else .ok ())
  | none => pure ()

/-- The checks of `validatedComponents` on one component. -/
def validatedComponent (env : FindingPlatform) (workspaceId : JsString) (claimId : Option JsString)
    (id : JsString) : Client Database JsString Unit := do
  Client.check (if claimId = some id then
    .error (js "A security chain cannot contain itself.") else .ok ())
  let component ← get env workspaceId id
  Client.check (if component.any isComponent then .ok ()
    else .error (js "Chain component " ++ id ++
      js " must be a canonical security finding in this workspace."))
  refuseCycle claimId id

/-- Every component is checked in turn. -/
def validatedEach (env : FindingPlatform) (workspaceId : JsString) (claimId : Option JsString) :
    List JsString → Client Database JsString Unit
  | [] => pure ()
  | id :: rest => do
    validatedComponent env workspaceId claimId id
    validatedEach env workspaceId claimId rest

/-- What `validatedComponents` checks of the ids themselves. -/
def componentIds (classification : Classification) (ids : List JsString) :
    Except JsString (List JsString) := do
  if ids.length > 8 then .error (js "A chain may link at most eight component findings.")
  let texts ← ids.mapM fun id => requiredText id (js "Component claim id")
  if classification ≠ securityChain then
    if !(unique texts).isEmpty then .error (js "Only security chains may link component findings.")
    else .ok []
  else if (unique texts).isEmpty then
    .error (js "A security chain requires at least one component finding.")
  else .ok (unique texts)

def validatedComponents (env : FindingPlatform) (workspaceId : JsString)
    (classification : Classification) (ids : List JsString) (claimId : Option JsString) :
    Client Database JsString (List JsString) := do
  let ids ← Client.check (componentIds classification ids)
  validatedEach env workspaceId claimId ids
  pure ids

/-! ## Creation -/

def legacyClaimClassification (type : Option JsString) : JsString :=
  if type = some (js "hypothesis") then js "security.vulnerability"
  else if type = some (js "primitive") ∨ type = some (js "chain") then js "security.vulnerability"
  else if type = some (js "conjecture") then js "mathematics.conjecture"
  else if type = some (js "theorem") then js "mathematics.theorem"
  else if type = some (js "counterexample") then js "mathematics.counterexample"
  else js "general.result"

def stableFindingId (env : FindingPlatform) (workspaceId memoryNodeId : JsString) : JsString :=
  js "finding_" ++ (env.sha256 (workspaceId ++ [0] ++ memoryNodeId)).take 20

/-- The status a claim is created with. -/
inductive CreationStatus where
  | hypothesis
  | observed
deriving DecidableEq, Repr

def CreationStatus.status : CreationStatus → FindingStatus
  | .hypothesis => .hypothesis
  | .observed => .observed

def hasDirectEvidence (evidence : List NormalizedEvidence) : Bool :=
  evidence.any fun item =>
    item.kind ∈ directObservationKinds && (truthy item.referenceId || truthy item.contentHash)

/-- The checks of `createWithStatus` before it looks at the components. -/
def creationChecks (call : Call) (status : CreationStatus) (input : CreateFindingInput) :
    Except JsString (List NormalizedEvidence × Classification) := do
  let evidence ← normalizeEvidenceInputs input.evidence call.sessionId call.actorId false false
  if status = .observed ∧ hasDirectEvidence evidence = false then
    .error (js "Observed findings require direct code, artifact, command, URL, calculation, proof, or publication evidence.")
  let classification ← claimClassification
    (input.classification.getD (legacyClaimClassification (input.memory.map (·.type))))
  .ok (evidence, classification)

def newClaim (call : Call) (status : CreationStatus) (input : CreateFindingInput)
    (surfaceId : Option JsString) (classification : Classification) : Except JsString ClaimRow := do
  let assignedSurfaceId := input.surfaceId.or (surfaceId.or (input.memory.bind (·.surfaceId)))
  let title ← requiredText input.title
    (if status = .observed then js "Finding title" else js "Lead title")
  let confidence ← confidence (input.confidence.getD
    (.finite ((input.memory.map (·.confidence)).getD (1 / 2))))
  .ok
    { workspaceId := call.workspaceId
      subjectId := call.subjectId
      memoryNodeId := input.memory.map (·.id)
      originSessionId := call.sessionId
      surfaceId := assignedSurfaceId
      classification := classification
      title := title
      summary := (nullableText input.summary).getD ((input.memory.map (·.summary)).getD [])
      impact := (nullableText input.impact).getD []
      stepsToReproduce := (nullableText input.stepsToReproduce).getD []
      rating := input.rating.getD .informational
      status := status.status
      staleFromStatus := none
      confidence := confidence
      sourceRevision := nullableText input.sourceRevision
      environmentFingerprint := nullableText input.environmentFingerprint
      reproductionRunbookId := none
      reportId := none
      disclosureReference := none
      staleReason := none
      securityTracking := if securityClassification classification then
          some { emptyFindingSecurityTracking with
            surfaceIds := if truthy assignedSurfaceId then assignedSurfaceId.toList else [] }
        else none
      duplicateOfClaimId := none
      duplicateMarkedAt := none
      createdAt := call.now
      updatedAt := call.now
      revision := 1 }

def creationReasonOf (status : CreationStatus) (input : CreateFindingInput) : JsString :=
  (nullableText input.creationReason).getD
    (if status = .observed then js "Observed finding created." else js "Research lead created.")

/-- The transaction of `createWithStatus`. -/
def insertFinding (call : Call) (status : CreationStatus) (input : CreateFindingInput)
    (surfaceId : Option JsString) (id : JsString) (evidence : List NormalizedEvidence)
    (classification : Classification) (components : List JsString) (db : Database) :
    Except JsString Database := do
  let row ← newClaim call status input surfaceId classification
  let db ← insertClaim id row db
  let db ← writeComponents id components db
  let (db, evidenceIds) ← insertEvidence call id (evidence.zipIdx 1) db
  insertTransition id 1
    { fromStatus := none
      toStatus := status.status
      reason := creationReasonOf status input
      sessionId := call.sessionId
      actorId := call.actorId
      evidenceIds := evidenceIds
      createdAt := call.now
      operatorOverride := false } db

def newClaimId (env : FindingPlatform) (call : Call) (input : CreateFindingInput) : JsString :=
  match input.memory with
  | some memory => stableFindingId env call.workspaceId memory.id
  | none => js "claim_" ++ call.uuid 0

def claimOfMemory (workspaceId : JsString) (memory : MemoryNode) (db : Database) : Option JsString :=
  (db.claims.entries.find? fun item =>
    item.2.workspaceId = workspaceId ∧ item.2.memoryNodeId = some memory.id).map Prod.fst

/-- The claim that is there already. -/
def existingClaim (call : Call) (input : CreateFindingInput) :
    Client Database JsString (Option JsString) :=
  match input.memory with
  | some memory => Client.query (claimOfMemory call.workspaceId memory)
  | none => pure none

def createWithStatus (env : FindingPlatform) (call : Call) (status : CreationStatus)
    (input : CreateFindingInput) (surfaceId : Option JsString) :
    Client Database JsString (Option FindingSummary) := do
  let existing ← existingClaim call input
  match existing with
  | some id => get env call.workspaceId id
  | none =>
    let (evidence, classification) ← Client.check (creationChecks call status input)
    let components ← validatedComponents env call.workspaceId classification
      (input.componentClaimIds.getD []) none
    Client.commit (insertFinding call status input surfaceId (newClaimId env call input) evidence
      classification components)
    get env call.workspaceId (newClaimId env call input)

/-! ## Transitions -/

def notFound (id : JsString) : JsString := js "Research claim not found: " ++ id ++ js "."

def revisionConflict (id : JsString) (expected found : Nat) : JsString :=
  js "Research claim revision conflict for " ++ id ++ js ": expected " ++ natText expected ++
    js ", found " ++ natText found ++ js "."

/-- `current`, as the first checks of an operation need it. -/
def expectRevision (id : JsString) (expectedRevision : Nat) (current : FindingSummary) :
    Except JsString Unit :=
  if current.revision ≠ expectedRevision then
    .error (revisionConflict id expectedRevision current.revision)
  else .ok ()

def reproducedOrLater : List FindingStatus := [.reproduced, .verified, .reportReady, .disclosed]

def validateTransitionEvidence (env : FindingPlatform) (db : Database) (current : FindingSummary)
    (input : TransitionFindingInput) (evidence : List FindingEvidence) : Except JsString Unit := do
  if input.toStatus = .observed ∧
      (evidence.any fun item => isDirectEvidence item.toEvidenceRow) = false then
    .error (js "Observed findings require direct code, artifact, command, URL, calculation, proof, or publication evidence.")
  if input.toStatus ∈ reproducedOrLater then
    if isBlank current.stepsToReproduce then
      .error (js "Reproduced or later findings require steps to reproduce.")
    let runbookId := (nullableText (input.reproductionRunbookId.getD none)).or
      current.reproductionRunbookId
    if truthy runbookId = false ∨ (evidence.any (validReproductionEvidence db current)) = false then
      .error (js "Reproduced findings require a successful runbook execution of every active cell at the current content revision, matching sourceRevision and environmentFingerprint, and reproductionRunbookId.")
  if input.toStatus ∈ [FindingStatus.verified, .reportReady, .disclosed] ∧
      (evidence.any (validIndependentEvidence env db current)) = false then
    .error (js "Verified findings require an independent reviewer with host-recorded actor/session identity, a fresh subagent context without inherited parent history (or a human operator), and a reference to a qualifying successful runbook execution.")
  if input.toStatus = .reportReady then
    let reportId := (nullableText (input.reportId.getD none)).or current.reportId
    let exists_ := db.records.reports.any fun report =>
      some report.id = reportId && report.workspaceId = current.workspaceId
    if truthy reportId = false ∨ exists_ = false ∨
        (evidence.any fun item => item.kind = .report && item.referenceId = reportId) = false then
      .error (js "Report-ready findings require a report reference and report evidence.")
  if input.toStatus = .disclosed then
    let disclosure := (nullableText (input.disclosureReference.getD none)).or
      current.disclosureReference
    if truthy disclosure = false ∨
        (evidence.any fun item => item.kind = .disclosure && item.referenceId = disclosure) = false then
      .error (js "Disclosed findings require a disclosure reference and disclosure evidence.")

/-- A field that an input leaves as it is or sets. -/
def revisedText (current : Option JsString) : Option (Option JsString) → Option JsString
  | none => current
  | some value => nullableText value

/-- A field that an input leaves as it is, or sets to a text that may be blank. -/
def revisedBody (current : JsString) : Option JsString → JsString
  | none => current
  | some value => (normalizedText value).getD []

/-- `effective`, with the classification: the content a transition leads to. -/
def reviewedClaim (current : FindingSummary) (input : TransitionFindingInput)
    (classification : Classification) : FindingSummary :=
  { current with
    sourceRevision := if input.toStatus = .stale then current.sourceRevision
      else revisedText current.sourceRevision input.sourceRevision
    environmentFingerprint := if input.toStatus = .stale then current.environmentFingerprint
      else revisedText current.environmentFingerprint input.environmentFingerprint
    reproductionRunbookId := revisedText current.reproductionRunbookId input.reproductionRunbookId
    stepsToReproduce := revisedBody current.stepsToReproduce input.stepsToReproduce
    classification := classification }

def transitionTracking (current : FindingSummary) (input : TransitionFindingInput)
    (classification : Classification) : Except JsString (Option FindingSecurityTracking) :=
  if securityClassification classification then do
    let base := current.securityTracking.getD emptyFindingSecurityTracking
    let surfaceIds ← match input.toStatus, input.surfaceId with
      | .observed, some surfaceId =>
        if surfaceId.isEmpty then .ok base.surfaceIds
        else uniqueTrackingStrings (base.surfaceIds ++ [surfaceId]) (js "Surface id")
      | _, _ => .ok base.surfaceIds
    .ok (some
      { base with
        surfaceIds := surfaceIds
        progressBlocker := if input.toStatus = .observed ∨ input.toStatus = .reproduced
          then base.progressBlocker else none })
  else .ok none

def boundEvidence (env : FindingPlatform) (reviewed : FindingSummary)
    (evidence : List NormalizedEvidence) : List NormalizedEvidence :=
  evidence.map fun item =>
    if item.independent then { item with claimBindingHash := some (claimVerificationHash env reviewed) }
    else item

def transitionedRow (input : TransitionFindingInput) (current reviewed : FindingSummary)
    (tracking : Option FindingSecurityTracking) (staleReason : Option JsString) (now : JsString)
    (row : ClaimRow) : ClaimRow :=
  { row with
    status := input.toStatus
    staleFromStatus := if input.toStatus = .stale then
        (if current.status = .stale then current.staleFromStatus else some current.status)
      else none
    classification := if input.classification.isNone then row.classification
      else reviewed.classification
    sourceRevision := reviewed.sourceRevision
    environmentFingerprint := reviewed.environmentFingerprint
    reproductionRunbookId := reviewed.reproductionRunbookId
    stepsToReproduce := reviewed.stepsToReproduce
    reportId := revisedText current.reportId input.reportId
    disclosureReference := revisedText current.disclosureReference input.disclosureReference
    staleReason := staleReason
    securityTracking := tracking
    surfaceId := row.surfaceId.or input.surfaceId
    updatedAt := now
    revision := current.revision + 1 }

def staleReasonOf (input : TransitionFindingInput) : Except JsString (Option JsString) :=
  if input.toStatus = .stale then (requiredText input.reason (js "Staleness reason")).map some
  else .ok none

def transitionTransaction (env : FindingPlatform) (call : Call) (id : JsString)
    (input : TransitionFindingInput) (current reviewed : FindingSummary)
    (tracking : Option FindingSecurityTracking) (evidence : List NormalizedEvidence) (db : Database) :
    Except JsString Database := do
  validateTransitionEvidence env db reviewed input
    (current.evidence ++ evidence.zipIdx.map (pendingEvidence id call.now))
  let (db, evidenceIds) ← insertEvidence call id (evidence.zipIdx 1) db
  let staleReason ← staleReasonOf input
  let db ← updateClaim id current.revision (fun _ => true)
    (transitionedRow input current reviewed tracking staleReason call.now) db
  let reason ← requiredText input.reason (js "Transition reason")
  insertTransition id (current.revision + 1)
    { fromStatus := some current.status
      toStatus := input.toStatus
      reason := reason
      sessionId := call.sessionId
      actorId := call.actorId
      evidenceIds := evidenceIds
      createdAt := call.now
      operatorOverride := false } db

/-- The checks of `transition`, and its transaction. -/
def transitionBody (env : FindingPlatform) (call : Call) (fresh : Bool) (id : JsString)
    (input : TransitionFindingInput) (found : Option FindingSummary) :
    Except JsString (Database → Except JsString Database) := do
  match found with
  | none => .error (notFound id)
  | some current =>
    requireCanonicalClaim current
    expectRevision id input.expectedRevision current
    if current.status ≠ input.toStatus ∧ input.toStatus ∉ allowedTransitions current.status then
      .error (js "Research claim transition " ++ current.status.text ++ js " -> " ++
        input.toStatus.text ++ js " is not allowed.")
    if current.status = input.toStatus ∧ input.evidence.isEmpty then
      .error (js "Research claim " ++ current.status.text ++
        js " evidence append requires at least one new evidence item.")
    if current.workspaceId ≠ call.workspaceId then
      .error (js "Finding is outside the active workspace.")
    let newEvidence ← normalizeEvidenceInputs input.evidence call.sessionId call.actorId fresh
      call.author.isSome
    let classification ← claimClassification (input.classification.getD current.classification.1)
    let tracking ← transitionTracking current input classification
    let reviewed := reviewedClaim current input classification
    if (newEvidence.any (·.independent)) ∧
        claimVerificationHash env reviewed ≠ claimVerificationHash env current then
      .error (js "Independent review must address the existing claim content; record content changes separately before review.")
    .ok (transitionTransaction env call id input current reviewed tracking
      (boundEvidence env reviewed newEvidence))

def transition (env : FindingPlatform) (call : Call) (fresh : Bool) (id : JsString)
    (input : TransitionFindingInput) : Client Database JsString (Option FindingSummary) := do
  let current ← get env call.workspaceId id
  let body ← Client.check (transitionBody env call fresh id input current)
  Client.commit body
  get env call.workspaceId id

/-! ## Human overrides -/

def humanOperator : JsString := js "human-operator"

/-- The transaction of an operation that leaves the evidence alone: one claim is updated, where
its row meets the guard, and the transition is recorded, with a reason that may be missing. -/
def updateTransaction (call : Call) (id : JsString) (current : FindingSummary)
    (guard : ClaimRow → Bool) (f : ClaimRow → ClaimRow) (toStatus : FindingStatus)
    (reason : Except JsString JsString) (actorId : Option JsString) (operatorOverride : Bool)
    (db : Database) : Except JsString Database := do
  let db ← updateClaim id current.revision guard f db
  let reason ← reason
  insertTransition id (current.revision + 1)
    { fromStatus := some current.status
      toStatus := toStatus
      reason := reason
      sessionId := call.sessionId
      actorId := actorId
      evidenceIds := []
      createdAt := call.now
      operatorOverride := operatorOverride } db

/-- The checks of `transitionByHuman`, and its transaction. -/
def transitionByHumanBody (call : Call) (id : JsString) (expectedRevision : Nat)
    (toStatus : FindingStatus) (found : Option FindingSummary) :
    Except JsString (Database → Except JsString Database) := do
  match found with
  | none => .error (js "Claim not found in this workspace.")
  | some current =>
    requireCanonicalClaim current
    expectRevision id expectedRevision current
    if current.status = toStatus ∧ current.status ≠ .stale then
      .error (js "Claim is already in this Findings board state.")
    if current.workspaceId ≠ call.workspaceId then
      .error (js "Claim is outside the active workspace.")
    if toStatus ∈ [FindingStatus.reproduced, .verified] ∧ isBlank current.stepsToReproduce = true then
      .error (js "Reproduced or later findings require steps to reproduce.")
    .ok (updateTransaction call id current (fun _ => true)
      (fun row =>
        { row with
          status := toStatus
          staleFromStatus := none
          staleReason := none
          updatedAt := call.now
          revision := current.revision + 1 })
      toStatus
      (.ok (js "Human operator moved this finding to " ++ toStatus.text ++
        js " on the Findings board. Normal agent transition prerequisites were not required; inspect evidence before relying on this status."))
      (some humanOperator) true)

/-- The statuses of the Findings board. -/
def boardStatuses : List FindingStatus := [.hypothesis, .observed, .reproduced, .verified, .rejected]

def transitionByHuman (env : FindingPlatform) (call : Call) (id : JsString) (expectedRevision : Nat)
    (toStatus : FindingStatus) : Client Database JsString (Option FindingSummary) := do
  if toStatus ∉ boardStatuses then
    Client.check (.error (js "Findings board cannot move a claim to " ++ toStatus.text ++ js "."))
  let current ← get env call.workspaceId id
  let body ← Client.check (transitionByHumanBody call id expectedRevision toStatus current)
  Client.commit body
  get env call.workspaceId id

/-! ## Duplicates -/

/-- The checks of `markDuplicate` on the claim itself: the parent's id. -/
def duplicateParentId (id : JsString) (expectedRevision : Nat) (parentClaimId : JsString)
    (found : Option FindingSummary) : Except JsString (FindingSummary × JsString) := do
  match found with
  | none => .error (notFound id)
  | some current =>
    expectRevision id expectedRevision current
    if truthy current.duplicateOfClaimId then
      .error (js "Research claim " ++ id ++ js " is already marked as a duplicate of " ++
        current.duplicateOfClaimId.getD [] ++ js ".")
    let parentClaimId ← requiredText parentClaimId (js "Canonical parent claim id")
    if parentClaimId = id then
      .error (js "A research claim cannot be marked as a duplicate of itself.")
    .ok (current, parentClaimId)

/-- The checks of `markDuplicate` on the parent, and its transaction. -/
def markDuplicateBody (call : Call) (id : JsString) (reason : JsString) (current : FindingSummary)
    (parentClaimId : JsString) (found : Option FindingSummary) :
    Except JsString (Database → Except JsString Database) := do
  match found with
  | none => .error (js "Canonical parent research claim not found: " ++ parentClaimId ++ js ".")
  | some parent =>
    if parent.workspaceId ≠ current.workspaceId then
      .error (js "Duplicate claims must belong to the same workspace.")
    if parent.subjectId ≠ current.subjectId then
      .error (js "Duplicate claims must belong to the same research subject.")
    if truthy parent.duplicateOfClaimId then
      .error (js "Canonical parent " ++ parentClaimId ++
        js " is itself a duplicate; choose its canonical parent instead.")
    if !current.duplicateClaims.isEmpty then
      .error (js "Research claim " ++ id ++
        js " owns duplicate claims; undo or reassign them before coalescing it.")
    let reason ← requiredText reason (js "Duplicate reason")
    .ok (updateTransaction call id current (fun row => row.duplicateOfClaimId.isNone)
      (fun row =>
        { row with
          duplicateOfClaimId := some parentClaimId
          duplicateMarkedAt := some call.now
          updatedAt := call.now
          revision := current.revision + 1 })
      current.status (.ok reason) call.actorId false)

def markDuplicate (env : FindingPlatform) (call : Call) (id : JsString) (expectedRevision : Nat)
    (parentClaimId reason : JsString) : Client Database JsString (Option FindingSummary) := do
  let current ← get env call.workspaceId id
  let (current, parentClaimId) ← Client.check
    (duplicateParentId id expectedRevision parentClaimId current)
  let parent ← get env call.workspaceId parentClaimId
  let body ← Client.check (markDuplicateBody call id reason current parentClaimId parent)
  Client.commit body
  get env call.workspaceId parentClaimId

/-- The checks of `undoDuplicate`, and its transaction. -/
def undoDuplicateBody (call : Call) (id : JsString) (expectedRevision : Nat) (reason : JsString)
    (found : Option FindingSummary) : Except JsString (Database → Except JsString Database) := do
  match found with
  | none => .error (notFound id)
  | some current =>
    expectRevision id expectedRevision current
    if truthy current.duplicateOfClaimId = false then
      .error (js "Research claim " ++ id ++ js " is not marked as a duplicate.")
    let reason ← requiredText reason (js "Duplicate undo reason")
    .ok (updateTransaction call id current (fun row => row.duplicateOfClaimId.isSome)
      (fun row =>
        { row with
          duplicateOfClaimId := none
          duplicateMarkedAt := none
          updatedAt := call.now
          revision := current.revision + 1 })
      current.status (.ok reason) call.actorId false)

def undoDuplicate (env : FindingPlatform) (call : Call) (id : JsString) (expectedRevision : Nat)
    (reason : JsString) : Client Database JsString (Option FindingSummary) := do
  let current ← get env call.workspaceId id
  let body ← Client.check (undoDuplicateBody call id expectedRevision reason current)
  Client.commit body
  get env call.workspaceId id

/-! ## Revisions -/

/-- The checks of `revise` on the claim: the claim, and its classification. -/
def reviseChecks (id : JsString) (input : ReviseResearchClaimInput) (found : Option FindingSummary) :
    Except JsString (FindingSummary × Classification) := do
  match found with
  | none => .error (notFound id)
  | some current =>
    requireCanonicalClaim current
    expectRevision id input.expectedRevision current
    let classification ← claimClassification (input.classification.getD current.classification.1)
    .ok (current, classification)

/-- The row a revision leads to. -/
def revisedRow (input : ReviseResearchClaimInput) (current : FindingSummary)
    (classification : Classification) (tracking : Option FindingSecurityTracking)
    (title : JsString) (confidence : Rat) (now : JsString) (row : ClaimRow) : ClaimRow :=
  { row with
    title := title
    summary := revisedBody current.summary input.summary
    impact := revisedBody current.impact input.impact
    stepsToReproduce := revisedBody current.stepsToReproduce input.stepsToReproduce
    rating := input.rating.getD current.rating
    confidence := confidence
    classification := if input.classification.isNone then row.classification else classification
    securityTracking := tracking
    surfaceId := input.surfaceId.getD current.surfaceId
    updatedAt := now
    revision := current.revision + 1 }

def revisedTitle (current : JsString) : Option JsString → Except JsString JsString
  | none => .ok current
  | some title => requiredText title (js "Claim title")

def revisedConfidence (current : Rat) : Option Number → Except JsString Rat
  | none => .ok current
  | some value => confidence value

def reviseComponents (id : JsString) (input : ReviseResearchClaimInput) (components : List JsString)
    (db : Database) : Except JsString Database :=
  if input.componentClaimIds.isSome then writeComponents id components db else .ok db

def reviseTransaction (call : Call) (id : JsString) (input : ReviseResearchClaimInput)
    (current : FindingSummary) (classification : Classification) (components : List JsString)
    (tracking : Option FindingSecurityTracking) (db : Database) : Except JsString Database := do
  let title ← revisedTitle current.title input.title
  let confidence ← revisedConfidence current.confidence input.confidence
  let db ← updateClaim id current.revision (fun _ => true)
    (revisedRow input current classification tracking title confidence call.now) db
  let db ← reviseComponents id input components db
  let reason ← requiredText input.reason (js "Revision reason")
  insertTransition id (current.revision + 1)
    { fromStatus := some current.status
      toStatus := current.status
      reason := reason
      sessionId := call.sessionId
      actorId := call.actorId
      evidenceIds := []
      createdAt := call.now
      operatorOverride := false } db

/-- The checks of `revise` after its components, and its transaction. -/
def reviseBody (env : FindingPlatform) (call : Call) (id : JsString)
    (input : ReviseResearchClaimInput) (current : FindingSummary) (classification : Classification)
    (components : List JsString) : Except JsString (Database → Except JsString Database) := do
  if (input.stepsToReproduce.any fun steps => (normalizedText steps).isNone) ∧
      current.status ∈ reproducedOrLater then
    .error (js "Reproduced or later findings require steps to reproduce.")
  let tracking ← revisedFindingSecurityTracking env current classification input.securityTracking
    call.author call.actorId call.now
  .ok (reviseTransaction call id input current classification components tracking)

/-- The components a revision leads to. -/
def revisedComponents (env : FindingPlatform) (call : Call) (id : JsString)
    (input : ReviseResearchClaimInput) (current : FindingSummary) (classification : Classification) :
    Client Database JsString (List JsString) :=
  if input.componentClaimIds.isNone ∧ input.classification.isNone then
    pure current.componentClaimIds
  else
    validatedComponents env call.workspaceId classification
      (input.componentClaimIds.getD current.componentClaimIds) (some id)

def revise (env : FindingPlatform) (call : Call) (id : JsString) (input : ReviseResearchClaimInput) :
    Client Database JsString (Option FindingSummary) := do
  let current ← get env call.workspaceId id
  let (current, classification) ← Client.check (reviseChecks id input current)
  let components ← revisedComponents env call id input current classification
  let body ← Client.check (reviseBody env call id input current classification components)
  Client.commit body
  get env call.workspaceId id

/-! ## Triage packets -/

def isLowerHex (u : UInt16) : Bool := (0x61 ≤ u && u ≤ 0x66) || (0x30 ≤ u && u ≤ 0x39)

/-- `/^sha256:[a-f0-9]{64}$/u`. -/
def isSha256 (text : JsString) : Bool :=
  (js "sha256:").isPrefixOf text && text.length = 71 && (text.drop 7).all isLowerHex

/-- The tracking of a claim that may get a triage packet. -/
def reportableTracking (current : FindingSummary) : Except JsString FindingSecurityTracking :=
  match current.securityTracking with
  | some tracking =>
    if current.status ≠ .verified ∨
        (tracking.reportability.any fun r => r.decision = .reportable) = false then
      .error (js "Triage packets require a verified, reportable security finding.")
    else .ok tracking
  | none => .error (js "Triage packets require a verified, reportable security finding.")

def triagePacket (env : FindingPlatform) (call : Call) (input : TriagePacketInput)
    (current : FindingSummary) : Except JsString TriagePacket := do
  if input.sizeBytes < 1 ∨ input.sizeBytes > 128 * 1024 * 1024 ∨ isSha256 input.contentHash = false then
    .error (js "Triage packet size or content hash is invalid.")
  let artifactId ← requiredText input.artifactId (js "Triage artifact id")
  let contentHash ← requiredText input.contentHash (js "Triage content hash")
  let replayRunId ← requiredText input.replayRunId (js "Triage replay run id")
  .ok
    { artifactId := artifactId
      contentHash := contentHash
      sizeBytes := input.sizeBytes
      claimBindingHash := claimVerificationHash env current
      replayRunId := replayRunId
      verifiedAt := call.now }

/-- The checks of `recordTriagePacket`, and its transaction. -/
def recordTriagePacketBody (env : FindingPlatform) (call : Call) (id : JsString)
    (input : TriagePacketInput) (found : Option FindingSummary) :
    Except JsString (Database → Except JsString Database) := do
  match found with
  | none => .error (notFound id)
  | some current =>
    requireCanonicalClaim current
    if current.revision ≠ input.expectedRevision then
      .error (js "Research claim revision conflict for " ++ id ++ js ".")
    let tracking ← reportableTracking current
    let packet ← triagePacket env call input current
    .ok (updateTransaction call id current (fun row => row.workspaceId = current.workspaceId)
      (fun row =>
        { row with
          securityTracking := some { tracking with triage := ⟨none, some packet⟩ }
          updatedAt := call.now
          revision := current.revision + 1 })
      current.status (requiredText input.reason (js "Triage packet reason")) call.actorId false)

def recordTriagePacket (env : FindingPlatform) (call : Call) (id : JsString)
    (input : TriagePacketInput) : Client Database JsString (Option FindingSummary) := do
  let current ← get env call.workspaceId id
  let body ← Client.check (recordTriagePacketBody env call id input current)
  Client.commit body
  get env call.workspaceId id

/-! ## Calls -/

inductive Operation where
  | create (status : CreationStatus) (input : CreateFindingInput) (surfaceId : Option JsString)
  | transition (id : JsString) (input : TransitionFindingInput) (fresh : Bool)
  | transitionByHuman (id : JsString) (expectedRevision : Nat) (toStatus : FindingStatus)
  | markDuplicate (id : JsString) (expectedRevision : Nat) (parentClaimId reason : JsString)
  | undoDuplicate (id : JsString) (expectedRevision : Nat) (reason : JsString)
  | revise (id : JsString) (input : ReviseResearchClaimInput)
  | recordTriagePacket (id : JsString) (input : TriagePacketInput)

def Operation.program (env : FindingPlatform) (call : Call) :
    Operation → Client Database JsString (Option FindingSummary)
  | .create status input surfaceId => createWithStatus env call status input surfaceId
  | .transition id input fresh => Findings.transition env call fresh id input
  | .transitionByHuman id expectedRevision toStatus =>
    Findings.transitionByHuman env call id expectedRevision toStatus
  | .markDuplicate id expectedRevision parentClaimId reason =>
    Findings.markDuplicate env call id expectedRevision parentClaimId reason
  | .undoDuplicate id expectedRevision reason =>
    Findings.undoDuplicate env call id expectedRevision reason
  | .revise id input => Findings.revise env call id input
  | .recordTriagePacket id input => Findings.recordTriagePacket env call id input

end Beale.Findings
