import Beale.Findings.Claim
import Beale.Library.Client

/-!
# Reading claims

A claim as `readFindings` gives it, with all its evidence or with the compact evidence
of the catalog, and what counts as proof and as review.
-/

namespace Beale.Findings

open Beale.Library

/-- `lower(text)` of SQLite: of ASCII letters only. -/
def asciiLower (text : JsString) : JsString :=
  text.map fun u => if 0x41 ≤ u ∧ u ≤ 0x5A then u + 0x20 else u

/-- What the store takes from outside. -/
structure FindingPlatform where
  /-- `createHash("sha256").update(text).digest("hex")` -/
  sha256 : JsString → JsString
  /-- `text.toLowerCase()` -/
  toLowerCase : JsString → JsString
  /-- of ASCII texts `toLowerCase` changes the letters only -/
  toLowerCase_ascii : ∀ text, (∀ u ∈ text, u < 0x80) → toLowerCase text = asciiLower text
  /-- `Number.isFinite(Date.parse(text))` -/
  isDate : JsString → Bool

/-! ## Summaries -/

/-- A `FindingEvidenceSummary`. -/
structure FindingEvidence extends EvidenceRow where
  id : JsString
  validated : Option Bool

/-- A `FindingSummary`. Of the duplicates it names the ids. -/
structure FindingSummary extends ClaimRow where
  id : JsString
  projection : Projection
  componentClaimIds : List JsString
  duplicateClaims : List JsString
  evidence : List FindingEvidence

def claimProjection (status : FindingStatus) (staleFromStatus : Option FindingStatus)
    (evidenceCount : Nat) : Projection :=
  let effective := if status = .stale then staleFromStatus.getD .observed else status
  if effective = .hypothesis ∨ (effective = .rejected ∧ evidenceCount = 0) then .lead else .finding

def findingSecurityTracking (value : Option FindingSecurityTracking)
    (classification : Classification) : Option FindingSecurityTracking :=
  if securityClassification classification then some (value.getD emptyFindingSecurityTracking)
  else none

def summaryOf (id : JsString) (row : ClaimRow) (evidenceCount : Nat)
    (evidence : List FindingEvidence) (components duplicates : List JsString) : FindingSummary :=
  { row with
    id := id
    projection := claimProjection row.status row.staleFromStatus evidenceCount
    componentClaimIds := components
    duplicateClaims := duplicates
    securityTracking := findingSecurityTracking row.securityTracking row.classification
    evidence := evidence }

def requireCanonicalClaim (claim : FindingSummary) : Except JsString Unit :=
  match claim.duplicateOfClaimId with
  | some parent =>
    if parent.isEmpty then .ok ()
    else .error (js "Research claim " ++ claim.id ++ js " is a duplicate; use canonical parent " ++
      parent ++ js ".")
  | none => .ok ()

/-! ## Content -/

/-- A text or `null`. -/
def jsonText : Option JsString → Json
  | some text => .str text
  | none => .null

/-- The object a verification hash is of. Its members are in the order of their names. -/
def verifiedContent (claim : FindingSummary) (components : Option (List JsString)) : Json :=
  .obj ([(js "classification", .str claim.classification.1)] ++
    (match components with
      | some ids => [(js "componentClaimIds", .arr (ids.map .str))]
      | none => []) ++
    [(js "environmentFingerprint", jsonText claim.environmentFingerprint),
      (js "id", .str claim.id), (js "impact", .str claim.impact),
      (js "reproductionRunbookId", jsonText claim.reproductionRunbookId),
      (js "sourceRevision", jsonText claim.sourceRevision)] ++
    (if claim.stepsToReproduce.isEmpty then []
      else [(js "stepsToReproduce", .str claim.stepsToReproduce)]) ++
    [(js "summary", .str claim.summary), (js "title", .str claim.title)])

def claimVerificationHash (env : FindingPlatform) (claim : FindingSummary) : JsString :=
  js "sha256:" ++ env.sha256 (stringify (verifiedContent claim
    (if claim.classification = securityChain then some claim.componentClaimIds else none)))

/-- `legacyClaimVerificationHash(database, claim)`. The classification is the stored one. -/
def legacyClaimVerificationHash (env : FindingPlatform) (db : Database) (claim : FindingSummary) :
    JsString :=
  let stored := match db.claims.get? claim.id with
    | some row => row.classification
    | none => claim.classification
  js "sha256:" ++ env.sha256 (stringify (verifiedContent { claim with classification := stored }
    (some (db.componentsOf claim.id))))

/-! ## Evidence -/

def successfulRunbookExecutionExists (records : Records) (claim : FindingSummary)
    (runId : JsString) : Bool :=
  truthy claim.reproductionRunbookId && truthy claim.sourceRevision &&
    truthy claim.environmentFingerprint &&
    records.executions.any fun run =>
      run.workspaceId = claim.workspaceId && claim.reproductionRunbookId = some run.runbookId &&
        run.runId = runId && run.status = js "succeeded" && run.fullRun &&
        run.contentHash.isSome && 0 < run.selectedCellCount &&
        run.selectedCellCount = run.completedCellCount &&
        run.sourceRevision = claim.sourceRevision &&
        run.environmentFingerprint = claim.environmentFingerprint &&
        records.runbooks.any (fun book =>
          book.id = run.runbookId && book.workspaceId = run.workspaceId &&
            book.duplicateOfRunbookId.isNone && book.contentRevision = run.contentRevision) &&
        run.requiredCellIds.all fun cellId =>
          let cells := records.cells.filter fun cell => cell.runId = run.runId ∧ cell.cellId = cellId
          !cells.isEmpty &&
            cells.all fun cell => cell.status = some (js "succeeded") ∧ cell.exitCode = some 0

def validReproductionEvidence (db : Database) (claim : FindingSummary) (evidence : FindingEvidence) :
    Bool :=
  evidence.kind = .runbookExecution && truthy evidence.referenceId &&
    evidence.referenceId.any (successfulRunbookExecutionExists db.records claim)

def Metadata.text (metadata : Metadata) (key : JsString) : Option JsString :=
  (metadata.lookup key).bind Json.asString?

/-- The revision of the first transition of a claim that recorded a piece of evidence. -/
def recordedAt (db : Database) (claimId evidenceId : JsString) : Option Nat :=
  ((db.transitions.entries.filter fun item =>
    item.1.1 = claimId ∧ evidenceId ∈ item.2.evidenceIds).map fun item => item.1.2).min?

/-- Whether the author query of `validIndependentEvidence` counts a transition as authorship. -/
def countsAsAuthorship (revision : Nat) (row : TransitionRow) : Bool :=
  revision = 1 ||
    (row.fromStatus ≠ some row.toStatus && (row.toStatus = .observed || row.toStatus = .reproduced)) ||
    (row.fromStatus = some row.toStatus && row.evidenceIds.isEmpty)

def authorsBefore (db : Database) (claimId : JsString) (revision : Nat) : List TransitionRow :=
  (db.transitions.entries.filter fun item =>
    item.1.1 = claimId ∧ item.1.2 < revision ∧ countsAsAuthorship item.1.2 item.2 = true).map Prod.snd

def validIndependentEvidence (env : FindingPlatform) (db : Database) (claim : FindingSummary)
    (evidence : FindingEvidence) : Bool :=
  evidence.independent && evidence.kind ∈ reviewKinds &&
    truthy evidence.actorId && truthy evidence.sessionId && truthy evidence.referenceId &&
    evidence.metadata.text (js "verificationContext") ≠ some (js "unqualified") &&
    (evidence.claimBindingHash = some (claimVerificationHash env claim) ||
      evidence.claimBindingHash = some (legacyClaimVerificationHash env db claim)) &&
    evidence.referenceId.any (successfulRunbookExecutionExists db.records claim) &&
    let authors := authorsBefore db claim.id
      ((recordedAt db claim.id evidence.id).getD (claim.revision + 1))
    !authors.isEmpty &&
      authors.all fun author => author.actorId.isSome && author.actorId ≠ evidence.actorId

/-- What `readFindings` notes on a piece of evidence. -/
def validatedEvidence (env : FindingPlatform) (db : Database) (claim : FindingSummary)
    (item : FindingEvidence) : FindingEvidence :=
  if item.kind = .runbookExecution then
    { item with validated := some (validReproductionEvidence db claim item) }
  else if item.independent ∧ item.kind ∈ reviewKinds then
    { item with validated := some (validIndependentEvidence env db claim item) }
  else item

/-- The validation pass of `readFindings`. -/
def validated (env : FindingPlatform) (db : Database) (claim : FindingSummary) : FindingSummary :=
  { claim with evidence := claim.evidence.map (validatedEvidence env db claim) }

/-! ## Controls -/

inductive Control where
  | positive
  | negative
deriving DecidableEq, Repr

def Control.text : Control → JsString
  | .positive => js "positive"
  | .negative => js "negative"

/-- The control a text names, or else the one a summary mentions. -/
def controlOf (control : Option JsString) (summary : JsString) : Option Control :=
  if control = some (js "positive") then some .positive
  else if control = some (js "negative") then some .negative
  else if js "positive control" <:+: summary then some .positive
  else if js "negative control" <:+: summary then some .negative
  else none

def evidenceControl (env : FindingPlatform) (evidence : FindingEvidence) : Option Control :=
  controlOf (((evidence.metadata.text (js "control")).bind normalizedText).map env.toLowerCase)
    (env.toLowerCase evidence.summary)

/-- `trim(text, char(9) || char(10) || char(13) || ' ')` of SQLite. -/
def sqlTrim (text : JsString) : JsString :=
  let isBlank : UInt16 → Bool := fun u => u = 9 || u = 10 || u = 13 || u = 32
  (text.dropWhile isBlank).rdropWhile isBlank

/-- `EVIDENCE_CONTROL_SQL`. A control that is no text is none of the two words. -/
def evidenceControlSql (evidence : EvidenceRow) : Option Control :=
  controlOf ((evidence.metadata.text (js "control")).map fun text => asciiLower (sqlTrim text))
    (asciiLower evidence.summary)

/-- `json_object('control', …)`. -/
def controlMetadata : Option Control → Metadata
  | some control => [(js "control", .str control.text)]
  | none => [(js "control", .null)]

/-! ## Checklists -/

/-- `CandidateCompletionTarget`. -/
inductive CompletionTarget where
  | observed
  | reproduced
  | verified
  | reportReady
deriving DecidableEq, Repr

def CompletionTarget.rank : CompletionTarget → Nat
  | .observed => 1
  | .reproduced => 2
  | .verified => 3
  | .reportReady => 4

inductive ItemStatus where
  | complete
  | missing
  | recommendedMissing
deriving DecidableEq, Repr

structure ChecklistItem where
  key : JsString
  label : JsString
  required : Bool
  status : ItemStatus
  detail : JsString
deriving DecidableEq, Repr

structure CompletionChecklist where
  claimId : JsString
  targetStatus : CompletionTarget
  ready : Bool
  completedRequired : Nat
  requiredCount : Nat
  missingRequired : List JsString
  items : List ChecklistItem
deriving DecidableEq, Repr

/-- `item(key, label, complete, required, completeDetail, missingDetail)`. -/
def checklistItem (key label : JsString) (complete required : Bool)
    (completeDetail missingDetail : JsString) : ChecklistItem where
  key := key
  label := label
  required := required
  status := if complete then .complete else if required then .missing else .recommendedMissing
  detail := if complete then completeDetail else missingDetail

def isDirectEvidence (evidence : EvidenceRow) : Bool :=
  evidence.kind ∈ directObservationKinds &&
    (truthy evidence.referenceId || truthy evidence.contentHash)

/-- `/(?:cve|ghsa|osv|advis|bulletin|prior[_ -]?art|security[_ -]?history)/i`. -/
def isPriorArtKind (kind : JsString) : Bool :=
  [js "cve", js "ghsa", js "osv", js "advis", js "bulletin", js "priorart", js "prior_art",
    js "prior art", js "prior-art", js "securityhistory", js "security_history",
    js "security history", js "security-history"].any fun word => word <:+: asciiLower kind

/-- What a checklist asks of the evidence. -/
structure EvidenceFacts where
  direct : Bool
  reproduction : Bool
  independent : Bool
  positive : Bool
  negative : Bool
deriving DecidableEq, Repr

def evidenceFacts (env : FindingPlatform) (claim : FindingSummary) : EvidenceFacts where
  direct := claim.evidence.any fun item => isDirectEvidence item.toEvidenceRow
  reproduction := truthy claim.reproductionRunbookId &&
    claim.evidence.any fun item => item.kind = .runbookExecution && item.validated = some true
  independent := claim.evidence.any fun item =>
    item.independent && item.kind ∈ reviewKinds && item.validated = some true
  positive := claim.evidence.any fun item => evidenceControl env item = some .positive
  negative := claim.evidence.any fun item => evidenceControl env item = some .negative

def checklistItems (claim : FindingSummary) (facts : EvidenceFacts) (rank : Nat) :
    List ChecklistItem :=
  let tracking := claim.securityTracking
  [checklistItem (js "summary") (js "Candidate summary") (!isBlank claim.summary) true
      (js "A concise claim summary is recorded.")
      (js "Record the violated property and concrete observed behavior."),
    checklistItem (js "direct_evidence") (js "Direct observation evidence") facts.direct (1 ≤ rank)
      (js "Direct source, artifact, command, URL, calculation, proof, or publication evidence is linked.")
      (js "Link durable direct evidence before treating the lead as observed."),
    checklistItem (js "source_revision") (js "Source revision") (truthy claim.sourceRevision)
      (1 ≤ rank) (js "Bound to " ++ claim.sourceRevision.getD [] ++ js ".")
      (js "Record the exact inspected source revision."),
    checklistItem (js "environment") (js "Environment fingerprint")
      (truthy claim.environmentFingerprint) (2 ≤ rank)
      (js "The reproduction environment is fingerprinted.")
      (js "Record the runtime or verifier environment used for reproduction."),
    checklistItem (js "impact") (js "Assessed impact") (!isBlank claim.impact) (2 ≤ rank)
      (js "Impact is recorded.")
      (js "Record demonstrated impact separately from plausible downstream impact."),
    checklistItem (js "reproduction") (js "Reproduction runbook") facts.reproduction (2 ≤ rank)
      (js "A reproduction runbook and execution evidence are linked.")
      (js "Link a successful runbook execution and reproductionRunbookId."),
    checklistItem (js "steps_to_reproduce") (js "Steps to reproduce")
      (!isBlank claim.stepsToReproduce) (2 ≤ rank)
      (js "Reproduction steps are recorded for verification and reporting.")
      (js "Record concrete steps another researcher can follow to reproduce the finding."),
    checklistItem (js "positive_control") (js "Positive control") facts.positive false
      (js "Evidence identifies a positive control.")
      (js "Recommended: mark evidence metadata.control=positive for the triggering case."),
    checklistItem (js "negative_control") (js "Negative control") facts.negative false
      (js "Evidence identifies a negative control.")
      (js "Recommended: mark evidence metadata.control=negative for the nearest non-triggering case."),
    checklistItem (js "reachability") (js "Reachability assessment")
      (tracking.any fun t => t.reachability.state ≠ .notAssessed) (3 ≤ rank)
      (match tracking with
        | some t => js "Reachability is " ++ t.reachability.state.text ++ js "."
        | none => js "Reachability is assessed.")
      (js "Record reachable, conditional, or unreachable with evidence and conditions."),
    checklistItem (js "affected_assets") (js "Affected assets")
      (tracking.any fun t => !t.affectedAssetIds.isEmpty) (3 ≤ rank)
      (js "Affected assets are identified.")
      (js "Identify the affected shipping components or assets."),
    checklistItem (js "cvss") (js "Assessed CVSS") (tracking.any fun t => !t.cvssAssessments.isEmpty)
      (3 ≤ rank) (js "A versioned CVSS assessment is recorded.")
      (js "Record an assessed CVSS vector, score, version, and nomenclature."),
    checklistItem (js "prior_art") (js "Prior-art disposition")
      (tracking.any fun t => t.externalReferences.any fun reference => isPriorArtKind reference.kind)
      (3 ≤ rank) (js "A public prior-art match or explicit no-match search is recorded.")
      (js "Record matched advisories or a prior_art_search external reference documenting the no-match query and date."),
    checklistItem (js "independent_verification") (js "Independent verification") facts.independent
      (3 ≤ rank) (js "Independent evidence is linked.")
      (js "Link durable evidence from a distinct reviewer subagent spawned without inherited history; it may use the same provider and model.")]

def candidateCompletionChecklist (env : FindingPlatform) (claim : FindingSummary)
    (targetStatus : CompletionTarget) : CompletionChecklist :=
  let items := checklistItems claim (evidenceFacts env claim) targetStatus.rank
  let required := items.filter (·.required)
  let missingRequired := (required.filter (·.status ≠ .complete)).map (·.key)
  { claimId := claim.id
    targetStatus := targetStatus
    ready := missingRequired.isEmpty
    completedRequired := required.length - missingRequired.length
    requiredCount := required.length
    missingRequired := missingRequired
    items := items }

/-! ## Reads -/

def fullEvidence (item : JsString × EvidenceRow) : FindingEvidence :=
  { item.2 with id := item.1, validated := none }

def compactEvidence (item : JsString × EvidenceRow) : FindingEvidence :=
  { item.2 with
    id := item.1
    validated := none
    summary := []
    metadata := controlMetadata (evidenceControlSql item.2) }

/-- The rows whose id has not been seen before. -/
def uniqueById {α : Type} (rows : List (JsString × α)) : List (JsString × α) :=
  rows.foldl (fun seen row => if row.1 ∈ seen.map Prod.fst then seen else seen ++ [row]) []

/-- `compactEvidenceRows(database, claimId, columns)`: a witness of each kind, the runbook
executions and the reviews. -/
def compactEvidenceRows (rows : List (JsString × EvidenceRow)) : List (JsString × EvidenceRow) :=
  uniqueById
    ((rows.find? fun item => isDirectEvidence item.2).toList ++
      (rows.find? fun item => evidenceControlSql item.2 = some .positive).toList ++
      (rows.find? fun item => evidenceControlSql item.2 = some .negative).toList ++
      rows.filter fun item => item.2.kind = .runbookExecution ∨ item.2.independent = true)

/-- `groupedEvidence(…)` of one claim. -/
def groupedEvidence (db : Database) (id : JsString) (compact : Bool) : List FindingEvidence :=
  if compact then (compactEvidenceRows (db.evidenceOf id)).map compactEvidence
  else (db.evidenceOf id).map fullEvidence

/-- What the statements of `readFindings` give of a row. -/
def readRow (env : FindingPlatform) (db : Database) (id : JsString) (row : ClaimRow)
    (compact : Bool) : FindingSummary :=
  validated env db (summaryOf id row (db.evidenceOf id).length (groupedEvidence db id compact)
    (db.componentsOf id) (db.duplicatesOf row.workspaceId id))

/-- `readFindings(database, workspaceId, id, { compactEvidence })`. -/
def readFinding (env : FindingPlatform) (db : Database) (workspaceId id : JsString)
    (compact : Bool) : Option FindingSummary :=
  (db.claimIn workspaceId id).map fun row => readRow env db id row compact

/-- `readFindings(database, workspaceId)`. The rows are ordered by the time of their update. -/
def readFindings (env : FindingPlatform) (db : Database) (workspaceId : JsString) :
    List FindingSummary :=
  ((db.claims.entries.filter fun item => item.2.workspaceId = workspaceId).insertionSort fun a b =>
    b.2.updatedAt < a.2.updatedAt ∨ (a.2.updatedAt = b.2.updatedAt ∧ a.1 ≤ b.1)).map
      fun item => readRow env db item.1 item.2 false

/-- `get(id)`. Its statements are reads of their own. -/
def get (env : FindingPlatform) (workspaceId id : JsString) :
    Client Database JsString (Option FindingSummary) := do
  let found ← Client.query fun db =>
    (db.claimIn workspaceId id).map fun row => (row, (db.evidenceOf id).length)
  match found with
  | none => pure none
  | some (row, evidenceCount) =>
    let evidence ← Client.query fun db => groupedEvidence db id false
    let components ← Client.query fun db => db.componentsOf id
    let duplicates ← Client.query fun db => db.duplicatesOf row.workspaceId id
    Client.query fun db =>
      some (validated env db (summaryOf id row evidenceCount evidence components duplicates))

end Beale.Findings
