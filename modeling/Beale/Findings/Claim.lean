import Mathlib.Data.List.Sort
import Beale.Library.JsMap
import Beale.Library.Json

/-!
# Research claims and their tables

- `FindingStatus`, `EvidenceKind`, `Classification`, …: the vocabularies.
- `FindingSecurityTracking`: what is tracked of a security finding.

The schema is in place: a table that does not exist yet is an empty one. JSON columns hold the
values they are read back as.
-/

namespace Beale.Findings

open Beale.Library

/-! ## Texts -/

/-- `normalizedText(value)`: `null` for a blank text. -/
def normalizedText (value : JsString) : Option JsString :=
  let text := trim value
  if text.isEmpty then none else some text

def nullableText (value : Option JsString) : Option JsString := value.bind normalizedText

def requiredText (value label : JsString) : Except JsString JsString :=
  match normalizedText value with
  | some text => .ok text
  | none => .error (label ++ js " must be a non-empty string.")

/-- `Boolean(value)` of a text or `null`. -/
def truthy (value : Option JsString) : Bool := value.any fun text => !text.isEmpty

/-- The texts of a `Set` of them, in insertion order. -/
def unique {α : Type} [DecidableEq α] (values : List α) : List α :=
  values.foldl (fun seen value => if value ∈ seen then seen else seen ++ [value]) []

def isLowerOrDigit (u : UInt16) : Bool := (0x61 ≤ u && u ≤ 0x7A) || (0x30 ≤ u && u ≤ 0x39)

/-- The rest of a stable identifier; `true` after a letter or a digit. -/
def isStableRest : Bool → JsString → Bool
  | word, [] => word
  | word, u :: rest =>
    if isLowerOrDigit u then isStableRest true rest
    else (u = 0x2E || u = 0x5F || u = 0x2D) && word && isStableRest false rest

/-- `/^[a-z0-9]+(?:[._-][a-z0-9]+)*$/u`. -/
def isStableIdentifier (text : JsString) : Bool := isStableRest false text

/-! ## Vocabularies -/

inductive FindingStatus where
  | hypothesis
  | observed
  | reproduced
  | verified
  | reportReady
  | disclosed
  | stale
  | rejected
deriving DecidableEq, Repr

def FindingStatus.text : FindingStatus → JsString
  | .hypothesis => js "hypothesis"
  | .observed => js "observed"
  | .reproduced => js "reproduced"
  | .verified => js "verified"
  | .reportReady => js "report_ready"
  | .disclosed => js "disclosed"
  | .stale => js "stale"
  | .rejected => js "rejected"

def allowedTransitions : FindingStatus → List FindingStatus
  | .hypothesis => [.observed, .rejected]
  | .observed => [.reproduced, .stale, .rejected]
  | .reproduced => [.verified, .stale, .rejected]
  | .verified => [.reportReady, .stale, .rejected]
  | .reportReady => [.disclosed, .stale, .rejected]
  | .disclosed => [.stale]
  | .stale => [.observed, .reproduced, .verified, .reportReady, .rejected]
  | .rejected => [.hypothesis]

inductive EvidenceKind where
  | code
  | artifact
  | command
  | url
  | calculation
  | proof
  | publication
  | humanReview
  | runbookExecution
  | independentVerification
  | report
  | disclosure
deriving DecidableEq, Repr

def directObservationKinds : List EvidenceKind :=
  [.code, .artifact, .command, .url, .calculation, .proof, .publication]

def reviewKinds : List EvidenceKind := [.independentVerification, .humanReview, .proof]

inductive Rating where
  | informational
  | low
  | medium
  | high
  | critical
deriving DecidableEq, Repr

inductive Projection where
  | lead
  | finding
deriving DecidableEq, Repr

/-- A number that may be `NaN` or infinite. -/
inductive Number where
  | finite (value : Rat)
  | notFinite
deriving DecidableEq, Repr

def confidence : Number → Except JsString Rat
  | .finite value =>
    if value < 0 ∨ value > 1 then .error (js "Finding confidence must be between 0 and 1.")
    else .ok value
  | .notFinite => .error (js "Finding confidence must be between 0 and 1.")

/-- A classification: a lowercase stable identifier. -/
abbrev Classification := { text : JsString // isStableIdentifier text = true }

def claimClassification (value : JsString) : Except JsString Classification :=
  match normalizedText value with
  | some text =>
    if h : isStableIdentifier text = true then .ok ⟨text, h⟩
    else .error (js "Research claim classification must be a lowercase stable identifier.")
  | none => .error (js "Research claim classification must be a lowercase stable identifier.")

theorem isStableRest_no_whitespace {word : Bool} {text : JsString} (h : isStableRest word text = true) :
    ∀ u ∈ text, isWhitespace u = false := by
  induction text generalizing word with
  | nil => simp
  | cons u rest ih =>
    intro v hv
    unfold isStableRest at h
    rcases List.mem_cons.mp hv with rfl | hv
    · -- no white space is a letter, a digit or a separator
      have hwhite : ∀ v, isWhitespace v = true → isLowerOrDigit v = false ∧
          (v = 0x2E || v = 0x5F || v = 0x2D) = false := by
        intro v hv
        unfold isWhitespace at hv
        rw [List.contains_iff_mem] at hv
        revert v
        exact List.forall_iff_forall_mem.mp (by decide)
      by_contra hnot
      obtain ⟨hletter, hsep⟩ := hwhite v (by simpa using hnot)
      simp [hletter, hsep] at h
    · split at h
      next => exact ih h v hv
      next =>
        simp only [Bool.and_eq_true] at h
        exact ih h.2 v hv

theorem claimClassification_self (classification : Classification) :
    claimClassification classification.1 = .ok classification := by
  obtain ⟨text, htext⟩ := classification
  have htrim : trim text = text := trim_of_no_whitespace (isStableRest_no_whitespace htext)
  have hne : text.isEmpty = false := by
    cases text with
    | nil => cases htext
    | cons u rest => rfl
  have hnorm : normalizedText text = some text := by
    unfold normalizedText
    simp [htrim, hne]
  unfold claimClassification
  rw [hnorm]
  exact dif_pos htext

def securityChain : Classification := ⟨js "security.chain", by decide⟩

def securityClassification (classification : Classification) : Bool :=
  classification.1 = js "security" || (js "security.").isPrefixOf classification.1

/-! ## Security tracking -/

inductive ReachabilityState where
  | notAssessed
  | unreachable
  | conditional
  | reachable
deriving DecidableEq, Repr

def ReachabilityState.text : ReachabilityState → JsString
  | .notAssessed => js "not_assessed"
  | .unreachable => js "unreachable"
  | .conditional => js "conditional"
  | .reachable => js "reachable"

structure ReachabilityAssessment where
  state : ReachabilityState
  conditions : JsString
  evidenceIds : List JsString
  assessorId : Option JsString
  assessedAt : Option JsString
  sourceRevision : Option JsString
  environmentFingerprint : Option JsString
deriving DecidableEq, Repr

inductive CvssVersion where
  | v40
  | v31
deriving DecidableEq, Repr

inductive CvssNomenclature where
  | b
  | bt
  | be
  | bte
  | v31
deriving DecidableEq, Repr

structure CvssAssessment where
  version : CvssVersion
  vector : JsString
  score : Rat
  nomenclature : CvssNomenclature
  assessorId : JsString
  assessedAt : JsString
  environmentFingerprint : Option JsString
deriving DecidableEq, Repr

structure ExternalReference where
  kind : JsString
  identifier : JsString
  url : Option JsString
deriving DecidableEq, Repr

/-- A progress blocker, or a blocker of triage. -/
structure Blocker where
  reason : JsString
  actorId : JsString
  setAt : JsString
deriving DecidableEq, Repr

inductive ReportabilityDecision where
  | reportable
  | notReportable
deriving DecidableEq, Repr

structure Reportability where
  decision : ReportabilityDecision
  basis : JsString
  policyRefs : List JsString
  actorId : JsString
  assessedAt : JsString
deriving DecidableEq, Repr

structure TriagePacket where
  artifactId : JsString
  contentHash : JsString
  sizeBytes : Nat
  claimBindingHash : JsString
  replayRunId : JsString
  verifiedAt : JsString
deriving DecidableEq, Repr

structure Triage where
  blocker : Option Blocker
  packet : Option TriagePacket
deriving DecidableEq, Repr

structure FindingSecurityTracking where
  reachability : ReachabilityAssessment
  cvssAssessments : List CvssAssessment
  affectedAssetIds : List JsString
  surfaceIds : List JsString
  progressBlocker : Option Blocker
  reportability : Option Reportability
  triage : Triage
  externalReferences : List ExternalReference
deriving DecidableEq, Repr

def emptyFindingSecurityTracking : FindingSecurityTracking where
  reachability := ⟨.notAssessed, [], [], none, none, none, none⟩
  cvssAssessments := []
  affectedAssetIds := []
  surfaceIds := []
  progressBlocker := none
  reportability := none
  triage := ⟨none, none⟩
  externalReferences := []

/-! ## Tables -/

/-- A row of `app_server_research_claims`, beside its id. -/
structure ClaimRow where
  workspaceId : JsString
  subjectId : JsString
  memoryNodeId : Option JsString
  originSessionId : Option JsString
  surfaceId : Option JsString
  classification : Classification
  title : JsString
  summary : JsString
  impact : JsString
  stepsToReproduce : JsString
  rating : Rating
  status : FindingStatus
  staleFromStatus : Option FindingStatus
  confidence : Rat
  sourceRevision : Option JsString
  environmentFingerprint : Option JsString
  reproductionRunbookId : Option JsString
  reportId : Option JsString
  disclosureReference : Option JsString
  staleReason : Option JsString
  securityTracking : Option FindingSecurityTracking
  duplicateOfClaimId : Option JsString
  duplicateMarkedAt : Option JsString
  createdAt : JsString
  updatedAt : JsString
  revision : Nat
deriving DecidableEq, Repr

/-- The members of an evidence item's `metadata`. -/
abbrev Metadata := List (JsString × Json)

/-- A row of `app_server_claim_evidence`, beside its id. -/
structure EvidenceRow where
  claimId : JsString
  kind : EvidenceKind
  referenceId : Option JsString
  contentHash : Option JsString
  summary : JsString
  sessionId : Option JsString
  actorId : Option JsString
  independent : Bool
  claimBindingHash : Option JsString
  metadata : Metadata
  createdAt : JsString
deriving Repr

/-- A row of `app_server_claim_transitions`, beside the claim and its revision. -/
structure TransitionRow where
  fromStatus : Option FindingStatus
  toStatus : FindingStatus
  reason : JsString
  sessionId : Option JsString
  actorId : Option JsString
  evidenceIds : List JsString
  createdAt : JsString
  operatorOverride : Bool
deriving DecidableEq, Repr

/-- A row of `app_server_runbooks`. -/
structure RunbookRow where
  id : JsString
  workspaceId : JsString
  duplicateOfRunbookId : Option JsString
  contentRevision : Nat
deriving DecidableEq, Repr

/-- A row of `app_server_runbook_executions`. -/
structure ExecutionRow where
  runId : JsString
  runbookId : JsString
  workspaceId : JsString
  status : JsString
  fullRun : Bool
  contentRevision : Nat
  contentHash : Option JsString
  selectedCellCount : Nat
  completedCellCount : Nat
  sourceRevision : Option JsString
  environmentFingerprint : Option JsString
  requiredCellIds : List JsString
deriving DecidableEq, Repr

/-- A row of `app_server_runbook_cell_executions`. -/
structure CellRow where
  runId : JsString
  cellId : JsString
  status : Option JsString
  exitCode : Option Int
deriving DecidableEq, Repr

/-- A row of `app_server_reports`. -/
structure ReportRow where
  id : JsString
  workspaceId : JsString
deriving DecidableEq, Repr

/-- What the runbook and report stores hold. -/
structure Records where
  runbooks : List RunbookRow
  executions : List ExecutionRow
  cells : List CellRow
  reports : List ReportRow
deriving DecidableEq, Repr

/-- The database. The `rowid` of a claim is its place in `claims`; the components of a claim
stand in the order of their positions. -/
structure Database where
  claims : JsMap JsString ClaimRow
  evidence : JsMap JsString EvidenceRow
  transitions : JsMap (JsString × Nat) TransitionRow
  components : JsMap JsString (List JsString)
  records : Records

namespace Database

def empty : Database := ⟨.empty, .empty, .empty, .empty, ⟨[], [], [], []⟩⟩

def claimIn (db : Database) (workspaceId id : JsString) : Option ClaimRow :=
  (db.claims.get? id).filter fun row => row.workspaceId = workspaceId

/-- The evidence of a claim, `ORDER BY created_at, id`. -/
def evidenceOf (db : Database) (id : JsString) : List (JsString × EvidenceRow) :=
  (db.evidence.entries.filter fun item => item.2.claimId = id).insertionSort fun a b =>
    a.2.createdAt < b.2.createdAt ∨ (a.2.createdAt = b.2.createdAt ∧ a.1 ≤ b.1)

def componentsOf (db : Database) (id : JsString) : List JsString := (db.components.get? id).getD []

def duplicatesOf (db : Database) (workspaceId id : JsString) : List JsString :=
  (db.claims.entries.filter fun item =>
    item.2.workspaceId = workspaceId ∧ item.2.duplicateOfClaimId = some id).map Prod.fst

end Database

end Beale.Findings
