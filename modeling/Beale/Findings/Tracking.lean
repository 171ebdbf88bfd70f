import Beale.Findings.Reading

/-!
# Updates of the security tracking

`revisedFindingSecurityTracking` and the checks of what it stores: reachability, CVSS
assessments, external references, blockers and reportability.
-/

namespace Beale.Findings

open Beale.Library

/-! ## Input -/

structure ModelAuthor where
  provider : JsString
  model : JsString
deriving DecidableEq, Repr

/-- `reachability` of a `FindingSecurityTrackingUpdate`. -/
structure ReachabilityInput where
  state : ReachabilityState
  conditions : Option JsString
  evidenceIds : Option (List JsString)
  assessedAt : Option JsString
  sourceRevision : Option (Option JsString)
  environmentFingerprint : Option (Option JsString)
deriving DecidableEq, Repr

/-- `cvssAssessment` of a `FindingSecurityTrackingUpdate`. -/
structure CvssInput where
  version : CvssVersion
  vector : JsString
  score : Number
  nomenclature : CvssNomenclature
  assessedAt : Option JsString
  environmentFingerprint : Option JsString
deriving DecidableEq, Repr

/-- `reportability` of a `FindingSecurityTrackingUpdate`. -/
structure ReportabilityInput where
  decision : ReportabilityDecision
  basis : JsString
  policyRefs : List JsString
deriving DecidableEq, Repr

/-- `FindingSecurityTrackingUpdate`: a field is left out, cleared (`some none`), or set. -/
structure SecurityTrackingUpdate where
  reachability : Option ReachabilityInput
  cvssAssessment : Option CvssInput
  affectedAssetIds : Option (List JsString)
  surfaceIds : Option (List JsString)
  progressBlocker : Option (Option JsString)
  reportability : Option (Option ReportabilityInput)
  triageBlocker : Option (Option JsString)
  externalReferences : Option (List ExternalReference)
deriving DecidableEq, Repr

/-! ## Checks -/

def uniqueTrackingStrings (values : List JsString) (label : JsString) :
    Except JsString (List JsString) := do
  let texts ← values.mapM fun value => requiredText value label
  .ok (unique texts)

def isoTimestamp (env : FindingPlatform) (value label : JsString) : Except JsString JsString := do
  let timestamp ← requiredText value label
  if env.isDate timestamp then .ok timestamp else .error (label ++ js " must be an ISO timestamp.")

def revisedReachability (env : FindingPlatform) (current : FindingSummary)
    (input : ReachabilityInput) (assessorId now : JsString) :
    Except JsString ReachabilityAssessment := do
  if input.state = .notAssessed then .ok emptyFindingSecurityTracking.reachability
  else
    let evidenceIds ← uniqueTrackingStrings (input.evidenceIds.getD [])
      (js "Reachability evidence id")
    if evidenceIds.isEmpty then
      .error (js "Assessed reachability requires at least one finding evidence id.")
    let missing := evidenceIds.filter fun id => id ∉ current.evidence.map (·.id)
    if !missing.isEmpty then
      .error (js "Reachability references unknown finding evidence: " ++
        joinWith (js ", ") missing ++ js ".")
    let conditions ← requiredText (input.conditions.getD []) (js "Reachability conditions")
    let assessedAt ← isoTimestamp env (input.assessedAt.getD now)
      (js "Reachability assessment timestamp")
    .ok
      { state := input.state
        conditions := conditions
        evidenceIds := evidenceIds
        assessorId := some assessorId
        assessedAt := some assessedAt
        sourceRevision := match input.sourceRevision with
          | none => current.sourceRevision
          | some value => nullableText value
        environmentFingerprint := match input.environmentFingerprint with
          | none => current.environmentFingerprint
          | some value => nullableText value }

def CvssVersion.text : CvssVersion → JsString
  | .v40 => js "4.0"
  | .v31 => js "3.1"

/-- `requiredMetrics` of a version. -/
def requiredMetrics : CvssVersion → List (JsString × List JsString)
  | .v40 =>
    [(js "AV", [js "N", js "A", js "L", js "P"]), (js "AC", [js "L", js "H"]),
      (js "AT", [js "N", js "P"]), (js "PR", [js "N", js "L", js "H"]),
      (js "UI", [js "N", js "P", js "A"]), (js "VC", [js "H", js "L", js "N"]),
      (js "VI", [js "H", js "L", js "N"]), (js "VA", [js "H", js "L", js "N"]),
      (js "SC", [js "H", js "L", js "N"]), (js "SI", [js "H", js "L", js "N"]),
      (js "SA", [js "H", js "L", js "N"])]
  | .v31 =>
    [(js "AV", [js "N", js "A", js "L", js "P"]), (js "AC", [js "L", js "H"]),
      (js "PR", [js "N", js "L", js "H"]), (js "UI", [js "N", js "R"]), (js "S", [js "U", js "C"]),
      (js "C", [js "H", js "L", js "N"]), (js "I", [js "H", js "L", js "N"]),
      (js "A", [js "H", js "L", js "N"])]

/-- The metrics of the segments of a vector. -/
def cvssMetrics : List JsString → List (JsString × JsString) →
    Except JsString (List (JsString × JsString))
  | [], metrics => .ok metrics
  | segment :: rest, metrics =>
    match segment.splitOn 0x3A with
    | [key, value] =>
      if key.isEmpty || value.isEmpty || key ∈ metrics.map Prod.fst then
        .error (js "CVSS vector contains an invalid or duplicate metric: " ++ segment ++ js ".")
      else cvssMetrics rest (metrics ++ [(key, value)])
    | _ => .error (js "CVSS vector contains an invalid or duplicate metric: " ++ segment ++ js ".")

def validateCvssVector (version : CvssVersion) (vector : JsString) : Except JsString Unit := do
  let metrics ← cvssMetrics ((vector.splitOn 0x2F).drop 1) []
  match (requiredMetrics version).find? fun metric =>
    !((metrics.lookup metric.1).any fun value => value ∈ metric.2) with
  | some metric =>
    .error (js "CVSS " ++ version.text ++ js " vector requires a valid " ++ metric.1 ++
      js " metric.")
  | none => .ok ()

def revisedCvssAssessment (env : FindingPlatform) (input : CvssInput) (assessorId now : JsString) :
    Except JsString CvssAssessment := do
  let vector ← requiredText input.vector (js "CVSS vector")
  if !(js "CVSS:" ++ input.version.text ++ js "/").isPrefixOf vector then
    .error (js "CVSS " ++ input.version.text ++ js " vector must start with CVSS:" ++
      input.version.text ++ js "/.")
  validateCvssVector input.version vector
  let score ← match input.score with
    | .finite score => .ok score
    | .notFinite => .error (js "Expected SQLite numeric value.")
  if score < 0 ∨ score > 10 then .error (js "CVSS score must be between 0 and 10.")
  if input.version = .v31 ∧ input.nomenclature ≠ .v31 then
    .error (js "CVSS 3.1 assessments require CVSS:3.1 nomenclature.")
  if input.version = .v40 ∧ input.nomenclature = .v31 then
    .error (js "CVSS 4.0 assessments require CVSS-B, CVSS-BT, CVSS-BE, or CVSS-BTE nomenclature.")
  let assessorId ← requiredText assessorId (js "CVSS assessor")
  let assessedAt ← isoTimestamp env (input.assessedAt.getD now) (js "CVSS assessment timestamp")
  .ok
    { version := input.version
      vector := vector
      score := score
      nomenclature := input.nomenclature
      assessorId := assessorId
      assessedAt := assessedAt
      environmentFingerprint := nullableText input.environmentFingerprint }

def storedExternalReference (value : ExternalReference) : Except JsString ExternalReference := do
  let kind ← requiredText value.kind (js "External reference kind")
  if !isStableIdentifier kind then
    .error (js "External reference kind must be a lowercase stable identifier.")
  let url := nullableText value.url
  if url.any fun url => !(js "http://").isPrefixOf url && !(js "https://").isPrefixOf url then
    .error (js "External reference URL must use http or https.")
  let identifier ← requiredText value.identifier (js "External reference identifier")
  .ok { kind := kind, identifier := identifier, url := url }

/-! ## The update -/

/-- A blocker that is left as it is, cleared, or set. -/
def revisedBlocker (base : Option Blocker) (update : Option (Option JsString))
    (actorId now label : JsString) : Except JsString (Option Blocker) :=
  match update with
  | none => .ok base
  | some none => .ok none
  | some (some reason) => do
    let reason ← requiredText reason label
    .ok (some { reason := reason, actorId := actorId, setAt := now })

/-- Reportability that is left as it is, cleared, or decided. -/
def revisedReportability (base : Option Reportability) (update : Option (Option ReportabilityInput))
    (actorId now : JsString) : Except JsString (Option Reportability) :=
  match update with
  | none => .ok base
  | some none => .ok none
  | some (some input) => do
    let basis ← requiredText input.basis (js "Reportability basis")
    let policyRefs ← uniqueTrackingStrings input.policyRefs (js "Program policy reference")
    .ok (some
      { decision := input.decision
        basis := basis
        policyRefs := policyRefs
        actorId := actorId
        assessedAt := now })

def revisedStrings (base : List JsString) (update : Option (List JsString)) (label : JsString) :
    Except JsString (List JsString) :=
  match update with
  | none => .ok base
  | some values => uniqueTrackingStrings values label

/-- The actor an update is attributed to. -/
def resolvedActorId (author : Option ModelAuthor) (actorId : Option JsString) : JsString :=
  match nullableText actorId with
  | some actorId => actorId
  | none =>
    match author with
    | some author => js "model:" ++ author.provider ++ js ":" ++ author.model
    | none => js "host"

def revisedFindingSecurityTracking (env : FindingPlatform) (current : FindingSummary)
    (classification : Classification) (update : Option SecurityTrackingUpdate)
    (author : Option ModelAuthor) (actorId : Option JsString) (now : JsString) :
    Except JsString (Option FindingSecurityTracking) := do
  if !securityClassification classification then
    if update.isSome then
      .error (js "Security tracking is only valid for security claim classifications.")
    else .ok none
  else
    let base := current.securityTracking.getD emptyFindingSecurityTracking
    match update with
    | none => .ok (some base)
    | some update =>
      let actorId := resolvedActorId author actorId
      let reachability ← match update.reachability with
        | some input => revisedReachability env current input actorId now
        | none => .ok base.reachability
      let cvssAssessments ← match update.cvssAssessment with
        | some input => do
          let assessment ← revisedCvssAssessment env input actorId now
          .ok (unique (base.cvssAssessments ++ [assessment]))
        | none => .ok base.cvssAssessments
      if (update.progressBlocker.getD none).isSome ∧
          current.status ∉ [FindingStatus.hypothesis, .observed, .reproduced, .stale] then
        .error (js "A progress blocker requires an unresolved finding.")
      if (update.reportability.isSome ∨ update.triageBlocker.isSome) ∧ current.status ≠ .verified then
        .error (js "Reportability and triage decisions require a verified finding.")
      if ((update.reportability.getD none).any fun input => input.decision = .notReportable) &&
          truthy current.reportId then
        .error (js "A finding already bound to a report cannot be marked not reportable.")
      if (update.reportability.getD none).any fun input => input.policyRefs.isEmpty then
        .error (js "Reportability requires at least one program policy reference.")
      let affectedAssetIds ← revisedStrings base.affectedAssetIds update.affectedAssetIds
        (js "Affected asset id")
      let surfaceIds ← revisedStrings base.surfaceIds update.surfaceIds (js "Surface id")
      let progressBlocker ← revisedBlocker base.progressBlocker update.progressBlocker actorId now
        (js "Progress blocker reason")
      let reportability ← revisedReportability base.reportability update.reportability actorId now
      let triageBlocker ← revisedBlocker base.triage.blocker update.triageBlocker actorId now
        (js "Triage blocker reason")
      let externalReferences ← match update.externalReferences with
        | some references => do
          let references ← references.mapM storedExternalReference
          .ok (unique references)
        | none => .ok base.externalReferences
      .ok (some
        { reachability := reachability
          cvssAssessments := cvssAssessments
          affectedAssetIds := affectedAssetIds
          surfaceIds := surfaceIds
          progressBlocker := progressBlocker
          reportability := reportability
          triage :=
            { blocker := triageBlocker
              packet := if update.reportability.isNone then base.triage.packet else none }
          externalReferences := externalReferences })

end Beale.Findings
