import Beale.Findings.Reading
import Beale.Library.IsoDate

/-!
# The track funnel

The durable queue of a track's workers: which claims a role may be given, and which of
them a reservation takes.
-/

namespace Beale.Track

open Beale.Library Beale.Findings

/-! ## Tables -/

inductive TrackWorkerRole where
  | investigator
  | chainAnalyst
  | triager
  | reporter
deriving DecidableEq, Repr

/-- A row of `app_server_track_worker_attempts`, beside its role and claim. -/
structure AttemptRow where
  claimRevision : Nat
  attemptsOnRevision : Nat
  nextEligibleAt : Option JsString
  activeSessionId : Option JsString
  assignedEpoch : Int
  assignedAt : JsString
deriving DecidableEq, Repr

/-- A row of `app_server_track_worker_epoch_cutoffs`, beside its session. -/
structure CutoffRow where
  epoch : Int
  claimRowidCutoff : Nat
deriving DecidableEq, Repr

abbrev AttemptKey := TrackWorkerRole × JsString

abbrev Attempts := JsMap (TrackWorkerRole × JsString) AttemptRow

/-- The rows of one workspace: every statement of the store names it. -/
structure FunnelTables where
  attempts : Attempts
  cutoffs : JsMap JsString CutoffRow

/-- Tables without rows. -/
def FunnelTables.empty : FunnelTables := ⟨.empty, .empty⟩

/-- What the funnel takes from outside. -/
structure TrackPlatform extends FindingPlatform where
  /-- `left.localeCompare(right)` -/
  localeCompare : JsString → JsString → Int

/-! ## Pools -/

abbrev Pools := TrackWorkerRole → List FindingSummary

def eligible (attempts : Attempts) (now : JsString) (role : TrackWorkerRole)
    (claim : FindingSummary) : Bool :=
  match attempts.get? (role, claim.id) with
  | none => true
  | some attempt =>
    if truthy attempt.activeSessionId then false
    else if attempt.claimRevision ≠ claim.revision then true
    else if role = .chainAnalyst ∧ 2 ≤ attempt.attemptsOnRevision then false
    else match attempt.nextEligibleAt with
      | none => true
      | some at' => at'.isEmpty || at' ≤ now

def unresolved (claim : FindingSummary) : Bool :=
  claim.status ∈ [FindingStatus.hypothesis, .observed, .reproduced, .stale]

def unblocked (claim : FindingSummary) : Bool :=
  (claim.securityTracking.bind (·.progressBlocker)).isNone

/-- `claim.securityTracking?.reportability?.decision === "reportable"`. -/
def isReportable (claim : FindingSummary) : Bool :=
  (claim.securityTracking.bind (·.reportability)).any fun r => r.decision = .reportable

/-- `provenanceRefresh`: the verified claims whose proof or review no longer holds. -/
def provenanceRefresh (env : TrackPlatform) (claims : List FindingSummary) : List JsString :=
  (claims.filter fun claim =>
    claim.status = .verified && !truthy claim.reportId && isReportable claim &&
      (candidateCompletionChecklist env.toFindingPlatform claim .reportReady).missingRequired.any
        fun key => key = js "reproduction" || key = js "independent_verification").map (·.id)

def priorityCandidate (claim : FindingSummary) : Bool :=
  claim.rating ≠ .low && claim.rating ≠ .informational

/-- Whether the triage packet is of the claim as it stands. -/
def packetIsCurrent (env : TrackPlatform) (tracking : FindingSecurityTracking)
    (claim : FindingSummary) : Bool :=
  tracking.triage.packet.map (·.claimBindingHash) =
    some (claimVerificationHash env.toFindingPlatform claim)

def claimRatingOrder (claim : FindingSummary) : Int :=
  match claim.rating with
  | .critical => 0
  | .high => 1
  | .medium => 2
  | .low => 3
  | .informational => 4

def maturityOrder (claim : FindingSummary) : Int :=
  match claim.status with
  | .reproduced => 0
  | .observed => 1
  | _ => 2

def age (attempts : Attempts) (role : TrackWorkerRole) (claim : FindingSummary) : JsString :=
  ((attempts.get? (role, claim.id)).bind (·.nextEligibleAt)).getD claim.updatedAt

/-- `a || b || …` of numbers. -/
def firstNonzero (values : List Int) : Int := (values.find? (· ≠ 0)).getD 0

/-- The comparison of `order`. -/
def compareClaims (env : TrackPlatform) (attempts : Attempts) (role : TrackWorkerRole)
    (left right : FindingSummary) : Int :=
  firstNonzero
    [if role = .investigator ∨ role = .chainAnalyst then
        claimRatingOrder left - claimRatingOrder right else 0,
      if role = .investigator then maturityOrder left - maturityOrder right else 0,
      env.localeCompare (age attempts role left) (age attempts role right),
      env.localeCompare left.id right.id]

def order (env : TrackPlatform) (attempts : Attempts) (role : TrackWorkerRole)
    (items : List FindingSummary) : List FindingSummary :=
  items.insertionSort fun left right => compareClaims env attempts role left right ≤ 0

/-- Whether a claim is of a role's kind. An investigator's Lead and a chain analyst's Lead must be
among the prior ones, where these are given. -/
def suits (env : TrackPlatform) (claims : List FindingSummary)
    (priorLeadIds : Option (List JsString)) : TrackWorkerRole → FindingSummary → Bool
  | .investigator, claim =>
    let needsRefresh : Bool := claim.id ∈ provenanceRefresh env claims
    securityClassification claim.classification && claim.classification ≠ securityChain &&
      (claim.projection = .finding ||
        claim.projection = .lead && priorLeadIds.all fun ids => claim.id ∈ ids) &&
      (unresolved claim || needsRefresh) && unblocked claim &&
      (priorityCandidate claim || needsRefresh)
  | .chainAnalyst, claim =>
    let needsRefresh : Bool := claim.id ∈ provenanceRefresh env claims
    claim.classification = securityChain &&
      (claim.projection = .finding || priorLeadIds.all fun ids => claim.id ∈ ids) &&
      !claim.componentClaimIds.isEmpty && (unresolved claim || needsRefresh) && unblocked claim &&
      (priorityCandidate claim || needsRefresh) &&
      claim.componentClaimIds.any fun id =>
        (claims.find? (·.id = id)).any fun component => !component.evidence.isEmpty
  | .triager, claim =>
    let needsRefresh : Bool := claim.id ∈ provenanceRefresh env claims
    securityClassification claim.classification && claim.status = .verified && !needsRefresh &&
      claim.securityTracking.any fun tracking =>
        tracking.reportability.isNone ||
          isReportable claim && !packetIsCurrent env tracking claim && tracking.triage.blocker.isNone
  | .reporter, claim =>
    let needsRefresh : Bool := claim.id ∈ provenanceRefresh env claims
    securityClassification claim.classification && claim.status = .verified &&
      !truthy claim.reportId && !needsRefresh && isReportable claim &&
      claim.securityTracking.any fun tracking =>
        tracking.triage.blocker.isNone && packetIsCurrent env tracking claim

def eligiblePools (env : TrackPlatform) (claims : List FindingSummary) (attempts : Attempts)
    (priorLeadIds : Option (List JsString)) (now : JsString) : Pools := fun role =>
  order env attempts role
    (claims.filter fun claim => suits env claims priorLeadIds role claim && eligible attempts now role claim)

/-! ## Selection -/

/-- `Math.max(0, Math.min(3, maxWorkers))`. -/
def capacity (maxWorkers : Int) : Nat := (max 0 (min 3 maxWorkers)).toNat

/-- `downstream`, rotated by the epoch. A negative index of `slice` counts from the end. -/
def rotated (epoch : Int) : List TrackWorkerRole :=
  let downstream : List TrackWorkerRole := [.triager, .reporter, .chainAnalyst]
  downstream.rotate (epoch % 3).toNat

def nextRole (roles : List TrackWorkerRole) (pools : Pools) : Option TrackWorkerRole :=
  match roles.find? fun role => !(pools role).isEmpty with
  | some role => some role
  | none => if (pools .investigator).isEmpty then none else some .investigator

/-- The turns of the selection loop, by the number of free places. -/
def selectFrom (roles : List TrackWorkerRole) : Nat → Pools → List (TrackWorkerRole × FindingSummary)
  | 0, _ => []
  | free + 1, pools =>
    match nextRole roles pools with
    | none => []
    | some role =>
      match pools role with
      | [] => []
      | claim :: rest => (role, claim) :: selectFrom roles free (Function.update pools role rest)

/-- What a reservation selects. The first place is an investigator's. -/
def selectWorkers (epoch maxWorkers : Int) (pools : Pools) :
    List (TrackWorkerRole × FindingSummary) :=
  match pools .investigator with
  | claim :: rest =>
    if 0 < maxWorkers then
      (.investigator, claim) ::
        selectFrom (rotated epoch) (capacity maxWorkers - 1) (Function.update pools .investigator rest)
    else selectFrom (rotated epoch) (capacity maxWorkers) pools
  | [] => selectFrom (rotated epoch) (capacity maxWorkers) pools

/-! ## Operations -/

structure TrackWorkerAssignment where
  role : TrackWorkerRole
  claimId : JsString
  claimRevision : Nat
  surfaceId : Option JsString
deriving DecidableEq, Repr

def rowid (db : Database) (id : JsString) : Nat := db.claims.keys.idxOf id + 1

def claimIds (db : Database) (workspaceId : JsString) : List JsString :=
  (db.claims.entries.filter fun item => item.2.workspaceId = workspaceId).map Prod.fst

/-- `COALESCE(MAX(rowid), 0)` of the claims of a workspace. -/
def latestClaim (db : Database) (workspaceId : JsString) : Nat :=
  ((claimIds db workspaceId).map (rowid db)).foldl max 0

def priorLeadIds (db : Database) (workspaceId : JsString) (cutoff : Nat) : List JsString :=
  (claimIds db workspaceId).filter fun id => rowid db id ≤ cutoff

/-- The upsert of a session's cutoff: a later epoch replaces it. -/
def withCutoff (cutoffs : JsMap JsString CutoffRow) (sessionId : JsString) (row : CutoffRow) :
    JsMap JsString CutoffRow :=
  match cutoffs.get? sessionId with
  | none => cutoffs.set sessionId row
  | some stored => if stored.epoch < row.epoch then cutoffs.set sessionId row else cutoffs

def AttemptRow.activeFor (row : AttemptRow) (sessionId : JsString) (epoch : Int) : Bool :=
  row.activeSessionId = some sessionId && row.assignedEpoch = epoch

/-- A new epoch supersedes the rows that are active for any other. -/
def supersede (attempts : Attempts) (sessionId : JsString) (epoch : Int) : Attempts :=
  attempts.mapValues fun row =>
    if row.activeSessionId.isSome ∧ !row.activeFor sessionId epoch then
      { row with activeSessionId := none }
    else row

/-- The row a selected claim is given. -/
def assigned (attempts : Attempts) (sessionId : JsString) (epoch : Int) (now : JsString)
    (role : TrackWorkerRole) (claim : FindingSummary) : AttemptRow :=
  let prior := attempts.get? (role, claim.id)
  { claimRevision := claim.revision
    attemptsOnRevision := match prior with
      | some row => if row.claimRevision = claim.revision then row.attemptsOnRevision + 1 else 1
      | none => 1
    nextEligibleAt := none
    activeSessionId := some sessionId
    assignedEpoch := epoch
    assignedAt := now }

/-- The insertions of a reservation. The prior rows are the ones read before. -/
def insertAssigned (attempts : Attempts) (sessionId : JsString) (epoch : Int) (now : JsString)
    (selected : List (TrackWorkerRole × FindingSummary)) : Attempts :=
  selected.foldl (fun rows item =>
    rows.set (item.1, item.2.id) (assigned attempts sessionId epoch now item.1 item.2)) attempts

/-- A call of `reserveForSession`, with the two times it reads off the clock. -/
structure ReserveCall where
  sessionId : JsString
  epoch : Int
  maxWorkers : Int
  checkedAt : Instant
  assignedAt : Instant

/-- The claims a reservation may give out, once it has its cutoff. -/
def poolsFor (env : TrackPlatform) (db : Database) (workspaceId : JsString) (attempts : Attempts)
    (call : ReserveCall) (cutoff : Nat) : Pools :=
  eligiblePools env
    ((readFindings env.toFindingPlatform db workspaceId).filter fun claim =>
      claim.duplicateOfClaimId.isNone)
    (supersede attempts call.sessionId call.epoch) (some (priorLeadIds db workspaceId cutoff))
    (toISOString call.checkedAt.1)

def reserveForSession (env : TrackPlatform) (db : Database) (workspaceId : JsString)
    (tables : FunnelTables) (call : ReserveCall) :
    Except JsString (List TrackWorkerAssignment) × FunnelTables :=
  if isBlank call.sessionId then (.error (js "Track worker session id is required."), tables)
  else
    let cutoffs := withCutoff tables.cutoffs call.sessionId ⟨call.epoch, latestClaim db workspaceId⟩
    match cutoffs.get? call.sessionId with
    | none => (.error (js "Track worker reservation belongs to a newer epoch."),
        { tables with cutoffs := cutoffs })
    | some cutoff =>
      if cutoff.epoch ≠ call.epoch then
        (.error (js "Track worker reservation belongs to a newer epoch."),
          { tables with cutoffs := cutoffs })
      else
        let attempts := supersede tables.attempts call.sessionId call.epoch
        let selected := selectWorkers call.epoch call.maxWorkers
          (poolsFor env db workspaceId tables.attempts call cutoff.claimRowidCutoff)
        (.ok (selected.map fun item => ⟨item.1, item.2.id, item.2.revision, item.2.surfaceId⟩),
          { attempts := insertAssigned attempts call.sessionId call.epoch
              (toISOString call.assignedAt.1) selected
            cutoffs := cutoffs })

/-- `new Date(t).toISOString()`, which throws outside the range of time values. -/
def isoText (t : Int) : Except JsString JsString :=
  if -maxTimeValue ≤ t ∧ t ≤ maxTimeValue then .ok (toISOString t)
  else .error (js "Invalid time value")

def cooling : TrackWorkerRole → Int
  | .chainAnalyst => 24 * 60 * 60000
  | _ => 30 * 60000

def activeRows (attempts : Attempts) (sessionId : JsString) :
    List ((TrackWorkerRole × JsString) × AttemptRow) :=
  attempts.entries.filter fun item => item.2.activeSessionId = some sessionId

/-- Until when a finished claim cools: not at all, if it has progressed. -/
def cooledUntil (db : Database) (workspaceId : JsString) (now : Instant)
    (item : (TrackWorkerRole × JsString) × AttemptRow) : Except JsString (Option JsString) :=
  if (db.claimIn workspaceId item.1.2).map (·.revision) ≠ some item.2.claimRevision then .ok none
  else (isoText (now.1 + cooling item.1.1)).map some

/-- The update `finishSession` makes for one assignment. -/
def finishAssignment (db : Database) (workspaceId : JsString) (now : Instant) (attempts : Attempts)
    (item : (TrackWorkerRole × JsString) × AttemptRow) : Except JsString Attempts := do
  let nextEligibleAt ← cooledUntil db workspaceId now item
  .ok (attempts.modify item.1 fun row =>
    { row with activeSessionId := none, nextEligibleAt := nextEligibleAt })

/-- `finishSession(sessionId)`. A failure rolls everything back. -/
def finishSession (db : Database) (workspaceId : JsString) (tables : FunnelTables)
    (sessionId : JsString) (now : Instant) : Except JsString FunnelTables := do
  let attempts ← (activeRows tables.attempts sessionId).foldlM
    (finishAssignment db workspaceId now) tables.attempts
  .ok { tables with attempts := attempts }

def cancelSession (tables : FunnelTables) (sessionId : JsString) : FunnelTables :=
  { tables with
    attempts := tables.attempts.mapValues fun row =>
      if row.activeSessionId = some sessionId then
        { row with
          activeSessionId := none
          attemptsOnRevision := row.attemptsOnRevision - 1
          nextEligibleAt := none }
      else row }

end Beale.Track
