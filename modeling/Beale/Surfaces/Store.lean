import Beale.Surfaces.Foundation
import Mathlib.Data.List.Infix

/-!
# The surfaces of a workspace

The resources of a workspace are the roots of its surfaces; the other surfaces are rows that name
their parent.

- `Resource`, `SurfaceRow`, `RootRow`, `SurfaceStore`: the tables.
- `SurfaceStore.create`, `SurfaceStore.update`, `SurfaceStore.focus`: the writers. A new identifier
  is random: one that names a surface already is not used.
-/

namespace Beale.Surfaces

open Beale.Library

/-! ## The tables -/

/-- The fields of a `TrackedResearchResource` that surfaces read. -/
structure Resource where
  id : Text
  kind : JsString
  name : JsString
  locator : JsString
  source : JsString
  direction : Option JsString
  rationale : JsString
  reviewStatus : JsString
  discoveredAt : JsString
  updatedAt : JsString

/-- A row of the claims, with its tracking where that is an object. -/
structure SurfaceProgressClaim where
  id : JsString
  status : JsString
  staleFromStatus : Option JsString
  surfaceId : Option JsString
  securityTracking : Option (List (JsString × Json))

/-- What surfaces read of the rest of the workspace, and of the platform. -/
structure Workspace where
  sessionId : JsString
  resources : List Resource
  claims : List SurfaceProgressClaim
  /-- `text.toLowerCase()` -/
  toLowerCase : JsString → JsString
  /-- `left.localeCompare(right)` -/
  localeCompare : JsString → JsString → Int

/-- A row of `app_server_surfaces`. -/
structure SurfaceRow where
  id : JsString
  resourceId : JsString
  parentId : JsString
  name : JsString
  description : JsString
  foundation : Option Json
  revision : Nat
  createdAt : JsString
  updatedAt : JsString

/-- A text of `nowIso()`. -/
abbrev Timestamp := { t : Text // (dateParse t.1).isSome }

/-- The columns that an update sets. -/
def SurfaceRow.updated (row : SurfaceRow) (name description : JsString) (foundation : Option Json)
    (at_ : Timestamp) : SurfaceRow :=
  { row with name, description, foundation, revision := row.revision + 1, updatedAt := at_.1.1 }

/-- A row of `app_server_surface_roots`. -/
structure RootRow where
  resourceId : JsString
  foundation : Option Json
  revision : Nat
  updatedAt : JsString

/-- A row of `app_server_surface_focus`. -/
structure FocusRow where
  sessionId : JsString
  agentId : JsString
  surfaceId : JsString

structure SurfaceStore where
  surfaces : List SurfaceRow := []
  roots : List RootRow := []
  touches : List (JsString × JsString) := []
  focus : List FocusRow := []

structure ResearchSurface where
  id : JsString
  resourceId : JsString
  parentId : Option JsString
  name : JsString
  description : JsString
  root : Bool
  firstTouchedAt : Option JsString
  foundation : Option SurfaceFoundation
  progressBlocker : Option SurfaceProgressBlocker
  revision : Nat
  createdAt : JsString
  updatedAt : JsString

namespace SurfaceStore

variable (ws : Workspace)

/-! ## Reading one surface -/

/-- `resources.get(id)`. -/
def resource (id : JsString) : Option Resource := ws.resources.find? fun r => r.id.1 = trim id

def touchedAt (store : SurfaceStore) (id : JsString) : Option JsString := store.touches.lookup id

def root (store : SurfaceStore) (resource : Resource) : Except JsString ResearchSurface := do
  let row := store.roots.find? fun row => row.resourceId = resource.id.1
  let stored ← decodeStoredFoundation (row.bind (·.foundation))
  return {
    id := resource.id.1
    resourceId := resource.id.1
    parentId := none
    name := resource.name
    description := resource.rationale
    root := true
    firstTouchedAt := store.touchedAt resource.id.1
    foundation := stored.map Prod.fst
    progressBlocker := stored.bind Prod.snd
    revision := (row.map (·.revision)).getD 1
    createdAt := resource.discoveredAt
    updatedAt := (row.map (·.updatedAt)).getD resource.updatedAt }

def child (store : SurfaceStore) (row : SurfaceRow) : Except JsString ResearchSurface := do
  let stored ← decodeStoredFoundation row.foundation
  return {
    id := row.id
    resourceId := row.resourceId
    parentId := some row.parentId
    name := row.name
    description := row.description
    root := false
    firstTouchedAt := store.touchedAt row.id
    foundation := stored.map Prod.fst
    progressBlocker := stored.bind Prod.snd
    revision := row.revision
    createdAt := row.createdAt
    updatedAt := row.updatedAt }

def row? (store : SurfaceStore) (id : JsString) : Option SurfaceRow :=
  store.surfaces.find? fun row => row.id = id

def get (store : SurfaceStore) (id : JsString) : Except JsString (Option ResearchSurface) := do
  let trimmed ← nonempty (some (.str id)) (js "surfaceId")
  match resource ws trimmed.1 with
  | some resource => some <$> store.root resource
  | none =>
    match store.row? id with
    | some row => some <$> store.child row
    | none => return none

def focusEligible (surface : ResearchSurface) : Bool :=
  (resource ws surface.resourceId).any fun r =>
    r.direction ≠ some (js "out_of_scope") && r.reviewStatus ≠ js "not_relevant"
      && (r.source ≠ js "runtime_discovery" || r.reviewStatus = js "relevant")

def require (store : SurfaceStore) (id : JsString) (eligible : Bool := false) :
    Except JsString ResearchSurface := do
  match ← store.get ws id with
  | none => throw (js "Surface not found in the active workspace: " ++ id)
  | some surface =>
    if eligible && !focusEligible ws surface then
      throw (js "Surface resource is not eligible for research focus in this workspace.")
    return surface

/-- The loop of `hierarchy`, with the rounds that are left. -/
def climb (store : SurfaceStore) : Nat → ResearchSurface → Except JsString (List (JsString × JsString))
  | 0, _ => .error (js "Surface hierarchy is too deep.")
  | rounds + 1, surface =>
    match surface.parentId with
    | none => .ok [(surface.id, surface.name)]
    | some parentId => do
      let parent ← store.require ws parentId
      let above ← store.climb rounds parent
      return above ++ [(surface.id, surface.name)]

/-- The surfaces of a hierarchy, at most. -/
def maxDepth : Nat := 64

def hierarchy (store : SurfaceStore) (id : JsString) : Except JsString (List (JsString × JsString)) := do
  let surface ← store.require ws id
  store.climb ws maxDepth surface

def path (store : SurfaceStore) (id : JsString) : Except JsString JsString := do
  let trail ← store.hierarchy ws id
  return joinWith (js " / ") (trail.map Prod.snd)

/-! ## Cards -/

structure SurfaceCoverageState where
  covered : Bool
  unmetRequirements : List JsString
  openLeadIds : List JsString
  unblockedFindingIds : List JsString

def hasThreatModelReview (foundation : Option SurfaceFoundation) : Bool :=
  foundation.any fun f => f.threatModelReviewed || f.threatModel.hasContent

def assessSurfaceCoverage (foundation : Option SurfaceFoundation)
    (openLeadIds unblockedFindingIds : List JsString) : SurfaceCoverageState :=
  let unmetRequirements :=
    (if hasThreatModelReview foundation then [] else [js "threat_model"])
    ++ (if openLeadIds.isEmpty then [] else [js "open_leads"])
    ++ (if unblockedFindingIds.isEmpty then [] else [js "unblocked_findings"])
  ⟨unmetRequirements.isEmpty, unmetRequirements, openLeadIds, unblockedFindingIds⟩

/-- Whether a value counts as true. -/
def truthyJson : Option Json → Bool
  | none | some .null | some (.bool false) | some (.num (.integer 0)) | some (.str []) => false
  | some _ => true

def claimOnSurface (surfaceId : JsString) (claim : SurfaceProgressClaim) : Bool :=
  claim.surfaceId = some surfaceId ||
    match claim.securityTracking.bind (·.lookup (js "surfaceIds")) with
    | some (.arr ids) => ids.any fun id => id.asString? = some surfaceId
    | _ => false

def isOpenLead (claim : SurfaceProgressClaim) : Bool :=
  claim.status = js "hypothesis"
    || claim.status = js "stale" && claim.staleFromStatus = some (js "hypothesis")

/-- Whether a claim is a finding without a blocker. -/
def isUnblockedFinding (claim : SurfaceProgressClaim) : Bool :=
  claim.status ≠ js "verified" && claim.status ≠ js "report_ready" && claim.status ≠ js "disclosed"
    && !truthyJson (claim.securityTracking.bind (·.lookup (js "progressBlocker")))

def assessSurfaceClaims (surfaceId : JsString) (claims : List SurfaceProgressClaim) :
    List JsString × List JsString :=
  let claims := claims.filter fun claim => claimOnSurface surfaceId claim && claim.status ≠ js "rejected"
  ((claims.filter isOpenLead).map (·.id),
    (claims.filter fun claim => !isOpenLead claim && isUnblockedFinding claim).map (·.id))

def coverageState (store : SurfaceStore) (id : JsString) : Except JsString SurfaceCoverageState := do
  let surface ← store.require ws id
  let (openLeadIds, unblockedFindingIds) := assessSurfaceClaims surface.id ws.claims
  return assessSurfaceCoverage surface.foundation openLeadIds unblockedFindingIds

structure SurfaceCard where
  id : JsString
  resourceId : JsString
  resourceKind : Option JsString
  resourceSource : Option JsString
  parentId : Option JsString
  name : JsString
  path : JsString
  root : Bool
  focusEligible : Bool
  firstTouchedAt : Option JsString
  foundationReady : Bool
  threatModelReviewed : Bool
  progressBlocker : Option SurfaceProgressBlocker
  coverageState : SurfaceCoverageState
  updatedAt : JsString

def card (store : SurfaceStore) (surface : ResearchSurface) : Except JsString SurfaceCard := do
  let resource := resource ws surface.resourceId
  let path ← store.path ws surface.id
  let coverageState ← store.coverageState ws surface.id
  return {
    id := surface.id
    resourceId := surface.resourceId
    resourceKind := resource.map (·.kind)
    resourceSource := resource.map (·.source)
    parentId := surface.parentId
    name := surface.name
    path := path
    root := surface.root
    focusEligible := focusEligible ws surface
    firstTouchedAt := surface.firstTouchedAt
    foundationReady := surface.foundation.isSome
    threatModelReviewed := hasThreatModelReview surface.foundation
    progressBlocker := surface.progressBlocker
    coverageState := coverageState
    updatedAt := surface.updatedAt }

/-! ## Reading all surfaces -/

def byCreation (rows : List SurfaceRow) : List SurfaceRow :=
  rows.mergeSort fun a b => if a.createdAt = b.createdAt then a.id ≤ b.id else a.createdAt ≤ b.createdAt

def all (store : SurfaceStore) : Except JsString (List ResearchSurface) := do
  let roots ← ws.resources.mapM store.root
  let children ← (byCreation store.surfaces).mapM store.child
  return roots ++ children

structure SurfacePage where
  surfaces : List SurfaceCard
  nextOffset : Option Nat
  total : Nat

def bound (value : Option Int) (fallback : Nat) : Nat :=
  (value.map fun limit => (max 1 (min 50 limit)).toNat).getD fallback

def page (store : SurfaceStore) (found : List ResearchSurface) (offset limit : Nat) :
    Except JsString SurfacePage := do
  let surfaces ← ((found.drop offset).take limit).mapM (store.card ws)
  return {
    surfaces
    nextOffset := if offset + limit < found.length then some (offset + limit) else none
    total := found.length }

structure ListInput where
  resourceId : Option JsString := none
  resourceKind : Option JsString := none
  parentId : Option JsString := none
  limit : Option Int := none
  offset : Option Int := none

/-- Whether a filter that may be missing, or empty, lets a text through. -/
def lets (filter value : Option JsString) : Bool :=
  match filter with
  | none | some [] => true
  | some text => value = some text

def list (store : SurfaceStore) (input : ListInput) : Except JsString SurfacePage := do
  let surfaces ← store.all ws
  let found := surfaces.filter fun surface =>
    lets input.resourceId (some surface.resourceId)
      && lets input.resourceKind ((resource ws surface.resourceId).map (·.kind))
      && input.parentId.all fun parentId => surface.parentId = some parentId
  store.page ws found (input.offset.getD 0).toNat (bound input.limit 50)

def wordsOf (phrase : JsString) : List JsString :=
  ((phrase.splitOnP isWhitespace).filter (· ≠ [])).take 12

/-- The texts of a surface that `query` looks into. -/
def searchTexts (surface : ResearchSurface) (path : JsString) : List JsString :=
  let resource := resource ws surface.resourceId
  let foundation := surface.foundation
  let history := foundation.map (·.bugHistory)
  let coverage := foundation.map (·.coverage)
  [surface.name, surface.description, path, (resource.map (·.name)).getD [],
    (resource.map (·.locator)).getD [], (resource.map (·.kind)).getD [],
    (foundation.map (·.discovery)).getD []]
  ++ (foundation.toList.flatMap fun f => f.techStack.1.flatMap fun item =>
    [item.technology.1, item.role, item.version, item.environment, item.evidence])
  ++ (foundation.toList.flatMap fun f => f.assets.1.map fun item => item.name.1)
  ++ (history.toList.flatMap fun h => h.entries.1.flatMap fun item =>
    [item.identifier.1, item.impact.1, item.affectedVersions, item.reference, item.notes])
  ++ [(history.map (·.summary)).getD [], (history.map (·.limits)).getD [],
    (coverage.map (·.summary)).getD [], (coverage.map (·.gaps)).getD [],
    (coverage.map (·.opportunities)).getD [], (surface.progressBlocker.map (·.reason.1)).getD []]
  ++ (foundation.toList.flatMap fun f =>
    let m := f.threatModel
    [m.diagram] ++ m.securityObjectives.1.map Subtype.val ++ m.risks.1.map Subtype.val
      ++ m.assumptions.1.map Subtype.val ++ [m.riskImpact, m.invariants, m.sinks, m.mitigations,
        m.attackerControl, m.trustBoundaries, m.assetsAtRisk, m.plausibleImpacts])

def matchScore (phrase name path : JsString) : Nat :=
  if name = phrase then 100 else if phrase <:+: name then 70 else if phrase <:+: path then 40 else 0

/-- The matches of `query` among the surfaces, with their scores. -/
def matching (store : SurfaceStore) (phrase : JsString) :
    List ResearchSurface → Except JsString (List (ResearchSurface × Nat))
  | [] => .ok []
  | surface :: rest => do
    let path ← store.path ws surface.id
    let haystack := ws.toLowerCase (joinWith [space] (searchTexts ws surface path))
    let found ← store.matching phrase rest
    if (wordsOf phrase).all fun word => word <:+: haystack then
      return (surface, matchScore phrase (ws.toLowerCase surface.name) (ws.toLowerCase path)) :: found
    else return found

def query (store : SurfaceStore) (text : JsString) (limit : Int := 20) (offset : Int := 0) :
    Except JsString SurfacePage := do
  let text ← nonempty (some (.str text)) (js "query")
  let surfaces ← store.all ws
  let found ← store.matching ws (ws.toLowerCase text.1) surfaces
  let sorted := found.mergeSort fun a b =>
    if a.2 = b.2 then ws.localeCompare a.1.name b.1.name ≤ 0 else b.2 ≤ a.2
  store.page ws (sorted.map Prod.fst) offset.toNat (bound (some limit) 20)

structure SurfaceModelContext where
  roots : Nat
  children : Nat
  touched : Nat
  pendingFoundation : Nat
  surfaces : List SurfaceCard
  omitted : Nat

/-- Whether a surface was touched, and has no foundation yet. -/
def isPending (surface : ResearchSurface) : Bool :=
  surface.firstTouchedAt.any (· ≠ []) && surface.foundation.isNone

def modelContext (store : SurfaceStore) : Except JsString SurfaceModelContext := do
  let surfaces ← store.all ws
  let roots := surfaces.filter (·.root)
  let children := surfaces.filter (!·.root)
  let selected :=
    (roots.mergeSort fun a b => ws.localeCompare a.name b.name ≤ 0).take 8
    ++ (children.mergeSort fun a b =>
      if isPending a = isPending b then ws.localeCompare b.updatedAt a.updatedAt ≤ 0
      else isPending a).take 8
  let cards ← selected.mapM (store.card ws)
  return {
    roots := roots.length
    children := children.length
    touched := (surfaces.filter fun s => s.firstTouchedAt.any (· ≠ [])).length
    pendingFoundation := (surfaces.filter isPending).length
    surfaces := cards
    omitted := surfaces.length - selected.length }

/-! ## Writing -/

/-- The letters of a text without their case, as `NOCASE` compares them. -/
def noCase (text : JsString) : JsString := text.map fun u => if 65 ≤ u && u ≤ 90 then u + 32 else u

def nameTaken (store : SurfaceStore) (id parentId name : JsString) : Bool :=
  store.surfaces.any fun row => row.id ≠ id && row.parentId = parentId && noCase row.name = noCase name

/-- `create(parentId, name, description)`, with the random identifier and the time it takes. -/
def create (store : SurfaceStore) (id : Text) (at_ : Timestamp) (parentId name description : JsString) :
    Except JsString SurfaceStore := do
  let parent ← store.require ws parentId true
  let name ← nonempty (some (.str name)) (js "name")
  let name := bounded name.1 180
  if (resource ws id.1).isSome || (store.row? id.1).isSome then
    throw (js "UNIQUE constraint failed: app_server_surfaces.id")
  if store.nameTaken id.1 parent.id name then
    throw (js "UNIQUE constraint failed: app_server_surfaces_sibling_name")
  return { store with surfaces := store.surfaces ++ [{
    id := id.1
    resourceId := parent.resourceId
    parentId := parent.id
    name := name
    description := bounded description 2000
    foundation := none
    revision := 1
    createdAt := at_.1.1
    updatedAt := at_.1.1 }] }

structure UpdateInput where
  foundation : Option Json := none
  name : Option JsString := none
  description : Option JsString := none
  progressBlocker : Option (Option JsString) := none
  actorId : Option JsString := none

def normalizedFoundation (surface : ResearchSurface) (input : UpdateInput) :
    Except JsString (Option SurfaceFoundation) :=
  match input.foundation, surface.foundation, input.progressBlocker with
  | some foundation, previous, _ => some <$> parseFoundation foundation previous
  | none, some previous, _ => .ok (some previous)
  | none, none, some (some _) => some <$> parseFoundation (.obj []) none
  | none, none, _ => .ok none

def updatedBlocker (surface : ResearchSurface) (input : UpdateInput) (at_ : Timestamp) :
    Except JsString (Option SurfaceProgressBlocker) :=
  match input.progressBlocker with
  | none => .ok surface.progressBlocker
  | some none => .ok none
  | some (some reason) => do
    let reason ← nonempty (some (.str reason)) (js "Progress blocker reason")
    let actorId ← nonempty (some (.str (input.actorId.getD (js "host")))) (js "Progress blocker actor")
    return some ⟨boundedText reason 2000 reasonMax_pos, boundedText actorId 200 actorMax_pos, at_⟩

def updatedName (surface : ResearchSurface) : Option JsString → Except JsString JsString
  | none => .ok surface.name
  | some name => do
    let name ← nonempty (some (.str name)) (js "name")
    return bounded name.1 180

def updateRoot (store : SurfaceStore) (id : JsString) (expectedRevision : Nat) (foundation : Option Json)
    (at_ : Timestamp) : Except JsString SurfaceStore :=
  match store.roots.find? fun row => row.resourceId = id with
  | none => .ok { store with roots := store.roots ++ [⟨id, foundation, 2, at_.1.1⟩] }
  | some row =>
    if row.revision = expectedRevision then
      .ok { store with roots := store.roots.map fun row =>
        if row.resourceId = id then ⟨id, foundation, row.revision + 1, at_.1.1⟩ else row }
    else .error (js "Surface revision changed; read it again before updating.")

def updateChild (store : SurfaceStore) (id : JsString) (expectedRevision : Nat) (parentId name : JsString)
    (description : JsString) (foundation : Option Json) (at_ : Timestamp) : Except JsString SurfaceStore := do
  if !store.surfaces.any fun row => row.id = id && row.revision = expectedRevision then
    throw (js "Surface revision changed; read it again before updating.")
  if store.nameTaken id parentId name then
    throw (js "UNIQUE constraint failed: app_server_surfaces_sibling_name")
  let surfaces := store.surfaces.map fun row =>
    if row.id = id && row.revision = expectedRevision then row.updated name description foundation at_
    else row
  return { store with surfaces }

/-- `update(id, expectedRevision, …)`, with the time it takes. -/
def update (store : SurfaceStore) (at_ : Timestamp) (id : JsString) (expectedRevision : Nat)
    (input : UpdateInput) : Except JsString SurfaceStore := do
  let surface ← store.require ws id true
  if surface.root && (input.name.isSome || input.description.isSome) then
    throw (js "Root surface name and description belong to the resource catalog.")
  if surface.revision ≠ expectedRevision then
    throw (js "Surface revision changed; read it again before updating.")
  let foundation ← normalizedFoundation surface input
  let blocker ← updatedBlocker surface input at_
  let document := foundation.map fun foundation => storedDocument foundation blocker
  let name ← updatedName surface input.name
  let description := (input.description.map (bounded · 2000)).getD surface.description
  let actorId ← nonempty (some (.str (input.actorId.getD (js "host")))) (js "Surface update actor")
  if surface.root then store.updateRoot id expectedRevision document at_
  else store.updateChild id expectedRevision (surface.parentId.getD []) name description document at_

structure FocusResult where
  surface : ResearchSurface
  surfaceTrail : List (JsString × JsString)
  firstTouch : Bool
  previousSurfaceId : Option JsString

def focusRow? (store : SurfaceStore) (agent : JsString) : Option FocusRow :=
  store.focus.find? fun row => row.sessionId = ws.sessionId && row.agentId = agent

/-- The tables after the transaction of `focus`. -/
def focused (store : SurfaceStore) (agent surfaceId : JsString) (at_ : Timestamp) : SurfaceStore :=
  let touches := if (store.touches.lookup surfaceId).isSome then store.touches
    else store.touches ++ [(surfaceId, at_.1.1)]
  let row : FocusRow := ⟨ws.sessionId, agent, surfaceId⟩
  let focus := match store.focusRow? ws agent with
    | none => store.focus ++ [row]
    | some previous =>
      if previous.surfaceId = surfaceId then store.focus
      else store.focus.map fun other =>
        if other.sessionId = ws.sessionId && other.agentId = agent then row else other
  { store with touches, focus }

/-- `focus(agentId, surfaceId)`. The transaction is over before the trail is read: where that fails,
there is nothing to roll back, and the tables keep what was written. -/
def focusOn (store : SurfaceStore) (at_ : Timestamp) (agentId surfaceId : JsString) :
    Except JsString FocusResult × SurfaceStore :=
  match (do
    let _ ← store.require ws surfaceId true
    nonempty (some (.str agentId)) (js "agentId") : Except JsString Text) with
  | .error message => (.error message, store)
  | .ok agent =>
    let store' := store.focused ws agent.1 surfaceId at_
    match (do
      let surface ← store'.require ws surfaceId
      let trail ← store'.hierarchy ws surfaceId
      return ⟨surface, trail, (store.touches.lookup surfaceId).isNone,
        (store.focusRow? ws agent.1).map (·.surfaceId)⟩ : Except JsString FocusResult) with
    | .ok result => (.ok result, store')
    | .error _ => (.error (js "cannot rollback - no transaction is active"), store')

/-! ## Calls -/

/-- A call of the store that writes. -/
inductive Call where
  | create (id : Text) (at_ : Timestamp) (parentId name description : JsString)
  | update (at_ : Timestamp) (id : JsString) (expectedRevision : Nat) (input : UpdateInput)
  | focus (at_ : Timestamp) (agentId surfaceId : JsString)

/-- The tables after a call. One that is refused leaves them as they were. -/
def step (store : SurfaceStore) : Call → SurfaceStore
  | .create id at_ parentId name description =>
    match store.create ws id at_ parentId name description with
    | .ok store' => store'
    | .error _ => store
  | .update at_ id expectedRevision input =>
    match store.update ws at_ id expectedRevision input with
    | .ok store' => store'
    | .error _ => store
  | .focus at_ agentId surfaceId => (store.focusOn ws at_ agentId surfaceId).2

end SurfaceStore

end Beale.Surfaces
