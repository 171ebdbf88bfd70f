import Beale.Memory.Marks

/-!
# A node gets another type

The id of a node is derived from its type, so a correction that changes the type renames the node.
The rows that hold the id are rewritten one table after the other, in a transaction that checks the
foreign keys when it is committed.

- `reclassify_renames_iff`: the correction succeeds as a renaming exactly then.
-/

namespace Beale.Memory

open Beale.Library
open MemoryEdge
open Client (exceptBind_ok exceptGuard_ok)

/-! ## The corrected node -/

structure MemoryContext where
  sessionId : Option JsString
  workspaceId : JsString
  workspaceName : JsString

structure MemoryEvidenceInput where
  kind : JsString
  pathBase : Option JsString
  path : Option JsString
  locator : Option Json
  summary : Option JsString

/-- A patch, without its type and its links. -/
structure MemoryNodePatch where
  surfaceId : Option (Option JsString)
  title : Option JsString
  summary : Option JsString
  body : Option JsString
  status : Option JsString
  confidence : Option Rat
  assetIds : Option (List JsString)
  tags : Option (List JsString)
  attributes : Option (JsMap JsString Json)
  evidence : Option (List MemoryEvidenceInput)

/-- `[...new Set(values.map(trim).filter(Boolean))].sort()` -/
def uniqueTexts (values : List JsString) : List JsString := sortedUniqueStrings ((values.map trim).filter (· ≠ []))

def normalizeTitle (env : MemoryPlatform) (value : JsString) : JsString := env.toLowerCase (collapseWhitespace (trim value))

/-- The runs of `[a-z0-9]` with an underscore between them. -/
def normalizeTag (env : MemoryPlatform) (value : JsString) : JsString :=
  let isPlain (u : UInt16) : Bool := 97 ≤ u && u ≤ 122 || 48 ≤ u && u ≤ 57
  joinWith (js "_") (((env.toLowerCase (trim value)).splitOnP fun u => !isPlain u).filter (· ≠ []))

def mergeSessionMemberships (existing : List JsString) (sessionId : Option JsString) : List JsString :=
  uniqueTexts (existing ++ sessionId.toList)

def mergeWorkspaceMemberships (existing : List MemoryWorkspaceMembership) (context : MemoryContext) : List MemoryWorkspaceMembership :=
  let own : MemoryWorkspaceMembership := ⟨context.workspaceId, context.workspaceName⟩
  if existing.any (·.id = own.id) then existing.map fun workspace => if workspace.id = own.id then own else workspace
  else existing ++ [own]

def evidenceId (env : MemoryPlatform) (nodeId : JsString) (item : MemoryEvidenceInput) : JsString :=
  let orNull (value : Option JsString) : Json := value.elim .null .str
  let key := stringify (.arr [.str item.kind, orNull item.pathBase, orNull item.path, item.locator.getD (.obj []),
    .str (item.summary.getD [])])
  js "evidence_" ++ (env.sha256 (nodeId ++ js ":" ++ key)).take 20

def mergeEvidence (env : MemoryPlatform) (incoming : List MemoryEvidenceInput) (nodeId now : JsString) : List MemoryEvidenceRef :=
  let byId := incoming.foldl (fun (byId : JsMap JsString MemoryEvidenceRef) item =>
    let id := evidenceId env nodeId item
    byId.set id ⟨id, item.kind, item.pathBase.filter (· ≠ []), item.path.filter (· ≠ []), item.locator.getD (.obj []),
      trim (item.summary.getD []), now⟩) JsMap.empty
  byId.entries.map Prod.snd

def stableNodeId (env : MemoryPlatform) (catalog : ActiveMemoryCatalog) (subjectId type title : JsString)
    (forceCatalogIdentity : Bool) : JsString :=
  let identity :=
    if forceCatalogIdentity then
      stableJson (.obj [(js "catalogHash", .str (catalog.hash env)), (js "subjectId", .str subjectId), (js "title", .str title),
        (js "type", .str type)])
    else subjectId ++ js ":" ++ type ++ js ":" ++ title
  type ++ js "_" ++ (env.sha256 identity).take 20

/-- The node that a correction writes. -/
def correctedNode (env : MemoryPlatform) (context : MemoryContext) (existing : MemoryNode) (patch : MemoryNodePatch)
    (nextId type now : JsString) : MemoryNode :=
  { existing with
    id := nextId
    surfaceId := patch.surfaceId.getD existing.surfaceId
    sessionIds := mergeSessionMemberships existing.sessionIds context.sessionId
    workspaces := mergeWorkspaceMemberships existing.workspaces context
    type := type
    title := (patch.title.map trim).getD existing.title
    summary := (patch.summary.map trim).getD existing.summary
    body := (patch.body.map trim).getD existing.body
    status := patch.status.getD existing.status
    confidence := patch.confidence.getD existing.confidence
    assetIds := (patch.assetIds.map fun ids => (uniqueTexts ids).filterMap textOf?).getD existing.assetIds
    tags := (patch.tags.map fun tags => uniqueTexts (tags.map (normalizeTag env))).getD existing.tags
    attributes := patch.attributes.getD existing.attributes
    evidence := (patch.evidence.map fun evidence => mergeEvidence env evidence nextId now).getD existing.evidence
    updatedAt := now
    revision := existing.revision + 1 }

/-! ## The transaction -/

structure MemoryNodeWriteProvenance where
  catalogHash : Option JsString
  validation : Option (MemoryNodeValidationKind × Option MemoryNodeProfileIdentity)

structure PreparedMemoryLink where
  toId : JsString
  relation : JsString
  note : JsString

def MemoryEdge.key (edge : MemoryEdge) : JsString × JsString × JsString := (edge.fromId, edge.toId, edge.relation)

def renameId (previousId nextId id : JsString) : JsString := if id = previousId then nextId else id

def MemoryEdge.rename (previousId nextId : JsString) (edge : MemoryEdge) : MemoryEdge :=
  { edge with fromId := renameId previousId nextId edge.fromId, toId := renameId previousId nextId edge.toId }

/-- The references to nodes: those of edges, duplicates and validations. -/
def referencesHold (nodes : List MemoryRow) (edges : List MemoryEdge) (validations : List MemoryNodeValidation) : Bool :=
  let ids := nodes.map fun row => row.id
  edges.all (fun edge => ids.contains edge.fromId && ids.contains edge.toId) &&
    nodes.all (fun row => row.duplicateOfMemoryId.all ids.contains) && validations.all (fun v => ids.contains v.nodeId)

/-- A store that the database can hold. -/
structure StoredGraph extends MemoryStore where
  edgeKeys : (edges.map MemoryEdge.key).Nodup
  references : referencesHold nodes edges validations = true

def uniqueFailed : JsString := js "UNIQUE constraint failed"

/-- `replaceMemoryEdgeNodeId`; an insert of a key that is there fails. -/
def replaceMemoryEdgeNodeId (edges : List MemoryEdge) (previousId nextId : JsString) : Except JsString (List MemoryEdge) :=
  let selected := edges.filter fun edge => edge.fromId = previousId || edge.toId = previousId
  let others := edges.filter fun edge => !(edge.fromId = previousId || edge.toId = previousId)
  let replaced := others ++ selected.map (·.rename previousId nextId)
  if (replaced.map MemoryEdge.key).Nodup then .ok replaced else .error uniqueFailed

def moveModelAuthorship (authorship : List MemoryAuthorship) (previousId nextId : JsString) : Except JsString (List MemoryAuthorship) :=
  if authorship.any fun row => row.resourceId = previousId && authorship.any fun other =>
      other.resourceId = nextId && other.revision = row.revision && other.toModelAuthor = row.toModelAuthor then
    .error uniqueFailed
  else .ok (authorship.map fun row => { row with resourceId := renameId previousId nextId row.resourceId })

/-- `ON CONFLICT(from_id, to_id, relation) DO UPDATE SET note = excluded.note, updated_at = excluded.updated_at` -/
def writeLink (fromId now : JsString) (edges : List MemoryEdge) (link : PreparedMemoryLink) : List MemoryEdge :=
  let edge : MemoryEdge := ⟨fromId, link.toId, link.relation, link.note, now, now⟩
  if edges.any (·.key = edge.key) then
    edges.map fun other => if other.key = edge.key then { other with note := link.note, updatedAt := now } else other
  else edges ++ [edge]

def writePreparedMemoryLinks (edges : List MemoryEdge) (fromId : JsString) (links : List PreparedMemoryLink) (now : JsString) :
    List MemoryEdge :=
  links.foldl (writeLink fromId now) edges

def writeMemoryNodeValidation (env : MemoryPlatform) (validations : List MemoryNodeValidation) (node : MemoryNode)
    (provenance : MemoryNodeWriteProvenance) : Except JsString (List MemoryNodeValidation) :=
  match provenance.validation, provenance.catalogHash with
  | none, _ => .ok validations
  | some _, none => .error (js "Cannot validate memory node " ++ node.id ++ js " without recorded catalog provenance.")
  | some (kind, profile), some catalogHash =>
    if validations.any fun v => v.nodeId = node.id && v.nodeRevision = node.revision && v.catalogHash = catalogHash then
      .error uniqueFailed
    else .ok (validations ++ [⟨node.id, node.revision, catalogHash, memoryNodeValidationHash env node, kind, profile, node.updatedAt⟩])

/-- The row that `UPDATE memory_nodes` leaves: the subject, the creation and the link are not set. -/
def retypedRow (row : MemoryRow) (node : MemoryNode) (titleNorm : JsString) (provenance : MemoryNodeWriteProvenance) : MemoryRow where
  toMemoryNode := { node with subjectId := row.subjectId, subjectName := row.subjectName, createdAt := row.createdAt }
  titleNorm := titleNorm
  catalogHash := provenance.catalogHash
  duplicateOfMemoryId := row.duplicateOfMemoryId
  duplicateMarkedAt := row.duplicateMarkedAt

/-- Another node of `memory_nodes_catalog_identity_idx` with the identity of the row. -/
def hasIdentityOf (row other : MemoryRow) : Bool :=
  other.subjectId = row.subjectId && row.catalogHash.isSome && other.catalogHash = row.catalogHash && other.type = row.type &&
    other.titleNorm = row.titleNorm

/-- `writeRetypedNode`, from `BEGIN` to `COMMIT`; an error rolls everything back. -/
def writeRetypedNode (env : MemoryPlatform) (store : MemoryStore) (previousId : JsString) (node : MemoryNode) (titleNorm : JsString)
    (provenance : MemoryNodeWriteProvenance) (links : List PreparedMemoryLink) (expectedRevision : Nat) (author : Option ModelAuthor) :
    Except JsString MemoryStore := do
  let row ← (store.row? previousId).elim (.error (js "Memory node revision conflict for " ++ previousId)) .ok
  if row.revision ≠ expectedRevision then throw (revisionConflict previousId expectedRevision row.revision)
  if (store.row? node.id).isSome then throw (js "Memory node reclassification conflicts with existing node: " ++ node.id)
  -- UPDATE memory_nodes, and the rows of evidence
  let next := retypedRow row node titleNorm provenance
  let others := store.nodes.filter (·.id ≠ previousId)
  if others.any (hasIdentityOf next) then throw uniqueFailed
  let evidenceIds := next.evidence.map MemoryEvidenceRef.id
  if ¬ evidenceIds.Nodup ∨ others.any fun other => other.evidence.any fun e => evidenceIds.contains e.id then
    throw uniqueFailed
  let nodes := store.nodes.map fun other => if other.id = previousId then next else other
  -- ON UPDATE CASCADE
  let validations := store.validations.map fun v => { v with nodeId := renameId previousId node.id v.nodeId }
  let edges ← replaceMemoryEdgeNodeId store.edges previousId node.id
  let authorship ← moveModelAuthorship store.authorship previousId node.id
  let edges := writePreparedMemoryLinks edges node.id links node.updatedAt
  let validations ← writeMemoryNodeValidation env validations node provenance
  -- COMMIT
  if !referencesHold nodes edges validations then throw (js "FOREIGN KEY constraint failed")
  if hkey : (nodes.map fun row : MemoryRow => row.id).Nodup then
    return recordModelAuthorship ⟨{ store.toMemoryTables with nodes, edges }, validations, authorship, hkey⟩ node.id node.revision author
      node.updatedAt
  else throw uniqueFailed

def activeCatalogWriteProvenance (env : MemoryPlatform) (catalog : ActiveMemoryCatalog) : MemoryNodeWriteProvenance :=
  ⟨catalog.hash env, some (.full, catalog.profile)⟩

/-- The id that a node gets with its type; one that keeps its type comes from another catalog. -/
def reclassifiedId (env : MemoryPlatform) (catalog : ActiveMemoryCatalog) (existing : MemoryNode) (patch : MemoryNodePatch)
    (type : JsString) : JsString :=
  stableNodeId env catalog existing.subjectId type (normalizeTitle env ((patch.title.map trim).getD existing.title))
    (type = existing.type)

/-- What `correct` writes for a node that gets another id; its checks of the patch have been passed. -/
def reclassify (env : MemoryPlatform) (catalog : ActiveMemoryCatalog) (context : MemoryContext) (store : MemoryStore)
    (existing : MemoryNode) (patch : MemoryNodePatch) (type now : JsString) (links : List PreparedMemoryLink)
    (author : Option ModelAuthor) : Except JsString MemoryStore :=
  let next := correctedNode env context existing patch (reclassifiedId env catalog existing patch type) type now
  writeRetypedNode env store existing.id next (normalizeTitle env next.title) (activeCatalogWriteProvenance env catalog) links
    existing.revision author

/-- The row of the node afterwards. -/
def reclassifiedRow (env : MemoryPlatform) (catalog : ActiveMemoryCatalog) (context : MemoryContext) (row : MemoryRow)
    (patch : MemoryNodePatch) (type now : JsString) : MemoryRow :=
  let next := correctedNode env context row.toMemoryNode patch (reclassifiedId env catalog row.toMemoryNode patch type) type now
  retypedRow row next (normalizeTitle env next.title) (activeCatalogWriteProvenance env catalog)

/-! ## A renaming -/

/-- The row of another node, where the node it may be a duplicate of has been renamed. -/
def MemoryRow.renameLink (previousId nextId : JsString) (row : MemoryRow) : MemoryRow :=
  { row with duplicateOfMemoryId := row.duplicateOfMemoryId.map (renameId previousId nextId) }

def newValidation (env : MemoryPlatform) (node : MemoryNode) (provenance : MemoryNodeWriteProvenance) : List MemoryNodeValidation :=
  match provenance.validation, provenance.catalogHash with
  | some (kind, profile), some catalogHash =>
    [⟨node.id, node.revision, catalogHash, memoryNodeValidationHash env node, kind, profile, node.updatedAt⟩]
  | _, _ => []

/-- The store has been changed by a renaming: every row that held the old id holds the new one, the node's
own row is the new one, and the links, the validation and the author of the correction have come to it. -/
structure Renamed (env : MemoryPlatform) (store store' : MemoryStore) (previousId : JsString) (node : MemoryNode) (next : MemoryRow)
    (provenance : MemoryNodeWriteProvenance) (links : List PreparedMemoryLink) (author : Option ModelAuthor) : Prop where
  nodes : store'.nodes = store.nodes.map fun row => if row.id = previousId then next else row.renameLink previousId next.id
  edges : ∃ edges, edges.Perm (store.edges.map (·.rename previousId next.id)) ∧
    store'.edges = writePreparedMemoryLinks edges next.id links next.updatedAt
  validations : store'.validations =
    store.validations.map (fun v => { v with nodeId := renameId previousId next.id v.nodeId }) ++
      newValidation env node provenance
  authorship : ∃ added, store'.authorship =
      store.authorship.map (fun row => { row with resourceId := renameId previousId next.id row.resourceId }) ++ added ∧
    ∀ row ∈ added, row.resourceId = next.id ∧ namedAuthor author = some row.toModelAuthor
  author : ∀ a, namedAuthor author = some a → a ∈ store'.authors next.id
  snapshots : store'.snapshots = store.snapshots

/-- What the transaction does not provide for is not there. -/
structure Retypable (store : MemoryStore) (previousId : JsString) (next : MemoryRow) (provenance : MemoryNodeWriteProvenance)
    (links : List PreparedMemoryLink) : Prop where
  /-- No node is a duplicate of the node. -/
  noDuplicate : ∀ row ∈ store.nodes, row.duplicateOfMemoryId ≠ some previousId
  /-- No other node has the identity of the corrected one. -/
  identity : ∀ row ∈ store.nodes, row.id ≠ previousId → hasIdentityOf next row = false
  /-- The evidence of the corrected node has ids that no other node uses. -/
  evidence : (next.evidence.map (·.id)).Nodup ∧ ∀ row ∈ store.nodes, row.id ≠ previousId →
    ∀ e ∈ row.evidence, e.id ∉ next.evidence.map (·.id)
  /-- No author has been recorded for the new id at a revision at which the node has the same author. -/
  authorship : ∀ row ∈ store.authorship, ∀ other ∈ store.authorship, row.resourceId = previousId → other.resourceId = next.id →
    ¬ (other.revision = row.revision ∧ other.toModelAuthor = row.toModelAuthor)
  /-- The links lead to nodes, and not to the node's old id. -/
  links : ∀ link ∈ links, link.toId ≠ previousId ∧ (link.toId = next.id ∨ ∃ row ∈ store.nodes, row.id = link.toId)
  /-- A validation is written under a catalog, and none is recorded for the new revision. -/
  validation : provenance.validation.isSome = true → ∃ catalogHash, provenance.catalogHash = some catalogHash ∧
    ∀ v ∈ store.validations, v.nodeId = previousId → ¬ (v.nodeRevision = next.revision ∧ v.catalogHash = catalogHash)

section

variable {env : MemoryPlatform} {previousId nextId : JsString}

/-! ## Renamed ids -/

@[simp] theorem renameId_self : renameId previousId nextId previousId = nextId := if_pos rfl

variable {id : JsString}

theorem renameId_of_ne (h : id ≠ previousId) : renameId previousId nextId id = id := if_neg h

/-- Where the new id is free, different ids stay different. -/
theorem renameId_inj {id' : JsString} (hid : id ≠ nextId) (hid' : id' ≠ nextId)
    (h : renameId previousId nextId id = renameId previousId nextId id') : id = id' := by
  rw [renameId, renameId] at h
  split at h
  · next hprev =>
    split at h
    · next hprev' => exact hprev.trans hprev'.symm
    · exact absurd h.symm hid'
  · split at h
    · exact absurd h hid
    · exact h

theorem renameId_ne_previous (hne : nextId ≠ previousId) : renameId previousId nextId id ≠ previousId := by
  rw [renameId]
  split
  · exact hne
  · next h => exact h

theorem nodup_map_renameId {ids : List JsString} (hnodup : ids.Nodup) (hfree : nextId ∉ ids) :
    (ids.map (renameId previousId nextId)).Nodup :=
  hnodup.map_on fun _ hid _ hid' heq =>
    renameId_inj (ne_of_mem_of_not_mem hid hfree) (ne_of_mem_of_not_mem hid' hfree) heq

/-! ## Edges -/

theorem replaced_perm (edges : List MemoryEdge) :
    (edges.filter (fun edge => !(edge.fromId = previousId || edge.toId = previousId)) ++
      (edges.filter fun edge => edge.fromId = previousId || edge.toId = previousId).map (·.rename previousId nextId)).Perm
        (edges.map (·.rename previousId nextId)) := by
  have hrest : edges.filter (fun edge => !(edge.fromId = previousId || edge.toId = previousId)) =
      (edges.filter fun edge => !(edge.fromId = previousId || edge.toId = previousId)).map (·.rename previousId nextId) := by
    conv_lhs => rw [← List.map_id (edges.filter _)]
    refine List.map_congr_left fun edge hedge => ?_
    have hfalse := (List.mem_filter.mp hedge).2
    simp only [Bool.not_eq_true', Bool.or_eq_false_iff, decide_eq_false_iff_not] at hfalse
    rw [rename, renameId_of_ne hfalse.1, renameId_of_ne hfalse.2]
    rfl
  rw [hrest, ← List.map_append]
  refine List.Perm.map _ ?_
  exact (List.perm_append_comm).trans (List.filter_append_perm _ edges)

variable {edges : List MemoryEdge}

/-- Edges between nodes, none of which has the new id, keep distinct keys. -/
theorem nodup_keys_rename (hnodup : (edges.map MemoryEdge.key).Nodup)
    (hfree : ∀ edge ∈ edges, edge.fromId ≠ nextId ∧ edge.toId ≠ nextId) :
    ((edges.map (·.rename previousId nextId)).map MemoryEdge.key).Nodup := by
  have hkeys : (edges.map (·.rename previousId nextId)).map MemoryEdge.key =
      (edges.map MemoryEdge.key).map fun key => (renameId previousId nextId key.1, renameId previousId nextId key.2.1, key.2.2) := by
    rw [List.map_map, List.map_map]
    rfl
  rw [hkeys]
  refine hnodup.map_on fun key hkey key' hkey' heq => ?_
  obtain ⟨edge, hedge, rfl⟩ := List.mem_map.mp hkey
  obtain ⟨edge', hedge', rfl⟩ := List.mem_map.mp hkey'
  obtain ⟨hfrom, hto⟩ := hfree edge hedge
  obtain ⟨hfrom', hto'⟩ := hfree edge' hedge'
  simp only [MemoryEdge.key, Prod.mk.injEq] at heq ⊢
  exact ⟨renameId_inj hfrom hfrom' heq.1, renameId_inj hto hto' heq.2.1, heq.2.2⟩

theorem replaceMemoryEdgeNodeId_ok (hnodup : (edges.map key).Nodup)
    (hfree : ∀ edge ∈ edges, edge.fromId ≠ nextId ∧ edge.toId ≠ nextId) :
    ∃ replaced, replaceMemoryEdgeNodeId edges previousId nextId = .ok replaced ∧
      replaced.Perm (edges.map (·.rename previousId nextId)) := by
  have hperm := @replaced_perm previousId nextId edges
  refine ⟨_, ?_, hperm⟩
  exact if_pos ((hperm.map key).nodup_iff.mpr (nodup_keys_rename hnodup hfree))

theorem replaceMemoryEdgeNodeId_perm {replaced : List MemoryEdge} (h : replaceMemoryEdgeNodeId edges previousId nextId = .ok replaced) :
    replaced.Perm (edges.map (·.rename previousId nextId)) := by
  rw [replaceMemoryEdgeNodeId] at h
  split at h
  · cases h
    exact replaced_perm edges
  · cases h

theorem writeLink_ends {fromId now : JsString} {link : PreparedMemoryLink} {a b : JsString} :
    (∃ edge ∈ writeLink fromId now edges link, edge.fromId = a ∧ edge.toId = b) ↔
      (∃ edge ∈ edges, edge.fromId = a ∧ edge.toId = b) ∨ fromId = a ∧ link.toId = b := by
  rw [writeLink]
  split
  · next hany =>
    obtain ⟨found, hfound, hkey⟩ := List.any_eq_true.mp hany
    have hkey : found.key = _ := of_decide_eq_true hkey
    constructor
    · rintro ⟨edge, hedge, hfrom, hto⟩
      obtain ⟨original, horig, rfl⟩ := List.mem_map.mp hedge
      refine .inl ⟨original, horig, ?_⟩
      split at hfrom
      · next heq =>
        rw [if_pos heq] at hto
        exact ⟨hfrom, hto⟩
      · next heq =>
        rw [if_neg heq] at hto
        exact ⟨hfrom, hto⟩
    · have hkept : ∀ original ∈ edges, ∃ edge ∈ edges.map (fun other : MemoryEdge =>
          if other.key = (⟨fromId, link.toId, link.relation, link.note, now, now⟩ : MemoryEdge).key then
            { other with note := link.note, updatedAt := now } else other),
          edge.fromId = original.fromId ∧ edge.toId = original.toId := by
        intro original horig
        refine ⟨_, List.mem_map_of_mem horig, ?_⟩
        split
        · exact ⟨rfl, rfl⟩
        · exact ⟨rfl, rfl⟩
      rintro (⟨original, horig, rfl, rfl⟩ | ⟨rfl, rfl⟩)
      · exact hkept original horig
      · obtain ⟨edge, hedge, hfrom, hto⟩ := hkept found hfound
        have hends := Prod.mk.inj hkey
        exact ⟨edge, hedge, hfrom.trans hends.1, hto.trans (Prod.mk.inj hends.2).1⟩
  · simp only [List.mem_append, List.mem_singleton]
    constructor
    · rintro ⟨edge, hold | rfl, hfrom, hto⟩
      · exact .inl ⟨edge, hold, hfrom, hto⟩
      · exact .inr ⟨hfrom, hto⟩
    · rintro (⟨edge, hedge, hfrom, hto⟩ | ⟨hfrom, hto⟩)
      · exact ⟨edge, .inl hedge, hfrom, hto⟩
      · exact ⟨_, .inr rfl, hfrom, hto⟩

theorem writePreparedMemoryLinks_ends {fromId now : JsString} {links : List PreparedMemoryLink} {a b : JsString} :
    (∃ edge ∈ writePreparedMemoryLinks edges fromId links now, edge.fromId = a ∧ edge.toId = b) ↔
      (∃ edge ∈ edges, edge.fromId = a ∧ edge.toId = b) ∨ ∃ link ∈ links, fromId = a ∧ link.toId = b := by
  rw [writePreparedMemoryLinks]
  induction links generalizing edges with
  | nil => simp
  | cons link links ih =>
    rw [List.foldl_cons, ih, writeLink_ends]
    simp only [List.mem_cons, exists_eq_or_imp, or_assoc]

/-! ## References -/

theorem referencesHold_iff {nodes : List MemoryRow} {validations : List MemoryNodeValidation} :
    referencesHold nodes edges validations = true ↔
      (∀ edge ∈ edges, edge.fromId ∈ nodes.map (·.id) ∧ edge.toId ∈ nodes.map (·.id)) ∧
        (∀ row ∈ nodes, ∀ parent, row.duplicateOfMemoryId = some parent → parent ∈ nodes.map (·.id)) ∧
        ∀ v ∈ validations, v.nodeId ∈ nodes.map (·.id) := by
  simp only [referencesHold, Bool.and_eq_true, List.all_eq_true, List.contains_iff_mem, Option.all_eq_true_iff_get, and_assoc]
  refine and_congr_right fun _ => and_congr_left fun _ => forall₂_congr fun row _ => ?_
  constructor
  · intro h parent hpar
    have hget := h (by rw [hpar]; rfl)
    rwa [Option.get_of_eq_some _ hpar] at hget
  · intro h hsome
    exact h _ (Option.some_get hsome).symm

section

variable {store : MemoryStore} {node : MemoryNode} {row : MemoryRow} {titleNorm : JsString} {provenance : MemoryNodeWriteProvenance}
  {links : List PreparedMemoryLink} {author : Option ModelAuthor}

theorem retyped_ids (store : MemoryStore) (previousId : JsString) (next : MemoryRow) :
    (store.nodes.map fun other => if other.id = previousId then next else other).map (·.id) =
      (store.nodes.map (·.id)).map (renameId previousId next.id) := by
  rw [List.map_map, List.map_map]
  refine List.map_congr_left fun other _ => ?_
  rw [Function.comp_apply, Function.comp_apply, renameId]
  split <;> rfl

theorem id_not_mem_of_row?_none {id : JsString} (h : store.row? id = none) : id ∉ store.nodes.map (·.id) := by
  intro hmem
  obtain ⟨row, hrow, rfl⟩ := List.mem_map.mp hmem
  rw [MemoryStore.row?_of_mem hrow] at h
  cases h

def othersOf (store : MemoryStore) (previousId : JsString) : List MemoryRow := store.nodes.filter (·.id ≠ previousId)

/-- The nodes once the node has been written. -/
def retypedNodes (store : MemoryStore) (previousId : JsString) (next : MemoryRow) : List MemoryRow :=
  store.nodes.map fun other => if other.id = previousId then next else other

def cascaded (store : MemoryStore) (previousId nextId : JsString) : List MemoryNodeValidation :=
  store.validations.map fun v => { v with nodeId := renameId previousId nextId v.nodeId }

/-- What the transaction has come through where it succeeds. -/
structure Committed (env : MemoryPlatform) (store : MemoryStore) (previousId : JsString) (node : MemoryNode) (next : MemoryRow)
    (provenance : MemoryNodeWriteProvenance) (links : List PreparedMemoryLink) (author : Option ModelAuthor) (store' : MemoryStore) : Prop where
  identity : ¬ (othersOf store previousId).any (hasIdentityOf next) = true
  evidence : ¬ (¬ (next.evidence.map MemoryEvidenceRef.id).Nodup ∨ (othersOf store previousId).any (fun other =>
    other.evidence.any fun e => (next.evidence.map MemoryEvidenceRef.id).contains e.id) = true)
  tables : ∃ edges authorship validations hkey,
    replaceMemoryEdgeNodeId store.edges previousId node.id = .ok edges ∧
    moveModelAuthorship store.authorship previousId node.id = .ok authorship ∧
    writeMemoryNodeValidation env (cascaded store previousId node.id) node provenance = .ok validations ∧
    referencesHold (retypedNodes store previousId next) (writePreparedMemoryLinks edges node.id links node.updatedAt) validations = true ∧
    store' = recordModelAuthorship ⟨{ store.toMemoryTables with
      nodes := retypedNodes store previousId next, edges := writePreparedMemoryLinks edges node.id links node.updatedAt },
      validations, authorship, hkey⟩ node.id node.revision author node.updatedAt

theorem writeRetypedNode_ok_iff (hrow : store.row? previousId = some row) (hfree : store.row? node.id = none) {store' : MemoryStore} :
    writeRetypedNode env store previousId node titleNorm provenance links row.revision author = .ok store' ↔
      Committed env store previousId node (retypedRow row node titleNorm provenance) provenance links author store' := by
  rw [writeRetypedNode, hrow, hfree]
  constructor
  · intro h
    obtain ⟨row', hrow', h⟩ := exceptBind_ok.mp h
    cases hrow'
    obtain ⟨-, h⟩ := exceptGuard_ok.mp h
    obtain ⟨-, h⟩ := exceptGuard_ok.mp h
    obtain ⟨hidentity, h⟩ := exceptGuard_ok.mp h
    obtain ⟨hev, h⟩ := exceptGuard_ok.mp h
    obtain ⟨edges, hedges, h⟩ := exceptBind_ok.mp h
    obtain ⟨authorship, hauth, h⟩ := exceptBind_ok.mp h
    obtain ⟨validations, hvals, h⟩ := exceptBind_ok.mp h
    obtain ⟨hrefs, h⟩ := exceptGuard_ok.mp h
    split at h
    · next hkey =>
      cases h
      refine ⟨hidentity, hev, edges, authorship, validations, hkey, hedges, hauth, hvals, ?_, rfl⟩
      rw [Bool.not_eq_true', Bool.not_eq_false] at hrefs
      exact hrefs
    · cases h
  · rintro ⟨hidentity, hev, edges, authorship, validations, hkey, hedges, hauth, hvals, hrefs, rfl⟩
    refine exceptBind_ok.mpr ⟨row, rfl, exceptGuard_ok.mpr ⟨not_not.mpr rfl, ?_⟩⟩
    refine exceptGuard_ok.mpr ⟨Bool.false_ne_true, exceptGuard_ok.mpr ⟨hidentity, ?_⟩⟩
    refine exceptGuard_ok.mpr ⟨hev, exceptBind_ok.mpr ⟨edges, hedges, ?_⟩⟩
    refine exceptBind_ok.mpr ⟨authorship, hauth, exceptBind_ok.mpr ⟨validations, hvals, ?_⟩⟩
    refine exceptGuard_ok.mpr ⟨?_, ?_⟩
    · show ¬ (!referencesHold (retypedNodes store previousId (retypedRow row node titleNorm provenance)) _ _) = true
      rw [hrefs]
      exact Bool.false_ne_true
    · exact dif_pos hkey

theorem moveModelAuthorship_ok_iff {authorship moved : List MemoryAuthorship} :
    moveModelAuthorship authorship previousId nextId = .ok moved ↔
      (∀ row ∈ authorship, ∀ other ∈ authorship, row.resourceId = previousId → other.resourceId = nextId →
        ¬ (other.revision = row.revision ∧ other.toModelAuthor = row.toModelAuthor)) ∧
      moved = authorship.map fun row => { row with resourceId := renameId previousId nextId row.resourceId } := by
  rw [moveModelAuthorship]
  have hany : (authorship.any fun row => row.resourceId = previousId && authorship.any fun other =>
      other.resourceId = nextId && other.revision = row.revision && other.toModelAuthor = row.toModelAuthor) = true ↔
        ∃ row ∈ authorship, row.resourceId = previousId ∧ ∃ other ∈ authorship, other.resourceId = nextId ∧
          other.revision = row.revision ∧ other.toModelAuthor = row.toModelAuthor := by
    simp only [List.any_eq_true, Bool.and_eq_true, decide_eq_true_eq, and_assoc]
  constructor
  · intro h
    split at h
    · cases h
    · next hnone =>
      refine ⟨fun row hrow other hother hprev hnext hsame => ?_, (Except.ok.inj h).symm⟩
      exact hnone (hany.mpr ⟨row, hrow, hprev, other, hother, hnext, hsame⟩)
  · rintro ⟨hnone, rfl⟩
    refine if_neg fun hsome => ?_
    obtain ⟨row, hrow, hprev, other, hother, hnext, hsame⟩ := hany.mp hsome
    exact hnone row hrow other hother hprev hnext hsame

theorem writeMemoryNodeValidation_ok_iff {validations written : List MemoryNodeValidation} :
    writeMemoryNodeValidation env validations node provenance = .ok written ↔
      (provenance.validation.isSome = true → ∃ catalogHash, provenance.catalogHash = some catalogHash ∧
        ∀ v ∈ validations, ¬ (v.nodeId = node.id ∧ v.nodeRevision = node.revision ∧ v.catalogHash = catalogHash)) ∧
      written = validations ++ newValidation env node provenance := by
  rw [writeMemoryNodeValidation, newValidation]
  cases hvalidation : provenance.validation with
  | none =>
    simp only [Option.isSome_none, Bool.false_eq_true, false_imp_iff, true_and, List.append_nil]
    exact ⟨fun h => (Except.ok.inj h).symm, fun h => congrArg Except.ok h.symm⟩
  | some validation =>
    cases hcatalog : provenance.catalogHash with
    | none =>
      refine iff_of_false nofun ?_
      rintro ⟨hexists, -⟩
      obtain ⟨_, hnone, -⟩ := hexists rfl
      cases hnone
    | some catalogHash =>
      obtain ⟨kind, profile⟩ := validation
      simp only
      split
      · next hany =>
        refine iff_of_false nofun ?_
        rintro ⟨hexists, -⟩
        obtain ⟨_, ⟨⟩, hnone⟩ := hexists rfl
        obtain ⟨v, hv, hsame⟩ := List.any_eq_true.mp hany
        simp only [Bool.and_eq_true, decide_eq_true_eq, and_assoc] at hsame
        exact hnone v hv hsame
      · next hnone =>
        refine ⟨fun h => ⟨fun _ => ⟨catalogHash, rfl, fun v hv hsame => hnone ?_⟩, (Except.ok.inj h).symm⟩,
          fun h => congrArg Except.ok h.2.symm⟩
        refine List.any_eq_true.mpr ⟨v, hv, ?_⟩
        simpa only [Bool.and_eq_true, decide_eq_true_eq, and_assoc] using hsame

theorem mem_othersOf {other : MemoryRow} : other ∈ othersOf store previousId ↔ other ∈ store.nodes ∧ other.id ≠ previousId := by
  rw [othersOf, List.mem_filter, decide_eq_true_eq]

variable {next : MemoryRow}

theorem identity_iff :
    ¬ (othersOf store previousId).any (hasIdentityOf next) = true ↔
      ∀ other ∈ store.nodes, other.id ≠ previousId → hasIdentityOf next other = false := by
  rw [List.any_eq_true]
  constructor
  · intro h other hother hne
    exact Bool.eq_false_iff.mpr fun hsame => h ⟨other, mem_othersOf.mpr ⟨hother, hne⟩, hsame⟩
  · rintro h ⟨other, hother, hsame⟩
    obtain ⟨hmem, hne⟩ := mem_othersOf.mp hother
    rw [h other hmem hne] at hsame
    cases hsame

theorem evidence_iff {ids : List JsString} :
    ¬ (¬ ids.Nodup ∨ (othersOf store previousId).any (fun other => other.evidence.any fun e => ids.contains e.id) = true) ↔
      ids.Nodup ∧ ∀ other ∈ store.nodes, other.id ≠ previousId → ∀ e ∈ other.evidence, e.id ∉ ids := by
  rw [not_or, not_not]
  refine and_congr_right fun _ => ?_
  constructor
  · intro h other hother hne e he hmem
    refine h (List.any_eq_true.mpr ⟨other, mem_othersOf.mpr ⟨hother, hne⟩, List.any_eq_true.mpr ⟨e, he, ?_⟩⟩)
    exact List.contains_iff_mem.mpr hmem
  · intro h hany
    obtain ⟨other, hother, hany⟩ := List.any_eq_true.mp hany
    obtain ⟨hmem, hne⟩ := mem_othersOf.mp hother
    obtain ⟨e, he, hcontains⟩ := List.any_eq_true.mp hany
    exact h other hmem hne e he (List.contains_iff_mem.mp hcontains)

variable {graph : StoredGraph} {edges : List MemoryEdge} {now : JsString}

theorem references_iff (next : MemoryRow) {validations : List MemoryNodeValidation}
    (hrow : graph.row? previousId = some row) (hfree : next.id ∉ graph.nodes.map (·.id))
    (hlink : next.duplicateOfMemoryId = row.duplicateOfMemoryId)
    (hedges : edges.Perm (graph.edges.map (·.rename previousId next.id)))
    (hvals : ∀ v ∈ validations, v.nodeId = next.id ∨ ∃ v₀ ∈ graph.validations, v.nodeId = renameId previousId next.id v₀.nodeId) :
    referencesHold (retypedNodes graph.toMemoryStore previousId next) (writePreparedMemoryLinks edges next.id links now) validations = true ↔
      (∀ other ∈ graph.nodes, other.duplicateOfMemoryId ≠ some previousId) ∧
        ∀ link ∈ links, link.toId ≠ previousId ∧ (link.toId = next.id ∨ ∃ other ∈ graph.nodes, other.id = link.toId) := by
  obtain ⟨hrowMem, hrowId⟩ := MemoryStore.row?_eq_some hrow
  obtain ⟨hedgeEnds, hparents, hvalidated⟩ := referencesHold_iff.mp graph.references
  have hprev : previousId ∈ graph.nodes.map (·.id) := List.mem_map.mpr ⟨row, hrowMem, hrowId⟩
  have hne : next.id ≠ previousId := fun h => hfree (h ▸ hprev)
  have hids : (retypedNodes graph.toMemoryStore previousId next).map (·.id) =
      (graph.nodes.map (·.id)).map (renameId previousId next.id) := retyped_ids _ _ _
  have hrenamed : ∀ id ∈ graph.nodes.map (·.id), renameId previousId next.id id ∈ (graph.nodes.map (·.id)).map (renameId previousId next.id) :=
    fun id hid => List.mem_map_of_mem hid
  have hnext : next.id ∈ (graph.nodes.map (·.id)).map (renameId previousId next.id) := by
    have hself := hrenamed previousId hprev
    rwa [renameId_self] at hself
  have hgone : previousId ∉ (graph.nodes.map (·.id)).map (renameId previousId next.id) := by
    intro hmem
    obtain ⟨id, -, heq⟩ := List.mem_map.mp hmem
    exact renameId_ne_previous hne heq
  have hown : ∀ other ∈ graph.nodes, other.id = previousId → other = row := fun other hother hid =>
    MemoryStore.eq_of_id hother hrowMem (hid.trans hrowId.symm)
  rw [referencesHold_iff, hids]
  constructor
  · rintro ⟨hends, hlinked, -⟩
    refine ⟨fun other hother hdup => ?_, fun link hmem => ?_⟩
    · refine hgone (hlinked _ (List.mem_map_of_mem hother) previousId ?_)
      split
      · next hid => rw [hlink, ← hown other hother hid, hdup]
      · exact hdup
    · obtain ⟨edge, hedge, -, hto⟩ := writePreparedMemoryLinks_ends.mpr (.inr ⟨link, hmem, rfl, rfl⟩)
      have hend := (hends edge hedge).2
      rw [hto] at hend
      refine ⟨fun heq => hgone (heq ▸ hend), ?_⟩
      obtain ⟨id, hid, heq⟩ := List.mem_map.mp hend
      rw [renameId] at heq
      split at heq
      · exact .inl heq.symm
      · obtain ⟨other, hother, hotherId⟩ := List.mem_map.mp hid
        exact .inr ⟨other, hother, hotherId.trans heq⟩
  · rintro ⟨hnone, hlinks⟩
    refine ⟨fun edge hedge => ?_, fun other hother parent hpar => ?_, fun v hv => ?_⟩
    · rcases writePreparedMemoryLinks_ends.mp ⟨edge, hedge, rfl, rfl⟩ with ⟨old, hold, hfrom, hto⟩ | ⟨link, hmem, hfrom, hto⟩
      · obtain ⟨original, horig, rfl⟩ := List.mem_map.mp (hedges.mem_iff.mp hold)
        obtain ⟨hfromId, htoId⟩ := hedgeEnds original horig
        rw [← hfrom, ← hto]
        exact ⟨hrenamed _ hfromId, hrenamed _ htoId⟩
      · obtain ⟨htoNe, htgt⟩ := hlinks link hmem
        rw [← hfrom, ← hto]
        refine ⟨hnext, ?_⟩
        rcases htgt with heq | ⟨target, htargetMem, htargetId⟩
        · rw [heq]
          exact hnext
        · have hmemId := hrenamed _ (List.mem_map_of_mem (f := fun row : MemoryRow => row.id) htargetMem)
          rwa [htargetId, renameId_of_ne htoNe] at hmemId
    · obtain ⟨original, horig, rfl⟩ := List.mem_map.mp hother
      have hparentOf : original.duplicateOfMemoryId = some parent := by
        split at hpar
        · next hid => rw [hown original horig hid, ← hlink, hpar]
        · exact hpar
      have hparentNe : parent ≠ previousId := fun heq => hnone original horig (heq ▸ hparentOf)
      have hmemId := hrenamed _ (hparents original horig parent hparentOf)
      rwa [renameId_of_ne hparentNe] at hmemId
    · rcases hvals v hv with heq | ⟨v₀, hv₀, heq⟩
      · rw [heq]
        exact hnext
      · rw [heq]
        exact hrenamed _ (hvalidated v₀ hv₀)

theorem cascaded_fresh (hfree : nextId ∉ graph.nodes.map (·.id)) {p : MemoryNodeValidation → Prop}
    (hp : ∀ v id, p { v with nodeId := id } ↔ p v) :
    (∀ v ∈ cascaded graph.toMemoryStore previousId nextId, ¬ (v.nodeId = nextId ∧ p v)) ↔
      ∀ v ∈ graph.validations, v.nodeId = previousId → ¬ p v := by
  obtain ⟨-, -, hvalidated⟩ := referencesHold_iff.mp graph.references
  constructor
  · intro h v hv hid hpv
    refine h _ (List.mem_map_of_mem hv) ⟨?_, (hp v _).mpr hpv⟩
    rw [hid, renameId_self]
  · rintro h v hv ⟨hid, hpv⟩
    obtain ⟨original, horig, rfl⟩ := List.mem_map.mp hv
    refine h original horig ?_ ((hp original _).mp hpv)
    by_contra hne
    rw [renameId_of_ne hne] at hid
    exact hfree (hid ▸ hvalidated original horig)

theorem retypedNodes_eq {store : MemoryStore} (h : ∀ other ∈ store.nodes, other.duplicateOfMemoryId ≠ some previousId) :
    retypedNodes store previousId next =
      store.nodes.map fun other => if other.id = previousId then next else other.renameLink previousId next.id := by
  refine List.map_congr_left fun other hother => ?_
  have hsame : other.renameLink previousId next.id = other := by
    rw [MemoryRow.renameLink]
    cases hpar : other.duplicateOfMemoryId with
    | none =>
      rw [Option.map_none, ← hpar]
    | some parent =>
      have hne : parent ≠ previousId := fun heq => h other hother (heq ▸ hpar)
      rw [Option.map_some, renameId_of_ne hne, ← hpar]
  rw [hsame]

theorem recordModelAuthorship_authorship (store : MemoryStore) (id : JsString) (revision : Nat) (author : Option ModelAuthor)
    (createdAt : JsString) :
    ∃ added, (recordModelAuthorship store id revision author createdAt).authorship = store.authorship ++ added ∧
      ∀ row ∈ added, row.resourceId = id ∧ namedAuthor author = some row.toModelAuthor := by
  rw [recordModelAuthorship]
  cases hnamed : namedAuthor author with
  | none => exact ⟨[], (List.append_nil _).symm, (by rintro _ ⟨⟩)⟩
  | some named =>
    simp only
    split
    · exact ⟨[], (List.append_nil _).symm, (by rintro _ ⟨⟩)⟩
    · refine ⟨_, rfl, fun row hrow => ?_⟩
      obtain rfl := List.mem_singleton.mp hrow
      exact ⟨rfl, rfl⟩

theorem renamed_of_tables
    (hnone : ∀ other ∈ store.nodes, other.duplicateOfMemoryId ≠ some previousId)
    (hperm : edges.Perm (store.edges.map (·.rename previousId next.id)))
    (hkey : ((retypedNodes store previousId next).map fun row => row.id).Nodup) {revision : Nat} :
    Renamed env store (recordModelAuthorship ⟨{ store.toMemoryTables with
      nodes := retypedNodes store previousId next, edges := writePreparedMemoryLinks edges next.id links next.updatedAt },
      cascaded store previousId next.id ++ newValidation env node provenance,
      store.authorship.map (fun row => { row with resourceId := renameId previousId next.id row.resourceId }), hkey⟩
      next.id revision author next.updatedAt) previousId node next provenance links author := by
  obtain ⟨htables, hvals⟩ := recordModelAuthorship_tables ⟨{ store.toMemoryTables with
      nodes := retypedNodes store previousId next, edges := writePreparedMemoryLinks edges next.id links next.updatedAt },
      cascaded store previousId next.id ++ newValidation env node provenance,
      store.authorship.map (fun row => { row with resourceId := renameId previousId next.id row.resourceId }), hkey⟩
      next.id revision author next.updatedAt
  refine ⟨?_, ⟨edges, hperm, ?_⟩, hvals, recordModelAuthorship_authorship _ _ _ _ _, fun a ha => ?_, ?_⟩
  · rw [htables]
    exact retypedNodes_eq hnone
  · rw [htables]
  · exact mem_authors_record.mpr (.inr ⟨rfl, ha⟩)
  · rw [htables]

/-- **The transaction succeeds as a renaming exactly if nothing is there that it does not provide for.** -/
theorem writeRetypedNode_renames_iff (hrow : graph.row? previousId = some row) (hfree : graph.row? node.id = none) :
    (∃ store', writeRetypedNode env graph.toMemoryStore previousId node titleNorm provenance links row.revision author = .ok store' ∧
        Renamed env graph.toMemoryStore store' previousId node (retypedRow row node titleNorm provenance) provenance links author) ↔
      Retypable graph.toMemoryStore previousId (retypedRow row node titleNorm provenance) provenance links := by
  have hfreeId : node.id ∉ graph.nodes.map (·.id) := id_not_mem_of_row?_none hfree
  obtain ⟨hends, -, -⟩ := referencesHold_iff.mp graph.references
  have hfreeEnds : ∀ edge ∈ graph.edges, edge.fromId ≠ node.id ∧ edge.toId ≠ node.id := fun edge hedge =>
    ⟨fun h => hfreeId (h ▸ (hends edge hedge).1), fun h => hfreeId (h ▸ (hends edge hedge).2)⟩
  have hcome : ∀ validations, (∃ old, validations = old ++ newValidation env node provenance ∧
        old = cascaded graph.toMemoryStore previousId node.id) → ∀ v ∈ validations,
      v.nodeId = node.id ∨ ∃ v₀ ∈ graph.validations, v.nodeId = renameId previousId node.id v₀.nodeId := by
    rintro _ ⟨_, rfl, rfl⟩ v hv
    rcases List.mem_append.mp hv with hold | hnew
    · obtain ⟨v₀, hv₀, rfl⟩ := List.mem_map.mp hold
      exact .inr ⟨v₀, hv₀, rfl⟩
    · left
      rw [newValidation] at hnew
      split at hnew
      · rw [List.mem_singleton.mp hnew]
      · cases hnew
  have hvalidation : (provenance.validation.isSome = true → ∃ catalogHash, provenance.catalogHash = some catalogHash ∧
        ∀ v ∈ cascaded graph.toMemoryStore previousId node.id,
          ¬ (v.nodeId = node.id ∧ v.nodeRevision = node.revision ∧ v.catalogHash = catalogHash)) ↔
      (provenance.validation.isSome = true → ∃ catalogHash, provenance.catalogHash = some catalogHash ∧
        ∀ v ∈ graph.validations, v.nodeId = previousId → ¬ (v.nodeRevision = node.revision ∧ v.catalogHash = catalogHash)) :=
    imp_congr_right fun _ => exists_congr fun catalogHash => and_congr_right fun _ =>
      cascaded_fresh (p := fun v => v.nodeRevision = node.revision ∧ v.catalogHash = catalogHash) hfreeId fun _ _ => Iff.rfl
  constructor
  · rintro ⟨store', hwrite, -⟩
    obtain ⟨hidentity, hev, edges, authorship, validations, hkey, hedges, hauth, hvals, hrefs, -⟩ :=
      (writeRetypedNode_ok_iff hrow hfree).mp hwrite
    obtain ⟨hwr, rfl⟩ := writeMemoryNodeValidation_ok_iff.mp hvals
    obtain ⟨hnone, hlinks⟩ := (references_iff (retypedRow row node titleNorm provenance) hrow hfreeId rfl
      (replaceMemoryEdgeNodeId_perm hedges) (hcome _ ⟨_, rfl, rfl⟩)).mp hrefs
    exact ⟨hnone, identity_iff.mp hidentity, evidence_iff.mp hev, (moveModelAuthorship_ok_iff.mp hauth).1, hlinks,
      hvalidation.mp hwr⟩
  · rintro ⟨hnone, hidentity, hev, hauth, hlinks, hwr⟩
    obtain ⟨edges, hedges, hperm⟩ := @replaceMemoryEdgeNodeId_ok previousId node.id _ graph.edgeKeys hfreeEnds
    have hkey : ((retypedNodes graph.toMemoryStore previousId (retypedRow row node titleNorm provenance)).map fun row => row.id).Nodup := by
      rw [retypedNodes, retyped_ids]
      exact nodup_map_renameId graph.primaryKey hfreeId
    have hcommit : Committed env graph.toMemoryStore previousId node (retypedRow row node titleNorm provenance) provenance links author _ :=
      ⟨identity_iff.mpr hidentity, evidence_iff.mpr hev, edges, _, _, hkey, hedges,
        moveModelAuthorship_ok_iff.mpr ⟨hauth, rfl⟩, writeMemoryNodeValidation_ok_iff.mpr ⟨hvalidation.mpr hwr, rfl⟩,
        (references_iff (retypedRow row node titleNorm provenance) hrow hfreeId rfl hperm (hcome _ ⟨_, rfl, rfl⟩)).mpr ⟨hnone, hlinks⟩, rfl⟩
    refine ⟨_, (writeRetypedNode_ok_iff hrow hfree).mpr hcommit, ?_⟩
    exact renamed_of_tables hnone hperm _

theorem nodup_keys_writeLink {fromId : JsString} {link : PreparedMemoryLink}
    (h : (edges.map MemoryEdge.key).Nodup) : ((writeLink fromId now edges link).map MemoryEdge.key).Nodup := by
  rw [writeLink]
  split
  · have hkeys : (edges.map fun other : MemoryEdge =>
        if other.key = (⟨fromId, link.toId, link.relation, link.note, now, now⟩ : MemoryEdge).key then
          { other with note := link.note, updatedAt := now } else other).map MemoryEdge.key = edges.map MemoryEdge.key := by
      rw [List.map_map]
      refine List.map_congr_left fun other _ => ?_
      rw [Function.comp_apply]
      split <;> rfl
    rw [hkeys]
    exact h
  · next hnone =>
    rw [List.map_append, List.nodup_append]
    refine ⟨h, List.nodup_singleton _, ?_⟩
    rintro key hkey key' hkey' rfl
    obtain ⟨edge, hedge, hsame⟩ := List.mem_map.mp hkey
    refine hnone (List.any_eq_true.mpr ⟨edge, hedge, decide_eq_true ?_⟩)
    exact hsame.trans (List.mem_singleton.mp hkey')

theorem nodup_keys_writePreparedMemoryLinks {fromId : JsString} {links : List PreparedMemoryLink}
    (h : (edges.map key).Nodup) : ((writePreparedMemoryLinks edges fromId links now).map key).Nodup := by
  rw [writePreparedMemoryLinks]
  induction links generalizing edges with
  | nil => exact h
  | cons link links ih =>
    rw [List.foldl_cons]
    exact ih (nodup_keys_writeLink h)

theorem stored_record {id createdAt : JsString} {revision : Nat} (hkeys : (store.edges.map key).Nodup)
    (hrefs : referencesHold store.nodes store.edges store.validations = true) :
    ∃ graph : StoredGraph, graph.toMemoryStore = recordModelAuthorship store id revision author createdAt := by
  obtain ⟨htables, hvals⟩ := recordModelAuthorship_tables store id revision author createdAt
  refine ⟨{ toMemoryStore := recordModelAuthorship store id revision author createdAt, edgeKeys := ?_, references := ?_ }, rfl⟩
  · rw [htables]
    exact hkeys
  · rw [htables, hvals]
    exact hrefs

/-- A store that the transaction commits is one that the database can hold. -/
theorem writeRetypedNode_stored (hrow : graph.row? previousId = some row) (hfree : graph.row? node.id = none)
    {store' : MemoryStore}
    (h : writeRetypedNode env graph.toMemoryStore previousId node titleNorm provenance links row.revision author = .ok store') :
    ∃ graph' : StoredGraph, graph'.toMemoryStore = store' := by
  obtain ⟨-, -, edges, authorship, validations, hkey, hedges, -, -, hrefs, rfl⟩ := (writeRetypedNode_ok_iff hrow hfree).mp h
  have hkeys : (edges.map key).Nodup := by
    rw [replaceMemoryEdgeNodeId] at hedges
    split at hedges
    · next hnodup =>
      cases hedges
      exact hnodup
    · cases hedges
  exact stored_record (nodup_keys_writePreparedMemoryLinks hkeys) hrefs

end

/-- **A node that gets another type is renamed exactly if no node is a duplicate of it**, and nothing else
is there that the new id, its evidence or its validation would clash with. -/
theorem reclassify_renames_iff (env : MemoryPlatform) (catalog : ActiveMemoryCatalog) (context : MemoryContext) (graph : StoredGraph)
    (row : MemoryRow) (patch : MemoryNodePatch) (type now : JsString) (links : List PreparedMemoryLink) (author : Option ModelAuthor)
    (hrow : row ∈ graph.nodes) (hfree : graph.row? (reclassifiedId env catalog row.toMemoryNode patch type) = none) :
    ((∃ store', reclassify env catalog context graph.toMemoryStore row.toMemoryNode patch type now links author = .ok store' ∧
        Renamed env graph.toMemoryStore store' row.id
          (correctedNode env context row.toMemoryNode patch (reclassifiedId env catalog row.toMemoryNode patch type) type now)
          (reclassifiedRow env catalog context row patch type now) (activeCatalogWriteProvenance env catalog) links author) ↔
      Retypable graph.toMemoryStore row.id (reclassifiedRow env catalog context row patch type now)
        (activeCatalogWriteProvenance env catalog) links) ∧
    ∀ store', reclassify env catalog context graph.toMemoryStore row.toMemoryNode patch type now links author = .ok store' →
      ∃ graph' : StoredGraph, graph'.toMemoryStore = store' :=
  ⟨writeRetypedNode_renames_iff (MemoryStore.row?_of_mem hrow) hfree,
    fun _ h => writeRetypedNode_stored (MemoryStore.row?_of_mem hrow) hfree h⟩

namespace Marks

/-- The three bugs, with an edge between the first two. -/
def linked : StoredGraph where
  toMemoryStore := { store with edges := [⟨js "bug_1", js "bug_2", js "related", [], later, later⟩] }
  edgeKeys := by decide +kernel
  references := by decide +kernel

def context : MemoryContext := ⟨some (js "session_1"), js "workspace", js "Workspace"⟩

def emptyPatch : MemoryNodePatch := ⟨none, none, none, none, none, none, none, none, none, none⟩

def failsWith {α : Type*} (x : Except JsString α) (error : JsString) : Bool :=
  match x with
  | .ok _ => false
  | .error e => e = error

theorem eq_error_of_failsWith {α : Type*} {x : Except JsString α} {error : JsString} (h : failsWith x error = true) : x = .error error := by
  cases x with
  | ok a => cases h
  | error e => exact congrArg Except.error (of_decide_eq_true h)

/-- A store that the database holds, and in which the first bug cannot become a note. -/
def refuses (store : MemoryStore) : Bool :=
  (store.edges.map MemoryEdge.key).Nodup && referencesHold store.nodes store.edges store.validations &&
    (store.row? (reclassifiedId platform Scopes.active (rowOf (js "bug_1")).toMemoryNode emptyPatch (js "note"))).isNone &&
    failsWith (reclassify platform Scopes.active context store (rowOf (js "bug_1")).toMemoryNode emptyPatch (js "note") later [] none)
      (js "FOREIGN KEY constraint failed")

end Marks

open Marks in
theorem reclassify_renames_iff_bug :
    ∃ store', reclassify platform Scopes.active context linked.toMemoryStore (rowOf (js "bug_1")).toMemoryNode emptyPatch (js "note") later []
        none = .ok store' ∧
      Renamed platform linked.toMemoryStore store' (js "bug_1")
        (correctedNode platform context (rowOf (js "bug_1")).toMemoryNode emptyPatch
          (reclassifiedId platform Scopes.active (rowOf (js "bug_1")).toMemoryNode emptyPatch (js "note")) (js "note") later)
        (reclassifiedRow platform Scopes.active context (rowOf (js "bug_1")) emptyPatch (js "note") later)
        (activeCatalogWriteProvenance platform Scopes.active) [] none := by
  refine (reclassify_renames_iff platform Scopes.active context linked (rowOf (js "bug_1")) emptyPatch (js "note") later [] none
    List.mem_cons_self (by decide +kernel)).1.mpr ⟨?_, ?_, ⟨?_, ?_⟩, nofun, nofun, fun _ => ⟨_, rfl, ?_⟩⟩
  · decide +kernel
  · decide +kernel
  · decide +kernel
  · decide +kernel
  · decide +kernel

open Marks in
/-- Once the second bug has been marked as a duplicate of the first one, the first one does not become a note. -/
theorem reclassify_fails :
    ∃ graph : StoredGraph,
      markDuplicate platform Scopes.active (js "s1") store (js "bug_2") (markAs "bug_1") later none = .ok graph.toMemoryStore ∧
      graph.row? (reclassifiedId platform Scopes.active (rowOf (js "bug_1")).toMemoryNode emptyPatch (js "note")) = none ∧
      reclassify platform Scopes.active context graph.toMemoryStore (rowOf (js "bug_1")).toMemoryNode emptyPatch (js "note") later []
        none = .error (js "FOREIGN KEY constraint failed") := by
  obtain ⟨store₁, hmark⟩ := ok_of_isOk (show (markDuplicate platform Scopes.active (js "s1") store (js "bug_2") (markAs "bug_1") later
    none).isOk = true by decide +kernel)
  have hrefuses : ((markDuplicate platform Scopes.active (js "s1") store (js "bug_2") (markAs "bug_1") later none).toOption.any
    refuses) = true := by decide +kernel
  rw [hmark] at hrefuses
  simp only [Except.toOption, Option.any_some, refuses, Bool.and_eq_true, decide_eq_true_eq, Option.isNone_iff_eq_none] at hrefuses
  obtain ⟨⟨⟨hkeys, hreferences⟩, hfree⟩, hfails⟩ := hrefuses
  exact ⟨⟨store₁, hkeys, hreferences⟩, hmark, hfree, eq_error_of_failsWith hfails⟩

end

end Beale.Memory
