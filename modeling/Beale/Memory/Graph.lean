import Beale.Memory.Compatibility

/-!
# The memory graph

The rows of the store: nodes with the catalog they were stored under, edges, and the snapshots of
catalogs. A node counts under the active catalog when it was stored under that catalog, or under one
that is compatible with it; only nodes that count are neighbours.

- `MemoryRow`, `MemoryEdge`, `MemoryTables`: the tables.
- `compatible_accepts_iff`: where two catalogs are compatible for a node, they accept it alike
  exactly when the neighbours that count under each cover the required types alike.
-/

namespace Beale.Memory

open Beale.Library

/-- A row of `memory_nodes` with the rows of its sessions, workspaces, assets, tags and evidence. -/
structure MemoryRow extends MemoryNode where
  titleNorm : JsString
  catalogHash : Option JsString
  duplicateOfMemoryId : Option JsString
  duplicateMarkedAt : Option JsString

/-- A row of `memory_edges`. -/
structure MemoryEdge where
  fromId : JsString
  toId : JsString
  relation : JsString
  note : JsString
  createdAt : JsString
  updatedAt : JsString
deriving DecidableEq

structure MemoryTables where
  nodes : List MemoryRow
  edges : List MemoryEdge
  /-- `memory_catalog_snapshots`: catalogs by their recorded hashes -/
  snapshots : JsMap JsString ResearchProfileMemory

/-- `SELECT * FROM memory_nodes WHERE id = ?`. -/
def MemoryTables.row? (db : MemoryTables) (id : JsString) : Option MemoryRow :=
  db.nodes.find? fun row => row.id = id

def MemoryTables.sourceMemory? (env : MemoryPlatform) (db : MemoryTables) (catalogHash : JsString) :
    Option ResearchProfileMemory :=
  (db.snapshots.get? catalogHash).filter fun memory => env.memoryCatalogHash memory = catalogHash

/-- `provenance.activeCatalog` of a node with a recorded catalog. -/
def isActiveCatalog (env : MemoryPlatform) (db : MemoryTables) (catalog : ActiveMemoryCatalog)
    (node : MemoryNode) (catalogHash : JsString) : Bool :=
  catalogHash = catalog.hash env
    || (db.sourceMemory? env catalogHash).any fun sourceMemory =>
      memoryNodeCatalogsAreCompatible node sourceMemory catalog.memory

def nodeCanParticipateInActiveCatalog (env : MemoryPlatform) (db : MemoryTables)
    (catalog : ActiveMemoryCatalog) (row : MemoryRow) : Bool :=
  match row.catalogHash with
  | none => env.preservesLegacyNodeIds catalog.memory
      || catalog.profile.any fun profile => profile.id = js "security-research"
  | some catalogHash => isActiveCatalog env db catalog row.toMemoryNode catalogHash

/-- The ids at the other ends of the edges of a node. -/
def neighborIds (db : MemoryTables) (nodeId : JsString) : List JsString :=
  (db.edges.filter fun edge => edge.fromId = nodeId || edge.toId = nodeId).map fun edge =>
    if edge.fromId = nodeId then edge.toId else edge.fromId

/-- `memoryNeighborTypes`: the types of the neighbours that count. -/
def memoryNeighborTypes (env : MemoryPlatform) (db : MemoryTables) (catalog : ActiveMemoryCatalog)
    (nodeId : JsString) : List JsString :=
  (((neighborIds db nodeId).filterMap db.row?).filter fun neighbor =>
    nodeCanParticipateInActiveCatalog env db catalog neighbor).map (·.type)

/-- The complete validation of a node under a catalog succeeds: the catalog has its type, and the
node passes. -/
def Accepts (env : MemoryPlatform) (db : MemoryTables) (catalog : ActiveMemoryCatalog)
    (node : MemoryNode) : Prop :=
  ∃ type, catalog.memory.typeOf? node.type = some type ∧
    validateCompleteNode env node type fullConstraintValidationScope
      (memoryNeighborTypes env db catalog node.id) = .ok ()

/-- The neighbours that count under a catalog cover the types that its rules for the node ask
for. -/
def NeighborsCover (env : MemoryPlatform) (db : MemoryTables) (catalog : ActiveMemoryCatalog)
    (node : MemoryNode) : Prop :=
  ∀ type, catalog.memory.typeOf? node.type = some type →
    requiredNeighborTypes type node.status ⊆ memoryNeighborTypes env db catalog node.id

def MeetsOwnRules (env : MemoryPlatform) (catalog : ActiveMemoryCatalog) (node : MemoryNode) : Prop :=
  ∀ type, catalog.memory.typeOf? node.type = some type → OwnRulesMet env node type

section

variable {env : MemoryPlatform} {db : MemoryTables} {catalog : ActiveMemoryCatalog} {node : MemoryNode}
  {type : ResearchProfileMemoryType}

theorem accepts_iff (h : catalog.memory.typeOf? node.type = some type) :
    Accepts env db catalog node ↔
      OwnRulesMet env node type ∧ NeighborsCover env db catalog node := by
  have hcover : NeighborsCover env db catalog node ↔
      requiredNeighborTypes type node.status ⊆ memoryNeighborTypes env db catalog node.id := by
    constructor
    · exact fun hcover => hcover type h
    · intro hcover type' h'
      rwa [← Option.some.inj (h.symm.trans h')]
  rw [hcover, ← complete_iff, ← validateCompleteNode_full]
  constructor
  · rintro ⟨type', htype', hvalid⟩
    rwa [Option.some.inj (h.symm.trans htype')]
  · exact fun hvalid => ⟨type, h, hvalid⟩

theorem meetsOwnRules_iff (h : catalog.memory.typeOf? node.type = some type) :
    MeetsOwnRules env catalog node ↔ OwnRulesMet env node type := by
  constructor
  · exact fun hmet => hmet type h
  · intro hmet type' h'
    rwa [← Option.some.inj (h.symm.trans h')]

end

/-- The comparison of two catalogs looks at the node alone, and it is right about the node alone.
Each catalog counts neighbours of its own: the two accept the node alike exactly when, should the
node meet its own rules, the neighbours that count under one cover the required types when those
that count under the other do. -/
theorem compatible_accepts_iff (env : MemoryPlatform) (db : MemoryTables)
    (source active : ActiveMemoryCatalog) (node : MemoryNode)
    (h : memoryNodeCatalogsAreCompatible node source.memory active.memory = true) :
    (Accepts env db source node ↔ Accepts env db active node) ↔
      (MeetsOwnRules env active node →
        (NeighborsCover env db source node ↔ NeighborsCover env db active node)) := by
  obtain ⟨type, type', htype, htype', hsame⟩ := sameRules_of_compatible env h
  have hown : OwnRulesMet env node type ↔ OwnRulesMet env node type' :=
    ⟨hsame.ownRulesMet, hsame.symm.ownRulesMet⟩
  rw [accepts_iff htype, accepts_iff htype', hown, meetsOwnRules_iff htype']
  exact and_congr_right_iff

/-! ## A neighbour that counts under one catalog only -/

namespace Scopes

/-- A catalog of chains and bugs. A chain needs a bug beside it; the severity of a bug may be
listed. -/
def catalogOf (severities : Option (List Scalar)) (name : JsString) : ResearchProfileMemory where
  types := [
    { id := js "chain", lifecycle := .active, creatable := true, requiresExplicitStatus := false,
      aliases := [], defaultStatus := js "open", allowedStatuses := [js "open"], attributes := none,
      requirements := [⟨[], [], false, false, [js "bug"]⟩] },
    { id := js "bug", lifecycle := .active, creatable := true, requiresExplicitStatus := false,
      aliases := [], defaultStatus := js "open", allowedStatuses := [js "open"],
      attributes := some (JsMap.empty.set (js "severity") ⟨.string, none, severities⟩),
      requirements := [] }]
  statuses := [⟨js "open", false, none⟩]
  evidenceKinds := []
  evidencePathBases := []
  relations := [js "enables"]
  presentation := .str name
  uniqueTypes := show [js "chain", js "bug"].Nodup by decide

def source : ActiveMemoryCatalog := ⟨catalogOf none (js "first"), none⟩

def active : ActiveMemoryCatalog := ⟨catalogOf (some [.string (js "high")]) (js "second"), none⟩

/-- The names stand for the hashes of the two catalogs. -/
def platform : MemoryPlatform where
  sha256 := id
  toLowerCase := id
  patternTest _ _ := true
  memoryCatalogHash memory := stringify memory.presentation
  preservesLegacyNodeIds _ := false
  nodeHash node := node.id

def nodeOf (id type : JsString) (attributes : JsMap JsString Json) : MemoryNode where
  id := id
  surfaceId := none
  sessionIds := []
  workspaces := [⟨js "w1", js "Workspace"⟩]
  subjectId := js "s1"
  subjectName := js "Subject"
  type := type
  title := id
  summary := []
  body := []
  status := js "open"
  confidence := 1 / 2
  assetIds := []
  tags := []
  attributes := attributes
  evidence := []
  createdAt := js "2026-01-01T00:00:00.000Z"
  updatedAt := js "2026-01-01T00:00:00.000Z"
  revision := 1

def chain : MemoryNode := nodeOf (js "chain_1") (js "chain") .empty

def bug : MemoryNode := nodeOf (js "bug_1") (js "bug") (JsMap.empty.set (js "severity") (.str (js "low")))

/-- A chain with its bug, both stored under the first catalog. -/
def tables : MemoryTables where
  nodes := [⟨chain, chain.title, some (source.hash platform), none, none⟩,
    ⟨bug, bug.title, some (source.hash platform), none, none⟩]
  edges := [⟨js "chain_1", js "bug_1", js "enables", [], chain.createdAt, chain.createdAt⟩]
  snapshots := (JsMap.empty.set (source.hash platform) source.memory).set (active.hash platform)
    active.memory

end Scopes

open Scopes in
/-- The bug counts under the first catalog only, so the chain passes there and not under the second
catalog, which is compatible for it. -/
theorem compatible_accepts_apart :
    memoryNodeCatalogsAreCompatible chain source.memory active.memory = true ∧
      ¬ (Accepts platform tables source chain ↔ Accepts platform tables active chain) := by
  refine ⟨by decide +kernel, fun h => ?_⟩
  have hsource : Accepts platform tables source chain :=
    ⟨_, rfl, by decide +kernel⟩
  obtain ⟨type, htype, hvalid⟩ := h.mp hsource
  cases htype
  exact absurd hvalid (by decide +kernel)

open Scopes in
/-- The two catalogs are compatible for the chain, so they would accept it alike if the neighbours
that count under each covered the bug it needs. -/
theorem compatible_accepts_iff_chain :
    memoryNodeCatalogsAreCompatible chain source.memory active.memory = true ∧
      ((Accepts platform tables source chain ↔ Accepts platform tables active chain) ↔
        (MeetsOwnRules platform active chain →
          (NeighborsCover platform tables source chain ↔ NeighborsCover platform tables active chain))) :=
  ⟨by decide +kernel, compatible_accepts_iff platform tables source active chain (by decide +kernel)⟩

end Beale.Memory
