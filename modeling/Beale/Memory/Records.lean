import Beale.Memory.Graph

/-!
# Nodes as they are read

A node is read from its own rows and from what other rows say about it: its duplicates, its
authors, and the validation that was recorded for it. A validation counts for one revision of a
node only, and only while the content of the node has the recorded hash.

- `MemoryStore`: the tables of the graph with those of validations and authorship.
-/

namespace Beale.Memory

open Beale.Library

inductive MemoryNodeValidationKind where
  | full
  | scoped
  | inherited
deriving DecidableEq

/-- A row of `memory_node_catalog_validations`. -/
structure MemoryNodeValidation where
  nodeId : JsString
  nodeRevision : Nat
  catalogHash : JsString
  nodeContentHash : JsString
  validationKind : MemoryNodeValidationKind
  researchProfile : Option MemoryNodeProfileIdentity
  validatedAt : JsString
deriving DecidableEq

structure ModelAuthor where
  provider : JsString
  model : JsString
deriving DecidableEq

/-- A row of `app_server_model_authorship` about a memory. -/
structure MemoryAuthorship extends ModelAuthor where
  resourceId : JsString
  revision : Nat
  createdAt : JsString

structure MemoryStore extends MemoryTables where
  validations : List MemoryNodeValidation
  authorship : List MemoryAuthorship
  /-- `id` is the primary key of `memory_nodes`. -/
  primaryKey : (nodes.map fun row => row.id).Nodup

/-! ## Authors -/

/-- `MIN(created_at)` of an author, among the rows of a resource. -/
def firstAuthoredAt (authorship : List MemoryAuthorship) (author : ModelAuthor) : JsString :=
  match (authorship.filter (·.toModelAuthor = author)).map (·.createdAt) with
  | [] => []
  | time :: times => times.foldl (fun first time => if time < first then time else first) time

/-- `modelAuthorsForResource` -/
def MemoryStore.authors (store : MemoryStore) (id : JsString) : List ModelAuthor :=
  let rows := store.authorship.filter (·.resourceId = id)
  (rows.map (·.toModelAuthor)).dedup.insertionSort fun a b =>
    firstAuthoredAt rows a < firstAuthoredAt rows b ∨
      firstAuthoredAt rows a = firstAuthoredAt rows b ∧
        (a.provider < b.provider ∨ a.provider = b.provider ∧ ¬ b.model < a.model)

def namedAuthor (author : Option ModelAuthor) : Option ModelAuthor :=
  author.bind fun author =>
    if trim author.provider = [] ∨ trim author.model = [] then none else some ⟨trim author.provider, trim author.model⟩

def recordModelAuthorship (store : MemoryStore) (id : JsString) (revision : Nat) (author : Option ModelAuthor)
    (createdAt : JsString) : MemoryStore :=
  match namedAuthor author with
  | none => store
  | some author =>
    -- INSERT OR IGNORE
    if store.authorship.any fun row => row.resourceId = id ∧ row.revision = revision ∧ row.toModelAuthor = author then store
    else { store with authorship := store.authorship ++ [{ author with resourceId := id, revision, createdAt }] }

/-! ## Provenance -/

inductive MemoryNodeProvenanceState where
  | legacyUnrecorded
  | catalogUnvalidated
  | activeValidated
  | foreignValidated
deriving DecidableEq

structure MemoryNodeProvenance where
  state : MemoryNodeProvenanceState
  catalogHash : Option JsString
  activeCatalog : Bool
  validation : Option MemoryNodeValidation

def MemoryStore.validation? (store : MemoryStore) (node : MemoryNode) (catalogHash : JsString) : Option MemoryNodeValidation :=
  store.validations.find? fun v => v.nodeId = node.id ∧ v.nodeRevision = node.revision ∧ v.catalogHash = catalogHash

/-- The validation of the node that counts: that of its revision, if the content is what was validated. -/
def MemoryStore.countingValidation (env : MemoryPlatform) (store : MemoryStore) (node : MemoryNode) (catalogHash : JsString) :
    Option MemoryNodeValidation :=
  if (store.sourceMemory? env catalogHash).isSome then
    (store.validation? node catalogHash).filter fun v => v.nodeContentHash = memoryNodeValidationHash env node
  else none

/-- `memoryNodeProvenanceFromRows` -/
def memoryNodeProvenance (env : MemoryPlatform) (store : MemoryStore) (catalog : ActiveMemoryCatalog) (row : MemoryRow) :
    MemoryNodeProvenance :=
  match row.catalogHash with
  | none => ⟨.legacyUnrecorded, none, false, none⟩
  | some catalogHash =>
    let active := isActiveCatalog env store.toMemoryTables catalog row.toMemoryNode catalogHash
    match store.countingValidation env row.toMemoryNode catalogHash with
    | none => ⟨.catalogUnvalidated, catalogHash, active, none⟩
    | some validation => ⟨if active then .activeValidated else .foreignValidated, catalogHash, active, validation⟩

/-! ## Nodes -/

structure MemoryNodeDuplicateSummary where
  id : JsString
  type : JsString
  title : JsString
  status : JsString
  revision : Nat
  markedAt : Option JsString
deriving DecidableEq

/-- A `MemoryNode` with what the tables derive. -/
structure MemoryNodeView extends MemoryRow where
  duplicateMemories : List MemoryNodeDuplicateSummary
  authors : List ModelAuthor
  provenance : MemoryNodeProvenance

/-- The duplicates of a node, `ORDER BY duplicate_marked_at, id`. -/
def MemoryStore.duplicateMemories (store : MemoryStore) (id : JsString) : List MemoryNodeDuplicateSummary :=
  let rows := (store.nodes.filter (·.duplicateOfMemoryId = some id)).insertionSort fun a b =>
    a.duplicateMarkedAt.getD [] < b.duplicateMarkedAt.getD [] ∨
      a.duplicateMarkedAt.getD [] = b.duplicateMarkedAt.getD [] ∧ ¬ b.id < a.id
  rows.map fun row => ⟨row.id, row.type, row.title, row.status, row.revision, row.duplicateMarkedAt⟩

section

variable (env : MemoryPlatform) (catalog : ActiveMemoryCatalog)

/-- A row, with what the tables say about it. -/
def MemoryStore.view (store : MemoryStore) (row : MemoryRow) : MemoryNodeView where
  toMemoryRow := row
  duplicateMemories := store.duplicateMemories row.id
  authors := store.authors row.id
  provenance := memoryNodeProvenance env store catalog row

/-- `getFromDatabase`; ids are trimmed on the way. -/
def MemoryStore.getFromDatabase (store : MemoryStore) (id : JsString) : Option MemoryNodeView :=
  if trim id = [] then none else (store.row? (trim id)).map (store.view env catalog)

def nodeIsVisible (subjectId : JsString) (node : MemoryNode) : Bool :=
  node.subjectId = subjectId && !node.workspaces.isEmpty

/-- `MemoryGraph.get`, for the subject of the context. -/
def MemoryStore.get (subjectId : JsString) (store : MemoryStore) (id : JsString) : Option MemoryNodeView :=
  (store.getFromDatabase env catalog id).filter fun node => nodeIsVisible subjectId node.toMemoryNode

end

end Beale.Memory
