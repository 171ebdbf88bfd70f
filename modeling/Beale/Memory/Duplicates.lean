import Beale.Memory.Records

/-!
# Duplicates of memories

Both marking a duplicate and undoing the mark raise the revision of the node. The validation of a
node is recorded for one revision.
-/

namespace Beale.Memory

open Beale.Library
open MemoryStore
open Client (exceptBind_ok exceptGuard_ok)

/-! ## The calls -/

structure MarkDuplicateInput where
  expectedRevision : Nat
  parentMemoryId : JsString
  reason : JsString

structure UndoDuplicateInput where
  expectedRevision : Nat
  reason : JsString

def requiredInputText (value label : JsString) : Except JsString JsString :=
  if trim value = [] then .error (label ++ js " must be a non-empty string.") else .ok (trim value)

def notFound (id : JsString) : JsString := js "Memory node not found: " ++ id

def revisionConflict (id : JsString) (expected found : Nat) : JsString :=
  js "Memory node revision conflict for " ++ id ++ js ": expected " ++ natText expected ++ js ", found " ++ natText found ++ js "."

def MemoryRow.isAt (row : MemoryRow) (id : JsString) (revision : Nat) (linked : Bool) : Bool :=
  row.id = id && row.revision = revision && row.duplicateOfMemoryId.isSome = linked

/-- `SET duplicate_of_memory_id = ?, duplicate_marked_at = ?, updated_at = ?, revision = ?` -/
def MemoryRow.relink (row : MemoryRow) (link : Option (JsString × JsString)) (now : JsString) : MemoryRow :=
  { row with
    duplicateOfMemoryId := link.map Prod.fst
    duplicateMarkedAt := link.map Prod.snd
    updatedAt := now
    revision := row.revision + 1 }

def MemoryRow.relinkAt (id : JsString) (revision : Nat) (linked : Bool) (link : Option (JsString × JsString)) (now : JsString)
    (row : MemoryRow) : MemoryRow :=
  if row.isAt id revision linked then row.relink link now else row

@[simp] theorem MemoryRow.id_relinkAt (id : JsString) (revision : Nat) (linked : Bool) (link : Option (JsString × JsString))
    (now : JsString) (row : MemoryRow) : (row.relinkAt id revision linked link now).id = row.id := by
  rw [relinkAt]
  split <;> rfl

/-- Rows that keep their ids. -/
def MemoryStore.mapNodes (store : MemoryStore) (f : MemoryRow → MemoryRow) (hid : ∀ row, (f row).id = row.id) : MemoryStore where
  toMemoryTables := { store.toMemoryTables with nodes := store.nodes.map f }
  validations := store.validations
  authorship := store.authorship
  primaryKey := by
    have hids : (fun row : MemoryRow => row.id) ∘ f = fun row => row.id := funext hid
    rw [List.map_map, hids]
    exact store.primaryKey

def MemoryStore.updateDuplicate (store : MemoryStore) (id : JsString) (revision : Nat) (linked : Bool)
    (link : Option (JsString × JsString)) (now : JsString) : Option MemoryStore :=
  -- `result.changes !== 1` throws
  if (store.nodes.filter (·.isAt id revision linked)).length = 1 then
    some (store.mapNodes (·.relinkAt id revision linked link now) (MemoryRow.id_relinkAt id revision linked link now))
  else none

/-- `if (node.duplicateOfMemoryId)` -/
def MemoryRow.isDuplicate (node : MemoryRow) : Bool := node.duplicateOfMemoryId.any (· ≠ [])

/-- The checks of `markDuplicate` up to the read of the parent: the node, and the id of its parent. -/
def requireMarkable (id : JsString) (input : MarkDuplicateInput) (current : Option MemoryNodeView) :
    Except JsString (MemoryNodeView × JsString) := do
  let current ← current.elim (.error (notFound id)) .ok
  if current.revision ≠ input.expectedRevision then
    throw (revisionConflict id input.expectedRevision current.revision)
  if current.isDuplicate then
    throw (js "Memory node " ++ id ++ js " is already marked as a duplicate of " ++ current.duplicateOfMemoryId.getD [] ++ js ".")
  let parentMemoryId ← requiredInputText input.parentMemoryId (js "Canonical parent memory id")
  let _ ← requiredInputText input.reason (js "Duplicate reason")
  if parentMemoryId = id then throw (js "A memory cannot be marked as a duplicate of itself.")
  return (current, parentMemoryId)

/-- The checks of `markDuplicate` from the read of the parent. -/
def requireParent (id : JsString) (current : MemoryNodeView) (parentMemoryId : JsString) (parent : Option MemoryNodeView) :
    Except JsString Unit := do
  let parent ← parent.elim (.error (js "Canonical parent memory not found: " ++ parentMemoryId ++ js ".")) .ok
  if parent.subjectId ≠ current.subjectId then throw (js "Duplicate memories must belong to the same research subject.")
  if parent.isDuplicate then
    throw (js "Canonical parent " ++ parentMemoryId ++ js " is itself a duplicate; choose its canonical parent instead.")
  if current.duplicateMemories ≠ [] then
    throw (js "Memory " ++ id ++ js " owns duplicate memories; undo or reassign them before coalescing it.")

/-- The write of `markDuplicate`. -/
def writeMark (store : MemoryStore) (id : JsString) (current : MemoryNodeView) (parentMemoryId now : JsString)
    (author : Option ModelAuthor) : Except JsString MemoryStore :=
  match store.updateDuplicate id current.revision false (some (parentMemoryId, now)) now with
  | none => .error (js "Memory node revision conflict for " ++ id ++ js ".")
  | some store => .ok (recordModelAuthorship store id (current.revision + 1) author now)

section

variable (env : MemoryPlatform) (catalog : ActiveMemoryCatalog) (subjectId : JsString)

def markDuplicate (store : MemoryStore) (id : JsString) (input : MarkDuplicateInput) (now : JsString) (author : Option ModelAuthor) :
    Except JsString MemoryStore := do
  let (current, parentMemoryId) ← requireMarkable id input (store.get env catalog subjectId id)
  requireParent id current parentMemoryId (store.get env catalog subjectId parentMemoryId)
  writeMark store id current parentMemoryId now author

def undoDuplicate (store : MemoryStore) (id : JsString) (input : UndoDuplicateInput) (now : JsString) (author : Option ModelAuthor) :
    Except JsString MemoryStore := do
  let current ← (store.get env catalog subjectId id).elim (.error (notFound id)) .ok
  if current.revision ≠ input.expectedRevision then
    throw (revisionConflict id input.expectedRevision current.revision)
  if !current.isDuplicate then throw (js "Memory node " ++ id ++ js " is not marked as a duplicate.")
  let _ ← requiredInputText input.reason (js "Duplicate undo reason")
  match store.updateDuplicate id current.revision true none now with
  | none => throw (js "Memory node revision conflict for " ++ id ++ js ".")
  | some store => return recordModelAuthorship store id (current.revision + 1) author now

/-! ## What undoing restores -/

/-- What a validation says, apart from its revision, its hash and its time. -/
def MemoryNodeValidation.meaning (validation : MemoryNodeValidation) : MemoryNodeValidationKind × Option MemoryNodeProfileIdentity :=
  (validation.validationKind, validation.researchProfile)

/-- Two provenances that differ in the revision and the time of the validation at most. -/
structure MemoryNodeProvenance.Same (p q : MemoryNodeProvenance) : Prop where
  state : p.state = q.state
  catalogHash : p.catalogHash = q.catalogHash
  activeCatalog : p.activeCatalog = q.activeCatalog
  validation : p.validation.map (·.meaning) = q.validation.map (·.meaning)

/-- A node that reads as another one does, apart from revision and timestamps. -/
structure MemoryNodeView.Same (node node' : MemoryNodeView) : Prop where
  row : node'.toMemoryRow =
    { node.toMemoryRow with
      revision := node'.revision, updatedAt := node'.updatedAt, duplicateMarkedAt := node'.duplicateMarkedAt }
  duplicateMemories : node'.duplicateMemories = node.duplicateMemories
  authors : ∀ author, author ∈ node'.authors ↔ author ∈ node.authors
  provenance : node.provenance.Same node'.provenance

/-- The node reads as it did, apart from revision and timestamps, and it is as visible as it was;
every other node reads as it did. -/
structure Restored (store store' : MemoryStore) (id : JsString) : Prop where
  node : ∃ node node', store.get env catalog subjectId id = some node ∧ store'.get env catalog subjectId id = some node' ∧
    node.Same node'
  others : ∀ other, trim other ≠ id → store'.get env catalog subjectId other = store.get env catalog subjectId other

/-- What the store has recorded about the node says the same of the revision that undoing comes to. -/
def sameRecorded (store : MemoryStore) (row : MemoryRow) (now : JsString) : Prop :=
  ∀ catalogHash, row.catalogHash = some catalogHash →
    (store.countingValidation env row.toMemoryNode catalogHash).map (·.meaning) =
      (store.countingValidation env { row.toMemoryNode with revision := row.revision + 2, updatedAt := now } catalogHash).map (·.meaning)

end

/-! ## Rows after a call -/

section

variable {env : MemoryPlatform} {catalog : ActiveMemoryCatalog} {subjectId : JsString} {store store' : MemoryStore}

variable {id now : JsString} {row : MemoryRow}

theorem MemoryStore.row?_eq_some (h : store.row? id = some row) :
    row ∈ store.nodes ∧ row.id = id := by
  rw [MemoryTables.row?] at h
  exact ⟨List.mem_of_find?_eq_some h, of_decide_eq_true (List.find?_some (p := fun row : MemoryRow => row.id = id) h)⟩

theorem MemoryStore.eq_of_id {row' : MemoryRow} (hrow : row ∈ store.nodes) (hrow' : row' ∈ store.nodes)
    (hid : row.id = row'.id) : row = row' :=
  List.inj_on_of_nodup_map store.primaryKey hrow hrow' hid

theorem MemoryStore.row?_of_mem (hrow : row ∈ store.nodes) : store.row? row.id = some row := by
  cases hfound : store.row? row.id with
  | none =>
    rw [MemoryTables.row?, List.find?_eq_none] at hfound
    exact absurd (decide_eq_true rfl) (hfound row hrow)
  | some row' =>
    obtain ⟨hmem, hid⟩ := row?_eq_some hfound
    rw [eq_of_id hmem hrow hid]

theorem MemoryStore.row?_mapNodes {f : MemoryRow → MemoryRow} (hid : ∀ row, (f row).id = row.id) (id : JsString) :
    (store.mapNodes f hid).row? id = (store.row? id).map f := by
  have hp : (fun row : MemoryRow => decide (row.id = id)) ∘ f = fun row => decide (row.id = id) := by
    funext row
    rw [Function.comp_apply, hid]
  rw [MemoryTables.row?, MemoryTables.row?, mapNodes, List.find?_map, hp]

variable {revision : Nat}

theorem MemoryRow.isAt_iff {linked : Bool} :
    row.isAt id revision linked = true ↔ row.id = id ∧ row.revision = revision ∧ row.duplicateOfMemoryId.isSome = linked := by
  rw [isAt, Bool.and_eq_true, Bool.and_eq_true, decide_eq_true_eq, decide_eq_true_eq, decide_eq_true_eq, and_assoc]

theorem MemoryStore.updateDuplicate_eq_some {linked : Bool} {link : Option (JsString × JsString)} :
    store.updateDuplicate id revision linked link now = some store' ↔
      (∃ row ∈ store.nodes, row.isAt id revision linked = true) ∧
        store' = store.mapNodes (·.relinkAt id revision linked link now) (MemoryRow.id_relinkAt id revision linked link now) := by
  rw [updateDuplicate]
  constructor
  · intro h
    split at h
    · next hlen =>
      obtain ⟨row, hrow⟩ := List.length_eq_one_iff.mp hlen
      obtain ⟨hmem, hat⟩ := List.mem_filter.mp (hrow ▸ List.mem_singleton_self row)
      exact ⟨⟨row, hmem, hat⟩, (Option.some.inj h).symm⟩
    · cases h
  · rintro ⟨⟨row, hrow, hat⟩, rfl⟩
    have hone : (store.nodes.filter (·.isAt id revision linked)).length = 1 := by
      have hle : (store.nodes.filter (·.isAt id revision linked)).Nodup :=
        (List.Nodup.of_map _ store.primaryKey).filter _
      have hall : ∀ other ∈ store.nodes.filter (·.isAt id revision linked), other = row := by
        intro other hother
        obtain ⟨hmem, hat'⟩ := List.mem_filter.mp hother
        exact eq_of_id hmem hrow ((MemoryRow.isAt_iff.mp hat').1.trans (MemoryRow.isAt_iff.mp hat).1.symm)
      have hmem : row ∈ store.nodes.filter (·.isAt id revision linked) := List.mem_filter.mpr ⟨hrow, hat⟩
      cases hrows : store.nodes.filter (·.isAt id revision linked) with
      | nil =>
        rw [hrows] at hmem
        cases hmem
      | cons first rest =>
        rw [hrows] at hle hall
        cases rest with
        | nil => rfl
        | cons second rest =>
          have hfirst := hall first List.mem_cons_self
          have hsecond := hall second (List.mem_cons_of_mem _ List.mem_cons_self)
          exact absurd (hfirst.trans hsecond.symm) (fun heq => (List.nodup_cons.mp hle).1 (heq ▸ List.mem_cons_self))
    rw [if_pos hone]

/-! ## Authorship -/

theorem MemoryStore.mem_authors {author : ModelAuthor} :
    author ∈ store.authors id ↔ ∃ row ∈ store.authorship, row.resourceId = id ∧ row.toModelAuthor = author := by
  rw [authors, List.mem_insertionSort, List.mem_dedup, List.mem_map]
  simp only [List.mem_filter, decide_eq_true_eq, and_assoc]

theorem recordModelAuthorship_tables (store : MemoryStore) (id : JsString) (revision : Nat) (author : Option ModelAuthor)
    (createdAt : JsString) :
    (recordModelAuthorship store id revision author createdAt).toMemoryTables = store.toMemoryTables ∧
      (recordModelAuthorship store id revision author createdAt).validations = store.validations := by
  rw [recordModelAuthorship]
  split
  · exact ⟨rfl, rfl⟩
  · split
    · exact ⟨rfl, rfl⟩
    · exact ⟨rfl, rfl⟩

variable {author : Option ModelAuthor}

theorem mem_authors_record {other : JsString} {createdAt : JsString} {a : ModelAuthor} :
    a ∈ (recordModelAuthorship store id revision author createdAt).authors other ↔
      a ∈ store.authors other ∨ other = id ∧ namedAuthor author = some a := by
  rw [recordModelAuthorship]
  cases hnamed : namedAuthor author with
  | none => simp
  | some named =>
    simp only
    split
    · next hpresent =>
      obtain ⟨row, hrow, hsame⟩ := List.any_eq_true.mp hpresent
      have hsame := of_decide_eq_true hsame
      constructor
      · exact Or.inl
      · rintro (hold | ⟨rfl, heq⟩)
        · exact hold
        · exact mem_authors.mpr ⟨row, hrow, hsame.1, hsame.2.2.trans (Option.some.inj heq)⟩
    · rw [mem_authors, mem_authors]
      simp only [List.mem_append, List.mem_singleton]
      constructor
      · rintro ⟨row, hrow | rfl, hid, ha⟩
        · exact .inl ⟨row, hrow, hid, ha⟩
        · exact .inr ⟨hid.symm, congrArg some ha⟩
      · rintro (⟨row, hrow, hid, ha⟩ | ⟨rfl, ha⟩)
        · exact ⟨row, .inl hrow, hid, ha⟩
        · exact ⟨_, .inr rfl, rfl, Option.some.inj ha⟩

theorem authors_record_of_ne {other : JsString} (h : other ≠ id) (revision : Nat) (author : Option ModelAuthor)
    (createdAt : JsString) : (recordModelAuthorship store id revision author createdAt).authors other = store.authors other := by
  have hrows : (recordModelAuthorship store id revision author createdAt).authorship.filter (·.resourceId = other) =
      store.authorship.filter (·.resourceId = other) := by
    rw [recordModelAuthorship]
    split
    · rfl
    · split
      · rfl
      · rw [List.filter_append, List.filter_cons_of_neg (by simpa using Ne.symm h), List.filter_nil, List.append_nil]
  rw [authors, authors, hrows]

/-! ## Both calls, one after the other -/

variable {node : MemoryNodeView}

theorem MemoryStore.get_eq_some :
    store.get env catalog subjectId id = some node ↔
      trim id ≠ [] ∧ ∃ row, store.row? (trim id) = some row ∧ nodeIsVisible subjectId row.toMemoryNode = true ∧
        store.view env catalog row = node := by
  rw [get, getFromDatabase, Option.filter_eq_some_iff]
  by_cases hblank : trim id = []
  · rw [if_pos hblank]
    simp [hblank]
  · rw [if_neg hblank, Option.map_eq_some_iff]
    constructor
    · rintro ⟨⟨row, hrow, rfl⟩, hvis⟩
      exact ⟨hblank, row, hrow, hvis, rfl⟩
    · rintro ⟨-, row, hrow, hvis, rfl⟩
      exact ⟨⟨row, hrow, rfl⟩, hvis⟩

theorem MemoryStore.get_own (h : store.get env catalog subjectId id = some node) :
    trim node.id = node.id ∧ node.id ≠ [] ∧ store.row? node.id = some node.toMemoryRow ∧
      nodeIsVisible subjectId node.toMemoryNode = true ∧ store.view env catalog node.toMemoryRow = node := by
  obtain ⟨hblank, row, hrow, hvis, rfl⟩ := get_eq_some.mp h
  have hid : row.id = trim id := (row?_eq_some hrow).2
  refine ⟨?_, ?_, ?_, hvis, rfl⟩
  · show trim row.id = row.id
    rw [hid, trim_idem]
  · show row.id ≠ []
    rwa [hid]
  · show store.row? row.id = some row
    rwa [hid]

/-- What marking a node and undoing the mark leave of a store. -/
structure Undone (store store' : MemoryStore) (row : MemoryRow) (now : JsString) (author author' : Option ModelAuthor) : Prop where
  own : store'.row? row.id = some { row with duplicateMarkedAt := none, updatedAt := now, revision := row.revision + 2 }
  rows : ∀ other, other ≠ row.id → store'.row? other = store.row? other
  duplicateMemories : ∀ id, store'.duplicateMemories id = store.duplicateMemories id
  authors : ∀ a, a ∈ store'.authors row.id ↔
    a ∈ store.authors row.id ∨ namedAuthor author = some a ∨ namedAuthor author' = some a
  otherAuthors : ∀ other, other ≠ row.id → store'.authors other = store.authors other
  validations : store'.validations = store.validations
  snapshots : store'.snapshots = store.snapshots

variable {input : MarkDuplicateInput}

theorem requireMarkable_ok {current : Option MemoryNodeView}
    {parentMemoryId : JsString} (h : requireMarkable id input current = .ok (node, parentMemoryId)) :
    current = some node ∧ parentMemoryId = trim input.parentMemoryId ∧ parentMemoryId ≠ [] ∧ parentMemoryId ≠ id := by
  rw [requireMarkable] at h
  obtain ⟨found, hfound, h⟩ := exceptBind_ok.mp h
  obtain ⟨-, h⟩ := exceptGuard_ok.mp h
  obtain ⟨-, h⟩ := exceptGuard_ok.mp h
  obtain ⟨parent, hpar, h⟩ := exceptBind_ok.mp h
  obtain ⟨-, -, h⟩ := exceptBind_ok.mp h
  obtain ⟨hself, h⟩ := exceptGuard_ok.mp h
  cases h
  rw [requiredInputText] at hpar
  split at hpar
  · cases hpar
  · next hblank =>
    cases hpar
    refine ⟨?_, rfl, hblank, hself⟩
    cases current with
    | none => cases hfound
    | some node => exact congrArg some (Except.ok.inj hfound)

theorem markDuplicate_ok
    (h : markDuplicate env catalog subjectId store id input now author = .ok store') :
    ∃ current parentMemoryId, store.get env catalog subjectId id = some current ∧ parentMemoryId ≠ [] ∧
      writeMark store id current parentMemoryId now author = .ok store' := by
  rw [markDuplicate] at h
  obtain ⟨⟨current, parentMemoryId⟩, hmarkable, h⟩ := exceptBind_ok.mp h
  obtain ⟨-, -, h⟩ := exceptBind_ok.mp h
  obtain ⟨hcur, -, hpar, -⟩ := requireMarkable_ok hmarkable
  exact ⟨current, parentMemoryId, hcur, hpar, h⟩

/-- Rows that a map leaves alone where they, or what they become, are looked for. -/
theorem filter_map_eq {α : Type*} {p : α → Bool} {f : α → α} {l : List α} (hp : ∀ a ∈ l, p (f a) = p a)
    (hf : ∀ a ∈ l, p a = true → f a = a) : (l.map f).filter p = l.filter p := by
  induction l with
  | nil => rfl
  | cons a l ih =>
    have hrest := ih (fun b hb => hp b (List.mem_cons_of_mem _ hb)) (fun b hb => hf b (List.mem_cons_of_mem _ hb))
    have ha := hp a List.mem_cons_self
    by_cases hpa : p a = true
    · rw [List.map_cons, List.filter_cons_of_pos (ha.trans hpa), List.filter_cons_of_pos hpa, hrest, hf a List.mem_cons_self hpa]
    · rw [List.map_cons, List.filter_cons_of_neg (by rw [ha]; exact hpa), List.filter_cons_of_neg hpa, hrest]

theorem MemoryRow.relinkAt_of_ne (h : row.id ≠ id) (revision : Nat) (linked : Bool)
    (link : Option (JsString × JsString)) (now : JsString) : row.relinkAt id revision linked link now = row := by
  rw [relinkAt, if_neg]
  exact fun hat => h (isAt_iff.mp hat).1

/-- A node that is no duplicate, linked and unlinked again. -/
theorem MemoryRow.relinkAt_twice (hnone : row.duplicateOfMemoryId = none) (parent now now' : JsString) :
    (row.relinkAt row.id row.revision false (some (parent, now)) now).relinkAt row.id (row.revision + 1) true none now' =
      { row with duplicateMarkedAt := none, updatedAt := now', revision := row.revision + 2 } := by
  have hat : row.isAt row.id row.revision false = true := isAt_iff.mpr ⟨rfl, rfl, by rw [hnone]; rfl⟩
  have hat' : (row.relink (some (parent, now)) now).isAt row.id (row.revision + 1) true = true := isAt_iff.mpr ⟨rfl, rfl, rfl⟩
  rw [relinkAt.eq_def row.id row.revision, if_pos hat, relinkAt, if_pos hat']
  show { row with
    duplicateOfMemoryId := none, duplicateMarkedAt := none, updatedAt := now', revision := row.revision + 1 + 1 } = _
  rw [← hnone]

/-- The rows of a store in which a node has been linked and unlinked. -/
theorem undone_of_nodes (parent now : JsString) {now' : JsString} {author' : Option ModelAuthor}
    (hrow : row ∈ store.nodes) (hnone : row.duplicateOfMemoryId = none)
    (hnodes : store'.nodes = (store.nodes.map (·.relinkAt row.id row.revision false (some (parent, now)) now)).map
      (·.relinkAt row.id (row.revision + 1) true none now'))
    (hauthors : ∀ a, a ∈ store'.authors row.id ↔
      a ∈ store.authors row.id ∨ namedAuthor author = some a ∨ namedAuthor author' = some a)
    (hrest : ∀ other, other ≠ row.id → store'.authors other = store.authors other)
    (hvals : store'.validations = store.validations) (hsnapshots : store'.snapshots = store.snapshots) :
    Undone store store' row now' author author' := by
  rw [List.map_map] at hnodes
  have hsame : ∀ other ∈ store.nodes, other.id ≠ row.id →
      (other.relinkAt row.id row.revision false (some (parent, now)) now).relinkAt row.id (row.revision + 1) true none now' = other := by
    intro other _ hne
    rw [MemoryRow.relinkAt_of_ne hne, MemoryRow.relinkAt_of_ne hne]
  have hfind : ∀ id, store'.row? id = (store.row? id).map fun other =>
      (other.relinkAt row.id row.revision false (some (parent, now)) now).relinkAt row.id (row.revision + 1) true none now' := by
    intro id
    have hids : (fun other : MemoryRow => decide (other.id = id)) ∘
        (MemoryRow.relinkAt row.id (row.revision + 1) true none now' ∘
          MemoryRow.relinkAt row.id row.revision false (some (parent, now)) now) = fun other => decide (other.id = id) := by
      funext other
      simp
    rw [MemoryTables.row?, hnodes, List.find?_map, hids]
    rfl
  refine ⟨?_, fun other hne => ?_, fun id => ?_, hauthors, hrest, hvals, hsnapshots⟩
  · rw [hfind, row?_of_mem hrow, Option.map_some, MemoryRow.relinkAt_twice hnone]
  · rw [hfind]
    cases hother : store.row? other with
    | none => rfl
    | some found =>
      obtain ⟨hmem, hid⟩ := row?_eq_some hother
      rw [Option.map_some, hsame found hmem (by rwa [hid])]
  · rw [duplicateMemories, duplicateMemories, hnodes]
    have hfilter := filter_map_eq (p := fun other : MemoryRow => decide (other.duplicateOfMemoryId = some id))
      (f := MemoryRow.relinkAt row.id (row.revision + 1) true none now' ∘
        MemoryRow.relinkAt row.id row.revision false (some (parent, now)) now) (l := store.nodes) ?_ ?_
    · rw [hfilter]
    · intro other hother
      by_cases hid : other.id = row.id
      · obtain rfl := eq_of_id hother hrow hid
        rw [Function.comp_apply, MemoryRow.relinkAt_twice hnone]
      · rw [Function.comp_apply, hsame other hother hid]
    · intro other hother hlinked
      refine hsame other hother fun hid => ?_
      obtain rfl := eq_of_id hother hrow hid
      have hlinked := of_decide_eq_true hlinked
      rw [hnone] at hlinked
      cases hlinked

/-- **A mark can be undone**, and this is what is left. -/
theorem mark_undo {store₁ : MemoryStore}
    {reason : JsString} (now' : JsString) (author' : Option ModelAuthor) (hget : store.get env catalog subjectId id = some node)
    (hmark : markDuplicate env catalog subjectId store node.id input now author = .ok store₁) (hreason : trim reason ≠ []) :
    ∃ store₂, undoDuplicate env catalog subjectId store₁ node.id ⟨node.revision + 1, reason⟩ now' author' = .ok store₂ ∧
      node.duplicateOfMemoryId = none ∧ Undone store store₂ node.toMemoryRow now' author author' := by
  obtain ⟨htrim, hne, hrow, hvis, -⟩ := get_own hget
  obtain ⟨hmem, -⟩ := row?_eq_some hrow
  obtain ⟨current, parent, hcur, hpar, hwrite⟩ := markDuplicate_ok hmark
  have hown : store.get env catalog subjectId node.id = some node := by
    rw [get_eq_some, htrim]
    exact ⟨hne, node.toMemoryRow, hrow, hvis, (get_own hget).2.2.2.2⟩
  obtain rfl := Option.some.inj (hown.symm.trans hcur)
  -- the write of the mark finds the node, which is therefore no duplicate
  rw [writeMark] at hwrite
  cases hupd : store.updateDuplicate node.id node.revision false (some (parent, now)) now with
  | none =>
    rw [hupd] at hwrite
    cases hwrite
  | some marked =>
    rw [hupd] at hwrite
    cases hwrite
    obtain ⟨⟨row, hrowMem, hat⟩, rfl⟩ := updateDuplicate_eq_some.mp hupd
    obtain ⟨hid, -, hlinked⟩ := MemoryRow.isAt_iff.mp hat
    obtain rfl := eq_of_id hrowMem hmem hid
    have hnone : node.duplicateOfMemoryId = none := Option.not_isSome_iff_eq_none.mp (by rw [hlinked]; exact Bool.false_ne_true)
    set marked := store.mapNodes (·.relinkAt node.id node.revision false (some (parent, now)) now)
      (MemoryRow.id_relinkAt _ _ _ _ _) with hmarked
    obtain ⟨htables, hvals⟩ := recordModelAuthorship_tables marked node.id (node.revision + 1) author now
    set store₁ := recordModelAuthorship marked node.id (node.revision + 1) author now with hstore₁
    -- the node as it is read after the mark
    have hat₁ : (node.toMemoryRow.relinkAt node.id node.revision false (some (parent, now)) now) =
        node.toMemoryRow.relink (some (parent, now)) now := if_pos hat
    have hrow₁ : store₁.row? node.id = some (node.toMemoryRow.relink (some (parent, now)) now) := by
      rw [htables, hmarked, row?_mapNodes, hrow, Option.map_some, hat₁]
    have hget₁ : store₁.get env catalog subjectId node.id =
        some (store₁.view env catalog (node.toMemoryRow.relink (some (parent, now)) now)) := by
      rw [get_eq_some, htrim]
      exact ⟨hne, _, hrow₁, hvis, rfl⟩
    obtain ⟨hmem₁, -⟩ := row?_eq_some hrow₁
    have hupd₁ : store₁.updateDuplicate node.id (node.revision + 1) true none now' = some _ :=
      updateDuplicate_eq_some.mpr ⟨⟨_, hmem₁, MemoryRow.isAt_iff.mpr ⟨rfl, rfl, rfl⟩⟩, rfl⟩
    have hdup : (store₁.view env catalog (node.toMemoryRow.relink (some (parent, now)) now)).isDuplicate = true :=
      decide_eq_true hpar
    refine ⟨recordModelAuthorship (store₁.mapNodes (·.relinkAt node.id (node.revision + 1) true none now')
      (MemoryRow.id_relinkAt _ _ _ _ _)) node.id (node.revision + 2) author' now', ?_, hnone, ?_⟩
    · rw [undoDuplicate, hget₁]
      refine exceptBind_ok.mpr ⟨_, rfl, exceptGuard_ok.mpr ⟨by rw [not_not]; rfl, ?_⟩⟩
      refine exceptGuard_ok.mpr ⟨by rw [hdup]; exact Bool.false_ne_true, ?_⟩
      refine exceptBind_ok.mpr ⟨trim reason, by rw [requiredInputText, if_neg hreason], ?_⟩
      have hrev : (store₁.view env catalog (node.toMemoryRow.relink (some (parent, now)) now)).revision = node.revision + 1 := rfl
      rw [hrev, hupd₁]
      rfl
    · obtain ⟨htables₂, hvals₂⟩ := recordModelAuthorship_tables
        (store₁.mapNodes (·.relinkAt node.id (node.revision + 1) true none now') (MemoryRow.id_relinkAt _ _ _ _ _))
        node.id (node.revision + 2) author' now'
      refine undone_of_nodes parent now hmem hnone ?_ (fun a => ?_) (fun other hother => ?_) ?_ ?_
      · rw [htables₂]
        show store₁.nodes.map _ = _
        rw [htables]
        rfl
      · rw [mem_authors_record]
        have hfirst : a ∈ store₁.authors node.id ↔ a ∈ store.authors node.id ∨ namedAuthor author = some a := by
          rw [hstore₁, mem_authors_record, hmarked]
          simp only [true_and]
          exact Iff.rfl
        have hstep : a ∈ (store₁.mapNodes (·.relinkAt node.id (node.revision + 1) true none now')
            (MemoryRow.id_relinkAt _ _ _ _ _)).authors node.id ↔ a ∈ store₁.authors node.id := Iff.rfl
        rw [hstep, hfirst]
        simp only [true_and, or_assoc]
      · rw [authors_record_of_ne hother]
        show store₁.authors other = _
        rw [hstore₁, authors_record_of_ne hother]
        rfl
      · rw [hvals₂]
        exact hvals
      · rw [htables₂]
        show store₁.snapshots = _
        rw [htables]
        rfl

/-! ## What is restored -/

section

variable (hvals : store'.validations = store.validations)
  (hsnapshots : store'.snapshots = store.snapshots)
include hvals hsnapshots

theorem countingValidation_congr (node : MemoryNode) (catalogHash : JsString) :
    store'.countingValidation env node catalogHash = store.countingValidation env node catalogHash := by
  rw [countingValidation, countingValidation, MemoryTables.sourceMemory?, MemoryTables.sourceMemory?,
    validation?, validation?, hvals, hsnapshots]

theorem memoryNodeProvenance_congr (row : MemoryRow) :
    memoryNodeProvenance env store' catalog row = memoryNodeProvenance env store catalog row := by
  have hact : ∀ catalogHash, isActiveCatalog env store'.toMemoryTables catalog row.toMemoryNode catalogHash =
      isActiveCatalog env store.toMemoryTables catalog row.toMemoryNode catalogHash := by
    intro catalogHash
    rw [isActiveCatalog, isActiveCatalog, MemoryTables.sourceMemory?, MemoryTables.sourceMemory?, hsnapshots]
  unfold memoryNodeProvenance
  cases row.catalogHash with
  | none => rfl
  | some catalogHash =>
    simp only
    rw [countingValidation_congr hvals hsnapshots, hact]

end

theorem isActiveCatalog_revised (db : MemoryTables) (node : MemoryNode) (revision : Nat) (now catalogHash : JsString) :
    isActiveCatalog env db catalog { node with revision, updatedAt := now } catalogHash =
      isActiveCatalog env db catalog node catalogHash := rfl

/-- The provenance of the node says the same at two revisions exactly if the validations recorded for them do. -/
theorem provenance_same_iff (row : MemoryRow) (now : JsString) (markedAt : Option JsString) :
    (memoryNodeProvenance env store catalog row).Same (memoryNodeProvenance env store catalog
        { row with duplicateMarkedAt := markedAt, updatedAt := now, revision := row.revision + 2 }) ↔
      sameRecorded env store row now := by
  have hcases : ∀ catalogHash, row.catalogHash = some catalogHash →
      ((memoryNodeProvenance env store catalog row).Same (memoryNodeProvenance env store catalog
          { row with duplicateMarkedAt := markedAt, updatedAt := now, revision := row.revision + 2 }) ↔
        (store.countingValidation env row.toMemoryNode catalogHash).map (·.meaning) =
          (store.countingValidation env { row.toMemoryNode with revision := row.revision + 2, updatedAt := now } catalogHash).map (·.meaning)) := by
    intro catalogHash hhash
    unfold memoryNodeProvenance
    simp only [hhash, isActiveCatalog_revised]
    cases hfirst : store.countingValidation env row.toMemoryNode catalogHash with
    | none =>
      cases hsecond : store.countingValidation env
          { row.toMemoryNode with revision := row.revision + 2, updatedAt := now } catalogHash with
      | none => exact iff_of_true ⟨rfl, rfl, rfl, rfl⟩ rfl
      | some validation => exact iff_of_false (fun h => by cases h.validation) nofun
    | some validation =>
      cases hsecond : store.countingValidation env
          { row.toMemoryNode with revision := row.revision + 2, updatedAt := now } catalogHash with
      | none => exact iff_of_false (fun h => by cases h.validation) nofun
      | some validation' => exact ⟨fun h => h.validation, fun h => ⟨rfl, rfl, rfl, h⟩⟩
  constructor
  · intro h catalogHash hhash
    exact (hcases catalogHash hhash).mp h
  · intro h
    rcases Option.eq_none_or_eq_some row.catalogHash with hhash | ⟨catalogHash, hhash⟩
    · unfold memoryNodeProvenance
      simp only [hhash]
      exact ⟨rfl, rfl, rfl, rfl⟩
    · exact (hcases catalogHash hhash).mpr (h catalogHash hhash)

/-- **What both calls leave restores the node exactly if the validations recorded for its revision
and for the one after next say the same, and the calls name no new author.** -/
theorem Undone.restored_iff {author' : Option ModelAuthor}
    (hget : store.get env catalog subjectId id = some node) (h : Undone store store' node.toMemoryRow now author author') :
    Restored env catalog subjectId store store' node.id ↔
      sameRecorded env store node.toMemoryRow now ∧
        ∀ named, namedAuthor author = some named ∨ namedAuthor author' = some named → named ∈ store.authors node.id := by
  obtain ⟨htrim, hne, hrow, hvis, hview⟩ := MemoryStore.get_own hget
  have hread : store.get env catalog subjectId node.id = some node := by
    rw [MemoryStore.get_eq_some, htrim]
    exact ⟨hne, _, hrow, hvis, hview⟩
  have hread' : store'.get env catalog subjectId node.id = some (store'.view env catalog
      { node.toMemoryRow with duplicateMarkedAt := none, updatedAt := now, revision := node.revision + 2 }) := by
    rw [MemoryStore.get_eq_some, htrim]
    exact ⟨hne, _, h.own, hvis, rfl⟩
  have hauthors : node.authors = store.authors node.id := congrArg MemoryNodeView.authors hview.symm
  have hduplicates : node.duplicateMemories = store.duplicateMemories node.id := congrArg MemoryNodeView.duplicateMemories hview.symm
  have hprovenance : node.provenance = memoryNodeProvenance env store catalog node.toMemoryRow :=
    congrArg MemoryNodeView.provenance hview.symm
  constructor
  · rintro ⟨⟨node₁, node₂, hnode₁, hnode₂, hsame⟩, -⟩
    obtain rfl := Option.some.inj (hread.symm.trans hnode₁)
    obtain rfl := Option.some.inj (hread'.symm.trans hnode₂)
    refine ⟨?_, fun named hnamed => ?_⟩
    · have hsaid := hsame.provenance
      rw [hprovenance, MemoryStore.view, memoryNodeProvenance_congr h.validations h.snapshots] at hsaid
      exact (provenance_same_iff _ _ _).mp hsaid
    · have hthere : named ∈ store'.authors node.id := (h.authors named).mpr (.inr hnamed)
      rw [← hauthors]
      exact (hsame.authors named).mp hthere
  · rintro ⟨hrec, hnamed⟩
    refine ⟨⟨node, _, hread, hread', rfl, ?_, fun a => ?_, ?_⟩, fun other hother => ?_⟩
    · rw [hduplicates]
      exact h.duplicateMemories node.id
    · rw [hauthors]
      refine (h.authors a).trans ⟨fun ha => ?_, Or.inl⟩
      rcases ha with hold | hnew
      · exact hold
      · exact hnamed a hnew
    · rw [hprovenance, MemoryStore.view, memoryNodeProvenance_congr h.validations h.snapshots]
      exact (provenance_same_iff _ _ _).mpr hrec
    · rw [MemoryStore.get, MemoryStore.get, MemoryStore.getFromDatabase, MemoryStore.getFromDatabase, h.rows _ hother]
      have hviews : ∀ row, store.row? (trim other) = some row → store'.view env catalog row = store.view env catalog row := by
        intro row hfound
        have hid : row.id ≠ node.id := (MemoryStore.row?_eq_some hfound).2 ▸ hother
        rw [MemoryStore.view, MemoryStore.view, h.duplicateMemories, h.otherAuthors _ hid,
          memoryNodeProvenance_congr h.validations h.snapshots]
      rw [Option.map_congr hviews]

end

end Beale.Memory
