import Beale.Library.Client
import Beale.Library.Json
import Mathlib.Data.List.Dedup
import Mathlib.Data.List.Sort

/-!
# The storage manifest

The artifacts of a workspace are listed in one JSON file of their directory. To register an artifact
is to read this file, to replace the entry of the artifact's id, and to write the file anew.

- `loadResearchStorageManifest`, `saveResearchStorageManifest`: the reading and the writing.
-/

namespace Beale.Storage

open Beale.Library
open Client (exceptBind_ok)

/-- A `ResearchStorageArtifactManifestEntry`. -/
structure ManifestEntry where
  id : JsString
  kind : JsString
  purpose : JsString
  path : JsString
  relativePath : JsString
  uri : JsString
  sizeBytes : JsNumber
  contentHash : JsString
  createdAt : JsString
  updatedAt : JsString
  sourceEventIds : List JsString
deriving DecidableEq

/-- What stands at the path of the manifest. -/
inductive ManifestFile where
  | missing
  | invalid
  | json (value : Json)

/-- The layout of the storage, and what the registration takes from outside. -/
structure StoragePlatform where
  rootPath : JsString
  manifestPath : JsString
  resolve : JsString → JsString
  relative : JsString → JsString → JsString
  /-- `sep`, the separator of paths -/
  sep : UInt16
  /-- `pathToFileURL(path).href` -/
  fileUri : JsString → JsString
  /-- the hexadecimal SHA-256 digest -/
  sha256 : JsString → JsString
  localeCompare : JsString → JsString → Int
  /-- whether the text of a number that is no integer is one of a number that is finite and not
  negative -/
  isNonNegative : JsString → Bool

variable (env : StoragePlatform)

/-! ## Reading -/

/-- The start of the messages about a field of an entry. -/
def fieldLabel (index : Nat) (key : JsString) : JsString :=
  js "Storage manifest artifact " ++ natText index ++ js "." ++ key

def readManifestString (value : List (JsString × Json)) (key : JsString) (index : Nat) :
    Except JsString JsString :=
  match value.lookup key with
  | some (.str item) =>
    if trim item = [] then .error (fieldLabel index key ++ js " must be a string: " ++ env.manifestPath)
    else .ok item
  | _ => .error (fieldLabel index key ++ js " must be a string: " ++ env.manifestPath)

/-- The number is finite and not negative. -/
def isManifestNumber : JsNumber → Bool
  | .integer n => 0 ≤ n
  | .other text => env.isNonNegative text

def readManifestNumber (value : List (JsString × Json)) (key : JsString) (index : Nat) :
    Except JsString JsNumber :=
  match value.lookup key with
  | some (.num item) =>
    if isManifestNumber env item then .ok item
    else .error (fieldLabel index key ++ js " must be a non-negative number: " ++ env.manifestPath)
  | _ => .error (fieldLabel index key ++ js " must be a non-negative number: " ++ env.manifestPath)

def readManifestStringArray (value : List (JsString × Json)) (key : JsString) (index : Nat) :
    Except JsString (List JsString) :=
  match value.lookup key with
  | some (.arr items) =>
    if items.all (·.asString?.isSome) then .ok (items.filterMap Json.asString?)
    else .error (fieldLabel index key ++ js " must be a string array: " ++ env.manifestPath)
  | _ => .error (fieldLabel index key ++ js " must be a string array: " ++ env.manifestPath)

/-- `normalizeStoredRelativePath`: backslashes become slashes. -/
def normalizeStoredRelativePath (path : JsString) : JsString :=
  path.map fun unit => if unit = 92 then 47 else unit

def normalizeManifestEntry (value : Json) (index : Nat) : Except JsString ManifestEntry :=
  match value with
  | .obj members => do
    let id ← readManifestString env members (js "id") index
    let kind ← readManifestString env members (js "kind") index
    let purpose ← readManifestString env members (js "purpose") index
    let path ← readManifestString env members (js "path") index
    let relativePath ← readManifestString env members (js "relativePath") index
    let uri ← readManifestString env members (js "uri") index
    let sizeBytes ← readManifestNumber env members (js "sizeBytes") index
    let contentHash ← readManifestString env members (js "contentHash") index
    let createdAt ← readManifestString env members (js "createdAt") index
    let updatedAt ← readManifestString env members (js "updatedAt") index
    let sourceEventIds ← readManifestStringArray env members (js "sourceEventIds") index
    return {
      id, kind, purpose, path
      relativePath := normalizeStoredRelativePath relativePath
      uri, sizeBytes, contentHash, createdAt, updatedAt, sourceEventIds }
  | _ => .error (js "Storage manifest artifact " ++ natText index ++ js " must be an object: "
      ++ env.manifestPath)

def schemaVersionText : Option Json → JsString
  | none => js "undefined"
  | some (.str s) => s
  | some (.num n) => n.text
  | some value => stringify value

/-- The entries of an array, each with its place. -/
def normalizeEntries : Nat → List Json → Except JsString (List ManifestEntry)
  | _, [] => .ok []
  | index, value :: rest => do
    let entry ← normalizeManifestEntry env value index
    let entries ← normalizeEntries (index + 1) rest
    return entry :: entries

/-- `loadResearchStorageManifest`: its entries. -/
def loadResearchStorageManifest : ManifestFile → Except JsString (List ManifestEntry)
  | .missing => .ok []
  | .invalid => .error (js "Research storage manifest contains incomplete or invalid JSON. Preserve and repair it before saving artifacts.")
  | .json (.obj members) =>
    match members.lookup (js "schemaVersion"), members.lookup (js "artifacts") with
    | some (.num (.integer 1)), some (.arr values) => normalizeEntries env 0 values
    | some (.num (.integer 1)), _ =>
      .error (js "Storage manifest artifacts must be an array: " ++ env.manifestPath)
    | version, _ =>
      .error (js "Unsupported storage manifest schema version: " ++ schemaVersionText version)
  | .json _ => .error (js "Storage manifest must be a JSON object: " ++ env.manifestPath)

/-! ## Writing -/

def ManifestEntry.members (entry : ManifestEntry) : List (JsString × Json) :=
  [(js "id", .str entry.id), (js "kind", .str entry.kind), (js "purpose", .str entry.purpose),
    (js "path", .str entry.path), (js "relativePath", .str entry.relativePath),
    (js "uri", .str entry.uri), (js "sizeBytes", .num entry.sizeBytes),
    (js "contentHash", .str entry.contentHash), (js "createdAt", .str entry.createdAt),
    (js "updatedAt", .str entry.updatedAt),
    (js "sourceEventIds", .arr (entry.sourceEventIds.map Json.str))]

def ManifestEntry.json (entry : ManifestEntry) : Json := .obj entry.members

/-- The entries in the order in which they are saved: by creation, and then by id. -/
def sortedArtifacts (artifacts : List ManifestEntry) : List ManifestEntry :=
  artifacts.insertionSort fun left right =>
    if left.createdAt = right.createdAt then env.localeCompare left.id right.id ≤ 0
    else env.localeCompare left.createdAt right.createdAt ≤ 0

/-- The file that `saveResearchStorageManifest` puts in place of the one there was. -/
def savedManifest (artifacts : List ManifestEntry) (now : JsString) : ManifestFile :=
  .json (.obj [(js "schemaVersion", .num (.integer 1)), (js "updatedAt", .str now),
    (js "artifacts", .arr ((sortedArtifacts env artifacts).map ManifestEntry.json))])

/-! ## Registration -/

structure RegisterResearchStorageArtifactInput where
  id : Option JsString
  path : JsString
  kind : JsString
  purpose : Option JsString
  sourceEventIds : List JsString
  createdAt : Option JsString

/-- What `statSync` says of a file. -/
structure FileStat where
  isFile : Bool
  size : Nat

/-- The checks of a registration before it reads the manifest: the size of its file. -/
def checkArtifactPath (path : JsString) (stat : Except JsString FileStat) : Except JsString Nat := do
  let absolutePath := env.resolve path
  let root := env.resolve env.rootPath
  let relativePath := env.relative root absolutePath
  if relativePath = js ".." ∨ (js "../").isPrefixOf relativePath ∨ (js "..\\").isPrefixOf relativePath
      ∨ env.resolve absolutePath = root then
    throw (js "Storage artifact must live under storage root: " ++ absolutePath)
  let fileStat ← stat
  if fileStat.isFile = false then throw (js "Storage artifact must be a file: " ++ absolutePath)
  return fileStat.size

def portableRelativePath (path : JsString) : JsString :=
  (env.relative env.rootPath path).map fun unit => if unit = env.sep then 47 else unit

def createStorageArtifactId (path kind contentHash : JsString) : JsString :=
  js "artifact_" ++ (env.sha256 (kind ++ [0] ++ path ++ [0] ++ contentHash)).take 24

/-- The entry that a registration makes, of the manifest that it read and the hash of its file. -/
def registeredEntry (input : RegisterResearchStorageArtifactInput) (manifest : List ManifestEntry)
    (size : Nat) (contentHash now : JsString) : ManifestEntry :=
  let absolutePath := env.resolve input.path
  let existing : Option ManifestEntry := match input.id.filter (· ≠ []) with
    | some id => manifest.find? (·.id = id)
    | none => manifest.find? fun entry => entry.path = absolutePath ∧ entry.contentHash = contentHash
  { id := (input.id <|> existing.map (·.id)).getD
      (createStorageArtifactId env absolutePath input.kind contentHash)
    kind := input.kind
    purpose := (input.purpose <|> existing.map (·.purpose)).getD (js "Persisted research artifact.")
    path := absolutePath
    relativePath := portableRelativePath env absolutePath
    uri := env.fileUri absolutePath
    sizeBytes := .integer size
    contentHash
    createdAt := (input.createdAt <|> existing.map (·.createdAt)).getD now
    updatedAt := now
    sourceEventIds := input.sourceEventIds.dedup.insertionSort fun a b => ¬ b < a }

/-- The entries that a registration saves: those it read, with its own in place of any of its id. -/
def registeredArtifacts (manifest : List ManifestEntry) (entry : ManifestEntry) : List ManifestEntry :=
  manifest.filter (·.id ≠ entry.id) ++ [entry]

/-! ## What is saved is read -/

/-- An entry as it is read back. -/
def ManifestEntry.portable (entry : ManifestEntry) : ManifestEntry :=
  { entry with relativePath := normalizeStoredRelativePath entry.relativePath }

theorem normalizeStoredRelativePath_idem (path : JsString) :
    normalizeStoredRelativePath (normalizeStoredRelativePath path) = normalizeStoredRelativePath path := by
  rw [normalizeStoredRelativePath, normalizeStoredRelativePath, List.map_map]
  refine List.map_congr_left fun unit _ => ?_
  by_cases h : unit = 92
  · simp [h]
  · simp [h]

@[simp] theorem ManifestEntry.portable_portable (entry : ManifestEntry) :
    entry.portable.portable = entry.portable := by
  simp [ManifestEntry.portable, normalizeStoredRelativePath_idem]

theorem ManifestEntry.json_inj {a b : ManifestEntry} (h : a.json = b.json) : a = b := by
  have hmembers : a.members = b.members := Json.obj.inj h
  have hstr : Function.Injective Json.str := fun _ _ => Json.str.inj
  simp only [ManifestEntry.members, List.cons.injEq, Prod.mk.injEq, Json.str.injEq, Json.num.injEq,
    Json.arr.injEq, true_and, and_true, (List.map_injective_iff.mpr hstr).eq_iff] at hmembers
  obtain ⟨hid, hkind, hpurpose, hpath, hrelative, huri, hsize, hhash, hcreate, hupdated, hsrc⟩ := hmembers
  cases a
  cases b
  simp only [ManifestEntry.mk.injEq]
  exact ⟨hid, hkind, hpurpose, hpath, hrelative, huri, hsize, hhash, hcreate, hupdated, hsrc⟩

variable {env}

variable {members : List (JsString × Json)} {key : JsString} {index : Nat}

theorem readManifestString_ok {item s : JsString} (h : members.lookup key = some (.str item)) :
    readManifestString env members key index = .ok s ↔ trim item ≠ [] ∧ s = item := by
  unfold readManifestString
  rw [h]
  by_cases hblank : trim item = []
  · simp [hblank]
  · simp [hblank, eq_comm]

theorem readManifestNumber_ok {item n : JsNumber} (h : members.lookup key = some (.num item)) :
    readManifestNumber env members key index = .ok n ↔ isManifestNumber env item = true ∧ n = item := by
  unfold readManifestNumber
  rw [h]
  by_cases hnumber : isManifestNumber env item = true
  · simp [hnumber, eq_comm]
  · simp [hnumber]

theorem readManifestStringArray_ok {items l : List JsString}
    (h : members.lookup key = some (.arr (items.map Json.str))) :
    readManifestStringArray env members key index = .ok l ↔ l = items := by
  have hall : ((items.map Json.str).all fun item => item.asString?.isSome) = true := by
    rw [List.all_map]
    exact List.all_eq_true.mpr fun _ _ => rfl
  have hitems : (items.map Json.str).filterMap Json.asString? = items := by
    rw [List.filterMap_map]
    exact List.filterMap_some
  unfold readManifestStringArray
  rw [h]
  simp only [hall, hitems, if_true, Except.ok.injEq, eq_comm]

variable (env) in
/-- The texts of an entry are not blank, and its size is a number: it can be read back. -/
structure ManifestEntry.Readable (entry : ManifestEntry) : Prop where
  texts : ∀ text ∈ [entry.id, entry.kind, entry.purpose, entry.path, entry.relativePath, entry.uri,
    entry.contentHash, entry.createdAt, entry.updatedAt], trim text ≠ []
  size : isManifestNumber env entry.sizeBytes = true

variable {entry : ManifestEntry}

/-- An entry that was saved is read back, with slashes in its relative path, if it is readable. -/
theorem normalizeManifestEntry_json {entry' : ManifestEntry} :
    normalizeManifestEntry env entry.json index = .ok entry' ↔
      entry.Readable env ∧ entry' = entry.portable := by
  constructor
  · intro h
    obtain ⟨id, hid', h⟩ := exceptBind_ok.mp h
    obtain ⟨kind, hkind', h⟩ := exceptBind_ok.mp h
    obtain ⟨purpose, hpurpose', h⟩ := exceptBind_ok.mp h
    obtain ⟨path, hpath', h⟩ := exceptBind_ok.mp h
    obtain ⟨relativePath, hrelative', h⟩ := exceptBind_ok.mp h
    obtain ⟨uri, huri', h⟩ := exceptBind_ok.mp h
    obtain ⟨sizeBytes, hsize', h⟩ := exceptBind_ok.mp h
    obtain ⟨contentHash, hhash', h⟩ := exceptBind_ok.mp h
    obtain ⟨createdAt, hcreate', h⟩ := exceptBind_ok.mp h
    obtain ⟨updatedAt, hupdated', h⟩ := exceptBind_ok.mp h
    obtain ⟨sourceEventIds, hsrc', h⟩ := exceptBind_ok.mp h
    obtain ⟨hid, rfl⟩ := (readManifestString_ok rfl).mp hid'
    obtain ⟨hkind, rfl⟩ := (readManifestString_ok rfl).mp hkind'
    obtain ⟨hpurpose, rfl⟩ := (readManifestString_ok rfl).mp hpurpose'
    obtain ⟨hpath, rfl⟩ := (readManifestString_ok rfl).mp hpath'
    obtain ⟨hrelative, rfl⟩ := (readManifestString_ok rfl).mp hrelative'
    obtain ⟨huri, rfl⟩ := (readManifestString_ok rfl).mp huri'
    obtain ⟨hsize, rfl⟩ := (readManifestNumber_ok rfl).mp hsize'
    obtain ⟨hhash, rfl⟩ := (readManifestString_ok rfl).mp hhash'
    obtain ⟨hcreate, rfl⟩ := (readManifestString_ok rfl).mp hcreate'
    obtain ⟨hupdated, rfl⟩ := (readManifestString_ok rfl).mp hupdated'
    cases (readManifestStringArray_ok rfl).mp hsrc'
    refine ⟨⟨?_, hsize⟩, (Except.ok.inj h).symm⟩
    simp only [List.forall_mem_cons, List.not_mem_nil, false_imp_iff, implies_true, and_true]
    exact ⟨hid, hkind, hpurpose, hpath, hrelative, huri, hhash, hcreate, hupdated⟩
  · rintro ⟨⟨htexts, hsize⟩, rfl⟩
    simp only [List.forall_mem_cons, List.not_mem_nil, false_imp_iff, implies_true, and_true] at htexts
    obtain ⟨hid, hkind, hpurpose, hpath, hrelative, huri, hhash, hcreate, hupdated⟩ := htexts
    refine exceptBind_ok.mpr ⟨_, (readManifestString_ok rfl).mpr ⟨hid, rfl⟩, ?_⟩
    refine exceptBind_ok.mpr ⟨_, (readManifestString_ok rfl).mpr ⟨hkind, rfl⟩, ?_⟩
    refine exceptBind_ok.mpr ⟨_, (readManifestString_ok rfl).mpr ⟨hpurpose, rfl⟩, ?_⟩
    refine exceptBind_ok.mpr ⟨_, (readManifestString_ok rfl).mpr ⟨hpath, rfl⟩, ?_⟩
    refine exceptBind_ok.mpr ⟨_, (readManifestString_ok rfl).mpr ⟨hrelative, rfl⟩, ?_⟩
    refine exceptBind_ok.mpr ⟨_, (readManifestString_ok rfl).mpr ⟨huri, rfl⟩, ?_⟩
    refine exceptBind_ok.mpr ⟨_, (readManifestNumber_ok rfl).mpr ⟨hsize, rfl⟩, ?_⟩
    refine exceptBind_ok.mpr ⟨_, (readManifestString_ok rfl).mpr ⟨hhash, rfl⟩, ?_⟩
    refine exceptBind_ok.mpr ⟨_, (readManifestString_ok rfl).mpr ⟨hcreate, rfl⟩, ?_⟩
    refine exceptBind_ok.mpr ⟨_, (readManifestString_ok rfl).mpr ⟨hupdated, rfl⟩, ?_⟩
    exact exceptBind_ok.mpr ⟨_, (readManifestStringArray_ok rfl).mpr rfl, rfl⟩

def ManifestFile.artifacts : ManifestFile → List Json
  | .json value =>
    match value.field? (js "artifacts") with
    | some (.arr values) => values
    | _ => []
  | _ => []

theorem normalizeEntries_mem {values : List Json} {entries : List ManifestEntry}
    (h : normalizeEntries env index values = .ok entries) {value : Json} (hvalue : value ∈ values) :
    ∃ i, ∃ entry ∈ entries, normalizeManifestEntry env value i = .ok entry := by
  induction values generalizing index entries with
  | nil => exact absurd hvalue List.not_mem_nil
  | cons first rest ih =>
    obtain ⟨entry, hentry, h⟩ := exceptBind_ok.mp h
    obtain ⟨others, hrest, h⟩ := exceptBind_ok.mp h
    cases h
    rcases List.mem_cons.mp hvalue with rfl | hvalue
    · exact ⟨index, entry, List.mem_cons_self, hentry⟩
    · obtain ⟨i, found, hfound, hnormalized⟩ := ih hrest hvalue
      exact ⟨i, found, List.mem_cons_of_mem _ hfound, hnormalized⟩

theorem load_mem {file : ManifestFile} {manifest : List ManifestEntry}
    (h : loadResearchStorageManifest env file = .ok manifest)
    (hentry : entry.json ∈ file.artifacts) : entry.portable ∈ manifest := by
  have hvalues : ∃ values, file.artifacts = values ∧ normalizeEntries env 0 values = .ok manifest := by
    cases file with
    | missing => exact absurd hentry List.not_mem_nil
    | invalid => exact absurd hentry List.not_mem_nil
    | json value =>
      cases value with
      | obj members =>
        unfold loadResearchStorageManifest at h
        simp only at h
        split at h
        · next values hver hartifacts =>
          refine ⟨values, ?_, h⟩
          unfold ManifestFile.artifacts
          simp only [Json.field?, hartifacts]
        · cases h
        · cases h
      | _ => exact absurd hentry List.not_mem_nil
  obtain ⟨values, rfl, hload⟩ := hvalues
  obtain ⟨i, found, hfound, hnormalized⟩ := normalizeEntries_mem hload hentry
  rw [← (normalizeManifestEntry_json.mp hnormalized).2]
  exact hfound

@[simp] theorem mem_sortedArtifacts {artifacts : List ManifestEntry} :
    entry ∈ sortedArtifacts env artifacts ↔ entry ∈ artifacts :=
  List.mem_insertionSort _

theorem json_mem_savedManifest {artifacts : List ManifestEntry} {now : JsString} :
    entry.json ∈ (savedManifest env artifacts now).artifacts ↔ entry ∈ artifacts := by
  show entry.json ∈ (sortedArtifacts env artifacts).map ManifestEntry.json ↔ _
  rw [List.mem_map, ← mem_sortedArtifacts]
  constructor
  · rintro ⟨other, hother, heq⟩
    exact ManifestEntry.json_inj heq ▸ hother
  · exact fun h => ⟨entry, h, rfl⟩

end Beale.Storage
