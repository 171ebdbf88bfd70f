import Beale.Library.Client
import Beale.Library.JsMap
import Beale.Library.JsonText
import Mathlib.Data.List.Sort

/-!
# A workspace directory and its publication

The research of a workspace is published as files. Beside the working tree there is one
publication directory, with the journal, the published contents and the recovery copies. A
file that is written over a temporary one appears at once: the temporary file has a random
name that nothing reads. Directories and symbolic links are not modelled.
-/

namespace Beale.Publication

open Beale.Library

abbrev Bytes := List UInt8

/-- What the workspace functions take from Node.js. -/
structure WorkspacePlatform where
  /-- The bytes of a written text. -/
  encode : JsString → Bytes
  /-- `readFileSync(path, "utf8")` -/
  decode : Bytes → JsString
  /-- `createHash("sha256").update(bytes).digest("hex")` -/
  sha256 : Bytes → JsString
  /-- `JSON.parse`, where it does not throw. -/
  parseJson : JsString → Option Json
  /-- `a.localeCompare(b) <= 0` -/
  localeLe : JsString → JsString → Bool
  /-- A written text is read as one that has the same bytes. -/
  encode_decode : ∀ text, encode (decode (encode text)) = encode text
  /-- A JSON text has no unpaired surrogates, so it is read as it was written. -/
  decode_json : ∀ value, decode (encode (prettyPrint [] value ++ js "\n")) = prettyPrint [] value ++ js "\n"

variable (env : WorkspacePlatform)

/-- `workspaceContentHash(content)` of a text. -/
def WorkspacePlatform.workspaceContentHash (content : JsString) : JsString := env.sha256 (env.encode content)

/-! ## Paths -/

def indexPath : JsString := js "references/research-index.json"

/-- The path of `workspace.json`. -/
def projectPath : JsString := js "workspace.json"

def workspaceDirectories : List JsString :=
  [js "investigations", js "runbooks", js "reports", js "evidence", js "references", js "memories",
    js "claims", js "traces", js "scratch", js "cache"]

def rootFiles : List JsString :=
  [js "AGENTS.md", js "AGENTS.override.md", js "README.md", js ".gitignore", projectPath]

/-- The unit without its case, as an expression with the flags `iu` reads it. -/
def foldCase (u : UInt16) : UInt16 :=
  if 65 ≤ u ∧ u ≤ 90 then u + 32
  else if u = 0x17F then 115
  else if u = 0x212A then 107
  else u

/-- `path.split("/")` -/
def pathParts (path : JsString) : List JsString := path.splitOn 47

def safeRelative (path : JsString) : Bool :=
  !path.isEmpty && path.head? ≠ some 47 && !path.contains 92
    && !(pathParts path).any fun part =>
      part.isEmpty || part = js "." || part = js ".." || part.map foldCase = js ".git"

/-- Whether a part is the name, or the name with an extension: `/^name(?:\..*)?$/iu`. -/
def hasName (name part : JsString) : Bool :=
  let folded := part.map foldCase
  name.isPrefixOf folded && match folded.drop name.length with
    | [] => true
    | u :: rest => u = 46 && !rest.any fun u => u = 10 || u = 13 || u = 0x2028 || u = 0x2029

/-- `/^(?:node_modules|\.env(?:\..*)?|credentials?(?:\..*)?|id_rsa|id_ed25519)$/iu` -/
def isCredentialPart (part : JsString) : Bool :=
  [js "node_modules", js "id_rsa", js "id_ed25519"].contains (part.map foldCase)
    || hasName (js ".env") part || hasName (js "credential") part || hasName (js "credentials") part

/-- `/\.(?:sqlite(?:-wal|-shm)?|db|pem|key|p12|pfx)$/iu` -/
def isRuntimePath (path : JsString) : Bool :=
  [js ".sqlite", js ".sqlite-wal", js ".sqlite-shm", js ".db", js ".pem", js ".key", js ".p12",
    js ".pfx"].any fun ending => ending.isSuffixOf (path.map foldCase)

/-- `/(?:^|\/)evidence\/raw\//u`, or a raw trace. -/
def isRawCapture (path : JsString) : Bool :=
  js "/evidence/raw/" <:+: 47 :: path
    || ((pathParts path).head? = some (js "traces")
      && ((pathParts path).contains (js "outputs") || (js ".jsonl").isSuffixOf (path.map foldCase)))

def workspacePathProblem (path : JsString) : Option JsString :=
  if safeRelative path = false then some (js "path must be a relative workspace file")
  else if path.contains 47 = false then
    if rootFiles.contains path then none
    else some (js "root files must be AGENTS.md, AGENTS.override.md, README.md, .gitignore, or workspace.json")
  else if (pathParts path).head?.any workspaceDirectories.contains = false then
    some (js "file must belong to an approved research directory")
  else if [some (js "scratch"), some (js "cache")].contains (pathParts path).head? then
    some (js "disposable files are outside canonical research")
  else if (pathParts path).any isCredentialPart || isRuntimePath path then
    some (js "runtime databases and credential material are outside canonical research")
  else if isRawCapture path then some (js "raw captures are outside canonical research")
  else none

/-! ## What is on disk -/

/-- A directory of files that are named by the hashes of their bytes. -/
structure ContentStore where
  bytes : JsString → Option Bytes
  keyed : ∀ hash content, bytes hash = some content → env.sha256 content = hash

namespace ContentStore

variable {env}

def empty : ContentStore env := ⟨fun _ => none, nofun⟩

/-- `writeFileSync(join(directory, hash), bytes)` -/
def write (store : ContentStore env) (content : Bytes) : ContentStore env where
  bytes hash := if hash = env.sha256 content then some content else store.bytes hash
  keyed hash other h := by
    split at h
    · next heq => rw [heq, ← Option.some.inj h]
    · exact store.keyed hash other h

@[simp] theorem write_bytes (store : ContentStore env) (content : Bytes) (hash : JsString) :
    (store.write content).bytes hash = if hash = env.sha256 content then some content else store.bytes hash :=
  rfl

/-- `if (!existsSync(target)) writeFileSync(target, bytes, { flag: "wx" })` -/
def keep (store : ContentStore env) (content : Bytes) : ContentStore env :=
  if (store.bytes (env.sha256 content)).isSome then store else store.write content

/-- Whether the bytes can be read under their hash. -/
def Holds (store : ContentStore env) (content : Bytes) : Prop :=
  ∃ kept, store.bytes (env.sha256 content) = some kept ∧ env.sha256 kept = env.sha256 content

variable {store : ContentStore env} {content : Bytes}

theorem holds_iff : store.Holds content ↔ (store.bytes (env.sha256 content)).isSome = true := by
  rw [Option.isSome_iff_exists]
  exact exists_congr fun kept => ⟨And.left, fun h => ⟨h, store.keyed _ _ h⟩⟩

theorem holds_write (store : ContentStore env) (content : Bytes) : (store.write content).Holds content :=
  holds_iff.mpr (by rw [write_bytes, if_pos rfl]; rfl)

theorem Holds.write (h : store.Holds content)
    (other : Bytes) : (store.write other).Holds content := by
  rw [holds_iff] at h ⊢
  rw [write_bytes]
  split
  · rfl
  · exact h

theorem holds_keep (store : ContentStore env) (content : Bytes) : (store.keep content).Holds content := by
  rw [keep]
  split
  · next h => exact holds_iff.mpr h
  · exact store.holds_write content

theorem Holds.keep (h : store.Holds content)
    (other : Bytes) : (store.keep other).Holds content := by
  rw [ContentStore.keep]
  split
  · exact h
  · exact h.write other

end ContentStore

/-- A `WorkspaceResearchIndex`: the paths and hashes of a publication. -/
structure WorkspaceResearchIndex where
  workspaceId : JsString
  files : JsMap JsString JsString
  pins : JsMap JsString JsString
  rawFiles : Option (JsMap JsString JsString)
  /-- Every indexed path was one that can be published. -/
  canonical : ∀ path ∈ files.keys, workspacePathProblem path = none

def hashesJson (hashes : JsMap JsString JsString) : Json :=
  .obj (hashes.entries.map fun e => (e.1, .str e.2))

def WorkspaceResearchIndex.toJson (index : WorkspaceResearchIndex) : Json :=
  .obj ([(js "schemaVersion", .num (.integer 1)), (js "workspaceId", .str index.workspaceId),
    (js "files", hashesJson index.files), (js "pins", hashesJson index.pins)]
      ++ index.rawFiles.toList.map fun rawFiles => (js "rawFiles", hashesJson rawFiles))

/-- `JSON.stringify(index, null, 2) + "\n"` -/
def WorkspaceResearchIndex.text (index : WorkspaceResearchIndex) : JsString :=
  prettyPrint [] index.toJson ++ js "\n"

/-- `pending-publication.json` -/
structure PendingPublication where
  files : JsMap JsString JsString
  index : WorkspaceResearchIndex

/-- The working tree of a workspace, and its publication directory. -/
structure Workspace where
  disk : JsString → Option Bytes
  /-- `publication-content` -/
  content : ContentStore env
  /-- The copies in `recovery`. -/
  recovery : ContentStore env
  /-- The notes in `recovery`: a path, and the hash of its copy. -/
  notes : List (JsString × JsString)
  /-- `publication.json` -/
  publication : Option WorkspaceResearchIndex
  pending : Option PendingPublication

variable {env}

def Workspace.put (ws : Workspace env) (path : JsString) (file : Option Bytes) : Workspace env :=
  { ws with disk := fun other => if other = path then file else ws.disk other }

@[simp] theorem Workspace.put_disk (ws : Workspace env) (path : JsString) (file : Option Bytes)
    (other : JsString) : (ws.put path file).disk other = if other = path then file else ws.disk other := rfl

/-- What `workspace.json` says. -/
structure WorkspaceProject where
  schemaVersion : Nat
  workspaceId : JsString

/-- `readWorkspaceProject(root)`; a text that is no JSON throws what `JSON.parse` throws. -/
def readWorkspaceProject (disk : JsString → Option Bytes) : Except JsString (Option WorkspaceProject) :=
  match disk projectPath with
  | none => .ok none
  | some bytes =>
    match env.parseJson (env.decode bytes) with
    | none => .error (js "SyntaxError")
    | some value =>
      let version := match value.field? (js "schemaVersion") with
        | some (.num (.integer 1)) => 1
        | some (.num (.integer 2)) => 2
        | _ => 0
      match value.stringField? (js "workspaceId") with
      | some workspaceId =>
        if version = 0 ∨ isBlank workspaceId = true
            ∨ version = 2 ∧ value.stringField? (js "researchAuthority") ≠ some (js "files") then
          .error (js "Unsupported workspace.json. A Beale research workspace requires schemaVersion 1 "
            ++ js "compatibility metadata or schemaVersion 2 with file authority.")
        else .ok (some ⟨version, workspaceId⟩)
      | none =>
        .error (js "Unsupported workspace.json. A Beale research workspace requires schemaVersion 1 "
          ++ js "compatibility metadata or schemaVersion 2 with file authority.")

/-! ## File operations -/

inductive FileOperation where
  /-- Write the journal. -/
  | journal (pending : PendingPublication)
  /-- Write the content under its hash. -/
  | content (content : JsString)
  /-- Write the file, unless it has the hash of the content. -/
  | file (path content : JsString)
  /-- Copy a file that is to be removed, unless there is a copy of its bytes. -/
  | copy (path : JsString)
  /-- Note the path of the copy. -/
  | note (path : JsString)
  | remove (path : JsString)
  /-- Write `references/research-index.json`. -/
  | index (index : WorkspaceResearchIndex)
  /-- Write `publication.json`. -/
  | state (index : WorkspaceResearchIndex)
  /-- Remove the journal. -/
  | drop

def Workspace.Matches (ws : Workspace env) (path content : JsString) : Prop :=
  (ws.disk path).map env.sha256 = some (env.workspaceContentHash content)

instance (ws : Workspace env) (path content : JsString) : Decidable (ws.Matches path content) :=
  inferInstanceAs (Decidable (_ = _))

/-- What one file operation does. The project that `preserveWorkspaceFile` reads again is the
one that the publication has read. -/
def Workspace.apply (ws : Workspace env) : FileOperation → Workspace env
  | .journal pending => { ws with pending := some pending }
  | .content content => { ws with content := ws.content.write (env.encode content) }
  | .file path content =>
    if ws.Matches path content then ws else ws.put path (some (env.encode content))
  | .copy path =>
    match ws.disk path with
    | some bytes => { ws with recovery := ws.recovery.keep bytes }
    | none => ws
  | .note path =>
    match ws.disk path with
    | some bytes => { ws with notes := ws.notes ++ [(path, env.sha256 bytes)] }
    | none => ws
  | .remove path => ws.put path none
  | .index index => ws.put indexPath (some (env.encode index.text))
  | .state index => { ws with publication := some index }
  | .drop => { ws with pending := none }

/-! ## A platform for ASCII texts -/

/-- A unit of ASCII is one byte; every other unit is escaped. -/
def plainBytes (u : UInt16) : Bytes :=
  if u < 255 then [u.toUInt8] else [255, (u / 256).toUInt8, (u % 256).toUInt8]

def readPlain : Bytes → JsString
  | [] => []
  | [b] => [b.toUInt16]
  | [a, b] => [a.toUInt16, b.toUInt16]
  | a :: b :: c :: rest =>
    if a = 255 then (b.toUInt16 * 256 + c.toUInt16) :: readPlain rest
    else a.toUInt16 :: readPlain (b :: c :: rest)

theorem readPlain_cons {b : UInt8} (h : b ≠ 255) (rest : Bytes) :
    readPlain (b :: rest) = b.toUInt16 :: readPlain rest := by
  match rest with
  | [] => rfl
  | [_] => rfl
  | _ :: _ :: _ => rw [readPlain, if_neg h]

theorem readPlain_flatMap (s : JsString) : readPlain (s.flatMap plainBytes) = s := by
  induction s with
  | nil => rfl
  | cons u s ih =>
    rw [List.flatMap_cons, plainBytes]
    split
    · next hu =>
      have hbyte : u.toUInt8 ≠ 255 := by
        intro h
        have := congrArg UInt8.toNat h
        have hlt : u.toNat < 255 := hu
        simp at this
        omega
      have hunit : u.toUInt8.toUInt16 = u := by
        apply UInt16.toNat_inj.mp
        have hlt : u.toNat < 255 := hu
        simp
        omega
      rw [List.singleton_append, readPlain_cons hbyte, hunit, ih]
    · have hunit : (u / 256).toUInt8.toUInt16 * 256 + (u % 256).toUInt8.toUInt16 = u := by
        apply UInt16.toNat_inj.mp
        have hlt := u.toNat_lt
        simp
        omega
      rw [List.cons_append, List.cons_append, List.cons_append, List.nil_append, readPlain, if_pos rfl,
        hunit, ih]

/-- A platform whose hash is the text itself, for texts of ASCII. -/
def plainPlatform : WorkspacePlatform where
  encode text := text.flatMap plainBytes
  decode := readPlain
  sha256 bytes := bytes.map UInt8.toUInt16
  parseJson text := (readValue (text.length + 1) text).map Prod.fst
  localeLe a b := !decide (b < a)
  encode_decode text := by rw [readPlain_flatMap]
  decode_json _ := readPlain_flatMap _

/-- The text of a `workspace.json`. -/
def plainProject : JsString :=
  js "\x7b\"schemaVersion\":2,\"workspaceId\":\"w\"," ++ js "\"researchAuthority\":\"files\"\x7d"

end Beale.Publication
