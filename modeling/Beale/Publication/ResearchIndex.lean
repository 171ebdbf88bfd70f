import Beale.Library.JsMap
import Beale.Library.JsString
import Beale.Library.Run

/-!
# The derived database of a workspace whose files are the authority

The records are published as files, and the database can be released and rebuilt from these. A marker
outside the database says what it holds. Each transaction and each file operation of a job is a step of
its own; the operations of the app server and what happens to the files come in between.
-/

namespace Beale.Publication

open Beale.Library

/-! ## Records -/

/-- The kinds of records that have files of their own. -/
inductive RecordKind where
  | claim | memory | runbook | report | execution
  | session
deriving DecidableEq

/-- Whether `rebuild` inserts the records of a kind, and `prune` deletes them. -/
def RecordKind.isRebuilt : RecordKind → Bool
  | .session => false
  | _ => true

/-- Whether a file of the kind can be edited and imported. -/
def RecordKind.isImportable : RecordKind → Bool
  | .claim | .memory | .runbook | .report => true
  | _ => false

structure RecordKey where
  kind : RecordKind
  id : JsString
deriving DecidableEq

/-- A record with its children, as its file shows it. -/
structure Record where
  identities : List JsString
  completed : Bool
  text : JsString
deriving DecidableEq

/-- Two records that the unique indexes of their table do not allow together. -/
def Record.conflicts (a b : Record) : Bool := a.identities.any fun identity => identity ∈ b.identities

/-- Whether another record keeps this one out of its table. -/
def conflictsIn (records : JsMap RecordKey Record) (key : RecordKey) (record : Record) : Bool :=
  records.entries.any fun e => e.1 ≠ key && e.1.kind = key.kind && e.2.conflicts record

/-! ## The database -/

/-- The tables there are, and the rows of the workspace in them. -/
structure ResearchDatabase where
  tables : List RecordKind
  rows : JsMap RecordKey Record
  stored : ∀ key record, rows.get? key = some record → key.kind ∈ tables

namespace ResearchDatabase

def ofTables (tables : List RecordKind) : ResearchDatabase := ⟨tables, .empty, nofun⟩

/-- `INSERT` or `UPDATE`, of a record that no other one conflicts with. -/
def put (db : ResearchDatabase) (key : RecordKey) (record : Record) : ResearchDatabase :=
  if h : key.kind ∈ db.tables then
    { db with
      rows := db.rows.set key record
      stored := by
        intro other r hget
        rw [JsMap.get?_set] at hget
        split at hget
        · next heq => exact heq ▸ h
        · exact db.stored other r hget }
  else db

/-- A row of `insertRows`: a table that is missing is left out, and `INSERT OR IGNORE` keeps what there
is. -/
def insertRow (db : ResearchDatabase) (e : RecordKey × Record) : ResearchDatabase :=
  if (db.rows.get? e.1).isSome || conflictsIn db.rows e.1 e.2 then db else db.put e.1 e.2

/-- `rebuild`, of the files of an index. -/
def rebuild (db : ResearchDatabase) (files : JsMap RecordKey Record) : ResearchDatabase :=
  runSteps insertRow db (files.entries.filter fun e => e.1.kind.isRebuilt)

/-- The rows that a test keeps. -/
def filter (db : ResearchDatabase) (p : RecordKey × Record → Bool) : ResearchDatabase where
  tables := db.tables
  rows := db.rows.filter p
  stored key record hget := db.stored key record (JsMap.get?_filter_eq_some.mp hget).1

def prune (db : ResearchDatabase) : ResearchDatabase := db.filter fun e => !e.1.kind.isRebuilt

end ResearchDatabase

/-! ## The files -/

/-- The files of a publication with their contents, and the pins. -/
structure PublicationIndex where
  files : JsMap RecordKey Record
  pins : JsMap RecordKey Record
deriving DecidableEq

/-- `research-cache.json`. -/
inductive CacheMarker where
  | missing
  | unreadable
  | ready | releasing | released
deriving DecidableEq

inductive CheckpointAction where
  | publish | rebuild | release
deriving DecidableEq

/-- A file operation of a publication, before the index. -/
inductive FileStep where
  | file (key : RecordKey) (record : Record)
  | remove (key : RecordKey)
deriving DecidableEq

/-- What the checks of an edited file and its store make of it. -/
inductive ImportOutcome where
  | rejected
  | drift
  | revised (record : Record)

/-- The next step of a job. -/
inductive JobPoint where
  /-- `recoverWorkspacePublication` reads the journal -/
  | recover
  /-- the next file of `finishWorkspacePublication`, the index, `publication.json`, the journal -/
  | finish (pending : PublicationIndex) (steps : List FileStep)
  | index (pending : PublicationIndex)
  | state (pending : PublicationIndex)
  | drop
  | decide
  /-- the transaction of `rebuildWorkspaceResearchIndex`, and its marker -/
  | rebuild
  | rebuilt
  /-- `listWorkspaceResearchEdits`, the commit of `importWorkspaceResearchFile`, its write of the baseline -/
  | edits
  | importFile (key : RecordKey)
  | baseline (key : RecordKey) (record : Record)
  | publish
  | journal (pending : PublicationIndex)
  /-- `markWorkspaceResearchIndexReady` -/
  | mark
  /-- the marker of `releaseWorkspaceResearchIndex`, its transaction, the marker again -/
  | release
  | prune
  | released

structure CheckpointJob where
  action : CheckpointAction
  edit : Option RecordKey
  publishing : Bool := false
  point : JobPoint := .recover

structure ResearchWorkspace where
  database : ResearchDatabase
  disk : JsMap RecordKey Record
  /-- `references/research-index.json` -/
  indexFile : Option PublicationIndex
  /-- `publication.json` -/
  publication : Option PublicationIndex
  /-- `pending-publication.json` -/
  pending : Option PublicationIndex := none
  marker : CacheMarker
  job : Option CheckpointJob := none
  removed : List RecordKey := []

namespace ResearchWorkspace

variable (workspace : ResearchWorkspace)

/-- `workspaceResearchIndexNeedsRebuild(root)` -/
def needsRebuild : Bool :=
  match workspace.marker with
  | .missing => workspace.indexFile.isSome
  | .unreadable | .releasing | .released => true
  | .ready => false

def previousFiles : JsMap RecordKey Record := (workspace.publication.map (·.files)).getD .empty

def previousPins : JsMap RecordKey Record := (workspace.publication.map (·.pins)).getD .empty

/-- Every file of the index is the one that was published. -/
def isIntact (files : JsMap RecordKey Record) : Bool :=
  files.entries.all fun e => workspace.disk.get? e.1 = some e.2

/-- The published files that are not published again, and are not pinned. -/
def removals (pending : PublicationIndex) : List RecordKey :=
  workspace.previousFiles.keys.filter fun key =>
    (pending.files.get? key).isNone && (pending.pins.get? key).isNone

/-- The files of `finishWorkspacePublication`. -/
def fileSteps (pending : PublicationIndex) : List FileStep :=
  (pending.files.entries.map fun e => .file e.1 e.2) ++ (workspace.removals pending).map .remove

/-- The checks of `recoverWorkspacePublication`. -/
def recovers (pending : PublicationIndex) : Bool :=
  (pending.files.entries.all fun e => (workspace.disk.get? e.1).all fun record =>
      record = e.2 || workspace.previousFiles.get? e.1 = some record)
    && workspace.previousFiles.entries.all fun e => (pending.files.get? e.1).isSome
      || (workspace.disk.get? e.1).all fun record => record = e.2

/-- `{ ...index.pins, ...index.files }` -/
def managed : JsMap RecordKey Record := workspace.previousPins.spread workspace.previousFiles

/-- The edits of `listWorkspaceResearchEdits`. What is evidence is not listed where it was never
published. -/
def createdFiles : List RecordKey :=
  workspace.disk.keys.filter fun key => key.kind ≠ .execution && (workspace.managed.get? key).isNone

def deletedFiles : List RecordKey :=
  workspace.managed.keys.filter fun key => (workspace.disk.get? key).isNone

def modifiedFiles : List RecordKey :=
  (workspace.managed.entries.filter fun e =>
    (workspace.disk.get? e.1).any fun record => record ≠ e.2).map Prod.fst

/-- The records as they are published: what is pinned stays as it was. -/
def generated : JsMap RecordKey Record where
  entries := workspace.database.rows.entries.map fun e => (e.1, (workspace.previousPins.get? e.1).getD e.2)
  nodup := by
    rw [List.map_map]
    exact workspace.database.rows.nodup

def nextPublication : PublicationIndex where
  files := workspace.generated
  pins := (workspace.generated.filter fun e => e.1.kind = .execution && e.2.completed).spread workspace.previousPins

/-- The checks of `publishWorkspaceFiles`. -/
def publishes : Bool :=
  (workspace.publication.isNone || decide (workspace.indexFile = workspace.publication))
    && workspace.isIntact workspace.previousFiles && workspace.generated.entries.all fun e =>
      (workspace.previousFiles.get? e.1).isSome || (workspace.disk.get? e.1).all fun record => record = e.2

end ResearchWorkspace

/-! ## The job -/

section Job

variable (workspace : ResearchWorkspace) (job : CheckpointJob)

/-- A job that has ended, or failed. -/
def ResearchWorkspace.finished : ResearchWorkspace := { workspace with job := none }

def ResearchWorkspace.goOn (point : JobPoint) : ResearchWorkspace :=
  { workspace with job := some { job with point } }

/-- Where the edits lead: to the import of the one there is, or to the publication. -/
def ResearchWorkspace.afterEdits : ResearchWorkspace :=
  if workspace.publication.isNone ∨ workspace.indexFile ≠ workspace.publication
      ∨ workspace.createdFiles ≠ [] ∨ workspace.deletedFiles ≠ [] then workspace.finished
  else match workspace.modifiedFiles with
    | [] => workspace.goOn job .publish
    | [key] => if key.kind.isImportable then workspace.goOn job (.importFile key) else workspace.finished
    | _ => workspace.finished

/-- `importWorkspaceResearchFile`, to its commit. -/
def ResearchWorkspace.afterImport (key : RecordKey) (outcome : ImportOutcome) : ResearchWorkspace :=
  match workspace.previousFiles.get? key, workspace.disk.get? key, outcome with
  | some published, some _, .drift => workspace.goOn job (.baseline key published)
  | some published, some _, .revised record =>
    if key.kind.isImportable ∧ (workspace.database.rows.get? key).isSome
        ∧ conflictsIn workspace.database.rows key record = false then
      { workspace with database := workspace.database.put key record }.goOn job (.baseline key published)
    else workspace.finished
  | _, _, _ => workspace.finished

def CheckpointJob.advance (outcome : ImportOutcome) : ResearchWorkspace :=
  match job.point with
  | .recover =>
    match workspace.pending with
    | none => workspace.goOn job .decide
    | some pending =>
      if workspace.recovers pending then workspace.goOn job (.finish pending (workspace.fileSteps pending))
      else workspace.finished
  | .finish pending (.file key record :: steps) =>
    { workspace with disk := workspace.disk.set key record }.goOn job (.finish pending steps)
  | .finish pending (.remove key :: steps) =>
    { workspace with disk := workspace.disk.delete key }.goOn job (.finish pending steps)
  | .finish pending [] => workspace.goOn job (.index pending)
  | .index pending => { workspace with indexFile := some pending }.goOn job (.state pending)
  | .state pending => { workspace with publication := some pending }.goOn job .drop
  | .drop => { workspace with pending := none }.goOn job (if job.publishing then .mark else .decide)
  | .decide =>
    if job.action = .rebuild ∨ workspace.needsRebuild then workspace.goOn job .rebuild
    else workspace.goOn job .edits
  | .rebuild =>
    match workspace.indexFile with
    | none => workspace.finished
    | some index =>
      if workspace.isIntact index.files then
        { workspace with database := workspace.database.rebuild index.files }.goOn job .rebuilt
      else workspace.finished
  | .rebuilt =>
    if job.action = .rebuild then { workspace with marker := .ready }.finished
    else { workspace with marker := .ready }.goOn job .edits
  | .edits =>
    match job.edit with
    | some key => workspace.goOn job (.importFile key)
    | none => workspace.afterEdits job
  | .importFile key => workspace.afterImport job key outcome
  | .baseline key record => { workspace with disk := workspace.disk.set key record }.goOn job .publish
  | .publish =>
    if workspace.publishes then
      { workspace with removed := workspace.removed.filter fun key =>
          (workspace.database.rows.get? key).isNone }.goOn job (.journal workspace.nextPublication)
    else workspace.finished
  | .journal pending =>
    { workspace with pending := some pending }.goOn { job with publishing := true }
      (.finish pending (workspace.fileSteps pending))
  | .mark =>
    if job.action = .release then { workspace with marker := .ready }.goOn job .release
    else { workspace with marker := .ready }.finished
  | .release =>
    match workspace.indexFile with
    | none => workspace.finished
    | some index =>
      if workspace.isIntact index.files then { workspace with marker := .releasing }.goOn job .prune
      else workspace.finished
  | .prune => { workspace with database := workspace.database.prune }.goOn job .released
  | .released => { workspace with marker := .released }.finished

end Job

/-! ## What happens to the workspace -/

inductive ResearchEvent where
  | start (action : CheckpointAction) (edit : Option RecordKey)
  | advance (outcome : ImportOutcome)
  | crash
  | store (key : RecordKey) (record : Record)
  | erase (keys : List RecordKey)
  | edit (key : RecordKey) (content : Option Record)
  | loseDatabase (tables : List RecordKind)
  | loseMarker (unreadable : Bool)

def ResearchWorkspace.step (workspace : ResearchWorkspace) : ResearchEvent → ResearchWorkspace
  | .start action edit =>
    if workspace.job.isSome then workspace else { workspace with job := some { action, edit } }
  | .advance outcome =>
    match workspace.job with
    | none => workspace
    | some job => job.advance workspace outcome
  | .crash => workspace.finished
  | .store key record =>
    if conflictsIn workspace.database.rows key record then workspace
    else { workspace with database := workspace.database.put key record }
  | .erase keys => { workspace with
      database := workspace.database.filter fun e => e.1 ∉ keys
      removed := workspace.removed ++ keys.filter fun key => (workspace.database.rows.get? key).isSome }
  | .edit key content => { workspace with
      disk := match content with
        | some record => workspace.disk.set key record
        | none => workspace.disk.delete key }
  | .loseDatabase tables =>
    if workspace.job.isSome then workspace else { workspace with database := .ofTables tables }
  | .loseMarker unreadable =>
    if workspace.job.isSome then workspace
    else { workspace with marker := if unreadable then .unreadable else .missing }

/-! ## The property, and its condition -/

/-- The next step of the job that is running. -/
def ResearchWorkspace.point (workspace : ResearchWorkspace) : Option JobPoint :=
  workspace.job.map CheckpointJob.point

/-- The rows have the record, or an operation has removed it, or its file is pinned. -/
def ResearchWorkspace.hasOrRemoved (workspace : ResearchWorkspace) (index : PublicationIndex) (key : RecordKey) :
    Bool :=
  (workspace.database.rows.get? key).isSome || decide (key ∈ workspace.removed) || (index.pins.get? key).isSome

/-- A publication reads a database that holds each published record, unless an operation has removed it
since a publication last read it; and it removes the file of a record only if this has happened. -/
def Justified (workspace : ResearchWorkspace) : ResearchEvent → Bool
  | .advance _ =>
    match workspace.point with
    | some .publish => workspace.publication.all fun index =>
        index.files.keys.all (workspace.hasOrRemoved index)
    | some (.finish _ (.remove key :: _)) => decide (key ∈ workspace.removed)
    | _ => true
  | _ => true

/-- Whether the next job rebuilds the database, after it has finished the publication it finds. -/
def ResearchWorkspace.mustRebuild (workspace : ResearchWorkspace) : Bool :=
  match workspace.marker with
  | .missing => workspace.indexFile.isSome || workspace.pending.isSome
  | .unreadable | .releasing | .released => true
  | .ready => false

/-- The condition on a step. The database is not lost while the marker calls it complete; where it is lost,
the tables of what is published are made again, and nothing is published that a rebuild leaves out. And a
record that a rebuild is to restore conflicts with no other one of the rows or of the files. -/
def CacheKept (workspace : ResearchWorkspace) : ResearchEvent → Bool
  | .loseDatabase tables => workspace.job.isSome || workspace.mustRebuild &&
      (workspace.publication.toList ++ workspace.pending.toList).all fun index => index.files.keys.all fun key =>
        decide (key ∈ workspace.removed) || (index.pins.get? key).isSome
          || key.kind.isRebuilt && decide (key.kind ∈ tables)
  | .advance _ =>
    match workspace.point, workspace.indexFile with
    | some .rebuild, some index => index.files.entries.all fun e =>
        workspace.hasOrRemoved index e.1
          || !conflictsIn workspace.database.rows e.1 e.2 && !conflictsIn index.files e.1 e.2
    | _, _ => true
  | _ => true

/-- A workspace where each published record is in the database, or the next job restores it. -/
structure SavedResearch (workspace : ResearchWorkspace) : Prop where
  idle : workspace.job = none
  settled : workspace.pending = none
  agrees : workspace.indexFile = workspace.publication
  saved : ∀ index, workspace.publication = some index → ∀ key ∈ index.files.keys,
    workspace.hasOrRemoved index key ∨
      workspace.needsRebuild ∧ key.kind.isRebuilt ∧ key.kind ∈ workspace.database.tables

end Beale.Publication
