import Beale.Topics.Snapshots

/-!
# Stores that are opened while topics change

Every read, statement and file write is a step of its own. One process carries out operations; others
open stores over the same database and the same files.

- `Opening`: how far the hydration of a store came; `Opening.advance`: its next read or write.
- `TopicWorkspace`: the database, the snapshot files and what of these is published.
- `TopicWorkspace.step`: a step of any of the processes, or the end of one.
-/

namespace Beale.Topics

open Beale.Library

/-! ## An opening -/

/-- What `hydrateWorkspaceFiles` fails with, and why. -/
inductive OpeningError where
  /-- `Topic ID is not a safe workspace filename.` -/
  | unsafeName (topicId : Text)
  | noEntry (topicId : Text)
  /-- the error of `get` -/
  | unreadable (message : JsString)
  /-- a file with another topic or workspace: `invalid topic snapshot.` -/
  | invalidSnapshot (topicId : Text)
  /-- `invalid topic page.`, `invalid topic link.`, or an identifier in use -/
  | invalidPage (topicId : Text)
  | invalidLink (topicId : Text)
  | snapshot (error : HydrationError)
  /-- `canonical topic snapshot is missing.` -/
  | missing (topicId : Text)
  /-- `Topic snapshot source is unavailable.` -/
  | noSource (topicId : Text)
deriving DecidableEq

/-- The next read or write of an opening. -/
inductive OpeningPoint where
  | reading (names : List Text)
  | comparing (topicId : Text) (content : Snapshot) (published : Option Snapshot) (names : List Text)
  | storing (topicId : Text) (content : Snapshot) (names : List Text)
  /-- the `UPDATE` of the next merge -/
  | merging
  /-- the last two `SELECT`s -/
  | checking
  | writing (topicIds : List Text)
  | opened
  | failed (error : OpeningError)
  | stopped
deriving DecidableEq

structure Opening where
  before : List Snapshot
  merges : List (Text × Text) := []
  point : OpeningPoint

/-- Whether an opening has steps left. -/
def Opening.isActive (opening : Opening) : Bool :=
  match opening.point with
  | .opened | .failed _ | .stopped => false
  | _ => true

def Opening.fail (opening : Opening) (error : OpeningError) : Opening := { opening with point := .failed error }

/-- The pages and links of a snapshot, in place of those of its topic. -/
def storeDetails (db : Database) (topics : List Topic) (topicId : Text) (content : Snapshot) :
    Except OpeningError Database := do
  let pages := db.pages.filter fun page => page.topicId ≠ topicId
  if content.pages.any fun page => page.topicId ≠ topicId || pages.any fun other => other.id = page.id then
    throw (.invalidPage topicId)
  let links := db.links.filter fun link => link.topicId ≠ topicId
  if content.links.any fun link => link.topicId ≠ topicId || links.any fun other => other.id = link.id then
    throw (.invalidLink topicId)
  if ¬(content.pages.map (·.id)).Nodup then throw (.invalidPage topicId)
  if ¬(content.links.map (·.id)).Nodup ∨ ¬content.links.Pairwise (¬Link.SameResource · ·) then
    throw (.invalidLink topicId)
  return { topics, pages := pages ++ content.pages, links := links ++ content.links }

def storeSnapshot (db : Database) (topicId : Text) (content : Snapshot) : Except OpeningError Database :=
  match upsertSnapshot db.topics content.topic with
  | .error error => .error (.snapshot error)
  | .ok topics => storeDetails db topics topicId content

/-- `UPDATE app_server_topics SET merged_into_topic_id = target WHERE id = source` -/
def restoreMerge (workspaceId : JsString) (source target : Text) (row : Topic) : Topic :=
  if row.id = source && row.workspaceId = workspaceId then { row with mergedIntoTopicId := some target }
  else row

def checkSnapshot (workspaceId : JsString) (topicId : Text) (content : Snapshot)
    (published stored : Option Snapshot) : Except OpeningError Unit := do
  if published ≠ some content then
    if stored ≠ some content ∨ content.topic.id ≠ topicId then throw (.snapshot (.edited topicId))
  if content.topic.id ≠ topicId ∨ content.topic.workspaceId ≠ workspaceId then throw (.invalidSnapshot topicId)
  if content.topic.mergedIntoTopicId = some topicId then throw (.snapshot (.invalidMergeTarget topicId))

/-- The next read or write of an opening. -/
def Opening.advance (env : TopicEnv) (workspaceId : Text) (published : Text → Option Snapshot)
    (db : Database) (files : JsMap Text Snapshot) (opening : Opening) :
    Database × JsMap Text Snapshot × Opening :=
  match opening.point with
  | .reading [] => (db, files, { opening with point := .merging })
  | .reading (topicId :: names) =>
    if !isSafeTopicId topicId.1 then (db, files, opening.fail (.unsafeName topicId))
    else match files.get? topicId with
      | none => (db, files, opening.fail (.noEntry topicId))
      | some content =>
        (db, files, { opening with point := .comparing topicId content (published topicId) names })
  | .comparing topicId content published names =>
    match db.get env workspaceId.1 topicId.1 with
    | .error message => (db, files, opening.fail (.unreadable message))
    | .ok stored =>
      match checkSnapshot workspaceId.1 topicId content published stored with
      | .error error => (db, files, opening.fail error)
      | .ok () => (db, files, { opening with point := .storing topicId content names })
  | .storing topicId content names =>
    match storeSnapshot db topicId content with
    | .error error => (db, files, opening.fail error)
    | .ok db' => (db', files, { opening with
        merges := opening.merges ++ content.topic.mergedIntoTopicId.toList.map fun target => (topicId, target)
        point := .reading names })
  | .merging =>
    match opening.merges with
    | [] => (db, files, { opening with point := .checking })
    | (source, target) :: merges =>
      if !db.topics.any fun row => row.id = target then
        (db, files, opening.fail (.snapshot (.missingTarget target)))
      else if !db.topics.any fun row => row.id = source && row.workspaceId = workspaceId.1 then
        (db, files, opening.fail (.snapshot (.missingSource source)))
      else ({ db with topics := db.topics.map (restoreMerge workspaceId.1 source target) }, files,
        { opening with merges })
  | .checking =>
    if invalidMerge workspaceId.1 db.topics then (db, files, opening.fail (.snapshot .invalidTarget))
    else (db, files, { opening with
      point := .writing ((db.topics.filter fun row => row.workspaceId = workspaceId.1).map (·.id)) })
  | .writing [] => (db, files, { opening with point := .opened })
  | .writing (topicId :: topicIds) =>
    if !isSafeTopicId topicId.1 then (db, files, opening.fail (.unsafeName topicId))
    else if (files.get? topicId).isSome then (db, files, { opening with point := .writing topicIds })
    else if (published topicId).isSome then (db, files, opening.fail (.missing topicId))
    else match db.get env workspaceId.1 topicId.1 with
      | .error message => (db, files, opening.fail (.unreadable message))
      | .ok none => (db, files, opening.fail (.noSource topicId))
      | .ok (some detail) => (db, files.set topicId detail, { opening with point := .writing topicIds })
  | .opened | .failed _ | .stopped => (db, files, opening)

/-! ## The processes -/

/-- An operation that has been checked. -/
structure Running where
  plan : Plan
  begun : Bool := false

structure TopicWorkspace where
  database : Database
  /-- `references/topics/<id>.json` -/
  files : JsMap Text Snapshot
  published : Text → Option Snapshot
  operation : Option Running := none
  openings : List Opening := []

inductive TopicEvent where
  | start (operation : Operation) (time : Text)
  | advance (time : Text)
  | stop
  | publish (topicIds : List Text)
  | openStore (names : List Text)
  | advanceOpening (k : Nat)
  | stopOpening (k : Nat)

def Operation.isNew (workspace : TopicWorkspace) : Operation → Bool
  | .create id .. => (workspace.files.get? id.1).isNone && (workspace.published id.1).isNone
      && !workspace.database.topics.any fun row => row.id = id.1
  | _ => true

/-- The next commit or file of an operation. An error ends it. -/
def Running.advance (env : TopicEnv) (workspaceId : Text) (time : JsString) (db : Database)
    (files : JsMap Text Snapshot) (running : Running) : Database × JsMap Text Snapshot × Option Running :=
  match running.plan.statements, running.plan.writes with
  | statement :: statements, writes =>
    match statement.run env time db with
    | .error _ => (db, files, none)
    | .ok db' => (db', files, some ⟨⟨statements, writes⟩, true⟩)
  | [], .snapshot topicId :: writes =>
    if !isSafeTopicId topicId.1 then (db, files, none)
    else match db.get env workspaceId.1 topicId.1 with
      | .ok (some detail) => (db, files.set topicId detail, some ⟨⟨[], writes⟩, true⟩)
      | _ => (db, files, none)
  | [], .remove topicId :: writes => (db, files.delete topicId, some ⟨⟨[], writes⟩, true⟩)
  | [], [] => (db, files, none)

def TopicWorkspace.step (env : TopicPlatform) (workspaceId : Text) (workspace : TopicWorkspace) :
    TopicEvent → TopicWorkspace
  | .start operation time =>
    if workspace.operation.isSome || !operation.isNew workspace then workspace
    else match operation.plan env workspaceId workspace.database time.1 with
      | .error _ => workspace
      | .ok plan => { workspace with operation := some ⟨plan, false⟩ }
  | .advance time =>
    match workspace.operation with
    | none => workspace
    | some running =>
      let (database, files, operation) :=
        running.advance env.toTopicEnv workspaceId time.1 workspace.database workspace.files
      { workspace with database, files, operation }
  | .stop => { workspace with operation := none }
  | .publish topicIds => { workspace with
      published := fun id => if id ∈ topicIds then workspace.files.get? id else workspace.published id }
  | .openStore names =>
    if names.Perm workspace.files.keys then
      { workspace with openings :=
        workspace.openings ++ [{ before := workspace.database.contents, point := .reading names }] }
    else workspace
  | .advanceOpening k =>
    match workspace.openings[k]? with
    | none => workspace
    | some opening =>
      let (database, files, opening) :=
        opening.advance env.toTopicEnv workspaceId workspace.published workspace.database workspace.files
      { workspace with database, files, openings := workspace.openings.set k opening }
  | .stopOpening k => { workspace with
      openings := workspace.openings.modify k fun opening => { opening with point := .stopped } }

/-! ## What is asked, and what of -/

/-- An opening that goes on does not fail. Where it ends, readers see what they saw when it began. -/
def Reopens (env : TopicPlatform) (workspaceId : Text) (workspace : TopicWorkspace) : TopicEvent → Prop
  | .advanceOpening k => ∀ opening, workspace.openings[k]? = some opening → opening.isActive = true →
      ∀ opening', (workspace.step env workspaceId (.advanceOpening k)).openings[k]? = some opening' →
        (∀ error, opening'.point ≠ .failed error) ∧ (opening'.point = .opened →
          (workspace.step env workspaceId (.advanceOpening k)).database.contents = opening.before)
  | _ => True

/-- Whether no opening but this one has merges to restore. -/
def TopicWorkspace.onlyMerges (workspace : TopicWorkspace) (k : Nat) : Bool :=
  (workspace.openings.eraseIdx k).all fun opening => opening.merges.isEmpty

/-- Whether an operation has committed and has still to write. -/
def TopicWorkspace.isBehind (workspace : TopicWorkspace) : Bool :=
  workspace.operation.any fun running => running.begun

/-- Whether the next commit has a time: a `touch` can fail for the want of one. -/
def Running.hasTime (env : TopicEnv) (time : JsString) (db : Database) (running : Running) : Bool :=
  match running.plan.statements with
  | .touch id updatedAt :: _ => db.topics.all fun row =>
      row.id ≠ id || (nextTimestamp env row.updatedAt (updatedAt.getD time)).isOk
  | _ => true

def Running.onlyFirst (files : JsMap Text Snapshot) (running : Running) : Bool :=
  running.plan.statements.isEmpty && running.plan.writes.all fun write =>
    match write with
    | .snapshot topicId => (files.get? topicId).isNone
    | .remove _ => false

/-- The condition on a step. An operation goes on while no store is opened. It does not end, and no store
is opened, between its first commit and its last file, unless that is the first snapshot of a topic. An
opening does not end, and no other one goes on, while it has merges to restore. -/
def Undisturbed (env : TopicPlatform) (workspace : TopicWorkspace) : TopicEvent → Bool
  | .start .. => workspace.openings.all fun opening => !opening.isActive
  | .advance time => (workspace.openings.all fun opening => !opening.isActive) &&
      workspace.operation.all fun running => !running.begun
        || running.hasTime env.toTopicEnv time.1 workspace.database
  | .stop => workspace.operation.all fun running => !running.begun || running.onlyFirst workspace.files
  | .publish _ => true
  | .openStore _ => !workspace.isBehind && workspace.openings.all fun opening => opening.merges.isEmpty
  | .advanceOpening k => !workspace.isBehind && workspace.onlyMerges k
  | .stopOpening k => workspace.openings[k]?.all fun opening => opening.merges.isEmpty

end Beale.Topics
