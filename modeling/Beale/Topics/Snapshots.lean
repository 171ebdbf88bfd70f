import Beale.Library.JsMap
import Beale.Topics.Merges
import Mathlib.Data.List.Sort
import Mathlib.Data.Prod.Lex
import Mathlib.Order.Lex

/-!
# Topics with their pages and links, and the snapshots of them

The tables, what an operation commits at once, and the files it writes after it.
-/

namespace Beale.Topics

open Beale.Library

/-- The functions of the platform, and what the other tables and the files say to a link. -/
structure TopicPlatform extends TopicEnv where
  /-- `text.toLocaleUpperCase()` -/
  toLocaleUpperCase : JsString → JsString
  linkProblem : JsString → JsString → Option JsString

structure Page where
  id : Text
  topicId : Text
  title : JsString
  contentMarkdown : JsString
  createdAt : JsString
  updatedAt : JsString
deriving DecidableEq

inductive LinkKind where
  | claim | memory | runbook | file | session | topic
deriving DecidableEq

def LinkKind.text : LinkKind → JsString
  | .claim => js "claim"
  | .memory => js "memory"
  | .runbook => js "runbook"
  | .file => js "file"
  | .session => js "session"
  | .topic => js "topic"

structure Link where
  id : Text
  topicId : Text
  kind : LinkKind
  resourceId : JsString
  title : JsString
  createdAt : JsString
deriving DecidableEq

/-- `topicSnapshotContent`, of one workspace. -/
structure Snapshot where
  topic : Topic
  pages : List Page
  links : List Link
deriving DecidableEq

/-- `app_server_topics`, `app_server_topic_pages` and `app_server_topic_links`. -/
structure Database where
  topics : List Topic
  pages : List Page
  links : List Link

/-! ## Reading -/

/-- Texts as SQLite compares them, unit by unit. -/
def orderKey (createdAt : JsString) (id : Text) : Lex (List Nat × List Nat) :=
  toLex (createdAt.map UInt16.toNat, id.1.map UInt16.toNat)

/-- `ORDER BY created_at ASC, id ASC` -/
def Page.Before (a b : Page) : Prop := orderKey a.createdAt a.id ≤ orderKey b.createdAt b.id

/-- `ORDER BY created_at DESC, id DESC` -/
def Link.Before (a b : Link) : Prop := orderKey b.createdAt b.id ≤ orderKey a.createdAt a.id

instance : DecidableRel Page.Before := fun a b =>
  inferInstanceAs (Decidable (orderKey a.createdAt a.id ≤ orderKey b.createdAt b.id))

instance : DecidableRel Link.Before := fun a b =>
  inferInstanceAs (Decidable (orderKey b.createdAt b.id ≤ orderKey a.createdAt a.id))

instance : IsTrans Page Page.Before := ⟨fun _ _ _ => le_trans⟩

instance : Std.Total Page.Before := ⟨fun _ _ => le_total _ _⟩

instance : IsTrans Link Link.Before := ⟨fun _ _ _ h h' => le_trans h' h⟩

instance : Std.Total Link.Before := ⟨fun _ _ => le_total _ _⟩

namespace Database

variable (database : Database)

def pagesOf (topicId : Text) : List Page :=
  (database.pages.filter fun page => page.topicId = topicId).insertionSort Page.Before

def linksOf (topicId : Text) : List Link :=
  (database.links.filter fun link => link.topicId = topicId).insertionSort Link.Before

/-- The detail of a topic: the part of it that is in its snapshot. -/
def snapshotOf (row : Topic) : Snapshot where
  topic := decodeTopic row
  pages := database.pagesOf row.id
  links := database.linksOf row.id

/-- Everything that a reader sees. -/
def contents : List Snapshot := database.topics.map database.snapshotOf

/-- `resolve`. A chain of merges is no longer than the table, or it has no end. -/
def resolve (env : TopicEnv) (workspaceId topic : JsString) : Except JsString (Option Topic) := do
  let identifier ← requiredText topic (js "Topic")
  resolveWithin env database.topics workspaceId (database.topics.length + 1) identifier.1

def get (env : TopicEnv) (workspaceId topic : JsString) : Except JsString (Option Snapshot) := do
  let record ← database.resolve env workspaceId topic
  return record.map database.snapshotOf

def require (env : TopicEnv) (workspaceId topic : JsString) : Except JsString Topic := do
  match ← database.resolve env workspaceId topic with
  | some record => return record
  | none => throw (js "Topic not found in workspace: " ++ topic)

end Database

/-! ## Writing -/

/-- A statement outside a transaction, or a transaction. -/
inductive Statement where
  | insertTopic (topic : Topic)
  | setOverview (id : Text) (overviewMarkdown updatedAt : JsString)
  | insertPage (page : Page)
  | updatePage (id topicId : Text) (title contentMarkdown updatedAt : JsString)
  | deletePage (pageId : JsString) (topicId : Text)
  | putLink (link : Link)
  | deleteLink (linkId : JsString) (topicId : Text)
  /-- `touch(id, updatedAt)`: `none` is the time of the call -/
  | touch (id : Text) (updatedAt : Option JsString)
  | merge (workspaceId : JsString) (source target : Topic) (now : JsString)
  | unmerge (id : Text) (workspaceId now : JsString)
  | setArchived (id : Text) (archivedAt : Option JsString)
  | delete (topic : JsString) (id : Text)

/-- The topics whose details a statement may change. -/
def Statement.touched : Statement → List Text
  | .insertTopic topic => [topic.id]
  | .insertPage page => [page.topicId]
  | .putLink link => [link.topicId]
  | .merge _ source target _ => [source.id, target.id]
  | .setOverview id _ _ | .touch id _ | .unmerge id _ _ | .setArchived id _ | .delete _ id => [id]
  | .updatePage _ topicId _ _ _ | .deletePage _ topicId | .deleteLink _ topicId => [topicId]

/-- A row after the `UPDATE` of `updateOverview`. -/
def withOverview (id : Text) (overviewMarkdown updatedAt : JsString) (row : Topic) : Topic :=
  if row.id = id then { row with overviewMarkdown, updatedAt } else row

/-- A page after the `UPDATE` of `savePage`. -/
def withContent (id topicId : Text) (title contentMarkdown updatedAt : JsString) (page : Page) : Page :=
  if page.id = id ∧ page.topicId = topicId then { page with title, contentMarkdown, updatedAt } else page

def Link.SameResource (a b : Link) : Prop :=
  a.topicId = b.topicId ∧ a.kind = b.kind ∧ a.resourceId = b.resourceId

instance : DecidableRel Link.SameResource := fun a b =>
  inferInstanceAs (Decidable (a.topicId = b.topicId ∧ a.kind = b.kind ∧ a.resourceId = b.resourceId))

/-- A link after the `DO UPDATE` of `link`. -/
def withTitle (link other : Link) : Link :=
  if other.SameResource link then { other with title := link.title } else other

def Statement.run (env : TopicEnv) (time : JsString) (db : Database) : Statement → Except JsString Database
  | .insertTopic topic =>
    if db.topics.any fun row =>
      row.id = topic.id || row.workspaceId = topic.workspaceId && row.name = topic.name then
      .error (js "Topic already exists in this workspace: " ++ topic.name)
    else .ok { db with topics := db.topics ++ [topic] }
  | .setOverview id overviewMarkdown updatedAt =>
    .ok { db with topics := db.topics.map (withOverview id overviewMarkdown updatedAt) }
  | .insertPage page =>
    if db.pages.any fun other => other.id = page.id then
      .error (js "UNIQUE constraint failed: app_server_topic_pages.id")
    else if !db.topics.any fun row => row.id = page.topicId then .error (js "FOREIGN KEY constraint failed")
    else .ok { db with pages := db.pages ++ [page] }
  | .updatePage id topicId title contentMarkdown updatedAt =>
    .ok { db with pages := db.pages.map (withContent id topicId title contentMarkdown updatedAt) }
  | .deletePage pageId topicId =>
    if db.pages.any fun page => page.id.1 = pageId && page.topicId = topicId then
      .ok { db with pages := db.pages.filter fun page => ¬(page.id.1 = pageId ∧ page.topicId = topicId) }
    else .error (js "Topic page not found.")
  | .putLink link =>
    if db.links.any fun other => other.SameResource link then
      .ok { db with links := db.links.map (withTitle link) }
    else if db.links.any fun other => other.id = link.id then
      .error (js "UNIQUE constraint failed: app_server_topic_links.id")
    else if !db.topics.any fun row => row.id = link.topicId then .error (js "FOREIGN KEY constraint failed")
    else .ok { db with links := db.links ++ [link] }
  | .deleteLink linkId topicId =>
    if db.links.any fun link => link.id.1 = linkId && link.topicId = topicId then
      .ok { db with links := db.links.filter fun link => ¬(link.id.1 = linkId ∧ link.topicId = topicId) }
    else .error (js "Topic link not found.")
  | .touch id updatedAt => do
    let topics ← touchTopic env db.topics id (updatedAt.getD time)
    return { db with topics }
  | .merge workspaceId source target now => do
    let topics ← mergeTransaction env db.topics workspaceId source target now
    return { db with topics }
  | .unmerge id workspaceId now => .ok { db with topics := db.topics.map (unmerged id workspaceId now) }
  | .setArchived id archivedAt => .ok { db with topics := db.topics.map (withArchived id archivedAt) }
  | .delete topic id => do
    let topics ← deleteTopic db.topics topic id
    return { topics
             pages := db.pages.filter fun page => page.topicId ≠ id
             links := db.links.filter fun link => link.topicId ≠ id }

/-- A file that an operation writes or removes after its commits. -/
inductive FileWrite where
  | snapshot (topicId : Text)
  | remove (topicId : Text)
deriving DecidableEq

def FileWrite.topicId : FileWrite → Text
  | .snapshot topicId | .remove topicId => topicId

/-! ## The operations -/

/-- `/^[a-zA-Z0-9][a-zA-Z0-9_.-]*$/` -/
def isSafeTopicId : JsString → Bool
  | [] => false
  | u :: rest => isAlphanumeric u && rest.all fun v => isAlphanumeric v || [95, 46, 45].contains v
where
  isAlphanumeric (u : UInt16) : Bool := isNameUnit u || 65 ≤ u && u ≤ 90

/-- `topic_` and the digits of a random UUID. -/
abbrev NewTopicId := { id : Text // isSafeTopicId id.1 = true }

/-- A call of the store, in the workspace whose files it keeps. The identifiers of what it makes are
given with it; an option that is left out is the empty text. -/
inductive Operation where
  | create (id : NewTopicId) (name topic : JsString) (title overviewMarkdown sessionId agentPath : Option JsString)
  | updateOverview (topic contentMarkdown expectedUpdatedAt : JsString)
  | savePage (topic pageId : JsString) (newId : Text) (title contentMarkdown expectedUpdatedAt : JsString)
  | deletePage (topic pageId : JsString)
  | link (topic : JsString) (newId : Text) (kind : LinkKind) (resourceId title : JsString)
  | unlink (topic linkId : JsString)
  | merge (sourceId targetId : JsString)
  | unmerge (sourceId : JsString)
  | archive (topic : JsString) (archivedAt : Option Text)
  | restore (topic : JsString)
  | delete (topic : JsString)

def researchTopicNameWords (env : TopicEnv) (value : JsString) : List JsString :=
  ((env.toLocaleLowerCase value).splitOnP (!isNameUnit ·)).filter (· ≠ [])

def normalizeResearchTopicName (env : TopicEnv) (value : JsString) : Except JsString JsString := do
  let text ← requiredText value (js "Topic name")
  let words := researchTopicNameWords env text.1
  if 8 < words.length then throw (js "Topic name must contain at most 8 words.")
  let normalized := joinWith (js "-") words
  if normalized = [] then throw (js "Topic name must contain a letter or number.")
  if 64 < normalized.length then throw (js "Topic name must contain at most 64 characters.")
  return normalized

/-- `researchTopicTitle`, of a name that is normalized. -/
def researchTopicTitle (env : TopicPlatform) (name : JsString) : JsString :=
  joinWith (js " ") ((name.splitOn 45).map fun part => env.toLocaleUpperCase (part.take 1) ++ part.drop 1)

def boundedMarkdown (value : JsString) : Except JsString JsString :=
  if 128000 < value.length then .error (js "Topic page content must be text under 128,000 characters.")
  else .ok value

/-- What an operation commits, one after the other, and the files it writes then. -/
structure Plan where
  statements : List Statement
  writes : List FileWrite

/-- What an operation does before its first commit. -/
def Operation.plan (env : TopicPlatform) (workspaceId : Text) (db : Database) (time : JsString) :
    Operation → Except JsString Plan
  | .create id name topic title overviewMarkdown sessionId agentPath => do
    let name ← normalizeResearchTopicName env.toTopicEnv name
    let topic ← requiredText topic (js "Topic topic")
    return {
      statements := [.insertTopic {
        id := id.1
        workspaceId := workspaceId.1
        name
        title := (optionalText title).getD (researchTopicTitle env name)
        topic := topic.1
        overviewMarkdown := (optionalText overviewMarkdown).getD topic.1
        createdBySessionId := optionalText sessionId
        createdByAgentPath := (optionalText agentPath).getD (js "/human")
        createdAt := time
        updatedAt := time
        archivedAt := none
        mergedIntoTopicId := none }]
      writes := [.snapshot id.1] }
  | .updateOverview topic contentMarkdown expectedUpdatedAt => do
    let record ← db.require env.toTopicEnv workspaceId.1 topic
    let content ← boundedMarkdown contentMarkdown
    if expectedUpdatedAt ≠ [] ∧ expectedUpdatedAt ≠ record.updatedAt then
      throw (js "Topic changed since it was opened. Refresh before editing.")
    let updatedAt ← nextTimestamp env.toTopicEnv record.updatedAt time
    return ⟨[.setOverview record.id content updatedAt], [.snapshot record.id]⟩
  | .savePage topic pageId newId title contentMarkdown expectedUpdatedAt => do
    let record ← db.require env.toTopicEnv workspaceId.1 topic
    let title ← requiredText title (js "Page title")
    let contentMarkdown ← boundedMarkdown contentMarkdown
    if pageId = [] then
      let page : Page := ⟨newId, record.id, title.1.take 200, contentMarkdown, time, time⟩
      return ⟨[.insertPage page, .touch record.id (some time)], [.snapshot record.id]⟩
    else match db.pages.find? fun page => page.id.1 = pageId && page.topicId = record.id with
      | none => throw (js "Topic page not found.")
      | some existing =>
        if expectedUpdatedAt ≠ [] ∧ expectedUpdatedAt ≠ existing.updatedAt then
          throw (js "Page changed since it was opened. Refresh before editing.")
        let updatedAt ← nextTimestamp env.toTopicEnv existing.updatedAt time
        return ⟨[.updatePage existing.id record.id (title.1.take 200) contentMarkdown updatedAt,
          .touch record.id (some updatedAt)], [.snapshot record.id]⟩
  | .deletePage topic pageId => do
    let record ← db.require env.toTopicEnv workspaceId.1 topic
    return ⟨[.deletePage pageId record.id, .touch record.id none], [.snapshot record.id]⟩
  | .link topic newId kind resourceId title => do
    let record ← db.require env.toTopicEnv workspaceId.1 topic
    let resource ← requiredText resourceId (js "Linked resource id")
    let title ← requiredText title (js "Linked resource title")
    if kind = .topic then
      match ← db.resolve env.toTopicEnv workspaceId.1 resource.1 with
      | none => throw (js "Linked topic must belong to this workspace.")
      | some linked =>
        if linked.id = record.id then throw (js "A topic cannot link to itself.")
        return ⟨[.putLink ⟨newId, record.id, kind, linked.id.1, title.1.take 200, time⟩, .touch record.id none],
          [.snapshot record.id]⟩
    else match env.linkProblem kind.text resource.1 with
      | some message => throw message
      | none =>
        return ⟨[.putLink ⟨newId, record.id, kind, resource.1, title.1.take 200, time⟩, .touch record.id none],
          [.snapshot record.id]⟩
  | .unlink topic linkId => do
    let record ← db.require env.toTopicEnv workspaceId.1 topic
    return ⟨[.deleteLink linkId record.id, .touch record.id none], [.snapshot record.id]⟩
  | .merge sourceId targetId => do
    let source ← db.require env.toTopicEnv workspaceId.1 sourceId
    let target ← db.require env.toTopicEnv workspaceId.1 targetId
    if source.id = target.id then throw (js "A topic cannot be merged into itself.")
    if !source.isActive then throw (js "Only an active topic can be merged.")
    if hasDependents db.topics source.id then
      throw (js "Undo dependent topic merges before merging their target.")
    if !target.isActive then throw (js "Merge target must be active.")
    let now ← nextTimestamp env.toTopicEnv source.updatedAt time
    return ⟨[.merge workspaceId.1 source target now], [.snapshot source.id, .snapshot target.id]⟩
  | .unmerge sourceId => do
    let source ← db.require env.toTopicEnv workspaceId.1 sourceId
    match source.mergedIntoTopicId with
    | none => throw (js "Topic is not merged.")
    | some targetId =>
      let now ← nextTimestamp env.toTopicEnv source.updatedAt time
      return ⟨[.unmerge source.id workspaceId.1 now, .touch targetId none],
        [.snapshot source.id, .snapshot targetId]⟩
  | .archive topic archivedAt => do
    let record ← db.require env.toTopicEnv workspaceId.1 topic
    if hasDependents db.topics record.id then
      throw (js "Undo dependent topic merges before archiving their target.")
    return ⟨[.setArchived record.id (some ((archivedAt.map (·.1)).getD time))], [.snapshot record.id]⟩
  | .restore topic => do
    let record ← db.require env.toTopicEnv workspaceId.1 topic
    if record.mergedIntoTopicId.isSome then throw (js "Undo the merge to restore this topic.")
    return ⟨[.setArchived record.id none], [.snapshot record.id]⟩
  | .delete topic => do
    let record ← db.require env.toTopicEnv workspaceId.1 topic
    if hasDependents db.topics record.id then
      throw (js "Restore or remerge source topics before deleting this merge target.")
    return ⟨[.delete topic record.id], [.remove record.id]⟩

end Beale.Topics
