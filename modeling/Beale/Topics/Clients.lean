import Beale.Topics.Table

/-!
# Clients that merge topics

Each `SELECT` and each write outside a transaction is a step of its own; the transaction of `merge`
is one step. Between two steps of a call the others go on.

- `TopicStore`: the table, with the topics as they were before they were merged.
-/

namespace Beale.Topics

open Beale.Library

inductive Call where
  | merge (workspaceId sourceId targetId : JsString)
  | unmerge (workspaceId sourceId : JsString)
  | archive (workspaceId topic archivedAt : JsString)
  | restore (workspaceId topic : JsString)
  | delete (workspaceId topic : JsString)

def Call.workspaceId : Call → JsString
  | .merge workspaceId _ _ | .unmerge workspaceId _ | .archive workspaceId _ _
  | .restore workspaceId _ | .delete workspaceId _ => workspaceId

/-- The next read or write of a call. -/
inductive Point where
  /-- a `SELECT` of `resolve` -/
  | lookup (identifier : JsString)
  /-- the `SELECT` of the topics that are merged into the first one found -/
  | dependents
  | write (now : JsString)
  /-- the `SELECT` and the `UPDATE` of `touch` -/
  | touch (topicId : Text)
  | stamp (topicId : Text) (updatedAt : JsString)
  | done (result : Except JsString Unit)

/-- A call with the records it has found. -/
structure Task where
  call : Call
  found : List Topic
  point : Point

structure TopicStore where
  topics : List Topic
  before : Text → Option Topic := fun _ => none
  tasks : List Task := []

/-! ## The writes -/

def stamped (topicId : Text) (stamp : JsString) (row : Topic) : Topic :=
  if row.id = topicId then { row with updatedAt := stamp } else row

/-- `touch(topicId, updatedAt)` inside a transaction. -/
def touchTopic (env : TopicEnv) (rows : List Topic) (topicId : Text) (updatedAt : JsString) :
    Except JsString (List Topic) :=
  match rows.find? fun row => row.id = topicId with
  | none => .error (js "Topic not found.")
  | some row => do
    let stamp ← nextTimestamp env row.updatedAt updatedAt
    return rows.map (stamped topicId stamp)

def topicIn (rows : List Topic) (workspaceId : JsString) (id : Text) : Option Topic :=
  rows.find? fun row => row.id = id && row.workspaceId = workspaceId

/-- A row after the merge of a topic into another one. -/
def merged (source target : Text) (now : JsString) (row : Topic) : Topic :=
  if row.id = source then
    { row with mergedIntoTopicId := some target, archivedAt := some now, updatedAt := now }
  else row

def mergeTransaction (env : TopicEnv) (rows : List Topic) (workspaceId : JsString) (source target : Topic)
    (now : JsString) : Except JsString (List Topic) := do
  if (topicIn rows workspaceId target.id).all fun row =>
    row.archivedAt.any (· ≠ []) || row.mergedIntoTopicId.isSome then
    throw (js "Merge target changed. Refresh before merging.")
  if (topicIn rows workspaceId source.id).all fun row =>
    row.mergedIntoTopicId.isSome || row.archivedAt.isSome then
    throw (js "Source topic changed. Refresh before merging.")
  touchTopic env (rows.map (merged source.id target.id now)) target.id now

/-- A row after the `UPDATE` of `unmerge`. -/
def unmerged (id : Text) (workspaceId now : JsString) (row : Topic) : Topic :=
  if row.id = id ∧ row.workspaceId = workspaceId then
    { row with mergedIntoTopicId := none, archivedAt := none, updatedAt := now }
  else row

/-- A row after the `UPDATE` of `archive` or of `restore`. -/
def withArchived (id : Text) (archivedAt : Option JsString) (row : Topic) : Topic :=
  if row.id = id then { row with archivedAt } else row

/-- The `DELETE` of `delete`: the foreign key holds it back where a topic is merged into this one. -/
def deleteTopic (rows : List Topic) (topic : JsString) (id : Text) : Except JsString (List Topic) :=
  if !rows.any fun row => row.id = id then .error (js "Topic could not be deleted: " ++ topic)
  else if hasDependents rows id then .error (js "FOREIGN KEY constraint failed")
  else .ok (rows.filter fun row => row.id ≠ id)

/-! ## Steps -/

def Call.named (call : Call) (found : List Topic) : JsString :=
  match call with
  | .merge _ sourceId targetId => if found.isEmpty then sourceId else targetId
  | .unmerge _ sourceId => sourceId
  | .archive _ topic _ | .restore _ topic | .delete _ topic => topic

def Call.start (call : Call) : Task :=
  match requiredText call.workspaceId (js "Workspace id"), requiredText (call.named []) (js "Topic") with
  | .ok _, .ok identifier => ⟨call, [], .lookup identifier.1⟩
  | .error message, _ | _, .error message => ⟨call, [], .done (.error message)⟩

/-- What a call does with the records it has found, before its next read or write. -/
def Call.after (env : TopicEnv) (call : Call) (found : List Topic) (time : JsString) : Point :=
  match call, found with
  | .merge .., [_] =>
    match requiredText (call.named found) (js "Topic") with
    | .ok identifier => .lookup identifier.1
    | .error message => .done (.error message)
  | .merge .., source :: target :: _ =>
    if source.id = target.id then .done (.error (js "A topic cannot be merged into itself."))
    else if !source.isActive then .done (.error (js "Only an active topic can be merged."))
    else .dependents
  | .unmerge .., source :: _ =>
    if source.mergedIntoTopicId.isNone then .done (.error (js "Topic is not merged."))
    else match nextTimestamp env source.updatedAt time with
      | .ok now => .write now
      | .error message => .done (.error message)
  | .restore .., record :: _ =>
    if record.mergedIntoTopicId.isSome then .done (.error (js "Undo the merge to restore this topic."))
    else .write time
  | .archive .., _ :: _ | .delete .., _ :: _ => .dependents
  | _, [] => .done (.ok ())

def Call.checked (env : TopicEnv) (call : Call) (found : List Topic) (time : JsString) : Point :=
  match call, found with
  | .merge .., source :: target :: _ =>
    if !target.isActive then .done (.error (js "Merge target must be active."))
    else match nextTimestamp env source.updatedAt time with
      | .ok now => .write now
      | .error message => .done (.error message)
  | .archive _ _ archivedAt, _ => .write archivedAt
  | _, _ => .write time

/-- What a call fails with where a topic is merged into the one it is about. -/
def Call.dependentsMessage : Call → JsString
  | .merge .. => js "Undo dependent topic merges before merging their target."
  | .archive .. => js "Undo dependent topic merges before archiving their target."
  | _ => js "Restore or remerge source topics before deleting this merge target."

/-- What the write of a call makes of the table. -/
def Task.written (env : TopicEnv) (rows : List Topic) (task : Task) (now : JsString) :
    Except JsString (List Topic) :=
  match task.call, task.found with
  | .merge workspaceId _ _, source :: target :: _ => mergeTransaction env rows workspaceId source target now
  | .unmerge workspaceId _, source :: _ => .ok (rows.map (unmerged source.id workspaceId now))
  | .archive .., record :: _ => .ok (rows.map (withArchived record.id (some now)))
  | .restore .., record :: _ => .ok (rows.map (withArchived record.id none))
  | .delete _ topic, record :: _ => deleteTopic rows topic record.id
  | _, _ => .ok rows

def Task.afterWrite (task : Task) : Point :=
  match task.call, task.found with
  | .unmerge .., source :: _ =>
    match source.mergedIntoTopicId with
    | some target => .touch target
    | none => .done (.ok ())
  | _, _ => .done (.ok ())

/-- The next read or write of a call. -/
def Task.advance (env : TopicEnv) (rows : List Topic) (time : JsString) (task : Task) : List Topic × Task :=
  match task.point with
  | .lookup identifier =>
    let workspaceId := trim task.call.workspaceId
    match selectTopic env rows workspaceId identifier with
    | none => (rows, { task with
        point := .done (.error (js "Topic not found in workspace: " ++ task.call.named task.found)) })
    | some row =>
      match row.mergedIntoTopicId with
      | some target =>
        if identifier ≠ row.id.1 then (rows, { task with point := .lookup target.1 })
        else
          let found := task.found ++ [decodeTopic row]
          (rows, { task with found, point := task.call.after env found time })
      | none =>
        let found := task.found ++ [decodeTopic row]
        (rows, { task with found, point := task.call.after env found time })
  | .dependents =>
    match task.found with
    | record :: _ =>
      if hasDependents rows record.id then
        (rows, { task with point := .done (.error task.call.dependentsMessage) })
      else (rows, { task with point := task.call.checked env task.found time })
    | [] => (rows, task)
  | .write now =>
    match task.written env rows now with
    | .ok rows' => (rows', { task with point := task.afterWrite })
    | .error message => (rows, { task with point := .done (.error message) })
  | .touch topicId =>
    match rows.find? fun row => row.id = topicId with
    | none => (rows, { task with point := .done (.error (js "Topic not found.")) })
    | some row =>
      match nextTimestamp env row.updatedAt time with
      | .ok stamp => (rows, { task with point := .stamp topicId stamp })
      | .error message => (rows, { task with point := .done (.error message) })
  | .stamp topicId updatedAt =>
    (rows.map (stamped topicId updatedAt), { task with point := .done (.ok ()) })
  | .done _ => (rows, task)

/-- The topics before their merges, after the table changed: a topic that was merged just now is kept
as it was. -/
def keepBefore (before : Text → Option Topic) (rows rows' : List Topic) (id : Text) : Option Topic :=
  match rows.find? (fun row => row.id = id), rows'.find? fun row => row.id = id with
  | some row, some row' =>
    if row.mergedIntoTopicId.isNone && row'.mergedIntoTopicId.isSome then some row else before id
  | _, _ => before id

/-- A new call, or the next step of one. -/
inductive Turn where
  | start (call : Call)
  | turn (k : Nat) (time : JsString)

def TopicStore.step (env : TopicEnv) (store : TopicStore) : Turn → TopicStore
  | .start call => { store with tasks := store.tasks ++ [call.start] }
  | .turn k time =>
    match store.tasks[k]? with
    | none => store
    | some task =>
      let (topics, task') := task.advance env store.topics time
      { topics, before := keepBefore store.before store.topics topics, tasks := store.tasks.set k task' }

end Beale.Topics
