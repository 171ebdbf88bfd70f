import Beale.Library.Client
import Beale.Library.IsoDate
import Mathlib.Data.List.Nodup

/-!
# The topics of a workspace

- `Topic`: a row of `app_server_topics`; `decodeTopic`: the record that a reader makes of it.
- `selectTopic`, `resolve`: a topic by its identifier or its name, through the merges.
-/

namespace Beale.Topics

open Beale.Library

/-- The functions of the platform. -/
structure TopicEnv where
  /-- `text.toLocaleLowerCase()` -/
  toLocaleLowerCase : JsString → JsString
  /-- `Date.parse(text)`, if it is finite -/
  dateParse : JsString → Option Int

structure Topic where
  id : Text
  workspaceId : JsString
  name : JsString
  title : JsString
  topic : JsString
  overviewMarkdown : JsString
  createdBySessionId : Option JsString
  createdByAgentPath : JsString
  createdAt : JsString
  updatedAt : JsString
  archivedAt : Option JsString
  mergedIntoTopicId : Option Text
deriving DecidableEq

/-! ## Reading topics -/

def requiredText (value label : JsString) : Except JsString Text :=
  match textOf? value with
  | some text => .ok text
  | none => .error (label ++ js " must be a non-empty string.")

def optionalText (value : Option JsString) : Option JsString := (value.bind textOf?).map (·.1)

def decodeTopic (row : Topic) : Topic :=
  { row with
    createdBySessionId := optionalText row.createdBySessionId
    archivedAt := optionalText row.archivedAt }

/-- Whether a topic is neither archived nor merged. -/
def Topic.isActive (topic : Topic) : Bool :=
  (optionalText topic.archivedAt).isNone && topic.mergedIntoTopicId.isNone

/-- A unit of `[a-z0-9]`. -/
def isNameUnit (u : UInt16) : Bool := 97 ≤ u && u ≤ 122 || 48 ≤ u && u ≤ 57

def researchTopicNameSlug (env : TopicEnv) (value : JsString) : JsString :=
  (joinWith (js "-") (((env.toLocaleLowerCase value).splitOnP (!isNameUnit ·)).filter (· ≠ []))).take 64

/-- The `SELECT` of `resolve`: the primary key comes before the index of the names. -/
def selectTopic (env : TopicEnv) (rows : List Topic) (workspaceId identifier : JsString) : Option Topic :=
  let rows := rows.filter fun row => row.workspaceId = workspaceId
  (rows.find? fun row => row.id.1 = identifier).or
    (rows.find? fun row => row.name = researchTopicNameSlug env identifier)

/-- The recursion of `resolve`, over so many steps. -/
def resolveWithin (env : TopicEnv) (rows : List Topic) (workspaceId : JsString) :
    Nat → JsString → Except JsString (Option Topic)
  | 0, _ => .error (js "Maximum call stack size exceeded")
  | steps + 1, identifier =>
    match selectTopic env rows workspaceId identifier with
    | none => .ok none
    | some row =>
      match row.mergedIntoTopicId with
      | some target =>
        if identifier ≠ row.id.1 then resolveWithin env rows workspaceId steps target.1
        else .ok (some (decodeTopic row))
      | none => .ok (some (decodeTopic row))

/-- Whether a topic is merged into another one. -/
def hasDependents (rows : List Topic) (id : Text) : Bool :=
  rows.any fun row => row.mergedIntoTopicId = some id

/-! ## Times -/

def nextTimestamp (env : TopicEnv) (previous candidate : JsString) : Except JsString JsString :=
  if previous < candidate then .ok candidate
  else match env.dateParse previous with
    | some time =>
      if time + 1 ≤ maxTimeValue ∧ -maxTimeValue ≤ time + 1 then .ok (toISOString (time + 1))
      else .error (js "Invalid time value")
    | none => .error (js "Invalid time value")

/-! ## Opening a store -/

/-- What `hydrateWorkspaceFiles` fails with. -/
inductive HydrationError where
  | edited (topicId : Text)
  | invalidMergeTarget (topicId : Text)
  | nameTaken (topicId : Text)
  | missingTarget (topicId : Text)
  | missingSource (topicId : Text)
  /-- `Topic merge snapshots contain an invalid target.` -/
  | invalidTarget
deriving DecidableEq

def Topic.overwrite (row snapshot : Topic) : Topic :=
  { row with
    name := snapshot.name
    title := snapshot.title
    topic := snapshot.topic
    updatedAt := snapshot.updatedAt
    archivedAt := snapshot.archivedAt
    overviewMarkdown := snapshot.overviewMarkdown
    mergedIntoTopicId := none }

/-- The `INSERT … ON CONFLICT(id) DO UPDATE` of a snapshot, without its merge. -/
def upsertSnapshot (rows : List Topic) (snapshot : Topic) : Except HydrationError (List Topic) :=
  if rows.any fun row => row.id = snapshot.id then
    if rows.any fun row =>
      row.id ≠ snapshot.id && row.workspaceId = snapshot.workspaceId && row.name = snapshot.name then
      .error (.nameTaken snapshot.id)
    else .ok (rows.map fun row => if row.id = snapshot.id then row.overwrite snapshot else row)
  else if rows.any fun row => row.workspaceId = snapshot.workspaceId && row.name = snapshot.name then
    .error (.nameTaken snapshot.id)
  else .ok (rows ++ [{ snapshot with mergedIntoTopicId := none }])

/-- The files of `hydrateWorkspaceFiles`, one after the other. -/
def readSnapshots (env : TopicEnv) (workspaceId : JsString) (published : Text → Option Topic) :
    List Topic → List Topic → Except HydrationError (List Topic)
  | rows, [] => .ok rows
  | rows, snapshot :: files => do
    let stored := (selectTopic env rows workspaceId snapshot.id.1).map decodeTopic
    if published snapshot.id ≠ some snapshot ∧ stored ≠ some snapshot then throw (.edited snapshot.id)
    if snapshot.mergedIntoTopicId = some snapshot.id then throw (.invalidMergeTarget snapshot.id)
    let rows ← upsertSnapshot rows snapshot
    readSnapshots env workspaceId published rows files

/-- The merges of the snapshots. A target has to be stored. -/
def applyMerges (workspaceId : JsString) :
    List Topic → List (Text × Text) → Except HydrationError (List Topic)
  | rows, [] => .ok rows
  | rows, (source, target) :: merges => do
    if !rows.any fun row => row.id = target then throw (.missingTarget target)
    if !rows.any fun row => row.id = source && row.workspaceId = workspaceId then
      throw (.missingSource source)
    applyMerges workspaceId (rows.map fun row =>
      if row.id = source && row.workspaceId = workspaceId then { row with mergedIntoTopicId := some target }
      else row) merges

/-- The last `SELECT` of `hydrateWorkspaceFiles`: a merge whose target is of another workspace, or
merged, or archived. -/
def invalidMerge (workspaceId : JsString) (rows : List Topic) : Bool :=
  rows.any fun source => source.workspaceId = workspaceId && rows.any fun target =>
    source.mergedIntoTopicId = some target.id && (target.workspaceId ≠ source.workspaceId
      || target.mergedIntoTopicId.isSome || target.archivedAt.isSome)

/-- `hydrateWorkspaceFiles`, of the snapshots in the directory. The pages and links of the topics,
and the snapshots it writes for topics that have none, are left out. -/
def hydrateWorkspaceFiles (env : TopicEnv) (workspaceId : JsString) (published : Text → Option Topic)
    (rows files : List Topic) : Except HydrationError (List Topic) := do
  let rows ← readSnapshots env workspaceId published rows files
  let rows ← applyMerges workspaceId rows
    (files.filterMap fun snapshot => snapshot.mergedIntoTopicId.map fun target => (snapshot.id, target))
  if invalidMerge workspaceId rows then throw .invalidTarget
  return rows

def snapshots (workspaceId : JsString) (rows : List Topic) : List Topic :=
  (rows.filter fun row => row.workspaceId = workspaceId).map decodeTopic

/-! ## Merges of depth one -/

structure Keyed (rows : List Topic) : Prop where
  ids : (rows.map (·.id)).Nodup
  names : ∀ a ∈ rows, ∀ b ∈ rows, a.workspaceId = b.workspaceId → a.name = b.name → a.id = b.id

/-- Every merged topic points to a topic of its workspace that is active. -/
def Forest (rows : List Topic) : Prop :=
  ∀ source ∈ rows, ∀ target, source.mergedIntoTopicId = some target →
    ∃ topic ∈ rows, topic.id = target ∧ topic.workspaceId = source.workspaceId ∧ topic.isActive = true

theorem Keyed.eq {rows : List Topic} (h : Keyed rows) {a b : Topic} (ha : a ∈ rows) (hb : b ∈ rows)
    (hid : a.id = b.id) : a = b := List.inj_on_of_nodup_map h.ids ha hb hid

theorem isActive_iff {topic : Topic} :
    topic.isActive = true ↔ optionalText topic.archivedAt = none ∧ topic.mergedIntoTopicId = none := by
  rw [Topic.isActive, Bool.and_eq_true, Option.isNone_iff_eq_none, Option.isNone_iff_eq_none]

theorem selectTopic_id (env : TopicEnv) {rows : List Topic} (hkeys : (rows.map (·.id)).Nodup) {row : Topic}
    (hrow : row ∈ rows) : selectTopic env rows row.workspaceId row.id.1 = some row := by
  have hmem : row ∈ rows.filter fun other => other.workspaceId = row.workspaceId :=
    List.mem_filter.mpr ⟨hrow, by simp⟩
  have hfound : ((rows.filter fun other => other.workspaceId = row.workspaceId).find?
      fun other => other.id.1 = row.id.1).isSome := by
    rw [List.find?_isSome]
    exact ⟨row, hmem, by simp⟩
  obtain ⟨other, hother⟩ := Option.isSome_iff_exists.mp hfound
  have hid : other.id = row.id := Subtype.ext (by simpa using List.find?_some hother)
  have heq : other = row := List.inj_on_of_nodup_map hkeys
    (List.mem_filter.mp (List.mem_of_find?_eq_some hother)).1 hrow hid
  rw [selectTopic, hother, heq]
  rfl

section Hydration

variable {rows : List Topic} (hkeys : Keyed rows) (hforest : Forest rows) (workspaceId : JsString)

/-- A row whose snapshot was read, where it is among these. -/
def cleared (read : List Text) (row : Topic) : Topic :=
  if row.id ∈ read then row.overwrite (decodeTopic row) else row

section

variable (read : List Text) (row : Topic)

@[simp] theorem cleared_id : (cleared read row).id = row.id := by
  unfold cleared
  split <;> rfl

@[simp] theorem cleared_workspaceId : (cleared read row).workspaceId = row.workspaceId := by
  unfold cleared
  split <;> rfl

@[simp] theorem cleared_name : (cleared read row).name = row.name := by
  unfold cleared
  split <;> rfl

end

include hkeys in
theorem upsertSnapshot_stored {read : List Text} {row : Topic} (hrow : row ∈ rows) (hread : row.id ∉ read) :
    upsertSnapshot (rows.map (cleared read)) (decodeTopic row)
      = .ok (rows.map (cleared (read ++ [row.id]))) := by
  have hstore : (rows.map (cleared read)).any (fun other => other.id = (decodeTopic row).id) = true := by
    rw [List.any_eq_true]
    exact ⟨cleared read row, List.mem_map_of_mem hrow, by simp [decodeTopic]⟩
  have hname : (rows.map (cleared read)).any (fun other => other.id ≠ (decodeTopic row).id
      && other.workspaceId = (decodeTopic row).workspaceId && other.name = (decodeTopic row).name)
      = false := by
    rw [List.any_eq_false]
    rintro other hother hsame
    obtain ⟨old, hold, rfl⟩ := List.mem_map.mp hother
    simp only [cleared_id, cleared_workspaceId, cleared_name, Bool.and_eq_true, decide_eq_true_eq] at hsame
    exact hsame.1.1 (hkeys.names old hold row hrow hsame.1.2 hsame.2)
  rw [upsertSnapshot, if_pos hstore, hname, if_neg Bool.false_ne_true, List.map_map]
  congr 1
  refine List.map_congr_left fun other hother => ?_
  show (if (cleared read other).id = row.id then _ else _) = _
  rw [cleared_id]
  by_cases hid : other.id = row.id
  · obtain rfl := hkeys.eq hother hrow hid
    rw [if_pos rfl, cleared, cleared, if_neg hread, if_pos (List.mem_append_right _ (List.mem_singleton_self _))]
  · rw [if_neg hid, cleared, cleared]
    simp [hid]

include hkeys hforest in
theorem readSnapshots_stored (env : TopicEnv) (published : Text → Option Topic) (read : List Text)
    {files : List Topic} (hfiles : ∀ row ∈ files, row ∈ rows ∧ row.workspaceId = workspaceId)
    (hread : (read ++ files.map (·.id)).Nodup) :
    readSnapshots env workspaceId published (rows.map (cleared read)) (files.map decodeTopic)
      = .ok (rows.map (cleared (read ++ files.map (·.id)))) := by
  induction files generalizing read with
  | nil => rw [List.map_nil, List.map_nil, List.append_nil, readSnapshots]
  | cons row rest ih =>
    obtain ⟨hrow, hws⟩ := hfiles row List.mem_cons_self
    have hfresh : row.id ∉ read := by
      intro hmem
      rw [List.nodup_append] at hread
      exact hread.2.2 row.id hmem row.id (List.mem_map_of_mem List.mem_cons_self) rfl
    have hsame : cleared read row = row := if_neg hfresh
    have hstore : (selectTopic env (rows.map (cleared read)) workspaceId (decodeTopic row).id.1).map decodeTopic
        = some (decodeTopic row) := by
      have hids : ((rows.map (cleared read)).map (·.id)).Nodup := by
        rw [List.map_map]
        have hcomp : (fun row : Topic => row.id) ∘ cleared read = fun row => row.id :=
          funext fun row => cleared_id read row
        rw [hcomp]
        exact hkeys.ids
      have hmem : row ∈ rows.map (cleared read) := List.mem_map.mpr ⟨row, hrow, hsame⟩
      have hfound := selectTopic_id env hids hmem
      rw [hws] at hfound
      rw [show (decodeTopic row).id = row.id from rfl, hfound]
      rfl
    have hself : (decodeTopic row).mergedIntoTopicId ≠ some (decodeTopic row).id := by
      intro hself
      obtain ⟨target, htgt, hid, -, hact⟩ := hforest row hrow _ hself
      obtain rfl := hkeys.eq htgt hrow hid
      have hnone := (isActive_iff.mp hact).2
      rw [show (decodeTopic target).mergedIntoTopicId = target.mergedIntoTopicId from rfl, hnone] at hself
      cases hself
    have hrest := ih (read ++ [row.id]) (fun other hother => hfiles other (List.mem_cons_of_mem _ hother))
      (by rwa [List.append_assoc])
    rw [List.map_cons, readSnapshots, hstore]
    simp only [ne_eq, not_true_eq_false, and_false, if_false, hself]
    show (upsertSnapshot (rows.map (cleared read)) (decodeTopic row) >>= _) = _
    rw [upsertSnapshot_stored hkeys hrow hfresh]
    show readSnapshots env workspaceId published _ (rest.map decodeTopic) = _
    rw [hrest, List.map_cons, List.append_assoc]
    rfl

/-- A row whose snapshot was read, and whose merge is restored where it is among these. -/
def restored (merged : List Text) (row : Topic) : Topic :=
  if row.workspaceId = workspaceId then
    { row with
      archivedAt := optionalText row.archivedAt
      mergedIntoTopicId := if row.id ∈ merged then row.mergedIntoTopicId else none }
  else row

@[simp] theorem restored_id (merged : List Text) (row : Topic) :
    (restored workspaceId merged row).id = row.id := by
  unfold restored
  split <;> rfl

@[simp] theorem restored_workspaceId (merged : List Text) (row : Topic) :
    (restored workspaceId merged row).workspaceId = row.workspaceId := by
  unfold restored
  split <;> rfl

include hkeys hforest in
theorem applyMerges_stored (merged : List Text) {files : List Topic}
    (hfiles : ∀ row ∈ files, row ∈ rows ∧ row.workspaceId = workspaceId) :
    applyMerges workspaceId (rows.map (restored workspaceId merged))
        (files.filterMap fun row => row.mergedIntoTopicId.map fun target => (row.id, target))
      = .ok (rows.map (restored workspaceId
          (merged ++ (files.filter fun row => row.mergedIntoTopicId.isSome).map (·.id)))) := by
  induction files generalizing merged with
  | nil => rw [List.filterMap_nil, List.filter_nil, List.map_nil, List.append_nil, applyMerges]
  | cons row rest ih =>
    obtain ⟨hrow, hws⟩ := hfiles row List.mem_cons_self
    have hrest := fun merged => ih merged fun other hother => hfiles other (List.mem_cons_of_mem _ hother)
    cases hmerge : row.mergedIntoTopicId with
    | none =>
      rw [List.filterMap_cons_none (by rw [hmerge]; rfl), List.filter_cons_of_neg (by rw [hmerge]; decide)]
      exact hrest merged
    | some target =>
      rw [List.filterMap_cons_some (b := (row.id, target)) (by rw [hmerge]; rfl),
        List.filter_cons_of_pos (by rw [hmerge]; rfl), applyMerges]
      have htgt : (rows.map (restored workspaceId merged)).any (fun other => other.id = target) = true := by
        obtain ⟨topic, htopic, hid, -⟩ := hforest row hrow target hmerge
        rw [List.any_eq_true]
        exact ⟨restored workspaceId merged topic, List.mem_map_of_mem htopic, by simp [hid]⟩
      have hsrc : (rows.map (restored workspaceId merged)).any
          (fun other => other.id = row.id && other.workspaceId = workspaceId) = true := by
        rw [List.any_eq_true]
        exact ⟨restored workspaceId merged row, List.mem_map_of_mem hrow, by simp [hws]⟩
      rw [htgt, hsrc]
      simp only [Bool.not_true, Bool.false_eq_true, if_false]
      have hstep : ((rows.map (restored workspaceId merged)).map fun other =>
          if (other.id = row.id && other.workspaceId = workspaceId) = true then
            { other with mergedIntoTopicId := some target } else other)
          = rows.map (restored workspaceId (merged ++ [row.id])) := by
        rw [List.map_map]
        refine List.map_congr_left fun other hother => ?_
        by_cases hid : other.id = row.id
        · obtain rfl := hkeys.eq hother hrow hid
          simp [restored, hws, hmerge]
        · rw [Function.comp, if_neg (by simp [hid])]
          simp [restored, hid]
      show applyMerges workspaceId _ _ = _
      rw [hstep, hrest, List.map_cons, List.append_assoc]
      rfl

include hforest in
theorem invalidMerge_restored (hkeys : Keyed rows) :
    invalidMerge workspaceId (rows.map (restored workspaceId
      (((rows.filter fun row => row.workspaceId = workspaceId).filter fun row =>
        row.mergedIntoTopicId.isSome).map (·.id)))) = false := by
  rw [invalidMerge, List.any_eq_false]
  rintro source hsrc hinv
  obtain ⟨row, hrow, rfl⟩ := List.mem_map.mp hsrc
  rw [Bool.and_eq_true, restored_workspaceId, decide_eq_true_eq, List.any_eq_true] at hinv
  obtain ⟨hws, target, htgt, hinv⟩ := hinv
  obtain ⟨topic, htopic, rfl⟩ := List.mem_map.mp htgt
  simp only [restored_id, restored_workspaceId, Bool.and_eq_true, decide_eq_true_eq] at hinv
  obtain ⟨hmerge, hinv⟩ := hinv
  have hpoints : row.mergedIntoTopicId = some topic.id := by
    rw [restored, if_pos hws] at hmerge
    split at hmerge
    · exact hmerge
    · cases hmerge
  obtain ⟨found, hfound, hid, hsame, hact⟩ := hforest row hrow _ hpoints
  obtain rfl := hkeys.eq hfound htopic hid
  obtain ⟨harchived, hnone⟩ := isActive_iff.mp hact
  rw [restored, if_pos (hsame.trans hws)] at hinv
  simp [hsame, harchived, hnone] at hinv

include hkeys hforest in
/-- **Opening a store does not fail on the snapshots of the stored topics**, whatever of them is
published, and leaves the topics as they are. -/
theorem hydrate_snapshots (env : TopicEnv) (published : Text → Option Topic) :
    hydrateWorkspaceFiles env workspaceId published rows (snapshots workspaceId rows)
      = .ok (rows.map fun row => if row.workspaceId = workspaceId then
          { row with archivedAt := optionalText row.archivedAt } else row) := by
  have hfiles : ∀ row ∈ rows.filter (fun row => row.workspaceId = workspaceId),
      row ∈ rows ∧ row.workspaceId = workspaceId := fun row hrow => by
    obtain ⟨hmem, hws⟩ := List.mem_filter.mp hrow
    exact ⟨hmem, by simpa using hws⟩
  have hnodup : (([] : List Text) ++ (rows.filter fun row => row.workspaceId = workspaceId).map (·.id)).Nodup :=
    (List.filter_sublist.map _).nodup hkeys.ids
  have hread := readSnapshots_stored hkeys hforest workspaceId env published [] hfiles hnodup
  have hstart : rows.map (cleared []) = rows := by
    rw [List.map_congr_left (g := id) fun row _ => by simp [cleared], List.map_id]
  have hcleared : rows.map (cleared ([] ++ (rows.filter fun row => row.workspaceId = workspaceId).map (·.id)))
      = rows.map (restored workspaceId []) := by
    refine List.map_congr_left fun row hrow => ?_
    by_cases hws : row.workspaceId = workspaceId
    · have hmem : row.id ∈ ([] : List Text) ++ (rows.filter fun row => row.workspaceId = workspaceId).map (·.id) :=
        List.mem_map_of_mem (List.mem_filter.mpr ⟨hrow, by simpa using hws⟩)
      rw [cleared, if_pos hmem, restored, if_pos hws]
      simp [Topic.overwrite, decodeTopic]
    · have hmem : row.id ∉ ([] : List Text) ++ (rows.filter fun row => row.workspaceId = workspaceId).map (·.id) := by
        intro hmem
        obtain ⟨other, hother, hid⟩ := List.mem_map.mp hmem
        obtain ⟨hother, hsame⟩ := hfiles other hother
        exact hws (hkeys.eq hother hrow hid ▸ hsame)
      rw [cleared, if_neg hmem, restored, if_neg hws]
  have hmerges := applyMerges_stored hkeys hforest workspaceId [] hfiles
  rw [hstart, hcleared] at hread
  rw [hydrateWorkspaceFiles, snapshots, hread]
  show (applyMerges workspaceId (rows.map (restored workspaceId [])) (List.filterMap _ (List.map _ _)) >>= _) = _
  rw [List.filterMap_map]
  show (applyMerges workspaceId (rows.map (restored workspaceId []))
    ((rows.filter fun row => row.workspaceId = workspaceId).filterMap fun row =>
      row.mergedIntoTopicId.map fun target => (row.id, target)) >>= _) = _
  rw [hmerges]
  show (if invalidMerge workspaceId _ = true then _ else _) = _
  rw [List.nil_append, invalidMerge_restored hforest workspaceId hkeys, if_neg Bool.false_ne_true]
  show Except.ok _ = Except.ok _
  congr 1
  refine List.map_congr_left fun row hrow => ?_
  by_cases hws : row.workspaceId = workspaceId
  · rw [restored, if_pos hws, if_pos hws]
    congr 1
    split
    · rfl
    · rename_i hmem
      cases hmerge : row.mergedIntoTopicId with
      | none => rfl
      | some target =>
        refine absurd (List.mem_map_of_mem (f := fun row : Topic => row.id) ?_) hmem
        exact List.mem_filter.mpr ⟨List.mem_filter.mpr ⟨hrow, by simpa using hws⟩, by rw [hmerge]; rfl⟩
  · rw [restored, if_neg hws, if_neg hws]

end Hydration

end Beale.Topics
