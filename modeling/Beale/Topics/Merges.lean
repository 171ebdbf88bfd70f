import Beale.Topics.Clients

/-!
# Merges of topics have depth one

- `MergesSound`: every merge points to a topic that is active, so a name is resolved in one step and
  the store can be opened.
- `merges_sound_iff`: the checks for such topics are made before the write, and other clients write
  in between. The merges stay sound while that does not happen.
- `chain_of_merges`: two overlapping merges.
-/

namespace Beale.Topics

open Beale.Library

/-! ## What is kept -/

structure MergesSound (env : TopicEnv) (rows : List Topic) : Prop where
  forest : Forest rows
  /-- a topic is resolved over at most one merge, and a merged topic only by its own identifier -/
  resolves : ∀ workspaceId identifier, ∃ r, resolveWithin env rows workspaceId 2 identifier = .ok r ∧
    ∀ topic ∈ r, topic.mergedIntoTopicId.isSome = true → topic.id.1 = identifier
  opens : ∀ workspaceId published,
    ∃ r, hydrateWorkspaceFiles env workspaceId published rows (snapshots workspaceId rows) = .ok r

/-- The write of an `unmerge` leaves the topic, if there still is one, as it was before its merge, but
for the time of its update. -/
def UnmergeRestores (env : TopicEnv) (store : TopicStore) : Turn → Prop
  | .start _ => True
  | .turn k time => ∀ task now source rest, store.tasks[k]? = some task → task.point = .write now →
      (∃ workspaceId sourceId, task.call = .unmerge workspaceId sourceId) → task.found = source :: rest →
      ∀ row ∈ (store.step env (.turn k time)).topics, row.id = source.id →
        ∃ before, store.before source.id = some before ∧
          row = { before with updatedAt := row.updatedAt }

/-- No topic is merged into the one that the write of a `merge` merges, or of an `archive` archives. -/
def Task.NoDependents (env : TopicEnv) (rows : List Topic) (task : Task) (now : JsString) : Prop :=
  match task.call, task.found with
  | .merge workspaceId _ _, source :: target :: _ =>
    (∃ rows', mergeTransaction env rows workspaceId source target now = .ok rows') →
      hasDependents rows source.id = false
  | .archive .., record :: _ => optionalText (some now) = none ∨ hasDependents rows record.id = false
  | _, _ => True

/-- An `unmerge` names the workspace as its topic has it, or finds the topic restored already. -/
def Task.NamesWorkspace (rows : List Topic) (task : Task) : Prop :=
  match task.call, task.found with
  | .unmerge workspaceId _, source :: _ => ∀ row ∈ rows, row.id = source.id →
    row.workspaceId = workspaceId ∨ row.mergedIntoTopicId = none ∧ row.archivedAt = none
  | _, _ => True

/-- What is asked of the writes of the calls. -/
def Guarded (env : TopicEnv) (store : TopicStore) : Turn → Prop
  | .start _ => True
  | .turn k _ => ∀ task now, store.tasks[k]? = some task → task.point = .write now →
      task.NoDependents env store.topics now ∧ task.NamesWorkspace store.topics

/-! ## A forest is sound -/

variable {env : TopicEnv} {rows rows' : List Topic} {workspaceId now : JsString}
  {row source target : Topic}

theorem selectTopic_mem {identifier : JsString}
    (h : selectTopic env rows workspaceId identifier = some row) :
    row ∈ rows ∧ row.workspaceId = workspaceId := by
  rw [selectTopic, Option.or_eq_some_iff] at h
  rcases h with h | ⟨-, h⟩
  · obtain ⟨hmem, hws⟩ := List.mem_filter.mp (List.mem_of_find?_eq_some h)
    exact ⟨hmem, by simpa using hws⟩
  · obtain ⟨hmem, hws⟩ := List.mem_filter.mp (List.mem_of_find?_eq_some h)
    exact ⟨hmem, by simpa using hws⟩

theorem resolves_of_forest (env : TopicEnv) (hkeys : Keyed rows) (htree : Forest rows)
    (workspaceId identifier : JsString) :
    ∃ r, resolveWithin env rows workspaceId 2 identifier = .ok r ∧
      ∀ topic ∈ r, topic.mergedIntoTopicId.isSome = true → topic.id.1 = identifier := by
  cases hselect : selectTopic env rows workspaceId identifier with
  | none => exact ⟨none, by rw [resolveWithin, hselect], fun _ h => absurd h (Option.not_mem_none _)⟩
  | some row =>
    have hrow := selectTopic_mem hselect
    cases hmerge : row.mergedIntoTopicId with
    | none =>
      refine ⟨some (decodeTopic row), by rw [resolveWithin, hselect]; simp only [hmerge], ?_⟩
      rintro topic htopic hsome
      cases htopic
      rw [show (decodeTopic row).mergedIntoTopicId = row.mergedIntoTopicId from rfl, hmerge] at hsome
      cases hsome
    | some target =>
      by_cases hid : identifier = row.id.1
      · refine ⟨some (decodeTopic row), ?_, fun topic htopic _ => ?_⟩
        · rw [resolveWithin, hselect]
          simp only [hmerge, hid, ne_eq, not_true_eq_false, if_false]
        · cases htopic
          exact hid.symm
      · obtain ⟨topic, htopic, htgt, hsame, hact⟩ := htree row hrow.1 target hmerge
        have hnone := (isActive_iff.mp hact).2
        have hselect' := selectTopic_id env hkeys.ids htopic
        rw [hsame, hrow.2, htgt] at hselect'
        refine ⟨some (decodeTopic topic), ?_, fun found hfound hsome => ?_⟩
        · rw [resolveWithin, hselect]
          simp only [hmerge, ne_eq, hid, not_false_eq_true, if_true]
          rw [resolveWithin, hselect']
          simp only [hnone]
        · cases hfound
          rw [show (decodeTopic topic).mergedIntoTopicId = topic.mergedIntoTopicId from rfl, hnone] at hsome
          cases hsome

/-- **Where every merge points to an active topic, names are resolved in one step and the store can be
opened.** -/
theorem mergesSound_of_forest (env : TopicEnv) (hkeys : Keyed rows)
    (htree : Forest rows) : MergesSound env rows where
  forest := htree
  resolves := resolves_of_forest env hkeys htree
  opens workspaceId published := ⟨_, hydrate_snapshots hkeys htree workspaceId env published⟩

/-! ## What the writes do to the merges -/

/-- A change of the rows that leaves their keys. -/
structure KeepsKeys (f : Topic → Topic) : Prop where
  id : ∀ row, (f row).id = row.id
  workspaceId : ∀ row, (f row).workspaceId = row.workspaceId
  name : ∀ row, (f row).name = row.name

variable {f : Topic → Topic}

theorem KeepsKeys.keyed (hf : KeepsKeys f) (h : Keyed rows) : Keyed (rows.map f) where
  ids := by
    rw [List.map_map]
    have hcomp : (fun row : Topic => row.id) ∘ f = fun row => row.id := funext hf.id
    rw [hcomp]
    exact h.ids
  names := by
    rintro a ha b hb hws hname
    obtain ⟨a', ha', rfl⟩ := List.mem_map.mp ha
    obtain ⟨b', hb', rfl⟩ := List.mem_map.mp hb
    rw [hf.workspaceId, hf.workspaceId] at hws
    rw [hf.name, hf.name] at hname
    rw [hf.id, hf.id]
    exact h.names a' ha' b' hb' hws hname

theorem KeepsKeys.forest (hf : KeepsKeys f) (h : Forest rows)
    (hmerge : ∀ row ∈ rows, ∀ target, (f row).mergedIntoTopicId = some target →
      row.mergedIntoTopicId = some target ∨
        ∃ topic ∈ rows, topic.id = target ∧ topic.workspaceId = row.workspaceId ∧ topic.isActive = true)
    (hactive : ∀ row ∈ rows, row.isActive = true →
      (∃ source ∈ rows, (f source).mergedIntoTopicId = some row.id) → (f row).isActive = true) :
    Forest (rows.map f) := by
  intro source hsrc target htgt
  obtain ⟨row, hrow, rfl⟩ := List.mem_map.mp hsrc
  have hpoints : ∃ topic ∈ rows, topic.id = target ∧ topic.workspaceId = row.workspaceId ∧
      topic.isActive = true := by
    rcases hmerge row hrow target htgt with hold | hnew
    · exact h row hrow target hold
    · exact hnew
  obtain ⟨topic, htopic, rfl, hws, hact⟩ := hpoints
  refine ⟨f topic, List.mem_map_of_mem htopic, hf.id topic, ?_, hactive topic htopic hact ⟨row, hrow, htgt⟩⟩
  rw [hf.workspaceId, hf.workspaceId, hws]

theorem stamped_keepsKeys (topicId : Text) (stamp : JsString) : KeepsKeys (stamped topicId stamp) where
  id row := by unfold stamped; split <;> rfl
  workspaceId row := by unfold stamped; split <;> rfl
  name row := by unfold stamped; split <;> rfl

theorem merged_keepsKeys (source target : Text) (now : JsString) : KeepsKeys (merged source target now) where
  id row := by unfold merged; split <;> rfl
  workspaceId row := by unfold merged; split <;> rfl
  name row := by unfold merged; split <;> rfl

theorem unmerged_keepsKeys (id : Text) (workspaceId now : JsString) :
    KeepsKeys (unmerged id workspaceId now) where
  id row := by unfold unmerged; split <;> rfl
  workspaceId row := by unfold unmerged; split <;> rfl
  name row := by unfold unmerged; split <;> rfl

theorem withArchived_keepsKeys (id : Text) (archivedAt : Option JsString) :
    KeepsKeys (withArchived id archivedAt) where
  id row := by unfold withArchived; split <;> rfl
  workspaceId row := by unfold withArchived; split <;> rfl
  name row := by unfold withArchived; split <;> rfl

theorem stamped_forest (topicId : Text) (stamp : JsString) (h : Forest rows) :
    Forest (rows.map (stamped topicId stamp)) := by
  have hmerge : ∀ row, (stamped topicId stamp row).mergedIntoTopicId = row.mergedIntoTopicId := fun row => by
    unfold stamped; split <;> rfl
  have hactive : ∀ row, (stamped topicId stamp row).isActive = row.isActive := fun row => by
    unfold stamped; split <;> rfl
  refine (stamped_keepsKeys topicId stamp).forest h (fun row _ target htgt => .inl ?_) fun row _ hact _ => ?_
  · rwa [hmerge] at htgt
  · rwa [hactive]

theorem touchTopic_cases {topicId : Text} {updatedAt : JsString}
    (h : touchTopic env rows topicId updatedAt = .ok rows') :
    ∃ stamp, rows' = rows.map (stamped topicId stamp) := by
  rw [touchTopic] at h
  split at h
  · cases h
  · obtain ⟨stamp, -, h⟩ := Client.exceptBind_ok.mp h
    cases h
    exact ⟨stamp, rfl⟩

theorem mergeTransaction_cases
    (h : mergeTransaction env rows workspaceId source target now = .ok rows') :
    (∃ s ∈ rows, s.id = source.id ∧ s.workspaceId = workspaceId ∧ s.mergedIntoTopicId = none ∧
        s.archivedAt = none) ∧
      (∃ t ∈ rows, t.id = target.id ∧ t.workspaceId = workspaceId ∧ t.isActive = true) ∧
      ∃ stamp, rows' = (rows.map (merged source.id target.id now)).map (stamped target.id stamp) := by
  rw [mergeTransaction] at h
  obtain ⟨htgt, h⟩ := Client.exceptGuard_ok.mp h
  obtain ⟨hsrc, h⟩ := Client.exceptGuard_ok.mp h
  refine ⟨?_, ?_, touchTopic_cases h⟩
  · cases hs : topicIn rows workspaceId source.id with
    | none =>
      rw [hs] at hsrc
      exact absurd rfl hsrc
    | some s =>
      rw [hs] at hsrc
      have hkeys := List.find?_some hs
      simp only [Bool.and_eq_true, decide_eq_true_eq] at hkeys
      refine ⟨s, List.mem_of_find?_eq_some hs, hkeys.1, hkeys.2, ?_⟩
      simpa using hsrc
  · cases ht : topicIn rows workspaceId target.id with
    | none =>
      rw [ht] at htgt
      exact absurd rfl htgt
    | some t =>
      rw [ht] at htgt
      have hkeys := List.find?_some ht
      simp only [Bool.and_eq_true, decide_eq_true_eq] at hkeys
      refine ⟨t, List.mem_of_find?_eq_some ht, hkeys.1, hkeys.2, isActive_iff.mpr ?_⟩
      simp only [Option.all_some, Bool.or_eq_true, not_or, Bool.not_eq_true, Option.isSome_eq_false_iff,
        Option.isNone_iff_eq_none] at htgt
      refine ⟨?_, htgt.2⟩
      cases harchived : t.archivedAt with
      | none => rfl
      | some text =>
        rw [harchived] at htgt
        have hempty : text = [] := by simpa using htgt.1
        subst hempty
        rfl

/-- **The merge of a topic that others are merged into is a chain; any other is not.** -/
theorem mergeTransaction_forest_iff
    (hkeys : Keyed rows) (htree : Forest rows) (hne : source.id ≠ target.id)
    (h : mergeTransaction env rows workspaceId source target now = .ok rows') :
    Forest rows' ↔ hasDependents rows source.id = false := by
  obtain ⟨⟨s, hs, hsid, hsworkspace, hsmerged, hsarchived⟩, ⟨t, ht, htid, htworkspace, htactive⟩, stamp, rfl⟩ :=
    mergeTransaction_cases h
  constructor
  · intro htree'
    by_contra hdeps
    obtain ⟨d, hd, hpoints⟩ := List.any_eq_true.mp (eq_true_of_ne_false hdeps)
    have hpoints : d.mergedIntoTopicId = some source.id := by simpa using hpoints
    have hdne : d.id ≠ source.id := by
      intro hid
      obtain rfl := hkeys.eq hd hs (hid.trans hsid.symm)
      rw [hsmerged] at hpoints
      cases hpoints
    -- the dependent still points to the source, and that is merged now
    have hd' : (stamped target.id stamp (merged source.id target.id now d)).mergedIntoTopicId
        = some source.id := by
      rw [merged, if_neg hdne, stamped]
      split
      · exact hpoints
      · exact hpoints
    obtain ⟨topic, htopic, hid, -, hact⟩ := htree' _ (List.mem_map_of_mem (List.mem_map_of_mem hd)) _ hd'
    obtain ⟨row', hrow', rfl⟩ := List.mem_map.mp htopic
    obtain ⟨row, hrow, rfl⟩ := List.mem_map.mp hrow'
    rw [(stamped_keepsKeys _ _).id, (merged_keepsKeys _ _ _).id] at hid
    have hnone := (isActive_iff.mp hact).2
    rw [merged, if_pos hid, stamped] at hnone
    split at hnone <;> cases hnone
  · intro hdeps
    refine stamped_forest _ _ ((merged_keepsKeys _ _ _).forest htree (fun row hrow u hu => ?_)
      fun row hrow hact => ?_)
    · by_cases hid : row.id = source.id
      · rw [merged, if_pos hid] at hu
        cases hu
        obtain rfl := hkeys.eq hrow hs (hid.trans hsid.symm)
        exact .inr ⟨t, ht, htid, htworkspace.trans hsworkspace.symm, htactive⟩
      · rw [merged, if_neg hid] at hu
        exact .inl hu
    · rintro ⟨d, hd, hpoints⟩
      rw [merged]
      split
      · -- nothing points to the source, which is not its own target
        rename_i hid
        by_cases hdid : d.id = source.id
        · rw [merged, if_pos hdid] at hpoints
          exact absurd (hid.symm.trans (Option.some.inj hpoints).symm) hne
        · rw [merged, if_neg hdid] at hpoints
          have hsome : hasDependents rows source.id = true :=
            List.any_eq_true.mpr ⟨d, hd, by simpa [hid] using hpoints⟩
          rw [hdeps] at hsome
          cases hsome
      · exact hact

theorem unmerged_forest (id : Text) (workspaceId now : JsString) (h : Forest rows) :
    Forest (rows.map (unmerged id workspaceId now)) := by
  refine (unmerged_keepsKeys _ _ _).forest h (fun row hrow target htgt => .inl ?_) fun row hrow hact _ => ?_
  · rw [unmerged] at htgt
    split at htgt
    · cases htgt
    · exact htgt
  · rw [unmerged]
    split
    · rfl
    · exact hact

/-- **A topic that others are merged into is not archived.** -/
theorem withArchived_forest_iff (htree : Forest rows) (id : Text)
    (archivedAt : Option JsString) : Forest (rows.map (withArchived id archivedAt)) ↔
      optionalText archivedAt = none ∨ hasDependents rows id = false := by
  have hmerge : ∀ row, (withArchived id archivedAt row).mergedIntoTopicId = row.mergedIntoTopicId :=
    fun row => by unfold withArchived; split <;> rfl
  constructor
  · intro htree'
    by_cases hdeps : hasDependents rows id = false
    · exact .inr hdeps
    · obtain ⟨d, hd, hpoints⟩ := List.any_eq_true.mp (eq_true_of_ne_false hdeps)
      have hpoints : (withArchived id archivedAt d).mergedIntoTopicId = some id := by
        rw [hmerge]
        simpa using hpoints
      obtain ⟨topic, htopic, hid, -, hact⟩ := htree' _ (List.mem_map_of_mem hd) _ hpoints
      obtain ⟨row, hrow, rfl⟩ := List.mem_map.mp htopic
      rw [(withArchived_keepsKeys _ _).id] at hid
      have hnone := (isActive_iff.mp hact).1
      rw [withArchived, if_pos hid] at hnone
      exact .inl hnone
  · intro h
    refine (withArchived_keepsKeys _ _).forest htree (fun row hrow target htgt => .inl ?_)
      fun row hrow hact => ?_
    · rwa [hmerge] at htgt
    · rintro ⟨d, hd, hpoints⟩
      rw [hmerge] at hpoints
      rw [withArchived]
      split
      · rename_i hid
        rcases h with hnone | hdeps
        · exact isActive_iff.mpr ⟨hnone, (isActive_iff.mp hact).2⟩
        · have hsome : hasDependents rows id = true :=
            List.any_eq_true.mpr ⟨d, hd, by simpa [hid] using hpoints⟩
          rw [hdeps] at hsome
          cases hsome
      · exact hact

theorem deleteTopic_keeps {topic : JsString} {id : Text} (hkeys : Keyed rows)
    (htree : Forest rows) (h : deleteTopic rows topic id = .ok rows') : Keyed rows' ∧ Forest rows' := by
  rw [deleteTopic] at h
  split at h
  · cases h
  · split at h
    · cases h
    · rename_i hdeps
      cases h
      have hsub : ∀ row ∈ rows.filter (fun row => row.id ≠ id), row ∈ rows := fun row hrow =>
        (List.mem_filter.mp hrow).1
      refine ⟨⟨(List.filter_sublist.map _).nodup hkeys.ids, fun a ha b hb => hkeys.names a (hsub a ha) b (hsub b hb)⟩,
        fun source hsrc target htgt => ?_⟩
      obtain ⟨found, hfound, hid, hrest⟩ := htree source (hsub source hsrc) target htgt
      refine ⟨found, List.mem_filter.mpr ⟨hfound, ?_⟩, hid, hrest⟩
      simp only [ne_eq, decide_not, Bool.not_eq_true', decide_eq_false_iff_not]
      intro hsame
      refine hdeps (List.any_eq_true.mpr ⟨source, hsub source hsrc, ?_⟩)
      rw [htgt, ← hid, hsame]
      simp

/-! ## What a step does to the table -/

/-- The columns that no merge, archive or touch writes are the same. -/
def SameText (row row' : Topic) : Prop :=
  { row with
    updatedAt := row'.updatedAt
    archivedAt := row'.archivedAt
    mergedIntoTopicId := row'.mergedIntoTopicId } = row'

theorem SameText.refl (row : Topic) : SameText row row := rfl

theorem SameText.id {row' : Topic} (h : SameText row row') : row'.id = row.id := by rw [← h]

/-- The rows of a table after a change: the topics are the old ones, and only one that is neither
merged nor archived is merged. -/
structure Change (rows rows' : List Topic) : Prop where
  keyed : Keyed rows'
  same : ∀ row' ∈ rows', ∃ row ∈ rows, SameText row row' ∧
    (row.mergedIntoTopicId = none → row'.mergedIntoTopicId.isSome = true → row.archivedAt = none)

theorem Change.refl (hkeys : Keyed rows) : Change rows rows :=
  ⟨hkeys, fun row hrow => ⟨row, hrow, .refl row, fun hnone hsome => by rw [hnone] at hsome; cases hsome⟩⟩

theorem KeepsKeys.change (hf : KeepsKeys f) (hkeys : Keyed rows)
    (hsame : ∀ row ∈ rows, SameText row (f row) ∧ (row.mergedIntoTopicId = none →
      (f row).mergedIntoTopicId.isSome = true → row.archivedAt = none)) : Change rows (rows.map f) := by
  refine ⟨hf.keyed hkeys, fun row' hrow' => ?_⟩
  obtain ⟨row, hrow, rfl⟩ := List.mem_map.mp hrow'
  exact ⟨row, hrow, hsame row hrow⟩

section

variable (hkeys : Keyed rows)
include hkeys

theorem stamped_change (topicId : Text) (stamp : JsString) :
    Change rows (rows.map (stamped topicId stamp)) := by
  refine (stamped_keepsKeys _ _).change hkeys fun row _ => ⟨?_, fun hnone hsome => ?_⟩
  · rw [stamped]
    split <;> rfl
  · rw [stamped] at hsome
    split at hsome <;> · rw [hnone] at hsome; cases hsome

theorem unmerged_change (id : Text) (workspaceId now : JsString) :
    Change rows (rows.map (unmerged id workspaceId now)) := by
  refine (unmerged_keepsKeys _ _ _).change hkeys fun row _ => ⟨?_, fun hnone hsome => ?_⟩
  · rw [unmerged]
    split <;> rfl
  · rw [unmerged] at hsome
    split at hsome
    · cases hsome
    · rw [hnone] at hsome
      cases hsome

theorem withArchived_change (id : Text)
    (archivedAt : Option JsString) : Change rows (rows.map (withArchived id archivedAt)) := by
  refine (withArchived_keepsKeys _ _).change hkeys fun row _ => ⟨?_, fun hnone hsome => ?_⟩
  · rw [withArchived]
    split <;> rfl
  · rw [withArchived] at hsome
    split at hsome <;> · rw [hnone] at hsome; cases hsome

theorem mergeTransaction_change
    (h : mergeTransaction env rows workspaceId source target now = .ok rows') : Change rows rows' := by
  obtain ⟨⟨s, hs, hsid, -, -, hsarchived⟩, -, stamp, rfl⟩ := mergeTransaction_cases h
  rw [List.map_map]
  have hf : KeepsKeys (stamped target.id stamp ∘ merged source.id target.id now) := {
    id := fun row => ((stamped_keepsKeys _ _).id _).trans ((merged_keepsKeys _ _ _).id row)
    workspaceId := fun row =>
      ((stamped_keepsKeys _ _).workspaceId _).trans ((merged_keepsKeys _ _ _).workspaceId row)
    name := fun row => ((stamped_keepsKeys _ _).name _).trans ((merged_keepsKeys _ _ _).name row) }
  refine hf.change hkeys fun row hrow => ⟨?_, fun hnone hsome => ?_⟩
  · rw [Function.comp, merged, stamped]
    split <;> split <;> rfl
  · by_cases hid : row.id = source.id
    · obtain rfl := hkeys.eq hrow hs (hid.trans hsid.symm)
      exact hsarchived
    · rw [Function.comp, merged, if_neg hid, stamped] at hsome
      split at hsome <;> · rw [hnone] at hsome; cases hsome

theorem deleteTopic_change {topic : JsString} {id : Text}
    (htree : Forest rows) (h : deleteTopic rows topic id = .ok rows') : Change rows rows' := by
  refine ⟨(deleteTopic_keeps hkeys htree h).1, fun row' hrow' => ?_⟩
  rw [deleteTopic] at h
  split at h
  · cases h
  · split at h
    · cases h
    · cases h
      refine ⟨row', (List.mem_filter.mp hrow').1, .refl row', fun hnone hsome => ?_⟩
      rw [hnone] at hsome
      cases hsome

end

/-! ## What a step does to a call -/

/-- What is known of a call: the merged topics it has found were not merged once; a merge that passed
its first checks has two different topics, and an unmerge one that is merged. -/
structure Task.Known (before : Text → Option Topic) (task : Task) : Prop where
  found : ∀ topic ∈ task.found, topic.mergedIntoTopicId.isSome = true → (before topic.id).isSome = true
  distinct : (task.point = .dependents ∨ ∃ now, task.point = .write now) →
    ∀ workspaceId sourceId targetId source target rest, task.call = .merge workspaceId sourceId targetId →
      task.found = source :: target :: rest → source.id ≠ target.id
  isMerged : (task.point = .dependents ∨ ∃ now, task.point = .write now) →
    ∀ workspaceId sourceId source rest, task.call = .unmerge workspaceId sourceId →
      task.found = source :: rest → source.mergedIntoTopicId.isSome = true

variable {task : Task} {before : Text → Option Topic}

/-- A call that is not about to check or to write. -/
theorem Task.Known.quiet
    (hfound : ∀ topic ∈ task.found, topic.mergedIntoTopicId.isSome = true → (before topic.id).isSome = true)
    (hdeps : task.point ≠ .dependents) (hwrite : ∀ now, task.point ≠ .write now) :
    task.Known before where
  found := hfound
  distinct h := absurd h (not_or.mpr ⟨hdeps, fun ⟨now, hnow⟩ => hwrite now hnow⟩)
  isMerged h := absurd h (not_or.mpr ⟨hdeps, fun ⟨now, hnow⟩ => hwrite now hnow⟩)

theorem Task.Known.mono {before' : Text → Option Topic} (h : task.Known before)
    (hmono : ∀ id, (before id).isSome = true → (before' id).isSome = true) : task.Known before' :=
  ⟨fun topic htopic hsome => hmono _ (h.found topic htopic hsome), h.distinct, h.isMerged⟩

section

variable {call : Call} {found : List Topic} {time : JsString}
  (h : call.after env found time = .dependents ∨ ∃ now, call.after env found time = .write now)
include h

variable {sourceId : JsString}

theorem Call.after_distinct {targetId : JsString} {rest : List Topic}
    (hcall : call = .merge workspaceId sourceId targetId) (hfound : found = source :: target :: rest) :
    source.id ≠ target.id := by
  subst hcall hfound
  intro hid
  simp only [Call.after, hid, if_true] at h
  rcases h with h | ⟨now, h⟩ <;> cases h

theorem Call.after_isMerged {rest : List Topic}
    (hcall : call = .unmerge workspaceId sourceId) (hfound : found = source :: rest) :
    source.mergedIntoTopicId.isSome = true := by
  subst hcall hfound
  cases hmerge : source.mergedIntoTopicId with
  | some target => rfl
  | none =>
    simp only [Call.after, hmerge, Option.isNone_none, if_true] at h
    rcases h with h | ⟨now, h⟩ <;> cases h

end

/-- The write of a call, in a table whose merges are a forest. -/
theorem written_spec (hkeys : Keyed rows) (htree : Forest rows) (hknown : task.Known before)
    (hpoint : task.point = .write now) (h : task.written env rows now = .ok rows') :
    Change rows rows' ∧ (Forest rows' ↔ task.NoDependents env rows now) := by
  obtain ⟨call, found, point⟩ := task
  have hdist := hknown.distinct (.inr ⟨now, hpoint⟩)
  cases call with
  | merge workspaceId sourceId targetId =>
    match found with
    | [] =>
      cases h
      exact ⟨.refl hkeys, fun _ => trivial, fun _ => htree⟩
    | [_] =>
      cases h
      exact ⟨.refl hkeys, fun _ => trivial, fun _ => htree⟩
    | source :: target :: rest =>
      have h : mergeTransaction env rows workspaceId source target now = .ok rows' := h
      have hne := hdist _ _ _ source target rest rfl rfl
      have hiff := mergeTransaction_forest_iff hkeys htree hne h
      exact ⟨mergeTransaction_change hkeys h, fun hf _ => hiff.mp hf, fun hnone => hiff.mpr (hnone ⟨_, h⟩)⟩
  | unmerge workspaceId sourceId =>
    cases found with
    | nil =>
      cases h
      exact ⟨.refl hkeys, fun _ => trivial, fun _ => htree⟩
    | cons source rest =>
      cases h
      exact ⟨unmerged_change hkeys _ _ _, fun _ => trivial, fun _ => unmerged_forest _ _ _ htree⟩
  | archive workspaceId topic archivedAt =>
    cases found with
    | nil =>
      cases h
      exact ⟨.refl hkeys, fun _ => trivial, fun _ => htree⟩
    | cons record rest =>
      cases h
      exact ⟨withArchived_change hkeys _ _, withArchived_forest_iff htree _ _⟩
  | restore workspaceId topic =>
    cases found with
    | nil =>
      cases h
      exact ⟨.refl hkeys, fun _ => trivial, fun _ => htree⟩
    | cons record rest =>
      cases h
      exact ⟨withArchived_change hkeys _ _, fun _ => trivial,
        fun _ => (withArchived_forest_iff htree _ _).mpr (.inl rfl)⟩
  | delete workspaceId topic =>
    cases found with
    | nil =>
      cases h
      exact ⟨.refl hkeys, fun _ => trivial, fun _ => htree⟩
    | cons record rest =>
      exact ⟨deleteTopic_change hkeys htree h, fun _ => trivial,
        fun _ => (deleteTopic_keeps hkeys htree h).2⟩

/-- **What a step of a call does**: to the table, and to what is known of the call. -/
theorem advance_spec (hkeys : Keyed rows) (htree : Forest rows)
    (hbef : ∀ row ∈ rows, row.mergedIntoTopicId.isSome = true → (before row.id).isSome = true)
    (hknown : task.Known before) (time : JsString) :
    Change rows (task.advance env rows time).1 ∧ (task.advance env rows time).2.Known before ∧
      (Forest (task.advance env rows time).1 ↔
        ∀ now, task.point = .write now → task.NoDependents env rows now) := by
  have hquiet : (∀ now, task.point ≠ .write now) →
      (Forest rows ↔ ∀ now, task.point = .write now → task.NoDependents env rows now) := fun hno =>
    ⟨fun _ now hnow => absurd hnow (hno now), fun _ => htree⟩
  cases hpoint : task.point with
  | lookup identifier =>
    have hquiet := hquiet fun now hnow => by rw [hpoint] at hnow; cases hnow
    rw [hpoint] at hquiet
    have hlookup : ∀ {row : Topic}, row ∈ rows → ({ task with
        found := task.found ++ [decodeTopic row]
        point := task.call.after env (task.found ++ [decodeTopic row]) time } : Task).Known before :=
      fun {row} hrow => {
        found := fun topic htopic hsome => by
          rcases List.mem_append.mp htopic with htopic | htopic
          · exact hknown.found topic htopic hsome
          · rw [List.mem_singleton.mp htopic] at hsome ⊢
            exact hbef row hrow hsome
        distinct := fun hpoint _ _ _ _ _ _ hcall hfound => Call.after_distinct hpoint hcall hfound
        isMerged := fun hpoint _ _ _ _ hcall hfound => Call.after_isMerged hpoint hcall hfound }
    have hstay : ∀ point, point ≠ .dependents → (∀ now, point ≠ .write now) →
        ({ task with point } : Task).Known before := fun _ hdeps hwrite =>
      .quiet hknown.found hdeps hwrite
    rw [Task.advance, hpoint]
    dsimp only
    cases hselect : selectTopic env rows (trim task.call.workspaceId) identifier with
    | none => exact ⟨.refl hkeys, hstay _ nofun nofun, hquiet⟩
    | some row =>
      have hrow := (selectTopic_mem hselect).1
      dsimp only
      cases hmerge : row.mergedIntoTopicId with
      | none => exact ⟨.refl hkeys, hlookup hrow, hquiet⟩
      | some target =>
        dsimp only
        by_cases hid : identifier ≠ row.id.1
        · rw [if_pos hid]
          exact ⟨.refl hkeys, hstay _ nofun nofun, hquiet⟩
        · rw [if_neg hid]
          exact ⟨.refl hkeys, hlookup hrow, hquiet⟩
  | dependents =>
    have hquiet := hquiet fun now hnow => by rw [hpoint] at hnow; cases hnow
    rw [hpoint] at hquiet
    have hdist := hknown.distinct (.inl hpoint)
    have hmerge := hknown.isMerged (.inl hpoint)
    have hmet := hknown.found
    rw [Task.advance, hpoint]
    dsimp only
    cases hfound : task.found with
    | nil => exact ⟨.refl hkeys, hknown, hquiet⟩
    | cons record rest =>
      rw [hfound] at hdist hmerge hmet
      dsimp only
      split
      · exact ⟨.refl hkeys, .quiet hmet nofun nofun, hquiet⟩
      · exact ⟨.refl hkeys, ⟨hmet, fun _ => hdist, fun _ => hmerge⟩, hquiet⟩
  | write now =>
    rw [Task.advance, hpoint]
    dsimp only
    cases hwr : task.written env rows now with
    | ok rows' =>
      obtain ⟨hchange, hiff⟩ := written_spec hkeys htree hknown hpoint hwr
      have hafter : task.afterWrite ≠ .dependents ∧ ∀ now, task.afterWrite ≠ .write now := by
        rw [Task.afterWrite]
        split
        · split <;> exact ⟨nofun, nofun⟩
        · exact ⟨nofun, nofun⟩
      refine ⟨hchange, .quiet hknown.found hafter.1 hafter.2, ?_⟩
      · refine hiff.trans ⟨fun h now' hnow' => ?_, fun h => h now rfl⟩
        cases hnow'
        exact h
    | error message =>
      refine ⟨.refl hkeys, .quiet hknown.found nofun nofun, fun _ now' hnow' => ?_, fun _ => htree⟩
      cases hnow'
      -- only the transaction of a merge and the deletion fail
      rw [Task.NoDependents]
      split
      · rename_i hcall hfound
        rintro ⟨rows', hrows'⟩
        rw [Task.written, hcall, hfound] at hwr
        have hboth := hwr.symm.trans hrows'
        cases hboth
      · rename_i hcall hfound
        rw [Task.written, hcall, hfound] at hwr
        cases hwr
      · trivial
  | touch topicId =>
    have hquiet := hquiet fun now hnow => by rw [hpoint] at hnow; cases hnow
    rw [hpoint] at hquiet
    have hstay : ∀ point, point ≠ .dependents → (∀ now, point ≠ .write now) →
        ({ task with point } : Task).Known before := fun _ hdeps hwrite =>
      .quiet hknown.found hdeps hwrite
    rw [Task.advance, hpoint]
    dsimp only
    split
    · exact ⟨.refl hkeys, hstay _ nofun nofun, hquiet⟩
    · split
      · exact ⟨.refl hkeys, hstay _ nofun nofun, hquiet⟩
      · exact ⟨.refl hkeys, hstay _ nofun nofun, hquiet⟩
  | stamp topicId updatedAt =>
    rw [Task.advance, hpoint]
    dsimp only
    refine ⟨stamped_change hkeys _ _, .quiet hknown.found nofun nofun, fun _ now hnow => ?_, fun _ => ?_⟩
    · cases hnow
    · exact stamped_forest _ _ htree
  | done result =>
    have hquiet := hquiet fun now hnow => by rw [hpoint] at hnow; cases hnow
    rw [hpoint] at hquiet
    rw [Task.advance, hpoint]
    exact ⟨.refl hkeys, hknown, hquiet⟩

/-! ## Runs -/

/-- A topic is what it was before its merge, but for the columns that the calls write. -/
def AsBefore (row before : Topic) : Prop :=
  SameText row before ∧ before.mergedIntoTopicId = none ∧ before.archivedAt = none

structure TopicStore.Kept (store : TopicStore) : Prop where
  keyed : Keyed store.topics
  forest : Forest store.topics
  before : ∀ row ∈ store.topics, ∀ old, store.before row.id = some old → AsBefore row old
  merged : ∀ row ∈ store.topics, row.mergedIntoTopicId.isSome = true → (store.before row.id).isSome = true
  tasks : ∀ task ∈ store.tasks, task.Known store.before

theorem find_topic (hkeys : Keyed rows) (hrow : row ∈ rows) :
    rows.find? (fun other => other.id = row.id) = some row := by
  have hfound : (rows.find? fun other => other.id = row.id).isSome := by
    rw [List.find?_isSome]
    exact ⟨row, hrow, by simp⟩
  obtain ⟨other, hother⟩ := Option.isSome_iff_exists.mp hfound
  have hid : other.id = row.id := by simpa using List.find?_some hother
  rw [hother, hkeys.eq (List.mem_of_find?_eq_some hother) hrow hid]

theorem keepBefore_mono (before : Text → Option Topic) (rows rows' : List Topic) (id : Text)
    (h : (before id).isSome = true) : (keepBefore before rows rows' id).isSome = true := by
  rw [keepBefore]
  split
  · split
    · rfl
    · exact h
  · exact h

theorem keepBefore_kept (hkeys : Keyed rows) (hchange : Change rows rows')
    (hbef : ∀ row ∈ rows, ∀ old, before row.id = some old → AsBefore row old)
    (hmerge : ∀ row ∈ rows, row.mergedIntoTopicId.isSome = true → (before row.id).isSome = true) :
    (∀ row' ∈ rows', ∀ old, keepBefore before rows rows' row'.id = some old → AsBefore row' old) ∧
      ∀ row' ∈ rows', row'.mergedIntoTopicId.isSome = true →
        (keepBefore before rows rows' row'.id).isSome = true := by
  have hkeep : ∀ row' ∈ rows', ∃ row ∈ rows, SameText row row' ∧
      (row.mergedIntoTopicId = none → row'.mergedIntoTopicId.isSome = true → row.archivedAt = none) ∧
      keepBefore before rows rows' row'.id
        = if row.mergedIntoTopicId.isNone && row'.mergedIntoTopicId.isSome then some row
          else before row.id := by
    intro row' hrow'
    obtain ⟨row, hrow, hsame, hfresh⟩ := hchange.same row' hrow'
    have hfound := find_topic hkeys hrow
    have hfound' := find_topic hchange.keyed hrow'
    rw [← hsame.id] at hfound
    refine ⟨row, hrow, hsame, hfresh, ?_⟩
    rw [keepBefore, hfound, hfound', ← hsame.id]
  refine ⟨fun row' hrow' old hold => ?_, fun row' hrow' hsome => ?_⟩
  · obtain ⟨row, hrow, hsame, hfresh, heq⟩ := hkeep row' hrow'
    rw [heq] at hold
    split at hold
    · rename_i hnew
      cases hold
      rw [Bool.and_eq_true, Option.isNone_iff_eq_none] at hnew
      refine ⟨?_, hnew.1, hfresh hnew.1 hnew.2⟩
      rw [SameText, ← hsame]
    · obtain ⟨hold, hnone⟩ := hbef row hrow old hold
      refine ⟨?_, hnone⟩
      rw [SameText, ← hsame]
      exact hold
  · obtain ⟨row, hrow, -, -, heq⟩ := hkeep row' hrow'
    rw [heq]
    split
    · rfl
    · rename_i hold
      rw [Bool.and_eq_true, Option.isNone_iff_eq_none, not_and] at hold
      refine hmerge row hrow ?_
      by_contra hnone
      exact hold (Option.not_isSome_iff_eq_none.mp hnone) hsome

namespace TopicStore

variable {env : TopicEnv} {store : TopicStore}

theorem start_known (call : Call) (before : Text → Option Topic) : call.start.Known before := by
  rw [Call.start]
  split <;> exact .quiet (fun _ h => absurd h List.not_mem_nil) nofun nofun

section

variable (h : store.Kept) (turn : Turn)
include h turn

/-- **What a step keeps**, where the merges are a forest after it. -/
theorem step_kept (htree : Forest (store.step env turn).topics) : (store.step env turn).Kept := by
  cases turn with
  | start call =>
    refine ⟨h.keyed, h.forest, h.before, h.merged, fun task htask => ?_⟩
    rcases List.mem_append.mp htask with htask | htask
    · exact h.tasks task htask
    · rw [List.mem_singleton.mp htask]
      exact start_known call _
  | turn k time =>
    rw [step] at htree ⊢
    cases htask : store.tasks[k]? with
    | none => exact h
    | some task =>
      rw [htask] at htree
      obtain ⟨hchange, hknown, -⟩ := advance_spec h.keyed h.forest h.merged
        (h.tasks task (List.mem_of_getElem? htask)) time
      obtain ⟨hbef, hmerge⟩ := keepBefore_kept h.keyed hchange h.before h.merged
      have hmono := keepBefore_mono store.before store.topics (task.advance env store.topics time).1
      refine ⟨hchange.keyed, htree, hbef, hmerge, fun other hother => ?_⟩
      rcases List.mem_or_eq_of_mem_set hother with hother | rfl
      · exact (h.tasks other hother).mono hmono
      · exact hknown.mono hmono

theorem step_forest_iff :
    Forest (store.step env turn).topics ↔ ∀ k time, turn = .turn k time → ∀ task now,
      store.tasks[k]? = some task → task.point = .write now → task.NoDependents env store.topics now := by
  cases turn with
  | start call => exact ⟨fun _ _ _ hturn => (by cases hturn), fun _ => h.forest⟩
  | turn k time =>
    rw [step]
    cases htask : store.tasks[k]? with
    | none =>
      refine ⟨fun _ k' time' hturn task now htask' => ?_, fun _ => h.forest⟩
      cases hturn
      rw [htask] at htask'
      cases htask'
    | some task =>
      obtain ⟨-, -, hiff⟩ := advance_spec h.keyed h.forest h.merged
        (h.tasks task (List.mem_of_getElem? htask)) time
      refine hiff.trans ⟨fun hall k' time' hturn task' now htask' hpoint => ?_, fun hall now hpoint => ?_⟩
      · cases hturn
        rw [htask] at htask'
        cases htask'
        exact hall now hpoint
      · exact hall k time rfl task now htask hpoint

theorem unmergeRestores_iff :
    UnmergeRestores env store turn ↔ ∀ k time, turn = .turn k time → ∀ task now,
      store.tasks[k]? = some task → task.point = .write now → task.NamesWorkspace store.topics := by
  cases turn with
  | start call => exact ⟨fun _ _ _ hturn => (by cases hturn), fun _ => trivial⟩
  | turn k time =>
    have hstep : ∀ {task : Task} {now : JsString} {source : Topic} {rest : List Topic}
        {workspaceId sourceId : JsString}, store.tasks[k]? = some task → task.point = .write now →
        task.call = .unmerge workspaceId sourceId → task.found = source :: rest →
        (store.step env (.turn k time)).topics
          = store.topics.map (unmerged source.id workspaceId now) := by
      intro task now source rest workspaceId sourceId htask hpoint hcall hfound
      rw [step, htask]
      show (task.advance env store.topics time).1 = _
      rw [Task.advance, hpoint]
      dsimp only
      rw [Task.written, hcall, hfound]
    constructor
    · intro hrestores k' time' hturn task now htask hpoint
      cases hturn
      rw [Task.NamesWorkspace]
      split
      · rename_i workspaceId sourceId source rest hcall hfound
        intro row hrow hid
        by_cases hws : row.workspaceId = workspaceId
        · exact .inl hws
        · have hsame : unmerged source.id workspaceId now row = row := if_neg fun hboth => hws hboth.2
          have hmem : row ∈ (store.step env (.turn k time)).topics := by
            rw [hstep htask hpoint hcall hfound]
            exact List.mem_map.mpr ⟨row, hrow, hsame⟩
          obtain ⟨old, hold, heq⟩ := hrestores task now source rest htask hpoint ⟨_, _, hcall⟩ hfound row hmem hid
          rw [← hid] at hold
          obtain ⟨-, hmerge, harchived⟩ := h.before row hrow old hold
          rw [heq]
          exact .inr ⟨hmerge, harchived⟩
      · trivial
    · rintro hnames task now source rest htask hpoint ⟨workspaceId, sourceId, hcall⟩ hfound row' hrow' hid
      rw [hstep htask hpoint hcall hfound] at hrow'
      obtain ⟨row, hrow, rfl⟩ := List.mem_map.mp hrow'
      rw [(unmerged_keepsKeys _ _ _).id] at hid
      have hknown := h.tasks task (List.mem_of_getElem? htask)
      have hmerge := hknown.isMerged (.inr ⟨now, hpoint⟩) _ _ source rest hcall hfound
      obtain ⟨old, hold⟩ := Option.isSome_iff_exists.mp
        (hknown.found source (by rw [hfound]; exact List.mem_cons_self) hmerge)
      obtain ⟨hsame, hnone, harchived⟩ := h.before row hrow old (by rw [hid]; exact hold)
      have hcase := hnames k time rfl task now htask hpoint
      rw [Task.NamesWorkspace, hcall, hfound] at hcase
      refine ⟨old, hold, ?_⟩
      rw [SameText, hnone, harchived] at hsame
      rw [unmerged]
      split
      · rw [← hsame]
      · rename_i hws
        rcases hcase row hrow hid with hname | ⟨hmerge', harchived'⟩
        · exact absurd ⟨hid, hname⟩ hws
        · rw [← hsame, ← hmerge', ← harchived']

/-- What a step shows is told by what its write meets. -/
theorem step_sound_iff :
    (MergesSound env (store.step env turn).topics ∧ UnmergeRestores env store turn) ↔
      Guarded env store turn := by
  have hkeyed : Keyed (store.step env turn).topics := by
    cases turn with
    | start call => exact h.keyed
    | turn k time =>
      rw [step]
      cases htask : store.tasks[k]? with
      | none => exact h.keyed
      | some task => exact (advance_spec h.keyed h.forest h.merged
          (h.tasks task (List.mem_of_getElem? htask)) time).1.keyed
  have hsound : MergesSound env (store.step env turn).topics ↔ Forest (store.step env turn).topics :=
    ⟨fun hs => hs.forest, mergesSound_of_forest env hkeyed⟩
  rw [hsound, step_forest_iff h, unmergeRestores_iff h]
  cases turn with
  | start call =>
    refine ⟨fun _ => trivial, fun _ => ⟨fun _ _ hturn => ?_, fun _ _ hturn => ?_⟩⟩
    · cases hturn
    · cases hturn
  | turn k time =>
    constructor
    · rintro ⟨hdeps, hnames⟩ task now htask hpoint
      exact ⟨hdeps k time rfl task now htask hpoint, hnames k time rfl task now htask hpoint⟩
    · intro hguarded
      refine ⟨?_, ?_⟩
      · rintro k' time' hturn task now htask hpoint
        cases hturn
        exact (hguarded task now htask hpoint).1
      · rintro k' time' hturn task now htask hpoint
        cases hturn
        exact (hguarded task now htask hpoint).2

end

end TopicStore

structure TopicTable where
  rows : List Topic
  keyed : Keyed rows
  unmerged : ∀ row ∈ rows, row.mergedIntoTopicId = none

/-- The store before any call. -/
def TopicTable.store (table : TopicTable) : TopicStore := { topics := table.rows }

theorem TopicTable.kept (table : TopicTable) : table.store.Kept where
  keyed := table.keyed
  forest row hrow target htgt := by
    rw [table.unmerged row hrow] at htgt
    cases htgt
  before _ _ _ hold := by cases hold
  merged row hrow hsome := by
    rw [table.unmerged row hrow] at hsome
    cases hsome
  tasks _ htask := absurd htask List.not_mem_nil

/-- **The merges stay a forest of depth one, and are undone exactly, while no write of a merge or an
archive meets a topic that another client merged into its own, and only so long.** -/
theorem merges_sound_iff (env : TopicEnv) (table : TopicTable) (turns : List Turn) :
    RunMeets (TopicStore.step env) (fun store turn =>
        MergesSound env (store.step env turn).topics ∧ UnmergeRestores env store turn) table.store turns ↔
      RunMeets (TopicStore.step env) (Guarded env) table.store turns :=
  runMeets_iff_of_invariant (I := TopicStore.Kept) (fun _ turn h => TopicStore.step_sound_iff h turn)
    (fun _ turn h hguarded =>
      TopicStore.step_kept h turn ((TopicStore.step_sound_iff h turn).mpr hguarded).1.forest) table.kept turns

/-! ## Two overlapping merges -/

def plainEnv : TopicEnv where
  toLocaleLowerCase := id
  dateParse _ := none

/-- A topic whose name is its identifier. -/
def plainTopic (id : Text) : Topic where
  id := id
  workspaceId := js "w"
  name := id.1
  title := id.1
  topic := id.1
  overviewMarkdown := []
  createdBySessionId := none
  createdByAgentPath := js "/human"
  createdAt := js "0"
  updatedAt := js "0"
  archivedAt := none
  mergedIntoTopicId := none

def threeTopics : TopicTable where
  rows := [plainTopic ⟨js "a", by decide⟩, plainTopic ⟨js "b", by decide⟩, plainTopic ⟨js "c", by decide⟩]
  keyed := ⟨by decide, by decide⟩
  unmerged := by decide

/-- One client checks that nothing is merged into b, which it merges into c; before it writes, the other
merges a into b. -/
def overlappingMerges : List Turn := [
  .start (.merge (js "w") (js "b") (js "c")),
  .start (.merge (js "w") (js "a") (js "b")),
  .turn 0 (js "1"), .turn 0 (js "1"), .turn 0 (js "1"),
  .turn 1 (js "2"), .turn 1 (js "2"), .turn 1 (js "2"), .turn 1 (js "2"),
  .turn 0 (js "3")]

/-- Both merges succeed, a points to b and b to c, and the store cannot be opened. -/
theorem chain_of_merges : ¬RunMeets (TopicStore.step plainEnv) (fun store turn =>
    MergesSound plainEnv (store.step plainEnv turn).topics ∧ UnmergeRestores plainEnv store turn)
    threeTopics.store overlappingMerges := by
  intro h
  have hlast := (RunMeets.last (l := overlappingMerges.dropLast) (i := Turn.turn 0 (js "3")) h).1
  obtain ⟨r, hr⟩ := hlast.opens (js "w") fun _ => none
  have hfails : (hydrateWorkspaceFiles plainEnv (js "w") (fun _ => none)
      (TopicStore.step plainEnv (runSteps (TopicStore.step plainEnv) threeTopics.store
        overlappingMerges.dropLast) (.turn 0 (js "3"))).topics
      (snapshots (js "w") (TopicStore.step plainEnv (runSteps (TopicStore.step plainEnv) threeTopics.store
        overlappingMerges.dropLast) (.turn 0 (js "3"))).topics)).toBool = false := by
    decide +kernel
  rw [hr] at hfails
  cases hfails

end Beale.Topics
