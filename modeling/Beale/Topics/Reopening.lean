import Beale.Topics.Commits

/-!
# A store of topics can be opened again

- `Rows`: the topics as readers see them where no merge is cleared; `Kept`: the database and the files
  are those of these topics, but for the merges that an opening has to restore.
- `reopens_of_undisturbed`: in runs that meet the condition no opening fails, and each leaves the topics,
  pages, links and merges as they were.
- `stopped_before_snapshot`: the file is written after the commit, and an opening refuses a file that is
  behind and not published.
-/

namespace Beale.Topics

open Beale.Library

/-! ## What is kept -/

structure Rows (workspaceId : Text) (rows : List Topic) : Prop where
  keyed : Keyed rows
  forest : Forest rows
  normal : ∀ row ∈ rows, decodeTopic row = row
  safe : ∀ row ∈ rows, row.workspaceId = workspaceId.1 → isSafeTopicId row.id.1 = true

/-- The database and the files, where the merges of `merges` are cleared and the files of `dirty` topics
are not written. -/
structure Kept (workspaceId : Text) (rows : List Topic) (published : Text → Option Snapshot) (db : Database)
    (files : JsMap Text Snapshot) (merges : List (Text × Text)) (dirty : Text → Prop) : Prop where
  topics : db.topics = rows.map (cleared (merges.map Prod.fst))
  targets : ∀ merge ∈ merges, ∃ row ∈ rows, row.id = merge.1 ∧ row.workspaceId = workspaceId.1 ∧
    row.mergedIntoTopicId = some merge.2
  nodup : (merges.map Prod.fst).Nodup
  keys : DetailKeys db
  written : ∀ id content, files.get? id = some content → dirty id ∨
    ∃ row ∈ rows, row.id = id ∧ row.workspaceId = workspaceId.1 ∧ content = db.snapshotOf row
  unpublished : ∀ row ∈ rows, row.workspaceId = workspaceId.1 → files.get? row.id = none →
    published row.id = none

def Opening.Fits (workspaceId : Text) (files : JsMap Text Snapshot) (rows : List Topic)
    (seen : List Snapshot) (opening : Opening) : Prop :=
  match opening.point with
  | .reading names => opening.before = seen ∧ (opening.merges.map Prod.fst ++ names).Nodup ∧
      ∀ id ∈ names, (files.get? id).isSome
  | .comparing id content _ names | .storing id content names => opening.before = seen ∧
      (opening.merges.map Prod.fst ++ id :: names).Nodup ∧ (∀ id ∈ names, (files.get? id).isSome) ∧
      files.get? id = some content
  | .merging => opening.before = seen
  | .checking => opening.before = seen ∧ opening.merges = []
  | .writing ids => opening.before = seen ∧ opening.merges = [] ∧ ids.length ≤ rows.length ∧
      ∀ id ∈ ids, ∃ row ∈ rows, row.id = id ∧ row.workspaceId = workspaceId.1
  | .opened | .stopped => opening.merges = []
  | .failed _ => False

def Opening.stepsLeft (rows : List Topic) (opening : Opening) : Nat :=
  match opening.point with
  | .reading names => 4 * names.length + opening.merges.length + rows.length + 4
  | .comparing _ _ _ names => 4 * names.length + 3 + opening.merges.length + rows.length + 4
  | .storing _ _ names => 4 * names.length + 2 + opening.merges.length + rows.length + 4
  | .merging => opening.merges.length + rows.length + 3
  | .checking => rows.length + 2
  | .writing ids => ids.length + 1
  | .opened | .failed _ | .stopped => 0

variable {workspaceId : Text} {files : JsMap Text Snapshot} {rows : List Topic}
  {seen : List Snapshot} {opening : Opening}

section

variable (h : opening.Fits workspaceId files rows seen)
include h

theorem Opening.Fits.before_eq (hact : opening.isActive = true) : opening.before = seen := by
  unfold Opening.Fits at h
  unfold Opening.isActive at hact
  split at h <;> first | exact h.1 | exact h | simp_all

theorem Opening.Fits.merges_eq (hact : opening.isActive = false) : opening.merges = [] := by
  unfold Opening.Fits at h
  unfold Opening.isActive at hact
  split at h <;> first | exact h | simp_all

variable {files' : JsMap Text Snapshot}

theorem Opening.Fits.ended {rows' : List Topic} {seen' : List Snapshot}
    (hact : opening.isActive = false) : opening.Fits workspaceId files' rows' seen' := by
  unfold Opening.Fits at h ⊢
  unfold Opening.isActive at hact
  split at h <;> first | exact h | simp_all

/-- Files that are new leave what an opening has read. -/
theorem Opening.Fits.mono
    (hfiles : ∀ id content, files.get? id = some content → files'.get? id = some content) :
    opening.Fits workspaceId files' rows seen := by
  have hsome : ∀ id, (files.get? id).isSome → (files'.get? id).isSome := by
    intro id hid
    obtain ⟨content, hcont⟩ := Option.isSome_iff_exists.mp hid
    rw [hfiles id content hcont]
    rfl
  unfold Opening.Fits at h ⊢
  split at h
  · exact ⟨h.1, h.2.1, fun id hid => hsome id (h.2.2 id hid)⟩
  · exact ⟨h.1, h.2.1, fun id hid => hsome id (h.2.2.1 id hid), hfiles _ _ h.2.2.2⟩
  · exact ⟨h.1, h.2.1, fun id hid => hsome id (h.2.2.1 id hid), hfiles _ _ h.2.2.2⟩
  · exact h
  · exact h
  · exact h
  · exact h
  · exact h
  · exact h

end

/-! ## The steps of an opening -/

section Opening

variable {env : TopicEnv} {workspaceId : Text} {rows : List Topic} {published : Text → Option Snapshot}
  {db : Database} {files : JsMap Text Snapshot} {merges : List (Text × Text)} {dirty : Text → Prop}

variable {row : Topic}

theorem cleared_of_normal (h : decodeTopic row = row) (ids : List Text) :
    cleared ids row = if row.id ∈ ids then { row with mergedIntoTopicId := none } else row := by
  rw [cleared, h]
  rfl

theorem Rows.find (hrows : Rows workspaceId rows) {a b : Topic} (ha : a ∈ rows) (hb : b ∈ rows)
    (hid : a.id = b.id) : a = b := hrows.keyed.eq ha hb hid

/-- Where no merge is cleared. -/
theorem Kept.topics_eq (hkept : Kept workspaceId rows published db files [] dirty) : db.topics = rows := by
  have hsame : ∀ row ∈ rows, cleared [] row = id row := fun row _ => if_neg List.not_mem_nil
  rw [hkept.topics, List.map_nil, List.map_congr_left hsame, List.map_id]

/-- A topic whose merge is not cleared is read as it is. -/
theorem Kept.get (hrows : Rows workspaceId rows) (hkept : Kept workspaceId rows published db files merges dirty)
    (hrow : row ∈ rows) (hws : row.workspaceId = workspaceId.1)
    (hread : row.id ∉ merges.map Prod.fst) :
    db.get env workspaceId.1 row.id.1 = .ok (some (db.snapshotOf row)) := by
  have hmem : row ∈ db.topics := by
    rw [hkept.topics]
    exact List.mem_map.mpr ⟨row, hrow, if_neg hread⟩
  have hids : (db.topics.map (·.id)).Nodup := by
    rw [hkept.topics]
    exact ids_map hrows.keyed.ids fun row => cleared_id _ row
  have hselect := selectTopic_id env hids hmem
  rw [hws] at hselect
  have hresolve : resolveWithin env db.topics workspaceId.1 (db.topics.length + 1) row.id.1
      = .ok (some (decodeTopic row)) := by
    rw [resolveWithin, hselect]
    cases hmerge : row.mergedIntoTopicId with
    | none => simp only [hmerge]
    | some target => simp only [hmerge, ne_eq, not_true_eq_false, if_false]
  have hrequired : requiredText row.id.1 (js "Topic") = .ok row.id := by rw [requiredText, textOf?_text]
  rw [Database.get, Database.resolve, hrequired]
  show (resolveWithin env db.topics workspaceId.1 (db.topics.length + 1) row.id.1 >>= _) = _
  rw [hresolve, hrows.normal row hrow]
  rfl

theorem SameDetails.refl (db : Database) (id : Text) : SameDetails db db id := ⟨rfl, rfl⟩

section

variable (hrows : Rows workspaceId rows)
include hrows

theorem Kept.snapshot_checked (hrow : row ∈ rows)
    (hws : row.workspaceId = workspaceId.1) (published : Option Snapshot) :
    checkSnapshot workspaceId.1 row.id (db.snapshotOf row) published (some (db.snapshotOf row)) = .ok () := by
  have hself : (db.snapshotOf row).topic.mergedIntoTopicId ≠ some row.id := by
    intro hself
    obtain ⟨target, htgt, hid, -, hact⟩ := hrows.forest row hrow row.id hself
    obtain rfl := hrows.find htgt hrow hid
    have hnone := (isActive_iff.mp hact).2
    rw [show (db.snapshotOf target).topic.mergedIntoTopicId = target.mergedIntoTopicId from rfl, hnone] at hself
    cases hself
  have hid : (db.snapshotOf row).topic.id = row.id := rfl
  have hsame : (db.snapshotOf row).topic.workspaceId = workspaceId.1 := hws
  rw [checkSnapshot]
  simp [hid, hsame, hself]
  rfl

/-- **A snapshot of the stored topic is stored, and only clears the merge.** -/
theorem Kept.storeSnapshot
    (hkept : Kept workspaceId rows published db files merges dirty) (hrow : row ∈ rows)
    (hread : row.id ∉ merges.map Prod.fst) :
    ∃ db', storeSnapshot db row.id (db.snapshotOf row) = .ok db' ∧
      db'.topics = rows.map (cleared (merges.map Prod.fst ++ [row.id])) ∧ DetailKeys db' ∧
      ∀ id, SameDetails db db' id := by
  have hupsert := upsertSnapshot_stored hrows.keyed hrow hread
  have hpages : (db.pages.filter (fun page => page.topicId ≠ row.id) ++ db.pagesOf row.id).Perm db.pages :=
    replaceRows_perm db.pages row.id
  have hlinks : (db.links.filter (fun link => link.topicId ≠ row.id) ++ db.linksOf row.id).Perm db.links :=
    replaceRows_perm db.links row.id
  have hpageIds := (hpages.map (·.id)).nodup_iff.mpr hkept.keys.pages
  have hlinkIds := (hlinks.map (·.id)).nodup_iff.mpr hkept.keys.links
  have hresources := hkept.keys.resources.perm hlinks.symm fun h hsame => h hsame.symm
  refine ⟨⟨rows.map (cleared (merges.map Prod.fst ++ [row.id])),
    db.pages.filter (fun page => page.topicId ≠ row.id) ++ db.pagesOf row.id,
    db.links.filter (fun link => link.topicId ≠ row.id) ++ db.linksOf row.id⟩, ?_, rfl,
    ⟨hpageIds, hlinkIds, hresources⟩, fun id => ⟨?_, ?_⟩⟩
  · rw [Topics.storeSnapshot, hkept.topics, show (db.snapshotOf row).topic = decodeTopic row from rfl, hupsert]
    rw [List.map_append, List.nodup_append] at hpageIds hlinkIds
    show storeDetails db _ row.id (db.snapshotOf row) = _
    unfold storeDetails
    refine Client.exceptGuard_ok.mpr ⟨?_, Client.exceptGuard_ok.mpr ⟨?_, Client.exceptGuard_ok.mpr ⟨?_,
      Client.exceptGuard_ok.mpr ⟨?_, rfl⟩⟩⟩⟩
    · intro hany
      obtain ⟨page, hpage, hbad⟩ := List.any_eq_true.mp hany
      have hpage : page ∈ db.pagesOf row.id := hpage
      rcases Bool.or_eq_true _ _ ▸ hbad with hbad | hbad
      · exact of_decide_eq_true hbad (mem_rowsOf.mp hpage).2
      · obtain ⟨other, hother, hsame⟩ := List.any_eq_true.mp hbad
        exact hpageIds.2.2 other.id (List.mem_map_of_mem hother) page.id (List.mem_map_of_mem hpage)
          (of_decide_eq_true hsame)
    · intro hany
      obtain ⟨link, hlink, hbad⟩ := List.any_eq_true.mp hany
      have hlink : link ∈ db.linksOf row.id := hlink
      rcases Bool.or_eq_true _ _ ▸ hbad with hbad | hbad
      · exact of_decide_eq_true hbad (mem_rowsOf.mp hlink).2
      · obtain ⟨other, hother, hsame⟩ := List.any_eq_true.mp hbad
        exact hlinkIds.2.2 other.id (List.mem_map_of_mem hother) link.id (List.mem_map_of_mem hlink)
          (of_decide_eq_true hsame)
    · exact not_not_intro hpageIds.2.1
    · rw [not_or]
      exact ⟨not_not_intro hlinkIds.2.1, not_not_intro (List.pairwise_append.mp hresources).2.1⟩
  · exact rowsOf_replaceRows db.pages row.id id
  · exact rowsOf_replaceRows db.links row.id id

theorem cleared_append (hrow : row ∈ rows) (ids : List Text) : rows.map (cleared (ids ++ [row.id]))
      = rows.map (cleared (ids ++ (row.mergedIntoTopicId.toList.map fun target => (row.id, target)).map Prod.fst)) := by
  refine List.map_congr_left fun other hother => ?_
  cases hmerge : row.mergedIntoTopicId with
  | some target => rfl
  | none =>
    rw [cleared_of_normal (hrows.normal other hother), cleared_of_normal (hrows.normal other hother)]
    by_cases hid : other.id = row.id
    · -- an active topic has no merge to clear
      obtain rfl := hrows.find hother hrow hid
      rw [if_pos (List.mem_append_right _ (List.mem_singleton_self _))]
      split
      · rfl
      · rw [← hmerge]
    · simp [hid]

/-- **The merge of a topic is restored.** -/
theorem cleared_restoreMerge {source target : Text}
    {rest : List (Text × Text)} (hnodup : (((source, target) :: rest).map Prod.fst).Nodup)
    (hrow : row ∈ rows) (hid : row.id = source) (hws : row.workspaceId = workspaceId.1)
    (hmerge : row.mergedIntoTopicId = some target) :
    (rows.map (cleared (((source, target) :: rest).map Prod.fst))).map (restoreMerge workspaceId.1 source target)
      = rows.map (cleared (rest.map Prod.fst)) := by
  rw [List.map_cons, List.nodup_cons] at hnodup
  rw [List.map_map]
  refine List.map_congr_left fun other hother => ?_
  show restoreMerge _ _ _ (cleared _ other) = _
  rw [restoreMerge, cleared_id, cleared_workspaceId]
  rw [cleared_of_normal (hrows.normal other hother), cleared_of_normal (hrows.normal other hother)]
  by_cases hsame : other.id = source
  · obtain rfl := hrows.find hother hrow (hsame.trans hid.symm)
    rw [if_pos (by simp [hsame, hws]), if_pos (by simp [hsame]), if_neg (by rw [hsame]; exact hnodup.1)]
    rw [← hmerge]
  · rw [if_neg (by simp [hsame]), List.map_cons]
    by_cases hrest : other.id ∈ rest.map Prod.fst
    · rw [if_pos (List.mem_cons_of_mem _ hrest), if_pos hrest]
    · rw [if_neg (by rw [List.mem_cons, not_or]; exact ⟨hsame, hrest⟩), if_neg hrest]

theorem invalidMerge_rows : invalidMerge workspaceId.1 rows = false := by
  rw [invalidMerge, List.any_eq_false]
  rintro source hsrc hinv
  rw [Bool.and_eq_true, List.any_eq_true] at hinv
  obtain ⟨-, target, htgt, hinv⟩ := hinv
  simp only [Bool.and_eq_true, Bool.or_eq_true, decide_eq_true_eq] at hinv
  obtain ⟨found, hfound, hid, hsame, hact⟩ := hrows.forest source hsrc target.id hinv.1
  obtain rfl := hrows.find hfound htgt hid
  obtain ⟨harchived, hnone⟩ := isActive_iff.mp hact
  rw [(decodeTopic_eq_self.mp (hrows.normal found hfound)).2] at harchived
  rcases hinv.2 with (hother | hother) | hother
  · exact hother hsame
  · rw [hnone] at hother
    cases hother
  · rw [harchived] at hother
    cases hother

end

/-- What a step of an opening comes to. -/
structure Advanced (workspaceId : Text) (rows : List Topic) (published : Text → Option Snapshot) (db : Database)
    (files : JsMap Text Snapshot) (opening : Opening) (db' : Database) (files' : JsMap Text Snapshot)
    (opening' : Opening) : Prop where
  kept : Kept workspaceId rows published db' files' opening'.merges fun _ => False
  fits : opening'.Fits workspaceId files' rows (rows.map db'.snapshotOf)
  details : ∀ id, SameDetails db db' id
  keeps : ∀ id content, files.get? id = some content → files'.get? id = some content
  before : opening'.before = opening.before
  running : opening'.point ≠ .stopped
  fewer : opening'.stepsLeft rows < opening.stepsLeft rows

theorem Advanced.read {opening opening' : Opening}
    (hkept : Kept workspaceId rows published db files opening.merges fun _ => False)
    (hmerges : opening'.merges = opening.merges) (hbef : opening'.before = opening.before)
    (hrun : opening'.point ≠ .stopped) (hfits : opening'.Fits workspaceId files rows (rows.map db.snapshotOf))
    (hfewer : opening'.stepsLeft rows < opening.stepsLeft rows) :
    Advanced workspaceId rows published db files opening db files opening' where
  kept := hmerges ▸ hkept
  fits := hfits
  details := SameDetails.refl db
  keeps _ _ h := h
  before := hbef
  running := hrun
  fewer := hfewer

/-- **An opening that goes on alone, over files that are not behind, does not fail.** -/
theorem Opening.advance_spec (hrows : Rows workspaceId rows) {opening : Opening}
    (hkept : Kept workspaceId rows published db files opening.merges fun _ => False)
    (hfits : opening.Fits workspaceId files rows (rows.map db.snapshotOf)) (hact : opening.isActive = true) :
    ∃ db' files' opening', opening.advance env workspaceId published db files = (db', files', opening') ∧
      Advanced workspaceId rows published db files opening db' files' opening' := by
  have hread := @Advanced.read workspaceId rows published db files opening
  obtain ⟨before, merges, point⟩ := opening
  unfold Opening.Fits at hfits
  cases point with
  | opened => cases hact
  | failed error => cases hact
  | stopped => cases hact
  | reading names =>
    obtain ⟨hbef, hnodup, hsome⟩ := hfits
    cases names with
    | nil =>
      refine ⟨db, files, _, rfl, hread hkept rfl rfl nofun hbef ?_⟩
      show merges.length + rows.length + 3 < 4 * 0 + merges.length + rows.length + 4
      omega
    | cons id names =>
      obtain ⟨content, hcont⟩ := Option.isSome_iff_exists.mp (hsome id List.mem_cons_self)
      obtain ⟨row, hrow, rfl, hws, -⟩ := (hkept.written id content hcont).resolve_left not_false
      refine ⟨db, files, ⟨before, merges, .comparing row.id content (published row.id) names⟩, ?_,
        hread hkept rfl rfl nofun ⟨hbef, hnodup, fun x hx => hsome x (List.mem_cons_of_mem _ hx), hcont⟩ ?_⟩
      · simp only [Opening.advance, hrows.safe row hrow hws, hcont, Bool.not_true, Bool.false_eq_true,
          if_false]
      · show 4 * names.length + 3 + merges.length + rows.length + 4
          < 4 * (names.length + 1) + merges.length + rows.length + 4
        omega
  | comparing id content shown names =>
    obtain ⟨hbef, hnodup, hsome, hcont⟩ := hfits
    obtain ⟨row, hrow, rfl, hws, rfl⟩ := (hkept.written id content hcont).resolve_left not_false
    have hfresh : row.id ∉ merges.map Prod.fst := fun hmem =>
      (List.nodup_append.mp hnodup).2.2 row.id hmem row.id List.mem_cons_self rfl
    refine ⟨db, files, ⟨before, merges, .storing row.id (db.snapshotOf row) names⟩, ?_,
      hread hkept rfl rfl nofun ⟨hbef, hnodup, hsome, hcont⟩ ?_⟩
    · simp only [Opening.advance, hkept.get hrows hrow hws hfresh,
        Kept.snapshot_checked hrows hrow hws shown]
    · show 4 * names.length + 2 + merges.length + rows.length + 4
        < 4 * names.length + 3 + merges.length + rows.length + 4
      omega
  | storing id content names =>
    obtain ⟨hbef, hnodup, hsome, hcont⟩ := hfits
    obtain ⟨row, hrow, rfl, hws, rfl⟩ := (hkept.written id content hcont).resolve_left not_false
    have hfresh : row.id ∉ merges.map Prod.fst := fun hmem =>
      (List.nodup_append.mp hnodup).2.2 row.id hmem row.id List.mem_cons_self rfl
    obtain ⟨db', hstore, htopics, hkeys, hdetails⟩ := hkept.storeSnapshot hrows hrow hfresh
    have hsnapshots : ∀ row, db'.snapshotOf row = db.snapshotOf row := fun row => (hdetails row.id).snapshotOf
    have hmerge : (db.snapshotOf row).topic.mergedIntoTopicId = row.mergedIntoTopicId := rfl
    have hsub : ((merges ++ row.mergedIntoTopicId.toList.map fun target => (row.id, target)).map Prod.fst).Sublist
        (merges.map Prod.fst ++ [row.id]) := by
      rw [List.map_append]
      refine List.Sublist.append_left ?_ _
      cases row.mergedIntoTopicId with
      | none => exact List.nil_sublist _
      | some target => exact List.Sublist.refl _
    have hnodup' : ((merges.map Prod.fst ++ [row.id]) ++ names).Nodup := by
      rwa [List.append_assoc]
    refine ⟨db', files, ⟨before, merges ++ row.mergedIntoTopicId.toList.map fun target => (row.id, target),
      .reading names⟩, by simp only [Opening.advance, hstore, hmerge], ?_⟩
    refine ⟨⟨?_, fun merge hmem => ?_, ?_, hkeys, fun id content hid => ?_, hkept.unpublished⟩,
      ⟨?_, ?_, hsome⟩, hdetails, fun _ _ h => h, rfl, nofun, ?_⟩
    · rw [htopics, cleared_append hrows hrow, List.map_append]
    · rcases List.mem_append.mp hmem with hmem | hmem
      · exact hkept.targets merge hmem
      · obtain ⟨target, htgt, rfl⟩ := List.mem_map.mp hmem
        exact ⟨row, hrow, rfl, hws, Option.mem_toList.mp htgt⟩
    · exact hsub.nodup (List.nodup_append.mp hnodup').1
    · obtain ⟨other, hother, hid', hsame, hcont'⟩ := (hkept.written id content hid).resolve_left not_false
      exact .inr ⟨other, hother, hid', hsame, hcont'.trans (hsnapshots other).symm⟩
    · rw [hbef]
      exact List.map_congr_left fun row _ => (hsnapshots row).symm
    · exact (hsub.append_right names).nodup hnodup'
    · show 4 * names.length + (merges ++ row.mergedIntoTopicId.toList.map _).length + rows.length + 4
        < 4 * names.length + 2 + merges.length + rows.length + 4
      rw [List.length_append, List.length_map]
      have hone : row.mergedIntoTopicId.toList.length ≤ 1 := by
        cases row.mergedIntoTopicId <;> simp
      omega
  | merging =>
    cases merges with
    | nil =>
      refine ⟨db, files, ⟨before, [], .checking⟩, rfl, hread hkept rfl rfl nofun ⟨hfits, rfl⟩ ?_⟩
      show rows.length + 2 < 0 + rows.length + 3
      omega
    | cons merge rest =>
      obtain ⟨source, target⟩ := merge
      obtain ⟨row, hrow, hid, hws, hmerged⟩ := hkept.targets (source, target) List.mem_cons_self
      obtain ⟨found, hfound, hfoundId, -, -⟩ := hrows.forest row hrow target hmerged
      have htgt : (db.topics.any fun row => row.id = target) = true := by
        rw [hkept.topics, List.any_eq_true]
        exact ⟨_, List.mem_map_of_mem hfound, by simp [hfoundId]⟩
      have hsrc : (db.topics.any fun row => row.id = source && row.workspaceId = workspaceId.1) = true := by
        rw [hkept.topics, List.any_eq_true]
        exact ⟨_, List.mem_map_of_mem hrow, by simp [hid, hws]⟩
      have htopics := cleared_restoreMerge hrows hkept.nodup hrow hid hws hmerged
      refine ⟨{ db with topics := db.topics.map (restoreMerge workspaceId.1 source target) }, files,
        ⟨before, rest, .merging⟩, ?_, ⟨⟨?_, ?_, ?_, ?_, hkept.written, hkept.unpublished⟩, hfits,
        fun id => ⟨rfl, rfl⟩, fun _ _ h => h, rfl, nofun, ?_⟩⟩
      · simp only [Opening.advance, htgt, hsrc, Bool.not_true, Bool.false_eq_true, if_false]
      · show db.topics.map _ = _
        rw [hkept.topics, htopics]
      · exact fun merge hmem => hkept.targets merge (List.mem_cons_of_mem _ hmem)
      · have hnodup := hkept.nodup
        rw [List.map_cons, List.nodup_cons] at hnodup
        exact hnodup.2
      · exact ⟨hkept.keys.pages, hkept.keys.links, hkept.keys.resources⟩
      · show rest.length + rows.length + 3 < rest.length + 1 + rows.length + 3
        omega
  | checking =>
    obtain ⟨hbef, rfl⟩ := hfits
    have htopics := hkept.topics_eq
    refine ⟨db, files, ⟨before, [], .writing ((db.topics.filter fun row =>
      row.workspaceId = workspaceId.1).map (·.id))⟩, ?_, hread hkept rfl rfl nofun ⟨hbef, rfl, ?_, ?_⟩ ?_⟩
    · simp only [Opening.advance, htopics, invalidMerge_rows hrows, Bool.false_eq_true, if_false]
    · rw [htopics, List.length_map]
      exact List.length_filter_le _ _
    · rintro id hid
      obtain ⟨row, hrow, rfl⟩ := List.mem_map.mp hid
      obtain ⟨hmem, hws⟩ := List.mem_filter.mp hrow
      exact ⟨row, htopics ▸ hmem, rfl, of_decide_eq_true hws⟩
    · show List.length _ + 1 < rows.length + 2
      rw [htopics, List.length_map]
      have hle := List.length_filter_le (fun row => decide (row.workspaceId = workspaceId.1)) rows
      omega
  | writing ids =>
    obtain ⟨hbef, rfl, hlen, hids⟩ := hfits
    cases ids with
    | nil => exact ⟨db, files, ⟨before, [], .opened⟩, rfl, hread hkept rfl rfl nofun rfl (by show 0 < 0 + 1; omega)⟩
    | cons id ids =>
      obtain ⟨row, hrow, rfl, hws⟩ := hids id List.mem_cons_self
      have hrest : ∀ x ∈ ids, ∃ row ∈ rows, row.id = x ∧ row.workspaceId = workspaceId.1 := fun x hx =>
        hids x (List.mem_cons_of_mem _ hx)
      have hle : ids.length ≤ rows.length := by
        rw [List.length_cons] at hlen
        omega
      have hfewer : ids.length + 1 < ids.length + 1 + 1 := by omega
      have hsafe := hrows.safe row hrow hws
      cases hfile : files.get? row.id with
      | some content =>
        refine ⟨db, files, ⟨before, [], .writing ids⟩, ?_,
          hread hkept rfl rfl nofun ⟨hbef, rfl, hle, hrest⟩ hfewer⟩
        simp only [Opening.advance, hsafe, hfile, Bool.not_true, Bool.false_eq_true, if_false, Option.isSome_some,
          if_true]
      | none =>
        have hpub := hkept.unpublished row hrow hws hfile
        have hget : db.get env workspaceId.1 row.id.1 = .ok (some (db.snapshotOf row)) :=
          hkept.get hrows hrow hws List.not_mem_nil
        have hset : ∀ id content, files.get? id = some content →
            (files.set row.id (db.snapshotOf row)).get? id = some content := by
          intro id content hid
          rw [JsMap.get?_set, if_neg]
          · exact hid
          · rintro rfl
            rw [hfile] at hid
            cases hid
        refine ⟨db, files.set row.id (db.snapshotOf row), ⟨before, [], .writing ids⟩, ?_,
          ⟨⟨hkept.topics, hkept.targets, hkept.nodup, hkept.keys, fun id content hid => ?_,
          fun other hother hsame hnone => ?_⟩, ⟨hbef, rfl, hle, hrest⟩, SameDetails.refl db, hset, rfl, nofun, hfewer⟩⟩
        · simp only [Opening.advance, hsafe, hfile, hpub, hget, Bool.not_true, Bool.false_eq_true, if_false,
            Option.isSome_none]
        · rw [JsMap.get?_set] at hid
          split at hid
          · rename_i heq
            cases hid
            exact .inr ⟨row, hrow, heq.symm, hws, rfl⟩
          · exact hkept.written id content hid
        · rw [JsMap.get?_set] at hnone
          split at hnone
          · cases hnone
          · exact hkept.unpublished other hother hsame hnone

end Opening

/-! ## The processes -/

/-- The merges that the openings have to restore. -/
def TopicWorkspace.pending (workspace : TopicWorkspace) : List (Text × Text) :=
  workspace.openings.flatMap (·.merges)

/-- An operation has committed a change of the topic and has still to write its file. -/
def Dirty (operation : Option Running) (id : Text) : Prop :=
  ∃ running, operation = some running ∧ running.begun = true ∧ ∃ write ∈ running.plan.writes, write.topicId = id

/-- No topic, file or publication has the identifier. -/
def TopicWorkspace.Unused (workspace : TopicWorkspace) (rows : List Topic) (id : Text) : Prop :=
  workspace.files.get? id = none ∧ workspace.published id = none ∧ ∀ row ∈ rows, row.id ≠ id

structure Running.Fits (workspaceId : Text) (workspace : TopicWorkspace) (rows : List Topic)
    (running : Running) : Prop where
  plan : running.plan.Fits workspaceId rows (workspace.Unused rows)
  late : running.begun = true → ∀ statement ∈ running.plan.statements,
    ∃ id updatedAt, statement = .touch id updatedAt
  alone : running.begun = true → ∀ opening ∈ workspace.openings, opening.isActive = false

structure TopicWorkspace.Sound (workspaceId : Text) (workspace : TopicWorkspace) (rows : List Topic) : Prop where
  sees : Rows workspaceId rows
  kept : Kept workspaceId rows workspace.published workspace.database workspace.files workspace.pending
    (Dirty workspace.operation)
  runs : ∀ running, workspace.operation = some running → running.Fits workspaceId workspace rows
  opens : ∀ opening ∈ workspace.openings,
    opening.Fits workspaceId workspace.files rows (rows.map workspace.database.snapshotOf)

section Processes

variable {env : TopicPlatform} {workspaceId : Text} {workspace : TopicWorkspace} {rows : List Topic}

theorem TopicWorkspace.pending_nil (h : ∀ opening ∈ workspace.openings, opening.merges = []) :
    workspace.pending = [] := List.flatMap_eq_nil_iff.mpr h

/-- Where every opening has ended, no merge is cleared. -/
theorem TopicWorkspace.Sound.quiet (h : workspace.Sound workspaceId rows)
    (hended : workspace.openings.all fun opening => !opening.isActive) :
    workspace.pending = [] ∧ ∀ opening ∈ workspace.openings, opening.isActive = false := by
  have hidle : ∀ opening ∈ workspace.openings, opening.isActive = false := fun opening hmem => by
    simpa using List.all_eq_true.mp hended opening hmem
  exact ⟨TopicWorkspace.pending_nil fun opening hmem => (h.opens opening hmem).merges_eq (hidle opening hmem),
    hidle⟩

variable {statement : Statement} {unused' unused : Text → Prop}

theorem Statement.Ready.mono
    (h : statement.Ready workspaceId rows unused) (hunused : ∀ id, unused id → unused' id) :
    statement.Ready workspaceId rows unused' := by
  cases statement with
  | insertTopic topic => exact ⟨h.1, h.2.1, h.2.2.1, h.2.2.2.1, hunused _ h.2.2.2.2⟩
  | _ => exact h

theorem Plan.Fits.mono {plan : Plan} (h : plan.Fits workspaceId rows unused)
    (hunused : ∀ id, unused id → unused' id) : plan.Fits workspaceId rows unused' :=
  ⟨h.covers, fun statement hmem => (h.ready statement hmem).mono hunused, h.touches, h.aims⟩

/-! ### An operation -/

variable {statements : List Statement} {writes : List FileWrite}

theorem Plan.Fits.rest {rows' : List Topic}
    (h : Plan.Fits workspaceId rows unused ⟨statement :: statements, writes⟩)
    (heff : statement.Effect rows rows') : Plan.Fits workspaceId rows' unused' ⟨statements, writes⟩ where
  covers other hother := h.covers other (List.mem_cons_of_mem _ hother)
  ready other hother := by
    obtain ⟨id, updatedAt, rfl⟩ := h.touches other (List.mem_of_mem_head? hother)
    trivial
  touches other hother := h.touches other (List.mem_of_mem_tail hother)
  aims write hwrite := by
    have haims := h.aims write hwrite
    cases write with
    | snapshot id =>
      obtain ⟨hkeep, hrow⟩ := haims
      refine ⟨fun name hdel => hkeep name (List.mem_cons_of_mem _ hdel), ?_⟩
      rcases hrow with ⟨row, hrow, rfl, hws⟩ | ⟨topic, htopic, hid, hws⟩
      · obtain ⟨row', hrow', hid, hsame⟩ := heff.kept hrow fun name heq => hkeep name (heq ▸ List.mem_cons_self)
        exact .inl ⟨row', hrow', hid, hsame.trans hws⟩
      · rcases List.mem_cons.mp htopic with rfl | htopic
        · cases heff with
          | edits _ _ _ _ hnew => exact absurd rfl (hnew topic)
          | adds other hstmt heq =>
            cases hstmt
            exact .inl ⟨topic, heq ▸ List.mem_append_right _ (List.mem_singleton_self _), hid, hws⟩
          | deletes name id hstmt => cases hstmt
        · exact .inr ⟨topic, htopic, hid, hws⟩
    | remove id =>
      obtain ⟨hdeletes, -⟩ := haims
      refine ⟨fun other hother => hdeletes other (List.mem_cons_of_mem _ hother), fun _ row hrow => ?_⟩
      obtain ⟨name, rfl⟩ := hdeletes statement List.mem_cons_self
      cases heff with
      | edits _ _ _ _ _ hdel => exact absurd rfl (hdel name id)
      | adds topic hstmt => cases hstmt
      | deletes name' id' hstmt heq =>
        cases hstmt
        rw [heq] at hrow
        exact of_decide_eq_true (List.mem_filter.mp hrow).2

variable {running : Running}

section

variable (h : workspace.Sound workspaceId rows)
include h

/-- **A commit.** The files of the topics it touches are behind from then on. -/
theorem TopicWorkspace.Sound.commit (hrunning : workspace.operation = some running)
    (hstmts : running.plan.statements = statement :: statements)
    (hended : workspace.openings.all fun opening => !opening.isActive) {time : JsString} {db' : Database}
    (hrun : statement.run env.toTopicEnv time workspace.database = .ok db') : ({ workspace with
        database := db', operation := some ⟨⟨statements, running.plan.writes⟩, true⟩ } :
      TopicWorkspace).Sound workspaceId db'.topics := by
  obtain ⟨hpend, hidle⟩ := h.quiet hended
  have hkept := h.kept
  rw [hpend] at hkept
  have htopics := hkept.topics_eq
  have hfits := h.runs running hrunning
  have hplan : Plan.Fits workspaceId rows (workspace.Unused rows) ⟨statement :: statements, running.plan.writes⟩ :=
    hstmts ▸ hfits.plan
  have hready : statement.Ready workspaceId workspace.database.topics (workspace.Unused rows) :=
    htopics ▸ hplan.ready statement rfl
  have heff := Statement.run_cases hrun
  obtain ⟨hkeys, hdetails⟩ := Statement.run_details hkept.keys hrun
  have hnorm : ∀ row ∈ workspace.database.topics, decodeTopic row = row := htopics ▸ h.sees.normal
  have hclear : ∀ row ∈ db'.topics, cleared [] row = id row := fun row _ => if_neg List.not_mem_nil
  refine ⟨⟨heff.keyed (htopics ▸ h.sees.keyed), Statement.run_forest (htopics ▸ h.sees.keyed)
    (htopics ▸ h.sees.forest) hready hrun, Statement.run_normal hnorm hready hrun, fun row hrow hws => ?_⟩,
    ⟨?_, ?_, ?_, hkeys, fun id content hcont => ?_, fun row hrow hws hfile => ?_⟩,
    fun running' hrun' => ?_, fun opening hopen => (h.opens opening hopen).ended (hidle opening hopen)⟩
  · rcases heff.known hrow with ⟨old, hold, hid, hsame⟩ | rfl
    · exact hid ▸ h.sees.safe old (htopics ▸ hold) (hsame.trans hws)
    · exact hready.2.2.2.1
  · show db'.topics = db'.topics.map (cleared (workspace.pending.map Prod.fst))
    rw [hpend, List.map_nil, List.map_congr_left hclear, List.map_id]
  · intro merge hmerge
    have hmem : merge ∈ workspace.pending := hmerge
    rw [hpend] at hmem
    cases hmem
  · show (workspace.pending.map Prod.fst).Nodup
    rw [hpend]
    exact List.nodup_nil
  · by_cases hid : id ∈ statement.touched
    · exact .inl ⟨_, rfl, rfl, hplan.covers statement List.mem_cons_self id hid⟩
    · rcases hkept.written id content hcont with ⟨running', hsame, -, hwrite⟩ | ⟨row, hrow, rfl, hws, rfl⟩
      · rw [hrunning] at hsame
        cases hsame
        exact .inl ⟨_, rfl, rfl, hwrite⟩
      · refine .inr ⟨row, (heff.untouched hid).mpr (htopics ▸ hrow), rfl, hws, ?_⟩
        exact (hdetails row.id hid).snapshotOf.symm
  · rcases heff.known hrow with ⟨old, hold, hid, hsame⟩ | rfl
    · rw [← hid] at hfile ⊢
      exact hkept.unpublished old (htopics ▸ hold) (hsame.trans hws) hfile
    · exact hready.2.2.2.2.2.1
  · cases hrun'
    refine ⟨hplan.rest (htopics ▸ heff), fun _ other hother => hplan.touches other hother, fun _ => hidle⟩

theorem TopicWorkspace.Sound.write_files {action : FileWrite} {files : JsMap Text Snapshot}
    (hrun : workspace.operation = some running)
    (hplan : Plan.Fits workspaceId rows (workspace.Unused rows) ⟨[], action :: writes⟩)
    (hwrites : running.plan.writes = action :: writes)
    (hended : workspace.openings.all fun opening => !opening.isActive)
    (hwritten : ∀ id content, files.get? id = some content →
      action.topicId ≠ id ∧ workspace.files.get? id = some content ∨
      ∃ row ∈ rows, row.id = id ∧ row.workspaceId = workspaceId.1 ∧ content = workspace.database.snapshotOf row)
    (hgone : ∀ row ∈ rows, files.get? row.id = none → workspace.files.get? row.id = none) :
    ({ workspace with files, operation := some ⟨⟨[], writes⟩, true⟩ } : TopicWorkspace).Sound workspaceId rows := by
  obtain ⟨-, hidle⟩ := h.quiet hended
  refine ⟨h.sees, ⟨h.kept.topics, h.kept.targets, h.kept.nodup, h.kept.keys,
    fun id content hcont => ?_, fun row hrow hsame hfile => ?_⟩, fun running' hrun' => ?_,
    fun opening hopen => (h.opens opening hopen).ended (hidle opening hopen)⟩
  · rcases hwritten id content hcont with ⟨hne, hcont⟩ | hrow
    · rcases h.kept.written id content hcont with ⟨running', hsame, -, write, hwrite, hid⟩ | hrow
      · rw [hrun] at hsame
        cases hsame
        rw [hwrites] at hwrite
        rcases List.mem_cons.mp hwrite with rfl | hwrite
        · exact absurd hid hne
        · exact .inl ⟨_, rfl, rfl, write, hwrite, hid⟩
      · exact .inr hrow
    · exact .inr hrow
  · exact h.kept.unpublished row hrow hsame (hgone row hrow hfile)
  · cases hrun'
    exact ⟨⟨nofun, nofun, nofun, fun write hwrite => hplan.aims write (List.mem_cons_of_mem _ hwrite)⟩, nofun,
      fun _ => hidle⟩

/-- **The snapshot of a topic.** Its file is not behind any more. -/
theorem TopicWorkspace.Sound.write
    (hrun : workspace.operation = some running) (hstmts : running.plan.statements = [])
    {id : Text} (hwrites : running.plan.writes = .snapshot id :: writes)
    (hended : workspace.openings.all fun opening => !opening.isActive) :
    isSafeTopicId id.1 = true ∧ ∃ detail,
      workspace.database.get env.toTopicEnv workspaceId.1 id.1 = .ok (some detail) ∧
      ({ workspace with
          files := workspace.files.set id detail, operation := some ⟨⟨[], writes⟩, true⟩ } :
        TopicWorkspace).Sound workspaceId rows := by
  have hplan : Plan.Fits workspaceId rows (workspace.Unused rows) ⟨[], .snapshot id :: writes⟩ :=
    hstmts ▸ hwrites ▸ (h.runs running hrun).plan
  obtain ⟨-, ⟨row, hrow, rfl, hws⟩ | ⟨topic, hnew, -⟩⟩ := hplan.aims _ List.mem_cons_self
  · refine ⟨h.sees.safe row hrow hws, _, h.kept.get h.sees hrow hws (by
      rw [(h.quiet hended).1]; exact List.not_mem_nil), h.write_files hrun hplan hwrites hended
      (fun id content hcont => ?_) fun other _ hfile => ?_⟩
    · rw [JsMap.get?_set] at hcont
      split at hcont
      · next heq =>
        cases hcont
        exact .inr ⟨row, hrow, heq.symm, hws, rfl⟩
      · next hne => exact .inl ⟨Ne.symm hne, hcont⟩
    · rw [JsMap.get?_set] at hfile
      split at hfile
      · cases hfile
      · exact hfile
  · cases hnew

/-- **The file of a topic that is deleted.** -/
theorem TopicWorkspace.Sound.remove
    (hrun : workspace.operation = some running) (hstmts : running.plan.statements = [])
    {id : Text} (hwrites : running.plan.writes = .remove id :: writes)
    (hended : workspace.openings.all fun opening => !opening.isActive) : ({ workspace with
        files := workspace.files.delete id, operation := some ⟨⟨[], writes⟩, true⟩ } :
      TopicWorkspace).Sound workspaceId rows := by
  have hplan : Plan.Fits workspaceId rows (workspace.Unused rows) ⟨[], .remove id :: writes⟩ :=
    hstmts ▸ hwrites ▸ (h.runs running hrun).plan
  refine h.write_files hrun hplan hwrites hended (fun other content hcont => ?_) fun row hrow hfile => ?_
  · rw [JsMap.get?_delete] at hcont
    split at hcont
    · cases hcont
    · next hne => exact .inl ⟨Ne.symm hne, hcont⟩
  · rwa [JsMap.get?_delete, if_neg ((hplan.aims _ List.mem_cons_self).2 rfl row hrow)] at hfile

/-- An operation that is over, where nothing is behind on its account. -/
theorem TopicWorkspace.Sound.done
    (hclean : ∀ id content, workspace.files.get? id = some content → ¬Dirty workspace.operation id) :
    ({ workspace with operation := none } : TopicWorkspace).Sound workspaceId rows where
  sees := h.sees
  kept := ⟨h.kept.topics, h.kept.targets, h.kept.nodup, h.kept.keys,
    fun id content hcont => .inr ((h.kept.written id content hcont).resolve_left (hclean id content hcont)),
    h.kept.unpublished⟩
  runs := nofun
  opens := h.opens

theorem TopicWorkspace.Sound.touch_succeeds
    (hrun : workspace.operation = some running) (hbegun : running.begun = true)
    (hstmts : running.plan.statements = statement :: statements)
    (hended : workspace.openings.all fun opening => !opening.isActive) {time : JsString}
    (htime : running.hasTime env.toTopicEnv time workspace.database = true) :
    ∃ db', statement.run env.toTopicEnv time workspace.database = .ok db' := by
  have hfits := h.runs running hrun
  obtain ⟨hpend, -⟩ := h.quiet hended
  have hkept := h.kept
  rw [hpend] at hkept
  have htopics := hkept.topics_eq
  obtain ⟨id, updatedAt, rfl⟩ := hfits.late hbegun statement (hstmts ▸ List.mem_cons_self)
  obtain ⟨write, hwrite, hid⟩ := hfits.plan.covers _ (hstmts ▸ List.mem_cons_self) id List.mem_cons_self
  have haims := hfits.plan.aims write hwrite
  have hfound : ∃ row, workspace.database.topics.find? (fun row => row.id = id) = some row := by
    cases write with
    | remove other =>
      obtain ⟨name, hdel⟩ := haims.1 _ (hstmts ▸ List.mem_cons_self)
      cases hdel
    | snapshot other =>
      rcases haims.2 with ⟨row, hrow, hsame, -⟩ | ⟨topic, hnew, -⟩
      · refine Option.isSome_iff_exists.mp (List.find?_isSome.mpr ⟨row, htopics ▸ hrow, ?_⟩)
        exact decide_eq_true (hsame.trans hid)
      · obtain ⟨_, _, hinsert⟩ := hfits.late hbegun _ hnew
        cases hinsert
  obtain ⟨row, hrow⟩ := hfound
  rw [Running.hasTime, hstmts] at htime
  have hstamp := List.all_eq_true.mp htime row (List.mem_of_find?_eq_some hrow)
  have hid : row.id = id := by simpa using List.find?_some hrow
  rw [Bool.or_eq_true, decide_eq_true_eq] at hstamp
  have hok := hstamp.resolve_left fun hne => hne hid
  cases hres : nextTimestamp env.toTopicEnv row.updatedAt (updatedAt.getD time) with
  | error message =>
    rw [hres] at hok
    cases hok
  | ok stamp =>
    refine ⟨{ workspace.database with topics := workspace.database.topics.map (stamped id stamp) }, ?_⟩
    show (touchTopic env.toTopicEnv workspace.database.topics id (updatedAt.getD time) >>= _) = _
    rw [touchTopic, hrow]
    show ((nextTimestamp env.toTopicEnv row.updatedAt (updatedAt.getD time) >>= _) >>= _) = _
    rw [hres]
    rfl

/-- **The next commit or file of an operation**, while no store is opened. -/
theorem TopicWorkspace.Sound.advance (time : Text)
    (hguard : Undisturbed env workspace (.advance time) = true) :
    ∃ rows', (workspace.step env workspaceId (.advance time)).Sound workspaceId rows' := by
  rw [Undisturbed, Bool.and_eq_true] at hguard
  obtain ⟨hended, htime⟩ := hguard
  rw [TopicWorkspace.step]
  cases hop : workspace.operation with
  | none => exact ⟨rows, h⟩
  | some running =>
    rw [hop, Option.all_some, Bool.or_eq_true, Bool.not_eq_true'] at htime
    simp only [Running.advance]
    cases hstmts : running.plan.statements with
    | cons statement statements =>
      simp only
      cases hrun : statement.run env.toTopicEnv time.1 workspace.database with
      | ok db' => exact ⟨db'.topics, h.commit hop hstmts hended hrun⟩
      | error message =>
        refine ⟨rows, h.done fun id content _ => ?_⟩
        rintro ⟨running', hsame, hbegun, -⟩
        rw [hop] at hsame
        cases hsame
        have htime := htime.resolve_left (by rw [hbegun]; exact Bool.true_eq_false_eq_False)
        obtain ⟨db', hsucceeds⟩ := h.touch_succeeds hop hbegun hstmts hended htime
        rw [hrun] at hsucceeds
        cases hsucceeds
    | nil =>
      cases hwrites : running.plan.writes with
      | nil =>
        refine ⟨rows, h.done fun id content _ => ?_⟩
        rintro ⟨running', hsame, -, write, hwrite, -⟩
        rw [hop] at hsame
        cases hsame
        rw [hwrites] at hwrite
        cases hwrite
      | cons write writes =>
        cases write with
        | snapshot id =>
          obtain ⟨hsafe, detail, hget, hsound⟩ := @TopicWorkspace.Sound.write env _ _ _ _ _ h hop hstmts _
            hwrites hended
          simp only [hsafe, hget, Bool.not_true, Bool.false_eq_true, if_false]
          exact ⟨rows, hsound⟩
        | remove id => exact ⟨rows, h.remove hop hstmts hwrites hended⟩

end

/-! ### The openings -/

variable {k : Nat}

theorem flatMap_set_of_others {α β : Type} {f : α → List β} {l : List α} (hk : k < l.length)
    (hothers : ∀ a ∈ l.eraseIdx k, f a = []) (b : α) : (l.set k b).flatMap f = f b := by
  induction l generalizing k with
  | nil => cases hk
  | cons a l ih =>
    cases k with
    | zero =>
      have hrest : l.flatMap f = [] := List.flatMap_eq_nil_iff.mpr hothers
      rw [List.set_cons_zero, List.flatMap_cons, hrest, List.append_nil]
    | succ k =>
      rw [List.eraseIdx_cons_succ] at hothers
      rw [List.set_cons_succ, List.flatMap_cons, hothers a List.mem_cons_self, List.nil_append]
      exact ih (Nat.lt_of_succ_lt_succ hk) fun c hc => hothers c (List.mem_cons_of_mem _ hc)

theorem flatMap_modify {α β : Type} {f : α → List β} {g : α → α} (hsame : ∀ a, f (g a) = f a) (l : List α)
    (k : Nat) : (l.modify k g).flatMap f = l.flatMap f := by
  induction l generalizing k with
  | nil => rw [List.modify_nil]
  | cons a l ih =>
    cases k with
    | zero => rw [List.modify_zero_cons, List.flatMap_cons, List.flatMap_cons, hsame]
    | succ k => rw [List.modify_succ_cons, List.flatMap_cons, List.flatMap_cons, ih]

variable {opening : Opening}

theorem TopicWorkspace.onlyMerges_set (hk : workspace.openings[k]? = some opening)
    (honly : workspace.onlyMerges k = true) (opening' : Opening) :
    (workspace.openings.set k opening').flatMap (·.merges) = opening'.merges := by
  refine flatMap_set_of_others (List.getElem?_eq_some_iff.mp hk).1 (fun other hother => ?_) opening'
  exact List.isEmpty_iff.mp (List.all_eq_true.mp honly other hother)

theorem not_dirty (hbehind : workspace.isBehind = false) (id : Text) : ¬Dirty workspace.operation id := by
  rintro ⟨running, hrun, hbegun, -⟩
  rw [TopicWorkspace.isBehind, hrun, Option.any_some, hbegun] at hbehind
  cases hbehind

structure OpeningStep (env : TopicPlatform) (workspaceId : Text) (workspace : TopicWorkspace) (rows : List Topic)
    (k : Nat) (opening : Opening) : Prop where
  sound : (workspace.step env workspaceId (.advanceOpening k)).Sound workspaceId rows
  behind : (workspace.step env workspaceId (.advanceOpening k)).isBehind = workspace.isBehind
  only : (workspace.step env workspaceId (.advanceOpening k)).onlyMerges k = true
  next : ∃ opening', (workspace.step env workspaceId (.advanceOpening k)).openings[k]? = some opening' ∧
    opening'.before = opening.before ∧ opening'.stepsLeft rows < opening.stepsLeft rows ∧
    (∀ error, opening'.point ≠ .failed error) ∧ opening'.point ≠ .stopped ∧
    (opening'.point = .opened →
      (workspace.step env workspaceId (.advanceOpening k)).database.contents = opening.before)

/-- **A step of an opening that goes on alone**, while no operation is behind with its files. -/
theorem TopicWorkspace.Sound.advanceOpening (h : workspace.Sound workspaceId rows)
    (hk : workspace.openings[k]? = some opening) (hact : opening.isActive = true)
    (hbehind : workspace.isBehind = false) (honly : workspace.onlyMerges k = true) :
    OpeningStep env workspaceId workspace rows k opening := by
  have hset := TopicWorkspace.onlyMerges_set hk honly
  have hlt := (List.getElem?_eq_some_iff.mp hk).1
  have hpend : workspace.pending = opening.merges := by
    have hself := hset opening
    have hsame : workspace.openings.set k opening = workspace.openings := by
      obtain ⟨hlt, hget⟩ := List.getElem?_eq_some_iff.mp hk
      rw [← hget, List.set_getElem_self]
    rwa [hsame] at hself
  have hkept : Kept workspaceId rows workspace.published workspace.database workspace.files opening.merges
      fun _ => False := by
    have hkept := hpend ▸ h.kept
    exact ⟨hkept.topics, hkept.targets, hkept.nodup, hkept.keys, fun id content hid =>
      .inr ((hkept.written id content hid).resolve_left (not_dirty hbehind id)), hkept.unpublished⟩
  have hfits := h.opens opening (List.mem_of_getElem? hk)
  obtain ⟨db', files', opening', hadvance, hadv⟩ :
      ∃ db' files' opening', opening.advance env.toTopicEnv workspaceId workspace.published workspace.database
          workspace.files = (db', files', opening') ∧
        Advanced workspaceId rows workspace.published workspace.database workspace.files opening db' files' opening' :=
    Opening.advance_spec h.sees hkept hfits hact
  have hstep : workspace.step env workspaceId (.advanceOpening k) = { workspace with
      database := db', files := files', openings := workspace.openings.set k opening' } := by
    simp only [TopicWorkspace.step, hk, hadvance]
  have hseen : rows.map db'.snapshotOf = rows.map workspace.database.snapshotOf :=
    List.map_congr_left fun row _ => (hadv.details row.id).snapshotOf
  have herase : (workspace.openings.set k opening').eraseIdx k = workspace.openings.eraseIdx k :=
    List.eraseIdx_set_eq
  have hat : (workspace.openings.set k opening')[k]? = some opening' := by
    rw [List.getElem?_set_self hlt]
  refine ⟨?_, by rw [hstep]; rfl, ?_, opening', by rw [hstep]; exact hat, hadv.before, hadv.fewer,
    fun error herror => ?_, hadv.running, fun hopened => ?_⟩
  · rw [hstep]
    refine ⟨h.sees, ?_, fun running hrun => ?_, fun other hother => ?_⟩
    · have hpend' : ({ workspace with
          database := db', files := files', openings := workspace.openings.set k opening' } :
          TopicWorkspace).pending = opening'.merges := hset opening'
      rw [hpend']
      have hkept' := hadv.kept
      exact ⟨hkept'.topics, hkept'.targets, hkept'.nodup, hkept'.keys, fun id content hid =>
        .inr ((hkept'.written id content hid).resolve_left not_false), hkept'.unpublished⟩
    · have hfits := h.runs running hrun
      have hbegun : running.begun = false := by
        rw [TopicWorkspace.isBehind, hrun, Option.any_some] at hbehind
        exact hbehind
      refine ⟨hfits.plan.mono fun id hunused => ⟨?_, hunused.2⟩, hfits.late, fun hb => ?_⟩
      · cases hfile : files'.get? id with
        | none => rfl
        | some content =>
          obtain ⟨row, hrow, hid, -⟩ := (hadv.kept.written id content hfile).resolve_left not_false
          exact absurd hid (hunused.2.2 row hrow)
      · rw [hbegun] at hb
        cases hb
    · rw [hseen]
      rcases List.mem_or_eq_of_mem_set hother with hmem | rfl
      · exact (h.opens other hmem).mono hadv.keeps
      · exact hseen ▸ hadv.fits
  · rw [hstep, TopicWorkspace.onlyMerges]
    show ((workspace.openings.set k opening').eraseIdx k).all _ = true
    rw [herase]
    exact honly
  · have hnext := hadv.fits
    unfold Opening.Fits at hnext
    rw [herror] at hnext
    exact hnext
  · rw [hstep, Database.contents]
    have hnext := hadv.fits
    unfold Opening.Fits at hnext
    rw [hopened] at hnext
    have hkept' := hadv.kept
    rw [hnext] at hkept'
    show db'.topics.map db'.snapshotOf = opening.before
    rw [hkept'.topics_eq, hfits.before_eq hact, hseen]

theorem step_ended (h : ∀ opening, workspace.openings[k]? = some opening → opening.isActive = false) :
    workspace.step env workspaceId (.advanceOpening k) = workspace := by
  rw [TopicWorkspace.step]
  cases hk : workspace.openings[k]? with
  | none => rfl
  | some opening =>
    have hended := h opening hk
    have hsame : opening.advance env.toTopicEnv workspaceId workspace.published workspace.database workspace.files
        = (workspace.database, workspace.files, opening) := by
      unfold Opening.isActive at hended
      unfold Opening.advance
      split at hended
      · rename_i hpoint
        rw [hpoint]
      · rename_i hpoint
        rw [hpoint]
      · rename_i hpoint
        rw [hpoint]
      · cases hended
    obtain ⟨hlt, hget⟩ := List.getElem?_eq_some_iff.mp hk
    simp only [hsame]
    rw [← hget, List.set_getElem_self]

section

variable (h : workspace.Sound workspaceId rows)
include h

/-- **The reads of an operation**, while no store is opened. -/
theorem TopicWorkspace.Sound.start (operation : Operation) (time : Text)
    (hended : workspace.openings.all fun opening => !opening.isActive) :
    (workspace.step env workspaceId (.start operation time)).Sound workspaceId rows := by
  obtain ⟨hpend, -⟩ := h.quiet hended
  have hkept := h.kept
  rw [hpend] at hkept
  have htopics := hkept.topics_eq
  rw [TopicWorkspace.step]
  split
  · exact h
  · rename_i hfree
    rw [Bool.or_eq_true, not_or, Bool.not_eq_true, Option.isSome_eq_false_iff, Option.isNone_iff_eq_none] at hfree
    obtain ⟨hnone, hnew⟩ := hfree
    split
    · exact h
    · rename_i plan hplan
      have hfits : plan.Fits workspaceId workspace.database.topics (workspace.Unused rows) := by
        refine Operation.plan_fits (htopics ▸ h.sees.forest) (htopics ▸ h.sees.normal) ?_ hplan
        rintro id _ _ _ _ _ _ rfl
        simp only [Operation.isNew, Bool.not_eq_true', Bool.and_eq_true, Option.isNone_iff_eq_none,
          Bool.not_eq_false, List.any_eq_false, decide_eq_true_eq] at hnew
        exact ⟨hnew.1.1, hnew.1.2, fun row hrow => hnew.2 row (htopics ▸ hrow)⟩
      refine ⟨h.sees, ⟨h.kept.topics, h.kept.targets, h.kept.nodup, h.kept.keys, fun id content hid => .inr ?_,
        h.kept.unpublished⟩, fun running hrun => ?_, h.opens⟩
      · refine (h.kept.written id content hid).resolve_left ?_
        rintro ⟨running, hrun, -⟩
        rw [hnone] at hrun
        cases hrun
      · cases hrun
        exact ⟨htopics ▸ hfits, nofun, nofun⟩

/-- **The end of a process** whose operation is not behind, but for first snapshots. -/
theorem TopicWorkspace.Sound.stop (hguard : Undisturbed env workspace .stop = true) :
    (workspace.step env workspaceId .stop).Sound workspaceId rows := by
  refine h.done fun id content hid => ?_
  rintro ⟨running, hrun, hbegun, write, hwrite, hwriteId⟩
  rw [Undisturbed, hrun, Option.all_some, hbegun, Bool.not_true, Bool.false_or, Running.onlyFirst,
    Bool.and_eq_true] at hguard
  have hfirst := List.all_eq_true.mp hguard.2 write hwrite
  cases write with
  | snapshot topicId =>
    have hsame : topicId = id := hwriteId
    have hnone : (workspace.files.get? topicId).isNone = true := hfirst
    rw [hsame, hid] at hnone
    cases hnone
  | remove topicId => cases hfirst

theorem TopicWorkspace.Sound.publish (topicIds : List Text) :
    (workspace.step env workspaceId (.publish topicIds)).Sound workspaceId rows := by
  have hpub : ∀ id, workspace.files.get? id = none → workspace.published id = none →
      (if id ∈ topicIds then workspace.files.get? id else workspace.published id) = none := by
    intro id hfile hnone
    split
    · exact hfile
    · exact hnone
  refine ⟨h.sees, ⟨h.kept.topics, h.kept.targets, h.kept.nodup, h.kept.keys, h.kept.written,
    fun row hrow hws hfile => ?_⟩, fun running hrun => ?_, h.opens⟩
  · exact hpub row.id hfile (h.kept.unpublished row hrow hws hfile)
  · have hfits := h.runs running hrun
    exact ⟨hfits.plan.mono fun id hunused => ⟨hunused.1, hpub id hunused.1 hunused.2.1, hunused.2.2⟩,
      hfits.late, hfits.alone⟩

/-- **A store that is opened** while nothing is behind and no merge is cleared. -/
theorem TopicWorkspace.Sound.openStore (names : List Text)
    (hguard : Undisturbed env workspace (.openStore names) = true) :
    (workspace.step env workspaceId (.openStore names)).Sound workspaceId rows := by
  rw [Undisturbed, Bool.and_eq_true, Bool.not_eq_true'] at hguard
  have hpend : workspace.pending = [] := TopicWorkspace.pending_nil fun opening hopen =>
    List.isEmpty_iff.mp (List.all_eq_true.mp hguard.2 opening hopen)
  have hkept := h.kept
  rw [hpend] at hkept
  rw [TopicWorkspace.step]
  split
  · rename_i hperm
    refine ⟨h.sees, ?_, fun running hrun => ?_, fun opening hopen => ?_⟩
    · have hsame : ({ workspace with openings := workspace.openings ++
          [{ before := workspace.database.contents, point := .reading names }] } : TopicWorkspace).pending
          = workspace.pending := by
        rw [TopicWorkspace.pending, List.flatMap_append]
        exact List.append_nil _
      rw [hsame]
      exact h.kept
    · have hfits := h.runs running hrun
      refine ⟨hfits.plan, hfits.late, fun hbegun => ?_⟩
      rw [TopicWorkspace.isBehind, hrun, Option.any_some, hbegun] at hguard
      cases hguard.1
    · rcases List.mem_append.mp hopen with hmem | hmem
      · exact h.opens opening hmem
      · rw [List.mem_singleton.mp hmem]
        refine ⟨by rw [Database.contents, hkept.topics_eq], ?_, fun id hid => ?_⟩
        · rw [List.map_nil, List.nil_append]
          exact hperm.nodup_iff.mpr workspace.files.nodup
        · refine Option.isSome_iff_ne_none.mpr fun hnone => ?_
          exact JsMap.get?_eq_none.mp hnone (hperm.mem_iff.mp hid)
  · exact h

/-- **The end of a process** whose opening has no merges to restore. -/
theorem TopicWorkspace.Sound.stopOpening (k : Nat)
    (hguard : Undisturbed env workspace (.stopOpening k) = true) :
    (workspace.step env workspaceId (.stopOpening k)).Sound workspaceId rows := by
  have hmem : ∀ opening ∈ workspace.openings.modify k fun opening => { opening with point := .stopped },
      opening ∈ workspace.openings ∨ opening.point = .stopped ∧ opening.merges = [] := by
    intro opening hopen
    obtain ⟨j, hj⟩ := List.mem_iff_getElem?.mp hopen
    rw [List.getElem?_modify] at hj
    split at hj
    · rename_i heq
      obtain ⟨old, hold, rfl⟩ := Option.map_eq_some_iff.mp hj
      rw [Undisturbed, heq, hold, Option.all_some] at hguard
      exact .inr ⟨rfl, List.isEmpty_iff.mp hguard⟩
    · rw [id_map'] at hj
      exact .inl (List.mem_of_getElem? hj)
  refine ⟨h.sees, ?_, fun running hrun => ?_, fun opening hopen => ?_⟩
  · have hsame : (workspace.step env workspaceId (.stopOpening k)).pending = workspace.pending := by
      exact flatMap_modify (f := Opening.merges) (g := fun opening => { opening with point := .stopped })
        (fun _ => rfl) workspace.openings k
    rw [hsame]
    exact h.kept
  · have hfits := h.runs running hrun
    refine ⟨hfits.plan, hfits.late, fun hbegun opening hopen => ?_⟩
    rcases hmem opening hopen with hold | ⟨hstop, -⟩
    · exact hfits.alone hbegun opening hold
    · rw [Opening.isActive, hstop]
  · rcases hmem opening hopen with hold | ⟨hstop, hmerges⟩
    · exact h.opens opening hold
    · unfold Opening.Fits
      rw [hstop]
      exact hmerges

/-- **Every step that meets the condition keeps the files in step with the database.** -/
theorem TopicWorkspace.Sound.step (event : TopicEvent)
    (hguard : Undisturbed env workspace event = true) :
    ∃ rows', (workspace.step env workspaceId event).Sound workspaceId rows' := by
  cases event with
  | start operation time => exact ⟨rows, h.start operation time hguard⟩
  | advance time => exact h.advance time hguard
  | stop => exact ⟨rows, h.stop hguard⟩
  | publish topicIds => exact ⟨rows, h.publish topicIds⟩
  | openStore names => exact ⟨rows, h.openStore names hguard⟩
  | stopOpening k => exact ⟨rows, h.stopOpening k hguard⟩
  | advanceOpening k =>
    rw [Undisturbed, Bool.and_eq_true, Bool.not_eq_true'] at hguard
    by_cases hact : ∃ opening, workspace.openings[k]? = some opening ∧ opening.isActive = true
    · obtain ⟨opening, hk, hact⟩ := hact
      exact ⟨rows, (h.advanceOpening hk hact hguard.1 hguard.2).sound⟩
    · refine ⟨rows, (step_ended fun opening hk => ?_).symm ▸ h⟩
      exact eq_false_of_ne_true fun htrue => hact ⟨opening, hk, htrue⟩

theorem TopicWorkspace.Sound.reopens (event : TopicEvent)
    (hguard : Undisturbed env workspace event = true) : Reopens env workspaceId workspace event := by
  cases event with
  | advanceOpening k =>
    rintro opening hk hact opening' hk'
    rw [Undisturbed, Bool.and_eq_true, Bool.not_eq_true'] at hguard
    obtain ⟨next, hnext, -, -, hfail, -, hopened⟩ := (h.advanceOpening hk hact hguard.1 hguard.2).next
    rw [hnext] at hk'
    cases hk'
    exact ⟨hfail, hopened⟩
  | _ => trivial

/-- **An opening that goes on alone comes to its end.** -/
theorem TopicWorkspace.Sound.opens_alone
    (hk : workspace.openings[k]? = some opening) (hact : opening.isActive = true)
    (hbehind : workspace.isBehind = false) (honly : workspace.onlyMerges k = true) :
    ∃ n opening', (runSteps (TopicWorkspace.step env workspaceId) workspace
        (List.replicate n (.advanceOpening k))).openings[k]? = some opening' ∧ opening'.point = .opened ∧
      (runSteps (TopicWorkspace.step env workspaceId) workspace
        (List.replicate n (.advanceOpening k))).database.contents = opening.before := by
  induction hleft : opening.stepsLeft rows using Nat.strong_induction_on generalizing workspace opening with
  | _ left ih =>
    have hstep : OpeningStep env workspaceId workspace rows k opening := h.advanceOpening hk hact hbehind honly
    obtain ⟨next, hnext, hbef, hfewer, hfail, hstop, hopened⟩ := hstep.next
    cases hrun : next.isActive with
    | true =>
      obtain ⟨n, opening', hlast, hpoint, hcontents⟩ := ih (next.stepsLeft rows) (hleft ▸ hfewer) hstep.sound hnext
        hrun (hstep.behind.trans hbehind) hstep.only rfl
      refine ⟨n + 1, opening', hlast, hpoint, ?_⟩
      rw [← hbef]
      exact hcontents
    | false =>
      have hend : next.point = .opened := by
        unfold Opening.isActive at hrun
        split at hrun
        · assumption
        · rename_i error hpoint
          exact absurd hpoint (hfail error)
        · rename_i hpoint
          exact absurd hpoint hstop
        · cases hrun
      exact ⟨1, next, hnext, hend, hopened hend⟩

end

end Processes

/-! ## Every run -/

/-- The topics of a workspace between two operations. A topic may have no snapshot yet. -/
structure SavedTopics (workspaceId : Text) where
  database : Database
  files : JsMap Text Snapshot
  published : Text → Option Snapshot
  sees : Rows workspaceId database.topics
  keys : DetailKeys database
  written : ∀ id content, files.get? id = some content →
    ∃ row ∈ database.topics, row.id = id ∧ row.workspaceId = workspaceId.1 ∧ content = database.snapshotOf row
  unpublished : ∀ row ∈ database.topics, row.workspaceId = workspaceId.1 → files.get? row.id = none →
    published row.id = none

def SavedTopics.start {workspaceId : Text} (saved : SavedTopics workspaceId) : TopicWorkspace where
  database := saved.database
  files := saved.files
  published := saved.published

theorem SavedTopics.sound (saved : SavedTopics workspaceId) :
    saved.start.Sound workspaceId saved.database.topics where
  sees := saved.sees
  kept := by
    have hclear : ∀ row ∈ saved.database.topics, cleared [] row = id row := fun row _ => if_neg List.not_mem_nil
    refine ⟨?_, nofun, List.nodup_nil, saved.keys, fun id content hid => .inr (saved.written id content hid),
      saved.unpublished⟩
    show saved.database.topics = saved.database.topics.map (cleared [])
    rw [List.map_congr_left hclear, List.map_id]
  runs := nofun
  opens := nofun

/-- **A store of topics can always be opened, and opening it changes nothing**, in every run in which an
operation is not cut off between its first commit and its last file, no store is opened there, and the
openings that clear merges go on alone. After such a run a store that is opened comes to its end. -/
theorem reopens_of_undisturbed (env : TopicPlatform) (workspaceId : Text) (saved : SavedTopics workspaceId)
    (events : List TopicEvent)
    (h : RunMeets (TopicWorkspace.step env workspaceId) (fun workspace event => Undisturbed env workspace event = true)
      saved.start events) :
    RunMeets (TopicWorkspace.step env workspaceId) (Reopens env workspaceId) saved.start events ∧
      ∀ last, runSteps (TopicWorkspace.step env workspaceId) saved.start events = last →
        ∀ names, names.Perm last.files.keys → Undisturbed env last (.openStore names) = true →
          ∃ n opening, (runSteps (TopicWorkspace.step env workspaceId) last (.openStore names ::
              List.replicate n (.advanceOpening last.openings.length))).openings[last.openings.length]? = some opening ∧
            opening.point = .opened ∧ (runSteps (TopicWorkspace.step env workspaceId) last (.openStore names ::
              List.replicate n (.advanceOpening last.openings.length))).database.contents = last.database.contents := by
  have hstep : ∀ workspace event, (∃ rows, workspace.Sound workspaceId rows) → Undisturbed env workspace event = true →
      ∃ rows, (workspace.step env workspaceId event).Sound workspaceId rows := by
    rintro workspace event ⟨rows, hsound⟩ hguard
    exact hsound.step event hguard
  refine ⟨RunMeets.of_invariant hstep ?_ ⟨_, saved.sound⟩ h, ?_⟩
  · rintro workspace event ⟨rows, hsound⟩ hguard
    exact hsound.reopens event hguard
  · rintro last rfl names hperm hguard
    obtain ⟨rows, hsound⟩ := runSteps_invariant_of_meets hstep ⟨_, saved.sound⟩ h
    have hopened := hsound.openStore names hguard
    have hopen : ∀ workspace : TopicWorkspace, names.Perm workspace.files.keys →
        workspace.step env workspaceId (.openStore names) = { workspace with openings :=
          workspace.openings ++ [{ before := workspace.database.contents, point := .reading names }] } :=
      fun workspace hperm => if_pos hperm
    rw [Undisturbed, Bool.and_eq_true, Bool.not_eq_true'] at hguard
    rw [hopen _ hperm] at hopened
    obtain ⟨n, opening', hend⟩ := hopened.opens_alone (List.getElem?_concat_length) rfl hguard.1 (by
      rw [TopicWorkspace.onlyMerges, List.eraseIdx_append_of_length_le (Nat.le_refl _), Nat.sub_self]
      simpa using hguard.2)
    refine ⟨n, opening', ?_⟩
    rw [runSteps_cons, hopen _ hperm]
    exact hend

/-! ## A process that stops before the snapshot -/

def plainPlatform : TopicPlatform where
  toTopicEnv := plainEnv
  toLocaleUpperCase := id
  linkProblem _ _ := none

def noTopics (workspaceId : Text) : SavedTopics workspaceId where
  database := ⟨[], [], []⟩
  files := .empty
  published _ := none
  sees := ⟨⟨List.nodup_nil, nofun⟩, nofun, nofun, nofun⟩
  keys := ⟨List.nodup_nil, List.nodup_nil, List.Pairwise.nil⟩
  written := nofun
  unpublished := nofun

def topicOne : NewTopicId := ⟨⟨js "topic_1", by decide⟩, by decide⟩

def editedTopic : List TopicEvent := [
  .start (.create topicOne (js "parser") (js "the parser") none none none none) ⟨js "1", by decide⟩,
  .advance ⟨js "1", by decide⟩, .advance ⟨js "1", by decide⟩, .advance ⟨js "1", by decide⟩,
  .start (.updateOverview (js "parser") (js "it loops") []) ⟨js "2", by decide⟩,
  .advance ⟨js "2", by decide⟩]

/-- The process stops between the `UPDATE` and the snapshot, and a store is opened. -/
def stoppedEdit : List TopicEvent :=
  editedTopic ++ [.stop, .openStore [topicOne.1], .advanceOpening 0]

/-- The file still holds the topic as it was made. It is not published, and the opening refuses it. -/
theorem stopped_before_snapshot : ¬RunMeets (TopicWorkspace.step plainPlatform ⟨js "w", by decide⟩)
    (Reopens plainPlatform ⟨js "w", by decide⟩) (noTopics ⟨js "w", by decide⟩).start
    (stoppedEdit ++ [.advanceOpening 0]) := by
  intro h
  have hlast := RunMeets.last (l := stoppedEdit) (i := .advanceOpening 0) h
  have hactive : ((runSteps (TopicWorkspace.step plainPlatform ⟨js "w", by decide⟩)
      (noTopics ⟨js "w", by decide⟩).start stoppedEdit).openings[0]?.map (·.isActive)) = some true := by
    decide +kernel
  have hfailed : ((runSteps (TopicWorkspace.step plainPlatform ⟨js "w", by decide⟩)
      (noTopics ⟨js "w", by decide⟩).start (stoppedEdit ++ [.advanceOpening 0])).openings[0]?.map (·.point))
        = some (.failed (.snapshot (.edited topicOne.1))) := by
    decide +kernel
  obtain ⟨opening, hopening, hactive⟩ := Option.map_eq_some_iff.mp hactive
  obtain ⟨opening', hopening', hfailed⟩ := Option.map_eq_some_iff.mp hfailed
  rw [runSteps_append] at hopening'
  exact (hlast opening hopening hactive opening' hopening').1 _ hfailed

/-- Where the operation comes to its end, the store can be opened. -/
theorem reopens_editedTopic : RunMeets (TopicWorkspace.step plainPlatform ⟨js "w", by decide⟩)
    (Reopens plainPlatform ⟨js "w", by decide⟩) (noTopics ⟨js "w", by decide⟩).start
    (editedTopic ++ [.advance ⟨js "2", by decide⟩, .stop, .openStore [topicOne.1], .advanceOpening 0]) :=
  (reopens_of_undisturbed plainPlatform ⟨js "w", by decide⟩ (noTopics ⟨js "w", by decide⟩) _
    (by decide +kernel)).1

end Beale.Topics
