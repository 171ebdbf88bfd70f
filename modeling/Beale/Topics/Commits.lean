import Beale.Topics.Hydration

/-!
# What the commits of the operations keep

- `Statement.run_cases`: a commit changes rows in place, adds one or deletes one, and only of the topics
  it touches.
-/

namespace Beale.Topics

open Beale.Library
open Client (exceptBind_ok exceptGuard_ok)

/-! ## Rows of a topic -/

section Sorting

variable {α : Type} (topicId : α → Text) (r : α → α → Prop) [DecidableRel r] [IsTrans α r] [Std.Total r]

/-- The rows of a topic in the order in which they are read. -/
def rowsOf (rows : List α) (id : Text) : List α :=
  (rows.filter fun row => topicId row = id).insertionSort r

variable {topicId r}

variable {rows : List α}

omit [IsTrans α r] [Std.Total r] in
theorem mem_rowsOf {id : Text} {row : α} :
    row ∈ rowsOf topicId r rows id ↔ row ∈ rows ∧ topicId row = id := by
  rw [rowsOf, List.mem_insertionSort, List.mem_filter, decide_eq_true_eq]

omit [IsTrans α r] [Std.Total r] in
/-- The rows of a topic, put behind the others. -/
theorem replaceRows_perm (rows : List α) (id : Text) :
    (rows.filter (fun row => topicId row ≠ id) ++ rowsOf topicId r rows id).Perm rows := by
  have hsort := List.perm_insertionSort r (rows.filter fun row => topicId row = id)
  have hsplit := List.filter_append_perm (fun row => decide (topicId row = id)) rows
  refine ((hsort.append_left _).trans List.perm_append_comm).trans ?_
  simpa using hsplit

/-- Rows that are put in place of themselves are read as before. -/
theorem rowsOf_replaceRows (rows : List α) (id x : Text) :
    rowsOf topicId r (rows.filter (fun row => topicId row ≠ id) ++ rowsOf topicId r rows id) x
      = rowsOf topicId r rows x := by
  rw [rowsOf, List.filter_append, List.filter_filter]
  by_cases hx : x = id
  · subst hx
    have hnone : (rows.filter fun row => decide (topicId row = x) && decide (topicId row ≠ x)) = [] := by
      refine List.filter_eq_nil_iff.mpr fun row _ h => ?_
      simp only [ne_eq, decide_not, Bool.and_eq_true, decide_eq_true_eq, Bool.not_eq_true',
        decide_eq_false_iff_not] at h
      exact h.2 h.1
    have hall : (rowsOf topicId r rows x).filter (fun row => topicId row = x) = rowsOf topicId r rows x :=
      List.filter_eq_self.mpr fun row hrow => decide_eq_true (mem_rowsOf.mp hrow).2
    rw [hnone, hall, List.nil_append]
    exact (List.pairwise_insertionSort r _).insertionSort_eq
  · have hsame : (rows.filter fun row => decide (topicId row = x) && decide (topicId row ≠ id))
        = rows.filter fun row => topicId row = x := by
      refine List.filter_congr fun row _ => ?_
      by_cases hrow : topicId row = x
      · simp [hrow, hx]
      · simp [hrow]
    have hnone : (rowsOf topicId r rows id).filter (fun row => topicId row = x) = [] := by
      refine List.filter_eq_nil_iff.mpr fun row hrow h => hx ?_
      exact (of_decide_eq_true h).symm.trans (mem_rowsOf.mp hrow).2
    rw [hsame, hnone, List.append_nil]
    rfl

variable {x : Text}

omit [IsTrans α r] [Std.Total r] in
theorem rowsOf_append {row : α} (h : topicId row ≠ x) :
    rowsOf topicId r (rows ++ [row]) x = rowsOf topicId r rows x := by
  rw [rowsOf, List.filter_append, List.filter_cons_of_neg (by simpa using h), List.filter_nil,
    List.append_nil]
  rfl

omit [IsTrans α r] [Std.Total r] in
theorem rowsOf_map {f : α → α} (hkey : ∀ row, topicId (f row) = topicId row)
    (hsame : ∀ row, topicId row = x → f row = row) :
    rowsOf topicId r (rows.map f) x = rowsOf topicId r rows x := by
  have hmap : (rows.map f).filter (fun row => topicId row = x) = rows.filter fun row => topicId row = x := by
    induction rows with
    | nil => rfl
    | cons row rest ih =>
      rw [List.map_cons]
      by_cases hrow : topicId row = x
      · rw [List.filter_cons_of_pos (by simp [hkey, hrow]), List.filter_cons_of_pos (by simp [hrow]), ih,
          hsame row hrow]
      · rw [List.filter_cons_of_neg (by simp [hkey, hrow]), List.filter_cons_of_neg (by simp [hrow]), ih]
  rw [rowsOf, hmap]
  rfl

omit [IsTrans α r] [Std.Total r] in
theorem rowsOf_filter {p : α → Bool} (hkeep : ∀ row, topicId row = x → p row = true) :
    rowsOf topicId r (rows.filter p) x = rowsOf topicId r rows x := by
  rw [rowsOf, List.filter_filter]
  have hsame : (rows.filter fun row => decide (topicId row = x) && p row)
      = rows.filter fun row => topicId row = x := by
    refine List.filter_congr fun row _ => ?_
    by_cases hrow : topicId row = x
    · simp [hrow, hkeep row hrow]
    · simp [hrow]
  rw [hsame]
  rfl

end Sorting

/-! ## Rows that are read as they are stored -/

/-- The texts that a reader trims are trimmed. -/
theorem decodeTopic_eq_self {row : Topic} : decodeTopic row = row ↔
    optionalText row.createdBySessionId = row.createdBySessionId ∧
      optionalText row.archivedAt = row.archivedAt := by
  constructor
  · intro h
    exact ⟨congrArg Topic.createdBySessionId h, congrArg Topic.archivedAt h⟩
  · rintro ⟨hsess, harchived⟩
    rw [decodeTopic, hsess, harchived]

/-- Rows with a text of an `archived_at` that is trimmed are read as they are stored. -/
theorem decodeTopic_edited {f : Topic → Topic} {rows : List Topic}
    (hnorm : ∀ row ∈ rows, decodeTopic row = row)
    (hsess : ∀ row, (f row).createdBySessionId = row.createdBySessionId)
    (harchived : ∀ row, (f row).archivedAt = row.archivedAt ∨
      optionalText (f row).archivedAt = (f row).archivedAt) :
    ∀ row ∈ rows.map f, decodeTopic row = row := by
  rintro row hrow
  obtain ⟨old, hold, rfl⟩ := List.mem_map.mp hrow
  obtain ⟨hold1, hold2⟩ := decodeTopic_eq_self.mp (hnorm old hold)
  refine decodeTopic_eq_self.mpr ⟨by rw [hsess, hold1], ?_⟩
  rcases harchived old with heq | heq
  · rw [heq, hold2]
  · exact heq

theorem optionalText_idem (value : Option JsString) : optionalText (optionalText value) = optionalText value := by
  rw [optionalText, optionalText]
  cases h : value.bind textOf? with
  | none => rfl
  | some text =>
    rw [Option.map_some, Option.bind_some, textOf?_text]
    rfl

/-! ## Keys of pages and links -/

structure DetailKeys (db : Database) : Prop where
  pages : (db.pages.map (·.id)).Nodup
  links : (db.links.map (·.id)).Nodup
  resources : db.links.Pairwise (¬Link.SameResource · ·)

theorem Link.SameResource.symm {a b : Link} (h : a.SameResource b) : b.SameResource a :=
  ⟨h.1.symm, h.2.1.symm, h.2.2.symm⟩

/-- The pages and links of these topics are read alike. -/
def SameDetails (db db' : Database) (id : Text) : Prop :=
  db'.pagesOf id = db.pagesOf id ∧ db'.linksOf id = db.linksOf id

theorem SameDetails.snapshotOf {db db' : Database} {row : Topic} (h : SameDetails db db' row.id) :
    db'.snapshotOf row = db.snapshotOf row := by
  rw [Database.snapshotOf, Database.snapshotOf, h.1, h.2]

/-- A row with a new identifier, and no other change. -/
theorem ids_append {α : Type} {id : α → Text} {rows : List α} {row : α} (h : (rows.map id).Nodup)
    (hfresh : ∀ other ∈ rows, id other ≠ id row) : ((rows ++ [row]).map id).Nodup := by
  rw [List.map_append, List.nodup_append]
  refine ⟨h, List.nodup_singleton _, ?_⟩
  rintro a ha b hb rfl
  obtain ⟨other, hother, hsame⟩ := List.mem_map.mp ha
  rw [List.map_singleton, List.mem_singleton] at hb
  exact hfresh other hother (hsame.trans hb)

theorem ids_map {α : Type} {id : α → Text} {rows : List α} {f : α → α} (h : (rows.map id).Nodup)
    (hf : ∀ row, id (f row) = id row) : ((rows.map f).map id).Nodup := by
  rw [List.map_map, show id ∘ f = id from funext hf]
  exact h

namespace Statement

variable {env : TopicEnv} {time : JsString} {db db' : Database} {statement : Statement}

/-- The tables that a statement leaves as they are. -/
def Frame (db db' : Database) : Statement → Prop
  | .insertPage _ | .updatePage .. | .deletePage .. => db'.topics = db.topics ∧ db'.links = db.links
  | .putLink _ | .deleteLink .. => db'.topics = db.topics ∧ db'.pages = db.pages
  | .delete .. => True
  | _ => db'.pages = db.pages ∧ db'.links = db.links

theorem run_frame (h : statement.run env time db = .ok db') : Frame db db' statement := by
  cases statement with
  | delete topic id => trivial
  | touch | merge =>
    obtain ⟨topics, -, h⟩ := exceptBind_ok.mp h
    cases h
    exact ⟨rfl, rfl⟩
  | _ =>
    rw [run] at h
    repeat' split at h
    all_goals cases h
    all_goals exact ⟨rfl, rfl⟩

/-- A commit to the other tables. -/
theorem pages_same (hkeys : DetailKeys db) (h : db'.pages = db.pages) : (db'.pages.map (·.id)).Nodup ∧
    ∀ id, id ∉ statement.touched → db'.pagesOf id = db.pagesOf id := by
  refine ⟨by rw [h]; exact hkeys.pages, fun id _ => ?_⟩
  rw [Database.pagesOf, h, Database.pagesOf]

theorem run_pages (hkeys : DetailKeys db) (h : statement.run env time db = .ok db') :
    (db'.pages.map (·.id)).Nodup ∧
      ∀ id, id ∉ statement.touched → db'.pagesOf id = db.pagesOf id := by
  cases statement with
  | insertPage page =>
    rw [run] at h
    split at h
    · cases h
    · rename_i hfresh
      split at h
      · cases h
      · cases h
        refine ⟨ids_append hkeys.pages fun other hother hsame => ?_, fun id hid => rowsOf_append fun heq => ?_⟩
        · exact hfresh (List.any_eq_true.mpr ⟨other, hother, decide_eq_true hsame⟩)
        · exact hid (by rw [touched, ← heq]; exact List.mem_singleton_self _)
  | updatePage pageId topicId title content updatedAt =>
    cases h
    refine ⟨ids_map hkeys.pages fun page => by unfold withContent; split <;> rfl, fun id hid => ?_⟩
    refine rowsOf_map (fun page => by unfold withContent; split <;> rfl) fun page hpage => ?_
    refine if_neg fun heq => hid ?_
    rw [touched, ← hpage, heq.2]
    exact List.mem_singleton_self _
  | deletePage pageId topicId =>
    rw [run] at h
    split at h
    · cases h
      refine ⟨(List.filter_sublist.map _).nodup hkeys.pages, fun id hid => rowsOf_filter fun page hpage => ?_⟩
      refine decide_eq_true fun heq => hid ?_
      rw [touched, ← hpage, heq.2]
      exact List.mem_singleton_self _
    · cases h
  | delete topic id =>
    obtain ⟨topics, -, h⟩ := exceptBind_ok.mp h
    cases h
    refine ⟨(List.filter_sublist.map _).nodup hkeys.pages, fun x hx => rowsOf_filter fun page hpage => ?_⟩
    refine decide_eq_true fun heq => hx ?_
    rw [touched, ← hpage, heq]
    exact List.mem_singleton_self _
  | putLink | deleteLink => exact pages_same hkeys (run_frame h).2
  | _ => exact pages_same hkeys (run_frame h).1

structure KeepsLinks (statement : Statement) (db : Database) (links : List Link) : Prop where
  ids : (links.map (·.id)).Nodup
  resources : links.Pairwise (¬Link.SameResource · ·)
  others : ∀ id, id ∉ statement.touched →
    rowsOf Link.topicId Link.Before links id = rowsOf Link.topicId Link.Before db.links id

theorem KeepsLinks.same (hkeys : DetailKeys db) : KeepsLinks statement db db.links :=
  ⟨hkeys.links, hkeys.resources, fun _ _ => rfl⟩

theorem KeepsLinks.filtered (hkeys : DetailKeys db) {p : Link → Bool}
    (hp : ∀ link, p link = false → link.topicId ∈ statement.touched) :
    KeepsLinks statement db (db.links.filter p) where
  ids := (List.filter_sublist.map _).nodup hkeys.links
  resources := hkeys.resources.sublist List.filter_sublist
  others id hid := rowsOf_filter fun link hlink => by
    cases hkeep : p link with
    | true => rfl
    | false => exact absurd (hlink ▸ hp link hkeep) hid

theorem withTitle_sameResource (link a b : Link) :
    (withTitle link a).SameResource (withTitle link b) ↔ a.SameResource b := by
  have hkeep : ∀ other, (withTitle link other).topicId = other.topicId ∧
      (withTitle link other).kind = other.kind ∧ (withTitle link other).resourceId = other.resourceId :=
    fun other => by unfold withTitle; split <;> exact ⟨rfl, rfl, rfl⟩
  rw [Link.SameResource, Link.SameResource, (hkeep a).1, (hkeep a).2.1, (hkeep a).2.2, (hkeep b).1,
    (hkeep b).2.1, (hkeep b).2.2]

theorem run_links (hkeys : DetailKeys db) (h : statement.run env time db = .ok db') :
    KeepsLinks statement db db'.links := by
  cases statement with
  | putLink link =>
    rw [run] at h
    split at h
    · cases h
      refine ⟨ids_map hkeys.links fun other => by unfold withTitle; split <;> rfl, ?_, fun id hid => ?_⟩
      · refine List.pairwise_map.mpr (hkeys.resources.imp fun hab hsame => hab ?_)
        exact (withTitle_sameResource link _ _).mp hsame
      · refine rowsOf_map (fun other => by unfold withTitle; split <;> rfl) fun other hother => ?_
        refine if_neg fun heq => hid ?_
        rw [touched, ← hother, heq.1]
        exact List.mem_singleton_self _
    · rename_i hrsrc
      split at h
      · cases h
      · rename_i hfresh
        split at h
        · cases h
        · cases h
          refine ⟨ids_append hkeys.links fun other hother hsame => ?_, ?_, fun id hid => ?_⟩
          · exact hfresh (List.any_eq_true.mpr ⟨other, hother, decide_eq_true hsame⟩)
          · refine List.pairwise_append.mpr ⟨hkeys.resources, List.pairwise_singleton _ _, ?_⟩
            rintro a ha b hb hsame
            rw [List.mem_singleton] at hb
            subst hb
            exact hrsrc (List.any_eq_true.mpr ⟨a, ha, decide_eq_true hsame⟩)
          · exact rowsOf_append fun heq => hid (by rw [touched, ← heq]; exact List.mem_singleton_self _)
  | deleteLink linkId topicId =>
    rw [run] at h
    split at h
    · cases h
      refine .filtered hkeys fun link hlink => ?_
      have heq := of_not_not (of_decide_eq_false hlink)
      rw [touched, heq.2]
      exact List.mem_singleton_self _
    · cases h
  | delete topic id =>
    obtain ⟨topics, -, h⟩ := exceptBind_ok.mp h
    cases h
    refine .filtered hkeys fun link hlink => ?_
    rw [touched, of_not_not (of_decide_eq_false hlink)]
    exact List.mem_singleton_self _
  | _ => rw [(run_frame h).2]; exact .same hkeys

/-- **A commit keeps the keys of pages and links, and the details of the topics it does not touch.** -/
theorem run_details (hkeys : DetailKeys db) (h : statement.run env time db = .ok db') :
    DetailKeys db' ∧ ∀ id, id ∉ statement.touched → SameDetails db db' id := by
  have hpages := run_pages hkeys h
  have hlinks := run_links hkeys h
  exact ⟨⟨hpages.1, hlinks.ids, hlinks.resources⟩, fun id hid => ⟨hpages.2 id hid, hlinks.others id hid⟩⟩

/-! ## The topics after a commit -/

/-- Whether a statement is about a page or a link. -/
def isDetail : Statement → Bool
  | .insertPage _ | .updatePage .. | .deletePage .. | .putLink _ | .deleteLink .. => true
  | _ => false

theorem run_detail (hdetail : statement.isDetail = true) (h : statement.run env time db = .ok db') :
    db'.topics = db.topics := by
  cases statement with
  | insertPage | updatePage | deletePage | putLink | deleteLink => exact (run_frame h).1
  | _ => cases hdetail

inductive Effect (statement : Statement) (rows rows' : List Topic) : Prop where
  | edits (f : Topic → Topic) (hkeeps : KeepsKeys f) (hsame : ∀ row, row.id ∉ statement.touched → f row = row)
      (heq : rows' = rows.map f) (hnew : ∀ topic, statement ≠ .insertTopic topic)
      (hdelete : ∀ name id, statement ≠ .delete name id)
  | adds (topic : Topic) (hstatement : statement = .insertTopic topic) (heq : rows' = rows ++ [topic])
      (hid : ∀ row ∈ rows, row.id ≠ topic.id)
      (hname : ∀ row ∈ rows, row.workspaceId = topic.workspaceId → row.name ≠ topic.name)
  | deletes (name : JsString) (id : Text) (hstatement : statement = .delete name id)
      (heq : rows' = rows.filter fun row => row.id ≠ id) (hfree : hasDependents rows id = false)

/-- A commit to the other tables. -/
theorem Effect.unchanged {rows : List Topic} (hnew : ∀ topic, statement ≠ .insertTopic topic)
    (hdelete : ∀ name id, statement ≠ .delete name id) : Effect statement rows rows :=
  .edits id ⟨fun _ => rfl, fun _ => rfl, fun _ => rfl⟩ (fun _ _ => rfl) (List.map_id _).symm hnew hdelete

theorem run_cases (h : statement.run env time db = .ok db') : Effect statement db.topics db'.topics := by
  cases statement with
  | insertTopic topic =>
    rw [run] at h
    split at h
    · cases h
    · rename_i hfresh
      cases h
      have hrow : ∀ row ∈ db.topics, row.id ≠ topic.id ∧
          (row.workspaceId = topic.workspaceId → row.name ≠ topic.name) := by
        intro row hrow
        have hneg := fun hany => hfresh (List.any_eq_true.mpr ⟨row, hrow, hany⟩)
        simp only [Bool.or_eq_true, Bool.and_eq_true, decide_eq_true_eq] at hneg
        exact ⟨fun hid => hneg (.inl hid), fun hws hname => hneg (.inr ⟨hws, hname⟩)⟩
      exact .adds topic rfl rfl (fun row h => (hrow row h).1) fun row h => (hrow row h).2
  | setOverview id overview updatedAt =>
    cases h
    refine .edits (withOverview id overview updatedAt) ⟨?_, ?_, ?_⟩ (fun row hrow => if_neg fun heq => ?_) rfl
      (by simp) (by simp)
    · intro row; unfold withOverview; split <;> rfl
    · intro row; unfold withOverview; split <;> rfl
    · intro row; unfold withOverview; split <;> rfl
    · exact hrow (by rw [touched, heq]; exact List.mem_singleton_self _)
  | insertPage | updatePage | deletePage | putLink | deleteLink => rw [run_detail rfl h]; exact .unchanged (by simp) (by simp)
  | touch id updatedAt =>
    obtain ⟨topics, htouch, h⟩ := exceptBind_ok.mp h
    cases h
    obtain ⟨stamp, rfl⟩ := touchTopic_cases htouch
    refine .edits (stamped id stamp) (stamped_keepsKeys _ _) (fun row hrow => if_neg fun heq => ?_) rfl
      (by simp) (by simp)
    exact hrow (by rw [touched, heq]; exact List.mem_singleton_self _)
  | merge workspaceId source target now =>
    obtain ⟨topics, hmerge, h⟩ := exceptBind_ok.mp h
    cases h
    obtain ⟨-, -, stamp, rfl⟩ := mergeTransaction_cases hmerge
    refine .edits (stamped target.id stamp ∘ merged source.id target.id now) ⟨?_, ?_, ?_⟩ (fun row hrow => ?_)
      List.map_map (by simp) (by simp)
    · exact fun row => ((stamped_keepsKeys _ _).id _).trans ((merged_keepsKeys _ _ _).id row)
    · exact fun row => ((stamped_keepsKeys _ _).workspaceId _).trans ((merged_keepsKeys _ _ _).workspaceId row)
    · exact fun row => ((stamped_keepsKeys _ _).name _).trans ((merged_keepsKeys _ _ _).name row)
    · rw [touched, List.mem_cons, List.mem_singleton, not_or] at hrow
      rw [Function.comp, merged, if_neg hrow.1, stamped, if_neg hrow.2]
  | unmerge id workspaceId now =>
    cases h
    refine .edits (unmerged id workspaceId now) (unmerged_keepsKeys _ _ _) (fun row hrow => if_neg fun heq => ?_)
      rfl (by simp) (by simp)
    exact hrow (by rw [touched, heq.1]; exact List.mem_singleton_self _)
  | setArchived id archivedAt =>
    cases h
    refine .edits (withArchived id archivedAt) (withArchived_keepsKeys _ _) (fun row hrow => if_neg fun heq => ?_)
      rfl (by simp) (by simp)
    exact hrow (by rw [touched, heq]; exact List.mem_singleton_self _)
  | delete name id =>
    obtain ⟨topics, hdelete, h⟩ := exceptBind_ok.mp h
    cases h
    rw [deleteTopic] at hdelete
    split at hdelete
    · cases hdelete
    · split at hdelete
      · cases hdelete
      · rename_i hfree
        cases hdelete
        exact .deletes name id rfl rfl (eq_false_of_ne_true hfree)

variable {rows rows' : List Topic}

section

variable (h : Effect statement rows rows')
include h

theorem Effect.keyed (hkeyed : Keyed rows) : Keyed rows' := by
  cases h with
  | edits f hkeeps _ heq => exact heq ▸ hkeeps.keyed hkeyed
  | adds topic _ heq hid hname =>
    subst heq
    refine ⟨ids_append hkeyed.ids hid, ?_⟩
    rintro a ha b hb hws hsame
    rcases List.mem_append.mp ha with ha | ha <;> rcases List.mem_append.mp hb with hb | hb
    · exact hkeyed.names a ha b hb hws hsame
    · rw [List.mem_singleton.mp hb] at hws hsame
      exact absurd hsame (hname a ha hws)
    · rw [List.mem_singleton.mp ha] at hws hsame
      exact absurd hsame.symm (hname b hb hws.symm)
    · rw [List.mem_singleton.mp ha, List.mem_singleton.mp hb]
  | deletes name id _ heq =>
    subst heq
    exact ⟨(List.filter_sublist.map _).nodup hkeyed.ids, fun a ha b hb =>
      hkeyed.names a (List.mem_of_mem_filter ha) b (List.mem_of_mem_filter hb)⟩

theorem Effect.untouched {row : Topic} (hrow : row.id ∉ statement.touched) :
    row ∈ rows' ↔ row ∈ rows := by
  cases h with
  | edits f hkeeps hsame heq =>
    subst heq
    constructor
    · intro hmem
      obtain ⟨old, hold, rfl⟩ := List.mem_map.mp hmem
      rw [hkeeps.id] at hrow
      rwa [hsame old hrow]
    · exact fun hmem => List.mem_map.mpr ⟨row, hmem, hsame row hrow⟩
  | adds topic hstatement heq =>
    subst heq hstatement
    rw [List.mem_append, List.mem_singleton]
    refine or_iff_left fun heq => hrow ?_
    rw [touched, heq]
    exact List.mem_singleton_self _
  | deletes name id hstatement heq =>
    subst heq hstatement
    rw [List.mem_filter]
    refine and_iff_left (decide_eq_true fun heq => hrow ?_)
    rw [touched, heq]
    exact List.mem_singleton_self _

theorem Effect.kept {row : Topic} (hrow : row ∈ rows)
    (hkeep : ∀ name, statement ≠ .delete name row.id) :
    ∃ row' ∈ rows', row'.id = row.id ∧ row'.workspaceId = row.workspaceId := by
  cases h with
  | edits f hkeeps _ heq =>
    subst heq
    exact ⟨f row, List.mem_map_of_mem hrow, hkeeps.id row, hkeeps.workspaceId row⟩
  | adds topic _ heq =>
    subst heq
    exact ⟨row, List.mem_append_left _ hrow, rfl, rfl⟩
  | deletes name id hstatement heq =>
    subst heq
    refine ⟨row, List.mem_filter.mpr ⟨hrow, decide_eq_true fun heq => hkeep name ?_⟩, rfl, rfl⟩
    rw [hstatement, heq]

theorem Effect.known {row' : Topic} (hrow : row' ∈ rows') :
    (∃ row ∈ rows, row.id = row'.id ∧ row.workspaceId = row'.workspaceId) ∨ statement = .insertTopic row' := by
  cases h with
  | edits f hkeeps _ heq =>
    subst heq
    obtain ⟨row, hmem, rfl⟩ := List.mem_map.mp hrow
    exact .inl ⟨row, hmem, (hkeeps.id row).symm, (hkeeps.workspaceId row).symm⟩
  | adds topic hstatement heq =>
    subst heq
    rcases List.mem_append.mp hrow with hmem | hmem
    · exact .inl ⟨row', hmem, rfl, rfl⟩
    · rw [List.mem_singleton.mp hmem]
      exact .inr hstatement
  | deletes name id _ heq =>
    subst heq
    exact .inl ⟨row', List.mem_of_mem_filter hrow, rfl, rfl⟩

end

/-! ## The merges after a commit -/

/-- What the reads of an operation have found out for its first commit. -/
def Ready (workspaceId : Text) (rows : List Topic) (unused : Text → Prop) : Statement → Prop
  | .insertTopic topic => decodeTopic topic = topic ∧ topic.mergedIntoTopicId = none ∧
      topic.workspaceId = workspaceId.1 ∧ isSafeTopicId topic.id.1 = true ∧ unused topic.id
  | .merge _ source target now => source.id ≠ target.id ∧ hasDependents rows source.id = false ∧
      optionalText (some now) = some now
  | .setArchived id archivedAt => (archivedAt = none ∨ hasDependents rows id = false) ∧
      optionalText archivedAt = archivedAt
  | _ => True

variable {workspaceId : Text} {unused : Text → Prop}

/-- **After a commit that is ready, every merge has an active target.** -/
theorem run_forest (hkeyed : Keyed db.topics) (htree : Forest db.topics)
    (hready : statement.Ready workspaceId db.topics unused) (h : statement.run env time db = .ok db') :
    Forest db'.topics := by
  cases statement with
  | insertTopic topic =>
    rw [run] at h
    split at h
    · cases h
    · cases h
      rintro source hsrc target htgt
      rcases List.mem_append.mp hsrc with hsrc | hsrc
      · obtain ⟨found, hfound, hrest⟩ := htree source hsrc target htgt
        exact ⟨found, List.mem_append_left _ hfound, hrest⟩
      · rw [List.mem_singleton.mp hsrc, hready.2.1] at htgt
        cases htgt
  | setOverview id overview updatedAt =>
    cases h
    have hkeeps : KeepsKeys (withOverview id overview updatedAt) :=
      ⟨fun row => by unfold withOverview; split <;> rfl, fun row => by unfold withOverview; split <;> rfl,
        fun row => by unfold withOverview; split <;> rfl⟩
    refine hkeeps.forest htree (fun row _ target htgt => .inl ?_) fun row _ hact _ => ?_
    · rw [withOverview] at htgt
      split at htgt <;> exact htgt
    · rw [withOverview]
      split <;> exact hact
  | touch id updatedAt =>
    obtain ⟨topics, htouch, h⟩ := exceptBind_ok.mp h
    cases h
    obtain ⟨stamp, rfl⟩ := touchTopic_cases htouch
    exact stamped_forest id stamp htree
  | merge workspaceId source target now =>
    obtain ⟨topics, hmerge, h⟩ := exceptBind_ok.mp h
    cases h
    exact (mergeTransaction_forest_iff hkeyed htree hready.1 hmerge).mpr hready.2.1
  | unmerge id workspaceId now =>
    cases h
    exact unmerged_forest id workspaceId now htree
  | setArchived id archivedAt =>
    cases h
    refine (withArchived_forest_iff htree id archivedAt).mpr (hready.1.imp_left fun hnone => ?_)
    rw [hnone]
    rfl
  | delete name id =>
    obtain ⟨topics, hdelete, h⟩ := exceptBind_ok.mp h
    cases h
    exact (deleteTopic_keeps hkeyed htree hdelete).2
  | insertPage | updatePage | deletePage | putLink | deleteLink => rw [run_detail rfl h]; exact htree

/-- A commit that is ready leaves rows that are read as they are stored. -/
theorem run_normal (hnorm : ∀ row ∈ db.topics, decodeTopic row = row)
    (hready : statement.Ready workspaceId db.topics unused) (h : statement.run env time db = .ok db') :
    ∀ row ∈ db'.topics, decodeTopic row = row := by
  cases statement with
  | insertTopic topic =>
    rw [run] at h
    split at h
    · cases h
    · cases h
      rintro row hrow
      rcases List.mem_append.mp hrow with hrow | hrow
      · exact hnorm row hrow
      · rw [List.mem_singleton.mp hrow]
        exact hready.1
  | setOverview id overview updatedAt =>
    cases h
    exact decodeTopic_edited hnorm (fun row => by unfold withOverview; split <;> rfl)
      fun row => .inl (by unfold withOverview; split <;> rfl)
  | touch id updatedAt =>
    obtain ⟨topics, htouch, h⟩ := exceptBind_ok.mp h
    cases h
    obtain ⟨stamp, rfl⟩ := touchTopic_cases htouch
    exact decodeTopic_edited hnorm (fun row => by unfold stamped; split <;> rfl)
      fun row => .inl (by unfold stamped; split <;> rfl)
  | merge workspaceId source target now =>
    obtain ⟨topics, hmerge, h⟩ := exceptBind_ok.mp h
    cases h
    obtain ⟨-, -, stamp, rfl⟩ := mergeTransaction_cases hmerge
    have hmerged : ∀ row ∈ db.topics.map (merged source.id target.id now), decodeTopic row = row := by
      refine decodeTopic_edited hnorm (fun row => by unfold merged; split <;> rfl) fun row => ?_
      unfold merged
      split
      · exact .inr hready.2.2
      · exact .inl rfl
    exact decodeTopic_edited hmerged (fun row => by unfold stamped; split <;> rfl)
      fun row => .inl (by unfold stamped; split <;> rfl)
  | unmerge id workspaceId now =>
    cases h
    refine decodeTopic_edited hnorm (fun row => by unfold unmerged; split <;> rfl) fun row => ?_
    unfold unmerged
    split
    · exact .inr rfl
    · exact .inl rfl
  | setArchived id archivedAt =>
    cases h
    refine decodeTopic_edited hnorm (fun row => by unfold withArchived; split <;> rfl) fun row => ?_
    unfold withArchived
    split
    · exact .inr hready.2
    · exact .inl rfl
  | delete name id =>
    obtain ⟨topics, hdelete, h⟩ := exceptBind_ok.mp h
    cases h
    rw [deleteTopic] at hdelete
    split at hdelete
    · cases hdelete
    · split at hdelete
      · cases hdelete
      · cases hdelete
        exact fun row hrow => hnorm row (List.mem_of_mem_filter hrow)
  | insertPage | updatePage | deletePage | putLink | deleteLink => rw [run_detail rfl h]; exact hnorm

end Statement

/-! ## The plans -/

section Plans

variable {env : TopicPlatform} {workspaceId : Text} {db : Database} {time : Text} {rows : List Topic}

/-- A file write of an operation is about a topic that there is after its commits, or not. -/
def FileWrite.Aims (workspaceId : Text) (statements : List Statement) (rows : List Topic) : FileWrite → Prop
  | .snapshot id => (∀ name, .delete name id ∉ statements) ∧
      ((∃ row ∈ rows, row.id = id ∧ row.workspaceId = workspaceId.1) ∨
        ∃ topic, .insertTopic topic ∈ statements ∧ topic.id = id ∧ topic.workspaceId = workspaceId.1)
  | .remove id => (∀ statement ∈ statements, ∃ name, statement = .delete name id) ∧
      (statements = [] → ∀ row ∈ rows, row.id ≠ id)

/-- A plan writes the files of all the topics it touches, and its first commit is ready. -/
structure Plan.Fits (workspaceId : Text) (rows : List Topic) (unused : Text → Prop) (plan : Plan) : Prop where
  covers : ∀ statement ∈ plan.statements, ∀ id ∈ statement.touched, ∃ write ∈ plan.writes, write.topicId = id
  ready : ∀ statement ∈ plan.statements.head?, statement.Ready workspaceId rows unused
  touches : ∀ statement ∈ plan.statements.tail, ∃ id updatedAt, statement = .touch id updatedAt
  aims : ∀ write ∈ plan.writes, write.Aims workspaceId plan.statements rows

variable {record : Topic}

theorem resolveWithin_mem {env : TopicEnv} {workspaceId identifier : JsString} {steps : Nat}
    (h : resolveWithin env rows workspaceId steps identifier = .ok (some record)) :
    ∃ row ∈ rows, record = decodeTopic row ∧ row.workspaceId = workspaceId := by
  induction steps generalizing identifier with
  | zero => cases h
  | succ steps ih =>
    rw [resolveWithin] at h
    split at h
    · cases h
    · rename_i row hselect
      have hrow := selectTopic_mem hselect
      split at h
      · split at h
        · exact ih h
        · cases h
          exact ⟨row, hrow.1, rfl, hrow.2⟩
      · cases h
        exact ⟨row, hrow.1, rfl, hrow.2⟩

theorem Database.require_ok {env : TopicEnv} {workspaceId topic : JsString}
    (hnorm : ∀ row ∈ db.topics, decodeTopic row = row) (h : db.require env workspaceId topic = .ok record) :
    record ∈ db.topics ∧ record.workspaceId = workspaceId := by
  obtain ⟨found, hfound, h⟩ := exceptBind_ok.mp h
  cases found with
  | none => cases h
  | some record' =>
    cases h
    obtain ⟨identifier, -, hresolve⟩ := exceptBind_ok.mp hfound
    obtain ⟨row, hrow, rfl, hws⟩ := resolveWithin_mem hresolve
    rw [hnorm row hrow]
    exact ⟨hrow, hws⟩

theorem nextTimestamp_text {env : TopicEnv} {previous stamp : JsString}
    (h : nextTimestamp env previous time.1 = .ok stamp) : optionalText (some stamp) = some stamp := by
  rw [nextTimestamp] at h
  split at h
  · cases h
    rw [optionalText, Option.bind_some, textOf?_text]
    rfl
  · split at h
    · split at h
      · cases h
        rename_i t _ _
        obtain ⟨text, htext, hof⟩ := textOf?_toISOString (t + 1)
        rw [optionalText, Option.bind_some, hof, ← htext]
        rfl
      · cases h
    · cases h

variable {unused : Text → Prop}

/-- An operation on one topic. -/
theorem Plan.fits_one {statements : List Statement}
    (hrec : record ∈ rows ∧ record.workspaceId = workspaceId.1)
    (htouched : ∀ statement ∈ statements, statement.touched = [record.id])
    (hready : ∀ statement ∈ statements.head?, statement.Ready workspaceId rows unused)
    (htouches : ∀ statement ∈ statements.tail, ∃ id updatedAt, statement = .touch id updatedAt)
    (hkeep : ∀ name, .delete name record.id ∉ statements) :
    Plan.Fits workspaceId rows unused ⟨statements, [.snapshot record.id]⟩ where
  covers statement hstatement id hid := by
    rw [htouched statement hstatement, List.mem_singleton] at hid
    exact ⟨.snapshot record.id, List.mem_singleton_self _, hid.symm⟩
  ready := hready
  touches := htouches
  aims write hwrite := by
    rw [List.mem_singleton.mp hwrite]
    exact ⟨hkeep, .inl ⟨record, hrec.1, rfl, hrec.2⟩⟩

variable {statement : Statement}

/-- An operation of one statement. -/
theorem Plan.fits_single (hrec : record ∈ rows ∧ record.workspaceId = workspaceId.1)
    (htouched : statement.touched = [record.id]) (hready : statement.Ready workspaceId rows unused)
    (hkeep : ∀ name, .delete name record.id ≠ statement) :
    Plan.Fits workspaceId rows unused ⟨[statement], [.snapshot record.id]⟩ :=
  Plan.fits_one hrec (by simpa using htouched) (by simpa using hready) (by simp) (by simpa using hkeep)

/-- An operation on the pages or links of a topic. -/
theorem Plan.fits_detail
    {updatedAt : Option JsString} (hrec : record ∈ rows ∧ record.workspaceId = workspaceId.1)
    (hdetail : statement.isDetail = true) (htouched : statement.touched = [record.id]) :
    Plan.Fits workspaceId rows unused ⟨[statement, .touch record.id updatedAt], [.snapshot record.id]⟩ := by
  refine Plan.fits_one hrec ?_ ?_ ?_ ?_
  · rintro other hother
    rcases List.mem_cons.mp hother with rfl | hother
    · exact htouched
    · rw [List.mem_singleton.mp hother]
      rfl
  · rintro other hother
    cases hother
    cases statement <;> trivial
  · rintro other hother
    exact ⟨record.id, updatedAt, List.mem_singleton.mp hother⟩
  · rintro name hdelete
    rcases List.mem_cons.mp hdelete with hsame | hdelete
    · rw [← hsame] at hdetail
      cases hdetail
    · cases List.mem_singleton.mp hdelete

/-- **What an operation has read is enough for its first commit, and its files are those of the topics
it changes.** -/
theorem Operation.plan_fits {operation : Operation} {plan : Plan}
    (htree : Forest db.topics) (hnorm : ∀ row ∈ db.topics, decodeTopic row = row)
    (hnew : ∀ id name topic title overview session agent,
      operation = .create id name topic title overview session agent → unused id.1)
    (h : operation.plan env workspaceId db time.1 = .ok plan) : plan.Fits workspaceId db.topics unused := by
  cases operation with
  | create id name topic title overview session agent =>
    obtain ⟨name', -, h⟩ := exceptBind_ok.mp h
    obtain ⟨topic', -, h⟩ := exceptBind_ok.mp h
    cases h
    constructor
    · rintro statement hstatement touched htouched
      rw [List.mem_singleton.mp hstatement, Statement.touched, List.mem_singleton] at htouched
      exact ⟨_, List.mem_singleton_self _, htouched.symm⟩
    · rintro statement hstatement
      cases hstatement
      refine ⟨decodeTopic_eq_self.mpr ⟨?_, rfl⟩, rfl, rfl, id.2, hnew id _ _ _ _ _ _ rfl⟩
      exact optionalText_idem session
    · rintro statement hstatement
      cases hstatement
    · rintro write hwrite
      rw [List.mem_singleton.mp hwrite]
      refine ⟨fun name hdelete => ?_, .inr ⟨_, List.mem_singleton_self _, rfl, rfl⟩⟩
      cases List.mem_singleton.mp hdelete
  | updateOverview topic content expected =>
    obtain ⟨record, hrec, h⟩ := exceptBind_ok.mp h
    obtain ⟨content', -, h⟩ := exceptBind_ok.mp h
    obtain ⟨-, h⟩ := exceptGuard_ok.mp h
    obtain ⟨updatedAt, -, h⟩ := exceptBind_ok.mp h
    cases h
    exact Plan.fits_single (Database.require_ok hnorm hrec) rfl trivial (by rintro _ ⟨⟩)
  | savePage topic pageId newId title content expected =>
    obtain ⟨record, hrec, h⟩ := exceptBind_ok.mp h
    obtain ⟨title', -, h⟩ := exceptBind_ok.mp h
    obtain ⟨content', -, h⟩ := exceptBind_ok.mp h
    have hmem := Database.require_ok hnorm hrec
    split at h
    · cases h
      exact Plan.fits_detail hmem rfl rfl
    · split at h
      · cases h
      · obtain ⟨-, h⟩ := exceptGuard_ok.mp h
        obtain ⟨updatedAt, -, h⟩ := exceptBind_ok.mp h
        cases h
        exact Plan.fits_detail hmem rfl rfl
  | deletePage topic pageId =>
    obtain ⟨record, hrec, h⟩ := exceptBind_ok.mp h
    cases h
    exact Plan.fits_detail (Database.require_ok hnorm hrec) rfl rfl
  | link topic newId kind resourceId title =>
    obtain ⟨record, hrec, h⟩ := exceptBind_ok.mp h
    obtain ⟨resource, -, h⟩ := exceptBind_ok.mp h
    obtain ⟨title', -, h⟩ := exceptBind_ok.mp h
    have hmem := Database.require_ok hnorm hrec
    split at h
    · obtain ⟨linked, -, h⟩ := exceptBind_ok.mp h
      split at h
      · cases h
      · obtain ⟨-, h⟩ := exceptGuard_ok.mp h
        cases h
        exact Plan.fits_detail hmem rfl rfl
    · split at h
      · cases h
      · cases h
        exact Plan.fits_detail hmem rfl rfl
  | unlink topic linkId =>
    obtain ⟨record, hrec, h⟩ := exceptBind_ok.mp h
    cases h
    exact Plan.fits_detail (Database.require_ok hnorm hrec) rfl rfl
  | merge sourceId targetId =>
    obtain ⟨source, hsrc, h⟩ := exceptBind_ok.mp h
    obtain ⟨target, htgt, h⟩ := exceptBind_ok.mp h
    obtain ⟨hne, h⟩ := exceptGuard_ok.mp h
    obtain ⟨-, h⟩ := exceptGuard_ok.mp h
    obtain ⟨hfree, h⟩ := exceptGuard_ok.mp h
    obtain ⟨-, h⟩ := exceptGuard_ok.mp h
    obtain ⟨now, hnow, h⟩ := exceptBind_ok.mp h
    cases h
    have hsrc := Database.require_ok hnorm hsrc
    have htgt := Database.require_ok hnorm htgt
    constructor
    · rintro statement hstatement id hid
      rw [List.mem_singleton.mp hstatement, Statement.touched] at hid
      rcases List.mem_cons.mp hid with rfl | hid
      · exact ⟨.snapshot source.id, List.mem_cons_self, rfl⟩
      · rw [List.mem_singleton] at hid
        exact ⟨.snapshot target.id, List.mem_cons_of_mem _ (List.mem_singleton_self _), hid.symm⟩
    · rintro statement hstatement
      cases hstatement
      exact ⟨hne, eq_false_of_ne_true hfree, nextTimestamp_text hnow⟩
    · rintro statement hstatement
      cases hstatement
    · rintro write hwrite
      rcases List.mem_cons.mp hwrite with rfl | hwrite
      · refine ⟨fun name hdelete => ?_, .inl ⟨source, hsrc.1, rfl, hsrc.2⟩⟩
        cases List.mem_singleton.mp hdelete
      · rw [List.mem_singleton.mp hwrite]
        refine ⟨fun name hdelete => ?_, .inl ⟨target, htgt.1, rfl, htgt.2⟩⟩
        cases List.mem_singleton.mp hdelete
  | unmerge sourceId =>
    obtain ⟨source, hsrc, h⟩ := exceptBind_ok.mp h
    have hsrc := Database.require_ok hnorm hsrc
    split at h
    · cases h
    · rename_i targetId htgt
      obtain ⟨now, -, h⟩ := exceptBind_ok.mp h
      cases h
      obtain ⟨target, hmem, hid, hws, -⟩ := htree source hsrc.1 targetId htgt
      have hkeep : ∀ name id, Statement.delete name id ∉
          [Statement.unmerge source.id workspaceId.1 now, .touch targetId none] := by
        rintro name id hdelete
        rcases List.mem_cons.mp hdelete with hdelete | hdelete
        · cases hdelete
        · cases List.mem_singleton.mp hdelete
      constructor
      · rintro statement hstatement id hid
        rcases List.mem_cons.mp hstatement with rfl | hstatement
        · exact ⟨.snapshot source.id, List.mem_cons_self, (List.mem_singleton.mp hid).symm⟩
        · rw [List.mem_singleton.mp hstatement] at hid
          exact ⟨.snapshot targetId, List.mem_cons_of_mem _ (List.mem_singleton_self _),
            (List.mem_singleton.mp hid).symm⟩
      · rintro statement hstatement
        cases hstatement
        trivial
      · exact fun statement hstatement => ⟨targetId, none, List.mem_singleton.mp hstatement⟩
      · rintro write hwrite
        rcases List.mem_cons.mp hwrite with rfl | hwrite
        · exact ⟨fun name => hkeep name _, .inl ⟨source, hsrc.1, rfl, hsrc.2⟩⟩
        · rw [List.mem_singleton.mp hwrite]
          exact ⟨fun name => hkeep name _, .inl ⟨target, hmem, hid, hws.trans hsrc.2⟩⟩
  | archive topic archivedAt =>
    obtain ⟨record, hrec, h⟩ := exceptBind_ok.mp h
    obtain ⟨hfree, h⟩ := exceptGuard_ok.mp h
    cases h
    refine Plan.fits_single (Database.require_ok hnorm hrec) rfl
      ⟨.inr (eq_false_of_ne_true hfree), ?_⟩ (by rintro _ ⟨⟩)
    have htext : ∀ text : Text, optionalText (some text.1) = some text.1 := fun text => by
      rw [optionalText, Option.bind_some, textOf?_text]
      rfl
    cases archivedAt with
    | none => exact htext time
    | some text => exact htext text
  | restore topic =>
    obtain ⟨record, hrec, h⟩ := exceptBind_ok.mp h
    obtain ⟨-, h⟩ := exceptGuard_ok.mp h
    cases h
    exact Plan.fits_single (Database.require_ok hnorm hrec) rfl ⟨.inl rfl, rfl⟩ (by rintro _ ⟨⟩)
  | delete topic =>
    obtain ⟨record, hrec, h⟩ := exceptBind_ok.mp h
    obtain ⟨-, h⟩ := exceptGuard_ok.mp h
    cases h
    constructor
    · rintro statement hstatement id hid
      rw [List.mem_singleton.mp hstatement, Statement.touched, List.mem_singleton] at hid
      exact ⟨_, List.mem_singleton_self _, hid.symm⟩
    · rintro statement hstatement
      cases hstatement
      trivial
    · rintro statement hstatement
      cases hstatement
    · rintro write hwrite
      rw [List.mem_singleton.mp hwrite]
      exact ⟨fun statement hstatement => ⟨topic, List.mem_singleton.mp hstatement⟩, by rintro ⟨⟩⟩

end Plans

end Beale.Topics
