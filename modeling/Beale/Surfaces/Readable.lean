import Beale.Library.Ancestry
import Beale.Surfaces.Store

/-!
# Surfaces that were accepted stay readable

- `stays_readable_iff`: `create` asks nothing of the depth of the parent. The surfaces stay readable
  while no child is created under a surface that is `maxDepth` deep.
- `chain_unreadable`: one child more, and it has no path.
-/

namespace Beale.Surfaces

open Beale.Library
open Client (exceptBind_ok exceptGuard_ok exceptBind_succeeds)

namespace SurfaceStore

variable (ws : Workspace)

/-- No reader fails on what is stored. -/
structure Readable (store : SurfaceStore) : Prop where
  get : ∀ id, trim id ≠ [] → ∃ r, store.get ws id = .ok r
  list : ∀ input, ∃ r, store.list ws input = .ok r
  query : ∀ text limit offset, trim text ≠ [] → ∃ r, store.query ws text limit offset = .ok r
  modelContext : ∃ r, store.modelContext ws = .ok r
  path : ∀ id surface, store.get ws id = .ok (some surface) → ∃ r, store.path ws id = .ok r
  focus : ∀ at_ agentId id surface, trim agentId ≠ [] → store.require ws id true = .ok surface →
    ∃ r, (store.focusOn ws at_ agentId id).1 = .ok r

/-- A surface that is created has a parent whose own hierarchy is not as long as one may be. -/
def Shallow (store : SurfaceStore) : Call → Prop
  | .create id at_ parentId name description =>
    ∀ store', store.create ws id at_ parentId name description = .ok store' →
      ∃ trail, store.hierarchy ws parentId = .ok trail ∧ trail.length < maxDepth
  | _ => True

/-! ## Documents -/

/-- A document that was checked before it was stored, if there is one. -/
def Stored (document : Option Json) : Prop :=
  ∀ value ∈ document, ∃ foundation blocker, value = storedDocument foundation blocker

theorem stored_none : Stored none := fun _ h => absurd h (Option.not_mem_none _)

variable {document : Option Json}

theorem Stored.reads (h : Stored document) : ∃ r, decodeStoredFoundation document = .ok r := by
  cases document with
  | none => exact ⟨none, rfl⟩
  | some value =>
    obtain ⟨foundation, blocker, rfl⟩ := h value rfl
    obtain ⟨r, hr⟩ := decode_stored foundation blocker
    exact ⟨some r, hr⟩

/-- What is stored was checked, and every surface has an identifier. -/
structure Sound (store : SurfaceStore) : Prop where
  surfaces : ∀ row ∈ store.surfaces, Stored row.foundation
  roots : ∀ row ∈ store.roots, Stored row.foundation
  ids : ∀ row ∈ store.surfaces, trim row.id ≠ []

/-- The parent of a surface: missing where there is no such surface, or where it is a root. -/
def parentOf (store : SurfaceStore) (id : JsString) : Option (Option JsString) :=
  if trim id = [] then none
  else match resource ws id with
    | some _ => some none
    | none => (store.row? id).map fun row => some row.parentId

variable {ws} {store : SurfaceStore}

theorem resource_trim (id : JsString) : resource ws (trim id) = resource ws id := by
  rw [resource, trim_idem]
  rfl

theorem parentOf_resource {r : Resource} (hr : r ∈ ws.resources) :
    store.parentOf ws r.id.1 = some none := by
  have hfound : (resource ws r.id.1).isSome := by
    rw [resource, List.find?_isSome]
    exact ⟨r, hr, by simpa using r.id.2.1.symm⟩
  obtain ⟨r', hr'⟩ := Option.isSome_iff_exists.mp hfound
  have hne : trim r.id.1 ≠ [] := by
    rw [r.id.2.1]
    exact r.id.2.2
  rw [parentOf, if_neg hne, hr']

variable {id name parentId description : JsString}

theorem get_unknown (hblank : trim id ≠ []) (hq : store.parentOf ws id = none) :
    store.get ws id = .ok none := by
  rw [parentOf, if_neg hblank] at hq
  have hname : nonempty (some (.str id)) (js "surfaceId") = .ok ⟨trim id, trim_idem id, hblank⟩ := by
    simp only [nonempty, Option.bind_some, Json.asString?, textOf?, dif_pos hblank]
  refine exceptBind_ok.mpr ⟨_, hname, ?_⟩
  dsimp only
  rw [resource_trim]
  cases hrsrc : resource ws id with
  | some r =>
    rw [hrsrc] at hq
    cases hq
  | none =>
    rw [hrsrc] at hq
    rw [Option.map_eq_none_iff.mp hq]
    rfl

variable {s : ResearchSurface}

theorem require_ok : store.require ws id = .ok s ↔ store.get ws id = .ok (some s) := by
  constructor
  · intro h
    obtain ⟨found, hget, h⟩ := exceptBind_ok.mp h
    cases found with
    | none => cases h
    | some s' =>
      cases h
      exact hget
  · exact fun h => exceptBind_ok.mpr ⟨some s, h, rfl⟩

namespace Sound

variable (hs : store.Sound)

include hs

theorem root_reads (r : Resource) : ∃ s, store.root r = .ok s ∧ s.id = r.id.1 ∧ s.parentId = none := by
  have hdoc : Stored ((store.roots.find? fun row => row.resourceId = r.id.1).bind (·.foundation)) := by
    intro value hvalue
    obtain ⟨row, hrow, hvalue⟩ := Option.bind_eq_some_iff.mp hvalue
    exact hs.roots row (List.mem_of_find?_eq_some hrow) value hvalue
  obtain ⟨stored, hstore⟩ := hdoc.reads
  exact ⟨_, exceptBind_ok.mpr ⟨stored, hstore, rfl⟩, rfl, rfl⟩

theorem child_reads {row : SurfaceRow} (hrow : row ∈ store.surfaces) :
    ∃ s, store.child row = .ok s ∧ s.id = row.id ∧ s.parentId = some row.parentId := by
  obtain ⟨stored, hstore⟩ := (hs.surfaces row hrow).reads
  exact ⟨_, exceptBind_ok.mpr ⟨stored, hstore, rfl⟩, rfl, rfl⟩

theorem parentOf_child {row : SurfaceRow} (hrow : row ∈ store.surfaces) :
    ∃ q, store.parentOf ws row.id = some q := by
  rw [parentOf, if_neg (hs.ids row hrow)]
  cases resource ws row.id with
  | some r => exact ⟨none, rfl⟩
  | none =>
    have hfound : (store.row? row.id).isSome := by
      rw [row?, List.find?_isSome]
      exact ⟨row, hrow, by simp⟩
    obtain ⟨row', hrow'⟩ := Option.isSome_iff_exists.mp hfound
    exact ⟨some row'.parentId, by rw [hrow']; rfl⟩

variable {id : JsString}

theorem get_known {q : Option JsString} (hq : store.parentOf ws id = some q) :
    ∃ s, store.get ws id = .ok (some s) ∧ s.parentId = q ∧ store.parentOf ws s.id = some q ∧
      (q = none ∨ s.id = id) := by
  rw [parentOf] at hq
  by_cases hblank : trim id = []
  · rw [if_pos hblank] at hq
    cases hq
  · have hname : nonempty (some (.str id)) (js "surfaceId") = .ok ⟨trim id, trim_idem id, hblank⟩ := by
      simp only [nonempty, Option.bind_some, Json.asString?, textOf?, dif_pos hblank]
    rw [if_neg hblank] at hq
    cases hrsrc : resource ws id with
    | some r =>
      rw [hrsrc] at hq
      cases hq
      obtain ⟨s, hroot, hid, hpar⟩ := hs.root_reads r
      have hmem : r ∈ ws.resources := List.mem_of_find?_eq_some hrsrc
      refine ⟨s, exceptBind_ok.mpr ⟨_, hname, ?_⟩, hpar, ?_, .inl rfl⟩
      · dsimp only
        rw [resource_trim, hrsrc]
        show some <$> store.root r = _
        rw [hroot]
        rfl
      · rw [hid]
        exact parentOf_resource hmem
    | none =>
      rw [hrsrc] at hq
      obtain ⟨row, hrow, rfl⟩ := Option.map_eq_some_iff.mp hq
      have hmem : row ∈ store.surfaces := List.mem_of_find?_eq_some hrow
      have hid : row.id = id := by simpa using List.find?_some hrow
      obtain ⟨s, hchild, hsid, hpar⟩ := hs.child_reads hmem
      refine ⟨s, exceptBind_ok.mpr ⟨_, hname, ?_⟩, hpar, ?_, .inr (hsid.trans hid)⟩
      · dsimp only
        rw [resource_trim, hrsrc, hrow]
        show some <$> store.child row = _
        rw [hchild]
        rfl
      · rw [hsid, hid, parentOf, if_neg hblank, hrsrc, hrow]
        rfl

theorem get_reads (hblank : trim id ≠ []) : ∃ r, store.get ws id = .ok r := by
  cases hq : store.parentOf ws id with
  | none => exact ⟨none, get_unknown hblank hq⟩
  | some q =>
    obtain ⟨s, hget, -⟩ := hs.get_known hq
    exact ⟨some s, hget⟩

variable {s : ResearchSurface}

theorem known_of_get (h : store.get ws id = .ok (some s)) :
    store.parentOf ws id = some s.parentId ∧ store.parentOf ws s.id = some s.parentId := by
  have hblank : trim id ≠ [] := by
    intro hblank
    obtain ⟨t, ht, -⟩ := exceptBind_ok.mp h
    simp only [nonempty, Option.bind_some, Json.asString?, textOf?, hblank, ne_eq, not_true_eq_false,
      dite_false] at ht
    cases ht
  cases hq : store.parentOf ws id with
  | none =>
    rw [get_unknown hblank hq] at h
    cases h
  | some q =>
    obtain ⟨s', hget, hpar, hknown, -⟩ := hs.get_known hq
    rw [hget] at h
    cases h
    rw [hpar]
    exact ⟨rfl, hknown⟩

/-! ## Climbing to the root -/

variable {n : Nat}

section

variable (hdepth : Depth (store.parentOf ws) id n)
include hdepth

theorem climb_reads (hget : store.get ws id = .ok (some s)) {rounds : Nat} (hrounds : n ≤ rounds) :
    ∃ trail, store.climb ws rounds s = .ok trail ∧ trail.length = n := by
  induction hdepth generalizing s rounds with
  | root hroot =>
    obtain ⟨rounds, rfl⟩ := Nat.exists_eq_add_of_lt hrounds
    have hpar := (hs.known_of_get hget).1
    rw [hroot] at hpar
    rw [climb, ← Option.some.inj hpar]
    exact ⟨_, rfl, rfl⟩
  | child hchild hdepth ih =>
    obtain ⟨rounds, rfl⟩ := Nat.exists_eq_add_of_lt hrounds
    have hpar := (hs.known_of_get hget).1
    rw [hchild] at hpar
    obtain ⟨q, hq⟩ := hdepth.known
    obtain ⟨above, habove, -⟩ := hs.get_known hq
    obtain ⟨trail, htrail, hlen⟩ := ih habove (Nat.le_add_right _ rounds)
    refine ⟨trail ++ [(s.id, s.name)], ?_, by rw [List.length_append, hlen, List.length_singleton]⟩
    rw [climb, ← Option.some.inj hpar]
    refine exceptBind_ok.mpr ⟨above, ?_, exceptBind_ok.mpr ⟨trail, htrail, rfl⟩⟩
    exact exceptBind_ok.mpr ⟨some above, habove, rfl⟩

theorem climb_fails (hget : store.get ws id = .ok (some s)) {rounds : Nat} (hrounds : rounds < n) :
    ∃ message, store.climb ws rounds s = .error message := by
  induction hdepth generalizing s rounds with
  | root hroot =>
    obtain rfl : rounds = 0 := by omega
    exact ⟨_, rfl⟩
  | child hchild hdepth ih =>
    cases rounds with
    | zero => exact ⟨_, rfl⟩
    | succ rounds =>
      have hpar := (hs.known_of_get hget).1
      rw [hchild] at hpar
      obtain ⟨q, hq⟩ := hdepth.known
      obtain ⟨above, habove, -⟩ := hs.get_known hq
      obtain ⟨message, hmessage⟩ := ih habove (Nat.lt_of_succ_lt_succ hrounds)
      refine ⟨message, ?_⟩
      rw [climb, ← Option.some.inj hpar]
      show (store.require ws _ >>= fun parent => store.climb ws rounds parent >>= _) = _
      rw [require_ok.mpr habove]
      show (store.climb ws rounds above >>= _) = _
      rw [hmessage]
      rfl

/-- **A hierarchy is read where it is not too deep**, and only there. -/
theorem hierarchy_reads_iff : (∃ trail, store.hierarchy ws id = .ok trail) ↔ n ≤ maxDepth := by
  obtain ⟨q, hq⟩ := hdepth.known
  obtain ⟨s, hget, -⟩ := hs.get_known hq
  have hrequire := require_ok.mpr hget
  constructor
  · rintro ⟨trail, htrail⟩
    by_contra hdeep
    obtain ⟨message, hmessage⟩ := hs.climb_fails hdepth hget (Nat.lt_of_not_le hdeep)
    obtain ⟨s', hs', htrail⟩ := exceptBind_ok.mp htrail
    rw [hrequire] at hs'
    cases hs'
    rw [hmessage] at htrail
    cases htrail
  · intro hle
    obtain ⟨trail, htrail, -⟩ := hs.climb_reads hdepth hget hle
    exact ⟨trail, exceptBind_ok.mpr ⟨s, hrequire, htrail⟩⟩

theorem hierarchy_length
    {trail : List (JsString × JsString)} (h : store.hierarchy ws id = .ok trail) : trail.length = n := by
  have hle := (hs.hierarchy_reads_iff hdepth).mp ⟨trail, h⟩
  obtain ⟨s, hrequire, htrail⟩ := exceptBind_ok.mp h
  obtain ⟨trail', htrail', hlen⟩ := hs.climb_reads hdepth (require_ok.mp hrequire) hle
  rw [htrail] at htrail'
  cases htrail'
  exact hlen

end

theorem all_reads : ∃ l, store.all ws = .ok l ∧ ∀ s ∈ l, ∃ q, store.parentOf ws s.id = some q := by
  obtain ⟨roots, hroots, hmemRoots⟩ := Client.exceptMapM_succeeds (l := ws.resources) fun r _ => by
    obtain ⟨s, hs, -⟩ := hs.root_reads r
    exact ⟨s, hs⟩
  have hrows : ∀ row ∈ byCreation store.surfaces, row ∈ store.surfaces := fun row hrow =>
    (List.mergeSort_perm _ _).mem_iff.mp hrow
  obtain ⟨children, hkids, hmemChildren⟩ :=
    Client.exceptMapM_succeeds (l := byCreation store.surfaces) fun row hrow => by
      obtain ⟨s, hs, -⟩ := hs.child_reads (hrows row hrow)
      exact ⟨s, hs⟩
  refine ⟨roots ++ children, ?_, fun s hmem => ?_⟩
  · exact exceptBind_ok.mpr ⟨roots, hroots, exceptBind_ok.mpr ⟨children, hkids, rfl⟩⟩
  · rcases List.mem_append.mp hmem with hmem | hmem
    · obtain ⟨r, hr, hroot⟩ := hmemRoots s hmem
      obtain ⟨s', hs', hid, -⟩ := hs.root_reads r
      rw [hroot] at hs'
      cases hs'
      exact ⟨none, by rw [hid]; exact parentOf_resource hr⟩
    · obtain ⟨row, hrow, hchild⟩ := hmemChildren s hmem
      obtain ⟨s', hs', hid, -⟩ := hs.child_reads (hrows row hrow)
      rw [hchild] at hs'
      cases hs'
      rw [hid]
      exact hs.parentOf_child (hrows row hrow)

end Sound

/-! ## The readers -/

section Readers

variable (hs : store.Sound) (hwithin : Within (store.parentOf ws) maxDepth)

include hs hwithin

variable {q : Option JsString}

theorem hierarchy_reads {id : JsString} (hq : store.parentOf ws id = some q) :
    ∃ trail, store.hierarchy ws id = .ok trail := by
  obtain ⟨n, hn, hdepth⟩ := hwithin id q hq
  exact (hs.hierarchy_reads_iff hdepth).mpr hn

theorem path_reads {id : JsString} (hq : store.parentOf ws id = some q) :
    ∃ p, store.path ws id = .ok p := by
  obtain ⟨trail, htrail⟩ := hierarchy_reads hs hwithin hq
  exact exceptBind_succeeds htrail ⟨_, rfl⟩

theorem card_reads {s : ResearchSurface} (hq : store.parentOf ws s.id = some q) :
    ∃ c, store.card ws s = .ok c := by
  obtain ⟨p, hpath⟩ := path_reads hs hwithin hq
  obtain ⟨s', hget, -⟩ := hs.get_known hq
  refine exceptBind_succeeds hpath ?_
  have hrequire := require_ok.mpr hget
  exact exceptBind_succeeds (exceptBind_ok.mpr ⟨s', hrequire, rfl⟩) ⟨_, rfl⟩

variable {l : List ResearchSurface}

theorem cards_read (h : ∀ s ∈ l, ∃ q, store.parentOf ws s.id = some q) :
    ∃ cards, l.mapM (store.card ws) = .ok cards := by
  obtain ⟨cards, hcards, -⟩ := Client.exceptMapM_succeeds fun s hmem => by
    obtain ⟨q, hq⟩ := h s hmem
    exact card_reads hs hwithin hq
  exact ⟨cards, hcards⟩

theorem page_reads (h : ∀ s ∈ l, ∃ q, store.parentOf ws s.id = some q)
    (offset limit : Nat) : ∃ r, store.page ws l offset limit = .ok r := by
  obtain ⟨cards, hcards⟩ := cards_read hs hwithin (l := (l.drop offset).take limit) fun s hmem =>
    h s (List.mem_of_mem_drop (List.mem_of_mem_take hmem))
  exact exceptBind_succeeds hcards ⟨_, rfl⟩

theorem matching_reads (phrase : JsString) (h : ∀ s ∈ l, ∃ q, store.parentOf ws s.id = some q) :
    ∃ found, store.matching ws phrase l = .ok found ∧ ∀ m ∈ found, m.1 ∈ l := by
  induction l with
  | nil => exact ⟨[], rfl, fun _ hm => absurd hm List.not_mem_nil⟩
  | cons s rest ih =>
    obtain ⟨q, hq⟩ := h s List.mem_cons_self
    obtain ⟨p, hpath⟩ := path_reads hs hwithin hq
    obtain ⟨found, hfound, hmem⟩ := ih fun s hs => h s (List.mem_cons_of_mem _ hs)
    have hrest : ∀ m ∈ found, m.1 ∈ s :: rest := fun m hm => List.mem_cons_of_mem _ (hmem m hm)
    by_cases hword : (wordsOf phrase).all fun word =>
        word <:+: ws.toLowerCase (joinWith [space] (searchTexts ws s p))
    · refine ⟨(s, matchScore phrase (ws.toLowerCase s.name) (ws.toLowerCase p)) :: found,
        exceptBind_ok.mpr ⟨p, hpath, exceptBind_ok.mpr ⟨found, hfound, ?_⟩⟩, fun m hm => ?_⟩
      · exact if_pos hword
      · rcases List.mem_cons.mp hm with rfl | hm
        · exact List.mem_cons_self
        · exact hrest m hm
    · refine ⟨found, exceptBind_ok.mpr ⟨p, hpath, exceptBind_ok.mpr ⟨found, hfound, ?_⟩⟩, hrest⟩
      exact if_neg hword

theorem list_reads (input : ListInput) : ∃ r, store.list ws input = .ok r := by
  obtain ⟨l, hall, hknown⟩ := hs.all_reads
  refine exceptBind_succeeds hall (page_reads hs hwithin (fun s hmem => ?_) _ _)
  exact hknown s (List.mem_filter.mp hmem).1

theorem query_reads {text : JsString} (htext : trim text ≠ []) (limit offset : Int) :
    ∃ r, store.query ws text limit offset = .ok r := by
  obtain ⟨t, ht⟩ := nonempty_filled ⟨text, htext⟩ (js "query")
  obtain ⟨l, hall, hknown⟩ := hs.all_reads
  obtain ⟨found, hfound, hmem⟩ := matching_reads hs hwithin (ws.toLowerCase t.1) hknown
  refine exceptBind_succeeds ht (exceptBind_succeeds hall ?_)
  refine exceptBind_succeeds hfound (page_reads hs hwithin (fun s hs => ?_) _ _)
  obtain ⟨m, hm, rfl⟩ := List.mem_map.mp hs
  exact hknown m.1 (hmem m ((List.mergeSort_perm _ _).mem_iff.mp hm))

theorem modelContext_reads : ∃ r, store.modelContext ws = .ok r := by
  obtain ⟨l, hall, hknown⟩ := hs.all_reads
  refine exceptBind_succeeds hall ?_
  obtain ⟨cards, hcards⟩ := cards_read hs hwithin (l := _) fun s (hmem : s ∈
      ((l.filter (·.root)).mergeSort fun a b => ws.localeCompare a.name b.name ≤ 0).take 8
      ++ ((l.filter (!·.root)).mergeSort fun a b =>
        if isPending a = isPending b then ws.localeCompare b.updatedAt a.updatedAt ≤ 0
        else isPending a).take 8) => by
    refine hknown s ?_
    rcases List.mem_append.mp hmem with hmem | hmem
    · exact (List.mem_filter.mp ((List.mergeSort_perm _ _).mem_iff.mp (List.mem_of_mem_take hmem))).1
    · exact (List.mem_filter.mp ((List.mergeSort_perm _ _).mem_iff.mp (List.mem_of_mem_take hmem))).1
  exact exceptBind_succeeds hcards ⟨_, rfl⟩

end Readers

/-! ## The writers -/

variable {store' : SurfaceStore}

theorem parentOf_congr (h : store'.surfaces = store.surfaces) :
    store'.parentOf ws = store.parentOf ws := by
  funext id
  rw [parentOf, parentOf, row?, row?, h]

theorem Sound.congr (hs : store.Sound) (hsurfaces : store'.surfaces = store.surfaces)
    (hroots : store'.roots = store.roots) : store'.Sound where
  surfaces := hsurfaces ▸ hs.surfaces
  roots := hroots ▸ hs.roots
  ids := hsurfaces ▸ hs.ids

theorem get_of_require {eligible : Bool}
    (h : store.require ws id eligible = .ok s) : store.get ws id = .ok (some s) := by
  obtain ⟨found, hget, h⟩ := exceptBind_ok.mp h
  cases found with
  | none => cases h
  | some s' =>
    obtain ⟨-, h⟩ := exceptGuard_ok.mp h
    cases h
    exact hget

theorem focus_tables (at_ : Timestamp) (agentId id : JsString) :
    (store.focusOn ws at_ agentId id).2.surfaces = store.surfaces ∧
      (store.focusOn ws at_ agentId id).2.roots = store.roots := by
  rw [focusOn]
  split
  · exact ⟨rfl, rfl⟩
  · dsimp only
    split <;> exact ⟨rfl, rfl⟩

theorem focus_reads (hs : store.Sound) (hwithin : Within (store.parentOf ws) maxDepth) (at_ : Timestamp)
    {agentId : JsString} (hagent : trim agentId ≠ [])
    (h : store.require ws id true = .ok s) : ∃ r, (store.focusOn ws at_ agentId id).1 = .ok r := by
  obtain ⟨agent, hname⟩ := nonempty_filled ⟨agentId, hagent⟩ (js "agentId")
  have hchecks : (do
      let _ ← store.require ws id true
      nonempty (some (.str agentId)) (js "agentId") : Except JsString Text) = .ok agent :=
    exceptBind_ok.mpr ⟨s, h, hname⟩
  have hs' : (store.focused ws agent.1 id at_).Sound := hs.congr rfl rfl
  have hparents : (store.focused ws agent.1 id at_).parentOf ws = store.parentOf ws := parentOf_congr rfl
  have hknown := (hs.known_of_get (get_of_require h)).1
  rw [← hparents] at hwithin hknown
  obtain ⟨s', hget, -⟩ := hs'.get_known hknown
  obtain ⟨trail, htrail⟩ := hierarchy_reads hs' hwithin hknown
  have hreads : ∃ r, (do
      let surface ← (store.focused ws agent.1 id at_).require ws id
      let trail ← (store.focused ws agent.1 id at_).hierarchy ws id
      return ⟨surface, trail, (store.touches.lookup id).isNone,
        (store.focusRow? ws agent.1).map (·.surfaceId)⟩ : Except JsString FocusResult) = .ok r :=
    exceptBind_succeeds (require_ok.mpr hget) (exceptBind_succeeds htrail ⟨_, rfl⟩)
  obtain ⟨r, hr⟩ := hreads
  refine ⟨r, ?_⟩
  rw [focusOn, hchecks]
  dsimp only
  rw [hr]

/-- **Where no surface is too deep, everything is readable.** -/
theorem readable_of_within (hs : store.Sound) (hwithin : Within (store.parentOf ws) maxDepth) :
    store.Readable ws where
  get _ hid := hs.get_reads hid
  list := list_reads hs hwithin
  query _ limit offset htext := query_reads hs hwithin htext limit offset
  modelContext := modelContext_reads hs hwithin
  path _ _ hget := path_reads hs hwithin (hs.known_of_get hget).1
  focus at_ _ _ _ hagent h := focus_reads hs hwithin at_ hagent h

variable {at_ : Timestamp}

theorem create_cases {id : Text}
    (h : store.create ws id at_ parentId name description = .ok store') :
    ∃ parent row, store.get ws parentId = .ok (some parent) ∧
      resource ws id.1 = none ∧ store.row? id.1 = none ∧
      row.id = id.1 ∧ row.parentId = parent.id ∧ row.foundation = none ∧
      store' = { store with surfaces := store.surfaces ++ [row] } := by
  obtain ⟨parent, hpar, h⟩ := exceptBind_ok.mp h
  obtain ⟨text, -, h⟩ := exceptBind_ok.mp h
  obtain ⟨hfresh, h⟩ := exceptGuard_ok.mp h
  obtain ⟨-, h⟩ := exceptGuard_ok.mp h
  cases h
  rw [Bool.or_eq_true, not_or, Option.not_isSome_iff_eq_none, Option.not_isSome_iff_eq_none] at hfresh
  exact ⟨parent, _, get_of_require hpar, hfresh.1, hfresh.2, rfl, rfl, rfl, rfl⟩

/-- The parents after `create`: the new surface has one, and the others keep theirs. -/
theorem parentOf_create {id : Text} {row : SurfaceRow} (hrsrc : resource ws id.1 = none)
    (hrow : store.row? id.1 = none) (hid : row.id = id.1) :
    (∀ i q, store.parentOf ws i = some q →
        { store with surfaces := store.surfaces ++ [row] }.parentOf ws i = some q) ∧
      store.parentOf ws id.1 = none ∧
      { store with surfaces := store.surfaces ++ [row] }.parentOf ws id.1 = some (some row.parentId) ∧
      ∀ i q, { store with surfaces := store.surfaces ++ [row] }.parentOf ws i = some q →
        store.parentOf ws i = none → i = id.1 ∧ q = some row.parentId := by
  have hlookup : ∀ i, { store with surfaces := store.surfaces ++ [row] }.row? i
      = (store.row? i).or (if row.id = i then some row else none) := by
    intro i
    rw [row?, row?, List.find?_append]
    congr 1
    by_cases h : row.id = i <;> simp [h]
  have hblank : trim id.1 ≠ [] := by
    rw [id.2.1]
    exact id.2.2
  refine ⟨fun i q hq => ?_, ?_, ?_, fun i q hq hnone => ?_⟩
  · rw [parentOf] at hq ⊢
    by_cases hi : trim i = []
    · rw [if_pos hi] at hq
      cases hq
    · rw [if_neg hi] at hq ⊢
      cases hres : resource ws i with
      | some r =>
        rw [hres] at hq
        exact hq
      | none =>
        rw [hres] at hq
        obtain ⟨found, hfound, rfl⟩ := Option.map_eq_some_iff.mp hq
        rw [hlookup, hfound]
        rfl
  · rw [parentOf, if_neg hblank, hrsrc, hrow]
    rfl
  · rw [parentOf, if_neg hblank, hrsrc, hlookup, hrow, if_pos hid]
    rfl
  · rw [parentOf] at hq hnone
    by_cases hi : trim i = []
    · rw [if_pos hi] at hq
      cases hq
    · rw [if_neg hi] at hq hnone
      cases hres : resource ws i with
      | some r =>
        rw [hres] at hnone
        cases hnone
      | none =>
        rw [hres] at hq hnone
        rw [hlookup, Option.map_eq_none_iff.mp hnone] at hq
        by_cases heq : row.id = i
        · rw [if_pos heq] at hq
          cases hq
          exact ⟨heq.symm.trans hid, rfl⟩
        · rw [if_neg heq] at hq
          cases hq

theorem create_sound (hs : store.Sound) {row : SurfaceRow} {id : Text} (hid : row.id = id.1)
    (hfound : row.foundation = none) :
    { store with surfaces := store.surfaces ++ [row] }.Sound where
  surfaces := by
    intro other hother
    rcases List.mem_append.mp hother with hother | hother
    · exact hs.surfaces other hother
    · rw [List.mem_singleton.mp hother, hfound]
      exact stored_none
  roots := hs.roots
  ids := by
    intro other hother
    rcases List.mem_append.mp hother with hother | hother
    · exact hs.ids other hother
    · rw [List.mem_singleton.mp hother, hid, id.2.1]
      exact id.2.2

/-- **A child under a surface that is not at the limit leaves everything readable; another is not
readable itself.** -/
theorem create_reads_iff (hs : store.Sound) (hwithin : Within (store.parentOf ws) maxDepth)
    {id : Text}
    (h : store.create ws id at_ parentId name description = .ok store') :
    store'.Sound ∧
      ((∃ trail, store.hierarchy ws parentId = .ok trail ∧ trail.length < maxDepth) →
        Within (store'.parentOf ws) maxDepth) ∧
      (store'.Readable ws →
        ∃ trail, store.hierarchy ws parentId = .ok trail ∧ trail.length < maxDepth) := by
  obtain ⟨parent, row, hpar, hrsrc, hrow, hid, hparentId, hfound, rfl⟩ := create_cases h
  obtain ⟨hkeep, hunknown, hnew, honly⟩ := parentOf_create hrsrc hrow hid
  have hs' := create_sound hs hid hfound
  obtain ⟨hgiven, hknown⟩ := hs.known_of_get hpar
  -- a root is also found by its identifier with white space around it
  obtain ⟨n, hn, hdepth⟩ := hwithin _ _ hknown
  have hsame : Depth (store.parentOf ws) parentId n := by
    cases hq : parent.parentId with
    | none =>
      rw [hq] at hknown hgiven
      rw [hdepth.unique (.root hknown)]
      exact .root hgiven
    | some q =>
      obtain ⟨m, -, hm⟩ := hwithin _ _ hgiven
      obtain ⟨s, hget, -, -, hcase⟩ := hs.get_known hgiven
      rw [hpar] at hget
      cases hget
      rcases hcase with hnone | hsame
      · rw [hq] at hnone
        cases hnone
      · rwa [← hsame]
  obtain ⟨trail, htrail⟩ := hierarchy_reads hs hwithin hgiven
  have hlen := hs.hierarchy_length hsame htrail
  refine ⟨hs', ?_, ?_⟩
  · rintro ⟨trail', htrail', hlt⟩
    rw [htrail] at htrail'
    cases htrail'
    refine hwithin.insert hkeep fun i q hq hnone => ?_
    obtain ⟨-, rfl⟩ := honly i q hq hnone
    exact ⟨parent.id, by rw [hparentId], n, by omega, hdepth⟩
  · intro hread
    refine ⟨trail, htrail, ?_⟩
    have hdepth' := Depth.child (hparentId ▸ hnew) (hdepth.extend hkeep)
    obtain ⟨s, hget, -⟩ := hs'.get_known hnew
    obtain ⟨p, hpath⟩ := hread.path _ _ hget
    obtain ⟨trail', htrail', -⟩ := exceptBind_ok.mp hpath
    have hle := (hs'.hierarchy_reads_iff hdepth').mp ⟨trail', htrail'⟩
    omega

variable {expectedRevision : Nat}

theorem updateRoot_keeps (hs : store.Sound) (hdoc : Stored document)
    (h : store.updateRoot id expectedRevision document at_ = .ok store') :
    store'.Sound ∧ store'.parentOf ws = store.parentOf ws := by
  rw [updateRoot] at h
  cases hfound : store.roots.find? fun row => row.resourceId = id with
  | none =>
    rw [hfound] at h
    cases h
    refine ⟨⟨hs.surfaces, fun row hrow => ?_, hs.ids⟩, parentOf_congr rfl⟩
    rcases List.mem_append.mp hrow with hrow | hrow
    · exact hs.roots row hrow
    · rw [List.mem_singleton.mp hrow]
      exact hdoc
  | some found =>
    rw [hfound] at h
    by_cases hrev : found.revision = expectedRevision
    · have h := (if_pos hrev).symm.trans h
      cases h
      refine ⟨⟨hs.surfaces, fun row hrow => ?_, hs.ids⟩, parentOf_congr rfl⟩
      obtain ⟨old, hold, rfl⟩ := List.mem_map.mp hrow
      by_cases hid : old.resourceId = id
      · rw [if_pos hid]
        exact hdoc
      · rw [if_neg hid]
        exact hs.roots old hold
    · have h := (if_neg hrev).symm.trans h
      cases h

theorem updateChild_keeps (hs : store.Sound) (hdoc : Stored document)
    (h : store.updateChild id expectedRevision parentId name description document at_ = .ok store') :
    store'.Sound ∧ store'.parentOf ws = store.parentOf ws := by
  rw [updateChild] at h
  obtain ⟨-, h⟩ := exceptGuard_ok.mp h
  obtain ⟨-, h⟩ := exceptGuard_ok.mp h
  cases h
  refine ⟨⟨fun row hrow => ?_, hs.roots, fun row hrow => ?_⟩, ?_⟩
  · obtain ⟨old, hold, rfl⟩ := List.mem_map.mp hrow
    split
    · exact hdoc
    · exact hs.surfaces old hold
  · obtain ⟨old, hold, rfl⟩ := List.mem_map.mp hrow
    split <;> exact hs.ids old hold
  · funext i
    rw [parentOf, parentOf, row?, row?, List.find?_map]
    congr 2
    rw [Option.map_map]
    have hsame : ((fun row => decide (row.id = i)) ∘ fun row : SurfaceRow =>
        if (row.id = id && row.revision = expectedRevision) = true then
          row.updated name description document at_
        else row) = fun row => decide (row.id = i) := by
      funext row
      simp only [Function.comp]
      split <;> rfl
    rw [hsame]
    funext _
    refine Option.map_congr fun row _ => ?_
    simp only [Function.comp]
    split <;> rfl

/-- An update writes a document that was checked, and leaves the parents as they are. -/
theorem update_keeps (hs : store.Sound) {input : UpdateInput}
    (h : store.update ws at_ id expectedRevision input = .ok store') :
    store'.Sound ∧ store'.parentOf ws = store.parentOf ws := by
  obtain ⟨surface, -, h⟩ := exceptBind_ok.mp h
  obtain ⟨-, h⟩ := exceptGuard_ok.mp h
  obtain ⟨-, h⟩ := exceptGuard_ok.mp h
  obtain ⟨foundation, -, h⟩ := exceptBind_ok.mp h
  obtain ⟨blocker, -, h⟩ := exceptBind_ok.mp h
  obtain ⟨name, -, h⟩ := exceptBind_ok.mp h
  obtain ⟨actor, -, h⟩ := exceptBind_ok.mp h
  have hdoc : Stored (foundation.map fun foundation => storedDocument foundation blocker) := by
    intro value hvalue
    obtain ⟨f, -, rfl⟩ := Option.map_eq_some_iff.mp hvalue
    exact ⟨f, blocker, rfl⟩
  by_cases hroot : surface.root = true
  · rw [if_pos hroot] at h
    exact updateRoot_keeps hs hdoc h
  · rw [if_neg hroot] at h
    exact updateChild_keeps hs hdoc h

theorem step_keeps (hs : store.Sound) (hwithin : Within (store.parentOf ws) maxDepth) (call : Call)
    (hshallow : store.Shallow ws call) :
    (store.step ws call).Sound ∧ Within ((store.step ws call).parentOf ws) maxDepth := by
  cases call with
  | create id at_ parentId name description =>
    rw [step]
    cases h : store.create ws id at_ parentId name description with
    | error message => exact ⟨hs, hwithin⟩
    | ok store' =>
      obtain ⟨hs', hkeep, -⟩ := create_reads_iff hs hwithin h
      exact ⟨hs', hkeep (hshallow store' h)⟩
  | update at_ id expectedRevision input =>
    rw [step]
    cases h : store.update ws at_ id expectedRevision input with
    | error message => exact ⟨hs, hwithin⟩
    | ok store' =>
      obtain ⟨hs', hparents⟩ := update_keeps hs h
      exact ⟨hs', by rwa [hparents]⟩
  | focus at_ agentId id =>
    obtain ⟨hsurfaces, hroots⟩ := focus_tables at_ agentId id
    exact ⟨hs.congr hsurfaces hroots, by rwa [step, parentOf_congr hsurfaces]⟩

theorem step_readable_iff (hs : store.Sound) (hwithin : Within (store.parentOf ws) maxDepth) (call : Call) :
    (store.step ws call).Readable ws ↔ store.Shallow ws call := by
  constructor
  · intro hread
    cases call with
    | create id at_ parentId name description =>
      intro store' h
      rw [step, h] at hread
      exact (create_reads_iff hs hwithin h).2.2 hread
    | update at_ id expectedRevision input => trivial
    | focus at_ agentId id => trivial
  · intro hshallow
    obtain ⟨hs', hwithin'⟩ := step_keeps hs hwithin call hshallow
    exact readable_of_within hs' hwithin'

theorem empty_sound : ({} : SurfaceStore).Sound where
  surfaces _ h := absurd h List.not_mem_nil
  roots _ h := absurd h List.not_mem_nil
  ids _ h := absurd h List.not_mem_nil

theorem empty_within : Within (({} : SurfaceStore).parentOf ws) maxDepth := by
  intro i q hq
  refine ⟨1, by decide, ?_⟩
  have hroot : q = none := by
    rw [parentOf] at hq
    by_cases hi : trim i = []
    · rw [if_pos hi] at hq
      cases hq
    · rw [if_neg hi] at hq
      cases hres : resource ws i with
      | some r =>
        rw [hres] at hq
        cases hq
        rfl
      | none =>
        rw [hres] at hq
        cases hq
  subst hroot
  exact .root hq

end SurfaceStore

/-- **What is accepted stays readable while no surface is created under one that is as deep as a
hierarchy may be, and only so long**: over every run of calls, the readers succeed after each of
them just where every accepted `create` names a parent whose own hierarchy has fewer surfaces. -/
theorem stays_readable_iff (ws : Workspace) (calls : List SurfaceStore.Call) :
    RunMeets (SurfaceStore.step ws) (fun store call => (store.step ws call).Readable ws) {} calls ↔
      RunMeets (SurfaceStore.step ws) (fun store call => store.Shallow ws call) {} calls :=
  runMeets_iff_of_invariant (I := fun store => store.Sound ∧ Within (store.parentOf ws) SurfaceStore.maxDepth)
    (fun _ call h => SurfaceStore.step_readable_iff h.1 h.2 call)
    (fun _ call h => SurfaceStore.step_keeps h.1 h.2 call)
    ⟨SurfaceStore.empty_sound, SurfaceStore.empty_within⟩ calls

/-! ## A chain that is too deep -/

def oneResource : Workspace where
  sessionId := js "s"
  resources := [{
    id := ⟨js "r", by decide⟩, kind := js "repository", name := js "r", locator := js "r"
    source := js "explicit_scope", direction := some (js "in_scope"), rationale := []
    reviewStatus := js "relevant", discoveredAt := js "d", updatedAt := js "u" }]
  claims := []
  toLowerCase := id
  localeCompare a b := if a = b then 0 else if a < b then -1 else 1

def noon : Timestamp := ⟨⟨js "2026-01-01T12:00:00.000Z", by decide⟩, by decide +kernel⟩

def childId (n : Nat) : Text := ⟨[115, 256 + UInt16.ofNat (n % 64)], by
  have hall : ∀ n : Fin 64, trim [115, 256 + UInt16.ofNat n.1] = [115, 256 + UInt16.ofNat n.1] := by decide
  exact ⟨hall ⟨n % 64, Nat.mod_lt _ (by decide)⟩, List.cons_ne_nil _ _⟩⟩

/-- A child under the one before it, of which the first is under the resource. -/
def childOf : Nat → SurfaceStore.Call
  | 0 => .create (childId 0) noon (js "r") (js "c") []
  | n + 1 => .create (childId (n + 1)) noon (childId n).1 (js "c") []

/-- Of a chain of as many children as a hierarchy has surfaces, the last one has no path. -/
theorem chain_unreadable : ¬RunMeets (SurfaceStore.step oneResource)
    (fun store call => (store.step oneResource call).Readable oneResource) {}
    ((List.range 64).map childOf) := by
  intro h
  have hread := RunMeets.last (l := (List.range 63).map childOf) (i := childOf 63) h
  have hfound : ((SurfaceStore.step oneResource (runSteps (SurfaceStore.step oneResource) {}
      ((List.range 63).map childOf)) (childOf 63)).get oneResource (childId 63).1).toOption.join.isSome
      = true := by
    decide +kernel
  have hpath : ((SurfaceStore.step oneResource (runSteps (SurfaceStore.step oneResource) {}
      ((List.range 63).map childOf)) (childOf 63)).path oneResource (childId 63).1).toBool = false := by
    decide +kernel
  obtain ⟨r, hr⟩ := hread.get (childId 63).1 (by decide)
  rw [hr] at hfound
  obtain ⟨s, hs⟩ := Option.isSome_iff_exists.mp hfound
  obtain rfl : r = some s := hs
  obtain ⟨p, hp⟩ := hread.path _ s hr
  rw [hp] at hpath
  cases hpath

end Beale.Surfaces
