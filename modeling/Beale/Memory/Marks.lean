import Beale.Memory.Duplicates

/-!
# Clients that mark duplicates at once

A call reads the node, then its duplicates, then the parent, and then writes. Each read and the
write is a statement of its own, so another client may come in between.

- `undone_iff_flat_iff`: one client alone, and several.
-/

namespace Beale.Memory

open Beale.Library

/-- A call of `markDuplicate`. -/
structure MarkCall where
  id : JsString
  input : MarkDuplicateInput
  author : Option ModelAuthor

/-- Where a client stands. -/
inductive MarkPhase where
  | idle
  | rowRead (call : MarkCall) (current : Option MemoryNodeView)
  | nodeRead (call : MarkCall) (current : MemoryNodeView) (parentMemoryId : JsString)
  | parentRead (call : MarkCall) (current : MemoryNodeView) (parentMemoryId : JsString)

structure MarkState where
  store : MemoryStore
  clients : List MarkPhase

inductive MarkEvent where
  | begin (client : Nat) (call : MarkCall)
  | readDuplicates (client : Nat)
  | readParent (client : Nat)
  | write (client : Nat) (now : JsString)

section

variable (env : MemoryPlatform) (catalog : ActiveMemoryCatalog) (subjectId : JsString)

/-- One statement of one client. -/
def markStep (s : MarkState) : MarkEvent → MarkState
  | .begin client call =>
    match s.clients[client]? with
    | some .idle => { s with clients := s.clients.set client (.rowRead call (s.store.get env catalog subjectId call.id)) }
    | _ => s
  | .readDuplicates client =>
    match s.clients[client]? with
    | some (.rowRead call current) =>
      let current := current.map fun node => { node with duplicateMemories := s.store.duplicateMemories node.id }
      match requireMarkable call.id call.input current with
      | .ok (current, parentMemoryId) => { s with clients := s.clients.set client (.nodeRead call current parentMemoryId) }
      | .error _ => { s with clients := s.clients.set client .idle }
    | _ => s
  | .readParent client =>
    match s.clients[client]? with
    | some (.nodeRead call current parentMemoryId) =>
      match requireParent call.id current parentMemoryId (s.store.get env catalog subjectId parentMemoryId) with
      | .ok () => { s with clients := s.clients.set client (.parentRead call current parentMemoryId) }
      | .error _ => { s with clients := s.clients.set client .idle }
    | _ => s
  | .write client now =>
    match s.clients[client]? with
    | some (.parentRead call current parentMemoryId) =>
      match writeMark s.store call.id current parentMemoryId now call.author with
      | .ok store => { store, clients := s.clients.set client .idle }
      | .error _ => { s with clients := s.clients.set client .idle }
    | _ => s

end

/-- Clients that do nothing yet. -/
def markStart (store : MemoryStore) (clients : Nat) : MarkState := ⟨store, List.replicate clients .idle⟩

/-- The parent of every duplicate is there, and is no duplicate itself. -/
def Flat (store : MemoryStore) : Prop :=
  ∀ row ∈ store.nodes, ∀ parent, row.duplicateOfMemoryId = some parent →
    ∃ parentRow ∈ store.nodes, parentRow.id = parent ∧ parentRow.duplicateOfMemoryId = none

/-- The parent is no duplicate and the node has none, if the write of the call finds the node at all. -/
def mayLink (store : MemoryStore) (id : JsString) (revision : Nat) (parentMemoryId : JsString) : Bool :=
  !store.nodes.any (·.isAt id revision false) ||
    store.nodes.all fun row =>
      (row.id ≠ parentMemoryId || row.duplicateOfMemoryId.isNone) && row.duplicateOfMemoryId ≠ some id

/-- Where a call links a node to its parent, the parent is still no duplicate and the node still has none. -/
def stillMarkable (s : MarkState) : MarkEvent → Bool
  | .write client _ =>
    match s.clients[client]? with
    | some (.parentRead call current parentMemoryId) => mayLink s.store call.id current.revision parentMemoryId
    | _ => true
  | _ => true

/-- The parent that a client has read is there, and it is another node. -/
def MarkPhase.Sound (store : MemoryStore) : MarkPhase → Prop
  | .nodeRead call _ parentMemoryId => parentMemoryId ≠ call.id ∧ trim parentMemoryId = parentMemoryId
  | .parentRead call _ parentMemoryId => parentMemoryId ≠ call.id ∧ ∃ row ∈ store.nodes, row.id = parentMemoryId
  | _ => True

def MarkState.Sound (s : MarkState) : Prop := ∀ phase ∈ s.clients, phase.Sound s.store

section

variable {env : MemoryPlatform} {catalog : ActiveMemoryCatalog} {subjectId : JsString}

variable {store : MemoryStore} {parentMemoryId : JsString}

theorem mayLink_iff {id : JsString} {revision : Nat} {row : MemoryRow}
    (hrow : row ∈ store.nodes) (hat : row.isAt id revision false = true) :
    mayLink store id revision parentMemoryId = true ↔
      ∀ other ∈ store.nodes, (other.id = parentMemoryId → other.duplicateOfMemoryId = none) ∧ other.duplicateOfMemoryId ≠ some id := by
  have hany : store.nodes.any (·.isAt id revision false) = true := List.any_eq_true.mpr ⟨row, hrow, hat⟩
  rw [mayLink, hany, Bool.not_true, Bool.false_or, List.all_eq_true]
  simp only [Bool.and_eq_true, Bool.or_eq_true, decide_eq_true_eq, Option.isNone_iff_eq_none, Decidable.imp_iff_not_or, ne_eq]

theorem flat_link_iff {row : MemoryRow} {now : JsString} (hflat : Flat store)
    (hrow : row ∈ store.nodes) (hnone : row.duplicateOfMemoryId = none) (hne : parentMemoryId ≠ row.id)
    (hpar : ∃ parentRow ∈ store.nodes, parentRow.id = parentMemoryId) :
    Flat (store.mapNodes (·.relinkAt row.id row.revision false (some (parentMemoryId, now)) now) (MemoryRow.id_relinkAt _ _ _ _ _)) ↔
      ∀ other ∈ store.nodes, (other.id = parentMemoryId → other.duplicateOfMemoryId = none) ∧ other.duplicateOfMemoryId ≠ some row.id := by
  have hat : row.isAt row.id row.revision false = true := MemoryRow.isAt_iff.mpr ⟨rfl, rfl, by rw [hnone]; rfl⟩
  have hlinked : row.relinkAt row.id row.revision false (some (parentMemoryId, now)) now = row.relink (some (parentMemoryId, now)) now :=
    if_pos hat
  have hrest : ∀ other ∈ store.nodes, other.id ≠ row.id →
      other.relinkAt row.id row.revision false (some (parentMemoryId, now)) now = other :=
    fun other _ hid => MemoryRow.relinkAt_of_ne hid _ _ _ _
  constructor
  · intro h other hother
    refine ⟨fun hid => ?_, fun hchild => ?_⟩
    · -- the new link leads to the parent
      obtain ⟨found, hfound, hfoundId, hfoundNone⟩ := h _ (List.mem_map_of_mem hrow) parentMemoryId (by rw [hlinked]; rfl)
      obtain ⟨original, horig, rfl⟩ := List.mem_map.mp hfound
      have hsame : original = other :=
        MemoryStore.eq_of_id horig hother ((MemoryRow.id_relinkAt _ _ _ _ _ original).symm.trans (hfoundId.trans hid.symm))
      subst hsame
      rwa [hrest original hother (by rw [hid]; exact hne)] at hfoundNone
    · -- a child of the node is a duplicate of a duplicate now
      have hid : other.id ≠ row.id := by
        intro hid
        obtain rfl := MemoryStore.eq_of_id hother hrow hid
        rw [hnone] at hchild
        cases hchild
      obtain ⟨found, hfound, hfoundId, hfoundNone⟩ :=
        h _ (List.mem_map_of_mem hother) row.id (by rw [hrest other hother hid]; exact hchild)
      obtain ⟨original, horig, rfl⟩ := List.mem_map.mp hfound
      obtain rfl := MemoryStore.eq_of_id horig hrow ((MemoryRow.id_relinkAt _ _ _ _ _ original).symm.trans hfoundId)
      rw [hlinked] at hfoundNone
      cases hfoundNone
  · intro hstill linked hmem parent hlink
    obtain ⟨original, horig, rfl⟩ := List.mem_map.mp hmem
    by_cases hid : original.id = row.id
    · obtain rfl := MemoryStore.eq_of_id horig hrow hid
      rw [hlinked] at hlink
      cases hlink
      obtain ⟨parentRow, hparentRow, hparentId⟩ := hpar
      refine ⟨parentRow, ?_, hparentId, (hstill parentRow hparentRow).1 hparentId⟩
      exact List.mem_map.mpr ⟨parentRow, hparentRow, hrest parentRow hparentRow (by rw [hparentId]; exact hne)⟩
    · rw [hrest original horig hid] at hlink
      obtain ⟨parentRow, hparentRow, hparentId, hparentNone⟩ := hflat original horig parent hlink
      refine ⟨parentRow, ?_, hparentId, hparentNone⟩
      have hparentNe : parentRow.id ≠ row.id := by
        rw [hparentId]
        rintro rfl
        exact (hstill original horig).2 hlink
      exact List.mem_map.mpr ⟨parentRow, hparentRow, hrest parentRow hparentRow hparentNe⟩

theorem flat_congr {store' : MemoryStore} (h : store'.nodes = store.nodes) : Flat store' ↔ Flat store := by
  rw [Flat, Flat, h]

/-- The write of a call: nothing where the node is not found, and a link otherwise. -/
theorem writeMark_cases (store : MemoryStore) (id : JsString) (current : MemoryNodeView) (parentMemoryId now : JsString)
    (author : Option ModelAuthor) :
    (∃ e, writeMark store id current parentMemoryId now author = .error e ∧
        ∀ row ∈ store.nodes, ¬ row.isAt id current.revision false = true) ∨
      ∃ row ∈ store.nodes, ∃ store', writeMark store id current parentMemoryId now author = .ok store' ∧
        row.isAt id current.revision false = true ∧
        store'.nodes = store.nodes.map (·.relinkAt id current.revision false (some (parentMemoryId, now)) now) := by
  rw [writeMark]
  cases hupd : store.updateDuplicate id current.revision false (some (parentMemoryId, now)) now with
  | none =>
    refine .inl ⟨_, rfl, fun row hrow hat => ?_⟩
    have hsome : store.updateDuplicate id current.revision false (some (parentMemoryId, now)) now = some _ :=
      MemoryStore.updateDuplicate_eq_some.mpr ⟨⟨row, hrow, hat⟩, rfl⟩
    rw [hupd] at hsome
    cases hsome
  | some linked =>
    obtain ⟨⟨row, hrow, hat⟩, rfl⟩ := MemoryStore.updateDuplicate_eq_some.mp hupd
    refine .inr ⟨row, hrow, _, rfl, hat, ?_⟩
    rw [(recordModelAuthorship_tables _ _ _ _ _).1]
    rfl

theorem MarkPhase.Sound.mono {store' : MemoryStore} {phase : MarkPhase} (h : phase.Sound store)
    (hids : ∀ row ∈ store.nodes, ∃ row' ∈ store'.nodes, row'.id = row.id) : phase.Sound store' := by
  cases phase with
  | idle => trivial
  | rowRead call current => trivial
  | nodeRead call current parentMemoryId => exact h
  | parentRead call current parentMemoryId =>
    obtain ⟨hne, row, hrow, hid⟩ := h
    obtain ⟨row', hrow', hid'⟩ := hids row hrow
    exact ⟨hne, row', hrow', hid'.trans hid⟩

variable {s : MarkState}

/-- A client that moves on, while the nodes keep their ids. -/
theorem MarkState.Sound.set (h : s.Sound) {phase : MarkPhase}
    (hids : ∀ row ∈ s.store.nodes, ∃ row' ∈ store.nodes, row'.id = row.id) (hphase : phase.Sound store) (client : Nat) :
    MarkState.Sound { store, clients := s.clients.set client phase } := by
  intro other hother
  rcases List.mem_or_eq_of_mem_set hother with hold | rfl
  · exact (h other hold).mono hids
  · exact hphase

theorem requireParent_ok {id : JsString} {current : MemoryNodeView} {parent : Option MemoryNodeView}
    (h : requireParent id current parentMemoryId parent = .ok ()) : ∃ node, parent = some node := by
  cases parent with
  | none => cases h
  | some node => exact ⟨node, rfl⟩

theorem MarkState.Sound.step (h : s.Sound) (event : MarkEvent) : (markStep env catalog subjectId s event).Sound := by
  have hsame : ∀ row ∈ s.store.nodes, ∃ row' ∈ s.store.nodes, row'.id = row.id := fun row hrow => ⟨row, hrow, rfl⟩
  have hidle : ∀ store, MarkPhase.idle.Sound store := fun _ => trivial
  fun_cases markStep env catalog subjectId s event with
  | case1 client call _ =>
    have hphase : (MarkPhase.rowRead call (s.store.get env catalog subjectId call.id)).Sound s.store := trivial
    exact h.set hsame hphase client
  | case2 | case5 | case8 | case11 => exact h
  | case3 client call _ _ _ current parentMemoryId hok =>
    obtain ⟨-, htrim, -, hne⟩ := requireMarkable_ok hok
    have hphase : (MarkPhase.nodeRead call current parentMemoryId).Sound s.store := ⟨hne, by rw [htrim, trim_idem]⟩
    exact h.set hsame hphase client
  | case4 client | case7 client | case10 client => exact h.set hsame (hidle _) client
  | case6 client call current parentMemoryId hclient hok =>
    obtain ⟨hne, htrim⟩ := h _ (List.mem_of_getElem? hclient)
    obtain ⟨node, hget⟩ := requireParent_ok hok
    obtain ⟨-, row, hrow, -⟩ := MemoryStore.get_eq_some.mp hget
    obtain ⟨hmem, hid⟩ := MemoryStore.row?_eq_some hrow
    have hphase : (MarkPhase.parentRead call current parentMemoryId).Sound s.store := ⟨hne, row, hmem, hid.trans htrim⟩
    exact h.set hsame hphase client
  | case9 client now call current parentMemoryId hclient store hok =>
    rcases writeMark_cases s.store call.id current parentMemoryId now call.author with ⟨e, herror, -⟩ | ⟨row, hrow, store', hok', -, hnodes⟩
    · rw [herror] at hok
      cases hok
    · obtain rfl := Except.ok.inj (hok'.symm.trans hok)
      refine h.set (fun other hother => ?_) (hidle _) client
      rw [hnodes]
      exact ⟨_, List.mem_map_of_mem hother, MemoryRow.id_relinkAt _ _ _ _ _ other⟩

theorem markStep_nodes {event : MarkEvent} (h : ∀ client now, event ≠ .write client now) :
    (markStep env catalog subjectId s event).store = s.store := by
  fun_cases markStep env catalog subjectId s event with
  | case9 client now => exact absurd rfl (h client now)
  | _ => rfl

/-- **A step keeps the links flat exactly if what it links is still markable.** -/
theorem stillMarkable_iff_flat (hsound : s.Sound) (hflat : Flat s.store) (event : MarkEvent) :
    stillMarkable s event = true ↔ Flat (markStep env catalog subjectId s event).store := by
  cases event with
  | begin | readDuplicates | readParent =>
    rw [markStep_nodes (by simp)]
    exact iff_of_true rfl hflat
  | write client now =>
    rw [stillMarkable, markStep]
    split
    · next call current parentMemoryId hclient =>
      obtain ⟨hne, hpar⟩ := hsound _ (List.mem_of_getElem? hclient)
      rcases writeMark_cases s.store call.id current parentMemoryId now call.author with ⟨e, herror, hnot⟩ | ⟨row, hrow, store', hok, hat, hnodes⟩
      · rw [herror]
        refine iff_of_true ?_ hflat
        rw [mayLink, Bool.or_eq_true, Bool.not_eq_true']
        refine .inl (Bool.eq_false_iff.mpr fun hany => ?_)
        obtain ⟨row, hrow, hat⟩ := List.any_eq_true.mp hany
        exact hnot row hrow hat
      · obtain ⟨hid, hrev, hlinked⟩ := MemoryRow.isAt_iff.mp hat
        have hnone : row.duplicateOfMemoryId = none := Option.not_isSome_iff_eq_none.mp (by rw [hlinked]; exact Bool.false_ne_true)
        rw [hok, mayLink_iff hrow hat]
        rw [← hid] at hnodes hne ⊢
        rw [← hrev] at hnodes
        exact ((flat_congr hnodes).trans (flat_link_iff hflat hrow hnone hne hpar)).symm
    · exact iff_of_true rfl hflat

theorem markStart_sound (store : MemoryStore) (clients : Nat) : (markStart store clients).Sound := by
  intro phase hphase
  rw [(List.mem_replicate.mp hphase).2]
  trivial

theorem flat_iff (hflat : Flat store) (clients : Nat) (events : List MarkEvent) :
    RunMeets (markStep env catalog subjectId) (fun s event => stillMarkable s event = true) (markStart store clients) events ↔
      ∀ k, Flat (runSteps (markStep env catalog subjectId) (markStart store clients) (events.take k)).store :=
  runMeets_iff_forall_take (I := MarkState.Sound) (P := fun s => Flat s.store) (fun _ event hs => hs.step event)
    (fun _ event hs hP => stillMarkable_iff_flat hs hP event) (markStart_sound store clients) hflat events

end

/-- **What undoing a mark restores, and which runs of marks stay flat.** A mark can be undone, and this
restores the node exactly if the validations recorded for its revision and for the one after next say the
same and the calls name no new author. Every state of a run of several clients is flat exactly if every
write links what is still markable. -/
theorem undone_iff_flat_iff (env : MemoryPlatform) (catalog : ActiveMemoryCatalog) (subjectId : JsString) (store : MemoryStore) :
    (∀ (id now now' reason : JsString) (node : MemoryNodeView) (input : MarkDuplicateInput) (author author' : Option ModelAuthor)
        (store₁ : MemoryStore), store.get env catalog subjectId id = some node →
        markDuplicate env catalog subjectId store node.id input now author = .ok store₁ → trim reason ≠ [] →
        ∃ store₂, undoDuplicate env catalog subjectId store₁ node.id ⟨node.revision + 1, reason⟩ now' author' = .ok store₂ ∧
          (Restored env catalog subjectId store store₂ node.id ↔
            sameRecorded env store node.toMemoryRow now' ∧
              ∀ named, namedAuthor author = some named ∨ namedAuthor author' = some named → named ∈ store.authors node.id)) ∧
      (Flat store → ∀ (clients : Nat) (events : List MarkEvent),
        RunMeets (markStep env catalog subjectId) (fun s event => stillMarkable s event = true) (markStart store clients) events ↔
          ∀ k, Flat (runSteps (markStep env catalog subjectId) (markStart store clients) (events.take k)).store) := by
  refine ⟨fun id now now' reason node input author author' store₁ hget hmark hreason => ?_,
    fun hflat clients events => flat_iff hflat clients events⟩
  obtain ⟨store₂, hundo, -, hundone⟩ := mark_undo now' author' hget hmark hreason
  exact ⟨store₂, hundo, hundone.restored_iff hget⟩

namespace Marks

def platform : MemoryPlatform :=
  { Scopes.platform with nodeHash := fun node => node.id ++ natText node.revision ++ node.updatedAt }

def rowOf (id : JsString) : MemoryRow := ⟨Scopes.nodeOf id (js "bug") .empty, id, some (Scopes.active.hash platform), none, none⟩

/-- Three bugs; the first one has been validated. -/
def store : MemoryStore where
  nodes := [rowOf (js "bug_1"), rowOf (js "bug_2"), rowOf (js "bug_3")]
  edges := []
  snapshots := JsMap.empty.set (Scopes.active.hash platform) Scopes.active.memory
  validations := [⟨js "bug_1", 1, Scopes.active.hash platform, memoryNodeValidationHash platform (rowOf (js "bug_1")).toMemoryNode,
    .full, none, js "2026-01-01T00:00:00.000Z"⟩]
  authorship := []
  primaryKey := by decide +kernel

theorem store_flat : Flat store := by
  intro row hrow parent hlink
  have hnone : row.duplicateOfMemoryId = none := by
    have hall : store.nodes.all (·.duplicateOfMemoryId.isNone) = true := by decide +kernel
    exact Option.isNone_iff_eq_none.mp (List.all_eq_true.mp hall row hrow)
  rw [hnone] at hlink
  cases hlink

def later : JsString := js "2026-01-02T00:00:00.000Z"

def markAs (parent : String) : MarkDuplicateInput := ⟨1, js parent, js "same bug"⟩

/-- The call of one client, without a break. -/
def whole (client : Nat) (id parent : String) : List MarkEvent :=
  [.begin client ⟨js id, markAs parent, none⟩, .readDuplicates client, .readParent client, .write client later]

/-- The calls of two clients, statement by statement. -/
def abreast (id parent id' parent' : String) : List MarkEvent :=
  [.begin 0 ⟨js id, markAs parent, none⟩, .begin 1 ⟨js id', markAs parent', none⟩, .readDuplicates 0, .readDuplicates 1,
    .readParent 0, .readParent 1, .write 0 later, .write 1 later]

theorem ok_of_isOk {ε α : Type*} {x : Except ε α} (h : x.isOk = true) : ∃ a, x = .ok a := by
  cases x with
  | ok a => exact ⟨a, rfl⟩
  | error e => cases h

end Marks

open Marks in
theorem undone_iff_flat_iff_bugs :
    (∃ store₁ store₂, markDuplicate platform Scopes.active (js "s1") store (js "bug_2") (markAs "bug_1") later none = .ok store₁ ∧
        undoDuplicate platform Scopes.active (js "s1") store₁ (js "bug_2") ⟨2, js "not the same"⟩ later none = .ok store₂ ∧
        Restored platform Scopes.active (js "s1") store store₂ (js "bug_2")) ∧
      ∀ k, Flat (runSteps (markStep platform Scopes.active (js "s1")) (markStart store 2)
        ((whole 0 "bug_2" "bug_1" ++ whole 1 "bug_3" "bug_1").take k)).store := by
  obtain ⟨hundone, hflat⟩ := undone_iff_flat_iff platform Scopes.active (js "s1") store
  refine ⟨?_, (hflat store_flat 2 _).mp (by decide +kernel)⟩
  obtain ⟨store₁, hmark⟩ := ok_of_isOk (x := markDuplicate platform Scopes.active (js "s1") store (js "bug_2") (markAs "bug_1") later none)
    (by decide +kernel)
  have hget : store.get platform Scopes.active (js "s1") (js "bug_2") =
      some (store.view platform Scopes.active (rowOf (js "bug_2"))) := by
    rw [MemoryStore.get_eq_some]
    exact ⟨by decide, _, @MemoryStore.row?_of_mem store (rowOf (js "bug_2")) (List.mem_cons_of_mem _ List.mem_cons_self), by decide, rfl⟩
  obtain ⟨store₂, hundo, hiff⟩ := hundone (js "bug_2") later later (js "not the same") _ (markAs "bug_1") none none store₁ hget hmark
    (by decide)
  refine ⟨store₁, store₂, hmark, hundo, hiff.mpr ⟨?_, ?_⟩⟩
  · rintro catalogHash ⟨⟩
    decide +kernel
  · rintro named (hnamed | hnamed) <;> cases hnamed

open Marks in
/-- The first bug loses its validation, and two clients that mark each other's node make a cycle. -/
theorem mark_loses_validation :
    (∃ store₁ store₂, markDuplicate platform Scopes.active (js "s1") store (js "bug_1") (markAs "bug_2") later none = .ok store₁ ∧
        undoDuplicate platform Scopes.active (js "s1") store₁ (js "bug_1") ⟨2, js "not the same"⟩ later none = .ok store₂ ∧
        ¬ Restored platform Scopes.active (js "s1") store store₂ (js "bug_1")) ∧
      ¬ Flat (runSteps (markStep platform Scopes.active (js "s1")) (markStart store 2)
        (abreast "bug_1" "bug_2" "bug_2" "bug_1")).store := by
  refine ⟨?_, fun hflat => ?_⟩
  · obtain ⟨store₁, hmark⟩ := ok_of_isOk (x := markDuplicate platform Scopes.active (js "s1") store (js "bug_1") (markAs "bug_2") later none)
      (by decide +kernel)
    have hget : store.get platform Scopes.active (js "s1") (js "bug_1") =
        some (store.view platform Scopes.active (rowOf (js "bug_1"))) := by
      rw [MemoryStore.get_eq_some]
      exact ⟨by decide, _, @MemoryStore.row?_of_mem store (rowOf (js "bug_1")) List.mem_cons_self, by decide, rfl⟩
    obtain ⟨store₂, hundo, -, hundone⟩ := mark_undo later none hget hmark
      (show trim (js "not the same") ≠ [] by decide)
    refine ⟨store₁, store₂, hmark, hundo, fun hrestored => ?_⟩
    have hrecorded := ((hundone.restored_iff hget).mp hrestored).1 _ rfl
    revert hrecorded
    decide +kernel
  · have hlinks : (runSteps (markStep platform Scopes.active (js "s1")) (markStart store 2)
        (abreast "bug_1" "bug_2" "bug_2" "bug_1")).store.nodes.map (fun row => (row.id, row.duplicateOfMemoryId)) =
        [(js "bug_1", some (js "bug_2")), (js "bug_2", some (js "bug_1")), (js "bug_3", none)] := by decide +kernel
    have hfirst : (js "bug_1", some (js "bug_2")) ∈ [(js "bug_1", some (js "bug_2")), (js "bug_2", some (js "bug_1")), (js "bug_3", none)] :=
      List.mem_cons_self
    rw [← hlinks] at hfirst
    obtain ⟨row, hrow, heq⟩ := List.mem_map.mp hfirst
    obtain ⟨parentRow, hparentRow, hparentId, hparentNone⟩ := hflat row hrow (js "bug_2") (Prod.mk.inj heq).2
    have hparent := List.mem_map_of_mem (f := fun row : MemoryRow => (row.id, row.duplicateOfMemoryId)) hparentRow
    rw [hlinks, hparentId, hparentNone] at hparent
    revert hparent
    decide +kernel

end Beale.Memory
