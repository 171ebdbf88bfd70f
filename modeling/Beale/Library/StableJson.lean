import Beale.Library.JsonText

/-!
# The canonical text of a JSON value

`stableJson` sorts the members of every object by their keys, so that two values with the same
members have one text. The text tells the members of a value and the order of its arrays.
-/

namespace Beale.Library

mutual

/-- The value with the members of every object sorted by their keys. -/
def stableValue : Json → Json
  | .arr elements => .arr (stableElements elements)
  | .obj members => .obj ((stableMembers members).insertionSort fun a b => ¬ b.1 < a.1)
  | value => value

def stableElements : List Json → List Json
  | [] => []
  | e :: rest => stableValue e :: stableElements rest

def stableMembers : List (JsString × Json) → List (JsString × Json)
  | [] => []
  | (k, v) :: rest => (k, stableValue v) :: stableMembers rest

end

def stableJson (value : Json) : JsString := stringify (stableValue value)

theorem stableElements_eq_map (es : List Json) : stableElements es = es.map stableValue := by
  induction es with
  | nil => rfl
  | cons e rest ih => rw [stableElements, ih, List.map_cons]

theorem stableMembers_eq_map (ms : List (JsString × Json)) :
    stableMembers ms = ms.map fun m => (m.1, stableValue m.2) := by
  induction ms with
  | nil => rfl
  | cons m rest ih => rw [stableMembers, ih, List.map_cons]

/-! ## Sorting keeps the texts of numbers -/

theorem elementsProper_iff {es : List Json} : ElementsProper es ↔ ∀ e ∈ es, e.Proper := by
  induction es with
  | nil => simp [ElementsProper]
  | cons e rest ih => rw [ElementsProper, ih, List.forall_mem_cons]

mutual

theorem stableValue_proper : ∀ v : Json, v.Proper → (stableValue v).Proper
  | .null, h => h
  | .bool _, h => h
  | .num _, h => h
  | .str _, h => h
  | .arr es, h => by
    rw [stableValue, Json.Proper]
    rw [Json.Proper] at h
    exact stableElements_proper es h
  | .obj ms, h => by
    rw [Json.Proper] at h
    rw [stableValue, Json.Proper, membersProper_iff]
    intro m hm
    exact membersProper_iff.mp (stableMembers_proper ms h) m ((List.mem_insertionSort _).mp hm)

theorem stableElements_proper : ∀ es : List Json, ElementsProper es →
    ElementsProper (stableElements es)
  | [], h => h
  | e :: es, h => ⟨stableValue_proper e h.1, stableElements_proper es h.2⟩

theorem stableMembers_proper : ∀ ms : List (JsString × Json), MembersProper ms →
    MembersProper (stableMembers ms)
  | [], h => h
  | (_, v) :: ms, h => ⟨stableValue_proper v h.1, stableMembers_proper ms h.2⟩

end

/-- Values with one canonical text have the same sorted value. -/
theorem stableJson_injective {v w : Json} (hv : v.Proper) (hw : w.Proper)
    (h : stableJson v = stableJson w) : stableValue v = stableValue w :=
  stringify_injective (stableValue_proper v hv) (stableValue_proper w hw) h

/-! ## Reading a sorted value -/

theorem lookup_eq_some_iff {α : Type} {l : List (JsString × α)} (h : (l.map Prod.fst).Nodup)
    {key : JsString} {value : α} : l.lookup key = some value ↔ (key, value) ∈ l := by
  induction l with
  | nil => simp
  | cons e rest ih =>
    obtain ⟨k, v⟩ := e
    rw [List.map_cons, List.nodup_cons] at h
    rw [List.lookup_cons, List.mem_cons]
    by_cases hk : key = k
    · have hout : (key, value) ∉ rest := fun hmem =>
        h.1 (List.mem_map.mpr ⟨_, hmem, hk⟩)
      simp [hk, eq_comm, hk ▸ hout]
    · rw [beq_eq_false_iff_ne.mpr hk]
      simp only [ih h.2, Prod.mk.injEq, hk, false_and, false_or]

/-- Lists with the same members and distinct keys agree at every key. -/
theorem lookup_of_perm {α : Type} {l l' : List (JsString × α)} (h : l.Perm l')
    (hkeys : (l.map Prod.fst).Nodup) (key : JsString) : l.lookup key = l'.lookup key := by
  have hkeys' : (l'.map Prod.fst).Nodup := (h.map Prod.fst).nodup_iff.mp hkeys
  refine Option.ext fun value => ?_
  rw [lookup_eq_some_iff hkeys, lookup_eq_some_iff hkeys', h.mem_iff]

theorem lookup_map_value {α β : Type} (f : α → β) (l : List (JsString × α)) (key : JsString) :
    (l.map fun m => (m.1, f m.2)).lookup key = (l.lookup key).map f := by
  induction l with
  | nil => rfl
  | cons m rest ih =>
    rw [List.map_cons, List.lookup_cons, List.lookup_cons]
    cases key == m.1
    · exact ih
    · rfl

/-- Sorting keeps what is read at a key. -/
theorem field?_stableValue {ms : List (JsString × Json)} (h : (ms.map Prod.fst).Nodup)
    (key : JsString) : (stableValue (.obj ms)).field? key = (ms.lookup key).map stableValue := by
  rw [stableValue, stableMembers_eq_map]
  show List.lookup key _ = _
  have hkeys : ((ms.map fun m => (m.1, stableValue m.2)).map Prod.fst).Nodup := by
    rw [List.map_map]
    exact h
  rw [← lookup_of_perm (List.perm_insertionSort _ _).symm hkeys, lookup_map_value]

/-- Objects with distinct keys and one sorted value agree at every key. -/
theorem lookup_of_stableValue {ms ms' : List (JsString × Json)} (h : (ms.map Prod.fst).Nodup)
    (h' : (ms'.map Prod.fst).Nodup) (heq : stableValue (.obj ms) = stableValue (.obj ms'))
    (key : JsString) : (ms.lookup key).map stableValue = (ms'.lookup key).map stableValue := by
  rw [← field?_stableValue h, ← field?_stableValue h', heq]

theorem elements_of_stableValue {es es' : List Json} (h : stableValue (.arr es) = stableValue (.arr es')) :
    es.map stableValue = es'.map stableValue := by
  rw [stableValue, stableValue, stableElements_eq_map, stableElements_eq_map] at h
  exact Json.arr.inj h

end Beale.Library
