import Mathlib.Algebra.GroupWithZero.Nat
import Mathlib.Data.List.Nodup
import Mathlib.Data.List.Perm.Basic

/-!
# ECMAScript `Map`

A map that remembers the order in which its keys were first set: `set` on a key
that is there keeps its place, `set` on a new key appends, `delete` forgets the
place.

- `values_perm_of_get?`, `values_set_new`: what the operations do to the values,
  as multisets; the accounting lemmas for maps of pending work.
-/

namespace Beale.Library

universe u v w

/-- A `Map`: entries in insertion order, each key once. -/
structure JsMap (κ : Type u) (α : Type v) where
  entries : List (κ × α)
  nodup : (entries.map Prod.fst).Nodup

namespace JsMap

variable {κ : Type u} {α : Type v}

variable {m : JsMap κ α}

@[ext] theorem ext_entries {m' : JsMap κ α} (h : m.entries = m'.entries) : m = m' := by
  cases m; cases m'; simpa using h

instance [DecidableEq κ] [DecidableEq α] : DecidableEq (JsMap κ α) := fun _ _ =>
  decidable_of_iff _ ⟨ext_entries, congrArg JsMap.entries⟩

/-- `new Map()`. -/
def empty : JsMap κ α := ⟨[], by simp⟩

/-- `[...map.keys()]`. -/
def keys (m : JsMap κ α) : List κ := m.entries.map Prod.fst

/-- `[...map.values()]`. -/
def values (m : JsMap κ α) : List α := m.entries.map Prod.snd

@[simp] theorem values_empty : (empty : JsMap κ α).values = [] := rfl

@[simp] theorem keys_empty : (empty : JsMap κ α).keys = [] := rfl

variable [DecidableEq κ]

/-- `map.get(key)`. -/
def get? (m : JsMap κ α) (key : κ) : Option α := m.entries.lookup key

def has (m : JsMap κ α) (key : κ) : Bool := (m.get? key).isSome

def delete (m : JsMap κ α) (key : κ) : JsMap κ α where
  entries := m.entries.filter (·.1 ≠ key)
  nodup := m.nodup.sublist (List.filter_sublist.map _)

/-- The entries with the value at `key` replaced. -/
def replaceEntries (key : κ) (value : α) : List (κ × α) → List (κ × α)
  | [] => []
  | e :: rest => if e.1 = key then (key, value) :: rest else e :: replaceEntries key value rest

theorem replaceEntries_keys (key : κ) (value : α) (l : List (κ × α)) :
    (replaceEntries key value l).map Prod.fst = l.map Prod.fst := by
  induction l with
  | nil => rfl
  | cons e rest ih =>
    rw [replaceEntries]
    split
    · next h => simp [h]
    · simp [ih]

variable {l : List (κ × α)} {key : κ}

theorem lookup_eq_none : l.lookup key = none ↔ key ∉ l.map Prod.fst := by
  induction l with
  | nil => simp
  | cons e rest ih =>
    rw [List.lookup_cons]
    by_cases h : key = e.1
    · simp [h]
    · simp [beq_eq_false_iff_ne.mpr h, h, ih]

def set (m : JsMap κ α) (key : κ) (value : α) : JsMap κ α :=
  if h : m.get? key = none then
    { entries := m.entries ++ [(key, value)]
      nodup := by
        have hnew := lookup_eq_none.mp h
        simp only [List.map_append, List.map_cons, List.map_nil]
        exact List.nodup_append.mpr ⟨m.nodup, by simp, by
          rintro a ha b hb rfl
          exact hnew (List.mem_singleton.mp hb ▸ ha)⟩ }
  else
    { entries := replaceEntries key value m.entries
      nodup := by rw [replaceEntries_keys]; exact m.nodup }

/-- The map with every value changed in place. -/
def mapValues (f : α → α) (m : JsMap κ α) : JsMap κ α where
  entries := m.entries.map fun e => (e.1, f e.2)
  nodup := by
    rw [List.map_map]
    exact m.nodup

/-- The map with the value at a key, if there is one, changed in place. -/
def modify (m : JsMap κ α) (key : κ) (f : α → α) : JsMap κ α :=
  match m.get? key with
  | some value => m.set key (f value)
  | none => m

/-! ## Reading after writing -/

@[simp] theorem get?_empty (key : κ) : (empty : JsMap κ α).get? key = none := rfl

variable {value : α}

theorem lookup_append_new (key' : κ) (h : l.lookup key = none) :
    (l ++ [(key, value)]).lookup key' = if key' = key then some value else l.lookup key' := by
  rw [List.lookup_append]
  by_cases hk : key' = key
  · simp [hk, h]
  · simp [hk, List.lookup_cons, beq_eq_false_iff_ne.mpr hk]

theorem lookup_replaceEntries (key' : κ) (h : l.lookup key ≠ none) :
    (replaceEntries key value l).lookup key'
      = if key' = key then some value else l.lookup key' := by
  induction l with
  | nil => simp at h
  | cons e rest ih =>
    rw [replaceEntries]
    by_cases he : e.1 = key
    · by_cases hk : key' = key
      · simp [he, hk]
      · rw [if_pos he, List.lookup_cons, List.lookup_cons, he, beq_eq_false_iff_ne.mpr hk, if_neg hk]
    · have hrest : rest.lookup key ≠ none := by
        rw [List.lookup_cons, beq_eq_false_iff_ne.mpr (Ne.symm he)] at h
        exact h
      rw [if_neg he, List.lookup_cons, List.lookup_cons, ih hrest]
      by_cases hk : key' = e.1
      · simp [hk, he]
      · simp [beq_eq_false_iff_ne.mpr hk]

theorem get?_set (m : JsMap κ α) (key key' : κ) (value : α) :
    (m.set key value).get? key' = if key' = key then some value else m.get? key' := by
  rw [set]
  split
  · next h => exact lookup_append_new key' h
  · next h => exact lookup_replaceEntries key' h

@[simp] theorem get?_set_self (m : JsMap κ α) (key : κ) (value : α) :
    (m.set key value).get? key = some value := by
  rw [get?_set, if_pos rfl]

theorem get?_delete (m : JsMap κ α) (key key' : κ) :
    (m.delete key).get? key' = if key' = key then none else m.get? key' := by
  simp only [get?, delete]
  induction m.entries with
  | nil => simp
  | cons e rest ih =>
    by_cases he : e.1 = key
    · rw [List.filter_cons_of_neg (by simp [he]), ih, List.lookup_cons]
      by_cases hk : key' = key
      · simp [hk]
      · simp [hk, beq_eq_false_iff_ne.mpr (he ▸ hk)]
    · rw [List.filter_cons_of_pos (by simp [he]), List.lookup_cons, List.lookup_cons, ih]
      by_cases hk : key' = e.1
      · simp [hk, he]
      · simp [beq_eq_false_iff_ne.mpr hk]

theorem get?_cons {e : κ × α} (h : ((e :: l).map Prod.fst).Nodup) (key : κ) :
    get? ⟨e :: l, h⟩ key = if key = e.1 then some e.2 else get? ⟨l, (List.nodup_cons.mp h).2⟩ key := by
  show (e :: l).lookup key = _
  rw [List.lookup_cons]
  by_cases hkey : key = e.1
  · rw [if_pos hkey, hkey, beq_self_eq_true]
  · rw [if_neg hkey, beq_eq_false_iff_ne.mpr hkey]
    rfl

theorem get?_mapValues (m : JsMap κ α) (f : α → α) (key : κ) :
    (m.mapValues f).get? key = (m.get? key).map f := by
  show (m.entries.map fun e => (e.1, f e.2)).lookup key = (m.entries.lookup key).map f
  induction m.entries with
  | nil => rfl
  | cons e rest ih =>
    rw [List.map_cons, List.lookup_cons, List.lookup_cons, ih]
    cases key == e.1 <;> rfl

theorem get?_modify (m : JsMap κ α) (f : α → α) (key key' : κ) :
    (m.modify key f).get? key' = if key' = key then (m.get? key).map f else m.get? key' := by
  rw [modify]
  cases h : m.get? key with
  | none =>
    by_cases hk : key' = key
    · rw [if_pos hk, hk, h, Option.map_none]
    · rw [if_neg hk]
  | some value => rw [get?_set, Option.map_some]

/-! ## Keys and values -/

theorem get?_eq_none : m.get? key = none ↔ key ∉ m.keys :=
  lookup_eq_none

theorem mem_of_get? (h : m.get? key = some value) : (key, value) ∈ m.entries := by
  rw [get?] at h
  obtain ⟨l₁, l₂, hl, -⟩ := List.lookup_eq_some_iff.mp h
  simp [hl]

theorem get?_of_mem (h : (key, value) ∈ m.entries) : m.get? key = some value := by
  obtain ⟨l₁, l₂, hl⟩ := List.append_of_mem h
  refine List.lookup_eq_some_iff.mpr ⟨l₁, l₂, hl, ?_⟩
  intro e he
  have hnodup := m.nodup
  rw [hl, List.map_append, List.map_cons, List.nodup_append] at hnodup
  simpa using fun hk => hnodup.2.2 e.1 (List.mem_map_of_mem he) key (by simp) hk.symm

/-- The map of the entries that pass a test. -/
def filter (p : κ × α → Bool) (m : JsMap κ α) : JsMap κ α where
  entries := m.entries.filter p
  nodup := m.nodup.sublist (List.filter_sublist.map _)

theorem get?_filter_eq_some {p : κ × α → Bool} :
    (m.filter p).get? key = some value ↔ m.get? key = some value ∧ p (key, value) = true := by
  constructor
  · intro h
    obtain ⟨hmem, hp⟩ := List.mem_filter.mp (mem_of_get? h)
    exact ⟨get?_of_mem hmem, hp⟩
  · rintro ⟨h, hp⟩
    exact get?_of_mem (List.mem_filter.mpr ⟨mem_of_get? h, hp⟩)

theorem exists_get?_of_mem_values (h : value ∈ m.values) : ∃ key, m.get? key = some value := by
  obtain ⟨e, he, rfl⟩ := List.mem_map.mp h
  exact ⟨e.1, get?_of_mem he⟩

theorem mem_values_of_get? (h : m.get? key = some value) : value ∈ m.values :=
  List.mem_map.mpr ⟨(key, value), mem_of_get? h, rfl⟩

theorem keys_prefix_set (m : JsMap κ α) (key : κ) (value : α) : m.keys <+: (m.set key value).keys := by
  unfold set
  split
  next => exact ⟨[key], by simp [keys]⟩
  next =>
    refine ⟨[], ?_⟩
    show m.entries.map Prod.fst ++ [] = (replaceEntries key value m.entries).map Prod.fst
    rw [List.append_nil, replaceEntries_keys]

theorem values_set_new (value : α) (h : m.get? key = none) :
    (m.set key value).values = m.values ++ [value] := by
  simp [values, set, h]

/-- Taking a key out takes its value out of the values, once. -/
theorem values_perm_of_get? (h : m.get? key = some value) :
    m.values.Perm (value :: (m.delete key).values) := by
  have hnodup := m.nodup
  obtain ⟨l₁, l₂, hl, -⟩ := List.lookup_eq_some_iff.mp h
  rw [hl, List.map_append, List.map_cons, List.nodup_append] at hnodup
  have hleft : l₁.filter (·.1 ≠ key) = l₁ := by
    refine List.filter_eq_self.mpr fun e he => ?_
    simpa using hnodup.2.2 e.1 (List.mem_map_of_mem he) key (by simp)
  have hright : l₂.filter (·.1 ≠ key) = l₂ := by
    refine List.filter_eq_self.mpr fun e he => ?_
    have hnot := (List.nodup_cons.mp hnodup.2.1).1
    have hne : e.1 ≠ key := fun hk => hnot (List.mem_map.mpr ⟨e, he, hk⟩)
    simpa using hne
  simp only [values, delete, hl, List.filter_append, hleft]
  rw [List.filter_cons_of_neg (by simp), hright, List.map_append, List.map_append, List.map_cons]
  exact List.perm_middle

theorem values_replaceEntries_countP (value' : α) (p : α → Bool) (h : l.lookup key = some value) :
    ((replaceEntries key value' l).map Prod.snd).countP p + (if p value then 1 else 0)
      = (l.map Prod.snd).countP p + (if p value' then 1 else 0) := by
  induction l with
  | nil => cases h
  | cons e rest ih =>
    rw [replaceEntries]
    rw [List.lookup_cons] at h
    by_cases he : e.1 = key
    · rw [beq_iff_eq.mpr he.symm] at h
      rw [if_pos he, List.map_cons, List.map_cons, List.countP_cons, List.countP_cons,
        Option.some.inj h]
      show _ + (if p value' then 1 else 0) + _ = _
      omega
    · rw [beq_eq_false_iff_ne.mpr (Ne.symm he)] at h
      have hcount := ih h
      rw [if_neg he, List.map_cons, List.map_cons, List.countP_cons, List.countP_cons]
      omega

/-- Changing a value in place changes a count by that value alone. -/
theorem countP_values_modify (f : α → α) (p : α → Bool) (h : m.get? key = some value) :
    (m.modify key f).values.countP p + (if p value then 1 else 0)
      = m.values.countP p + (if p (f value) then 1 else 0) := by
  rw [modify, h]
  show (m.set key (f value)).values.countP p + _ = _
  have hthere : ¬m.get? key = none := by simp [h]
  rw [set, dif_neg hthere]
  exact values_replaceEntries_countP (f value) p h

theorem countP_values_modify_of_same {f : α → α} {p : α → Bool}
    (h : ∀ value, m.get? key = some value → p (f value) = p value) :
    (m.modify key f).values.countP p = m.values.countP p := by
  cases hkey : m.get? key with
  | none => rw [modify, hkey]
  | some value =>
    have hcount := countP_values_modify f p hkey
    rw [h value hkey] at hcount
    omega

theorem countP_values_delete (p : α → Bool) (h : m.get? key = some value) :
    (m.delete key).values.countP p + (if p value then 1 else 0) = m.values.countP p := by
  rw [(values_perm_of_get? h).countP_eq, List.countP_cons]

theorem delete_of_none (h : m.get? key = none) : m.delete key = m := by
  ext1
  refine List.filter_eq_self.mpr fun e he => ?_
  have hne : e.1 ≠ key := fun hk => get?_eq_none.mp h (List.mem_map.mpr ⟨e, he, hk⟩)
  simpa using hne

theorem delete_set_new (value : α) (h : m.get? key = none) : (m.set key value).delete key = m := by
  ext1
  show List.filter _ (m.set key value).entries = m.entries
  rw [set, dif_pos h, List.filter_append, List.filter_cons_of_neg (by simp), List.filter_nil,
    List.append_nil]
  exact congrArg JsMap.entries (delete_of_none h)

theorem filter_replaceEntries (key : κ) (value : α) (l : List (κ × α)) :
    (replaceEntries key value l).filter (·.1 ≠ key) = l.filter (·.1 ≠ key) := by
  induction l with
  | nil => rfl
  | cons e rest ih =>
    rw [replaceEntries]
    by_cases he : e.1 = key
    · rw [if_pos he, List.filter_cons_of_neg (by simp), List.filter_cons_of_neg (by simp [he])]
    · rw [if_neg he, List.filter_cons_of_pos (by simp [he]), List.filter_cons_of_pos (by simp [he]),
        ih]

/-- A value that is changed and then deleted is deleted. -/
theorem delete_modify (m : JsMap κ α) (key : κ) (f : α → α) :
    (m.modify key f).delete key = m.delete key := by
  ext1
  cases hkey : m.get? key with
  | none => rw [modify, hkey]
  | some value =>
    rw [modify, hkey]
    show List.filter _ (m.set key (f value)).entries = List.filter _ m.entries
    rw [set, dif_neg (by simp [hkey])]
    exact filter_replaceEntries key (f value) m.entries

@[simp] theorem keys_modify (m : JsMap κ α) (key : κ) (f : α → α) :
    (m.modify key f).keys = m.keys := by
  cases hkey : m.get? key with
  | none => rw [modify, hkey]
  | some value =>
    rw [modify, hkey]
    show (m.set key (f value)).keys = m.keys
    rw [set, dif_neg (by simp [hkey])]
    exact replaceEntries_keys key (f value) m.entries

theorem map_values_replaceEntries {β : Type v} {value' : α}
    {g : α → β} (h : l.lookup key = some value) (hg : g value' = g value) :
    ((replaceEntries key value' l).map Prod.snd).map g = (l.map Prod.snd).map g := by
  induction l with
  | nil => cases h
  | cons e rest ih =>
    rw [replaceEntries]
    rw [List.lookup_cons] at h
    by_cases he : e.1 = key
    · rw [beq_iff_eq.mpr he.symm] at h
      rw [if_pos he, List.map_cons, List.map_cons, List.map_cons, List.map_cons, Option.some.inj h,
        hg]
    · rw [beq_eq_false_iff_ne.mpr (Ne.symm he)] at h
      rw [if_neg he, List.map_cons, List.map_cons, List.map_cons, List.map_cons, ih h]

/-- A change in place that a function of the values does not see. -/
theorem map_values_modify {β : Type v} (m : JsMap κ α) (key : κ) {f : α → α} {g : α → β}
    (hg : ∀ value, g (f value) = g value) :
    (m.modify key f).values.map g = m.values.map g := by
  cases hkey : m.get? key with
  | none => rw [modify, hkey]
  | some value =>
    rw [modify, hkey]
    show (m.set key (f value)).values.map g = m.values.map g
    rw [set, dif_neg (by simp [hkey])]
    exact map_values_replaceEntries hkey (hg value)

theorem keys_set_new (value : α) (h : m.get? key = none) :
    (m.set key value).keys = m.keys ++ [key] := by
  simp [keys, set, h]

theorem entries_set_new (value : α) (h : m.get? key = none) :
    (m.set key value).entries = m.entries ++ [(key, value)] := by
  rw [set, dif_pos h]

theorem entries_delete_head {rest : List (κ × α)}
    (h : m.entries = (key, value) :: rest) : (m.delete key).entries = rest := by
  have hnodup := m.nodup
  rw [h, List.map_cons, List.nodup_cons] at hnodup
  show m.entries.filter _ = rest
  rw [h, List.filter_cons_of_neg (by simp)]
  refine List.filter_eq_self.mpr fun e he => ?_
  have hne : e.1 ≠ key := fun hkey => hnodup.1 (List.mem_map.mpr ⟨e, he, hkey⟩)
  simpa using hne

theorem values_delete_sublist (m : JsMap κ α) (key : κ) : (m.delete key).values.Sublist m.values :=
  List.filter_sublist.map _

theorem keys_delete_sublist (m : JsMap κ α) (key : κ) : (m.delete key).keys.Sublist m.keys :=
  List.filter_sublist.map _

theorem values_eq_nil (h : ∀ key, m.get? key = none) : m.values = [] := by
  rw [values, List.map_eq_nil_iff, List.eq_nil_iff_forall_not_mem]
  rintro ⟨key, value⟩ hmem
  have hnone := h key
  rw [get?_of_mem hmem] at hnone
  cases hnone

/-- `for (const key of keys) map.delete(key)`. -/
def deleteAll (m : JsMap κ α) (keys : List κ) : JsMap κ α := keys.foldl delete m

theorem get?_deleteAll (m : JsMap κ α) (keys : List κ) (key : κ) :
    (m.deleteAll keys).get? key = if key ∈ keys then none else m.get? key := by
  induction keys generalizing m with
  | nil => simp [deleteAll]
  | cons k rest ih =>
    rw [deleteAll, List.foldl_cons, ← deleteAll, ih, get?_delete]
    by_cases hk : key = k
    · simp [hk]
    · simp [hk]

theorem entries_foldl_set (m : JsMap κ α) (hl : (l.map Prod.fst).Nodup)
    (hnew : ∀ e ∈ l, m.get? e.1 = none) :
    (l.foldl (fun m e => m.set e.1 e.2) m).entries = m.entries ++ l := by
  induction l generalizing m with
  | nil => simp
  | cons e l ih =>
    rw [List.map_cons, List.nodup_cons] at hl
    have hset : (m.set e.1 e.2).entries = m.entries ++ [e] := by
      simp [set, hnew e (by simp)]
    rw [List.foldl_cons, ih _ hl.2, hset, List.append_assoc]
    · rfl
    · intro e' he'
      rw [get?_set, if_neg]
      · exact hnew e' (by simp [he'])
      · rintro heq
        exact hl.1 (List.mem_map.mpr ⟨e', he', by simpa using heq⟩)

/-- A map made of the last entries of another one. -/
theorem entries_foldl_set_empty (hl : (l.map Prod.fst).Nodup) :
    (l.foldl (fun m e => m.set e.1 e.2) (empty : JsMap κ α)).entries = l :=
  (entries_foldl_set empty hl fun _ _ => rfl).trans (List.nil_append l)

theorem get?_foldl_set {β : Type w} (g : β → κ) (v : β → α) (items : List β) (m : JsMap κ α) (key : κ) :
    (∃ item ∈ items, g item = key ∧
      (items.foldl (fun m item => m.set (g item) (v item)) m).get? key = some (v item)) ∨
    (∀ item ∈ items, g item ≠ key) ∧
      (items.foldl (fun m item => m.set (g item) (v item)) m).get? key = m.get? key := by
  induction items generalizing m with
  | nil => exact .inr ⟨nofun, rfl⟩
  | cons item rest ih =>
    rw [List.foldl_cons]
    rcases ih (m.set (g item) (v item)) with ⟨later, hmem, hkey, hget⟩ | ⟨hnone, hget⟩
    · exact .inl ⟨later, List.mem_cons_of_mem _ hmem, hkey, hget⟩
    · rw [get?_set] at hget
      by_cases hkey : key = g item
      · exact .inl ⟨item, List.mem_cons_self, hkey.symm, by rw [hget, if_pos hkey]⟩
      · exact .inr ⟨List.forall_mem_cons.mpr ⟨Ne.symm hkey, hnone⟩, by rw [hget, if_neg hkey]⟩

/-- `{ ...m, ...n }`: the entries of `n` over those of `m`. -/
def spread (m n : JsMap κ α) : JsMap κ α := n.entries.foldl (fun m e => m.set e.1 e.2) m

theorem get?_spread (m n : JsMap κ α) (key : κ) :
    (m.spread n).get? key = (n.get? key).or (m.get? key) := by
  have hfold : ∀ (l : List (κ × α)) (m : JsMap κ α), (l.map Prod.fst).Nodup →
      (l.foldl (fun m e => m.set e.1 e.2) m).get? key = (l.lookup key).or (m.get? key) := by
    intro l
    induction l with
    | nil => intro m _; rfl
    | cons e l ih =>
      intro m hl
      rw [List.map_cons, List.nodup_cons] at hl
      rw [List.foldl_cons, ih _ hl.2, get?_set, List.lookup_cons]
      by_cases hkey : key = e.1
      · rw [if_pos hkey, hkey, lookup_eq_none.mpr hl.1, beq_self_eq_true]
        rfl
      · rw [if_neg hkey, beq_eq_false_iff_ne.mpr hkey]
  exact hfold n.entries m n.nodup

end JsMap

end Beale.Library
