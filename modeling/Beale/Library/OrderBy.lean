import Mathlib.Data.List.Sort

/-!
# Rows in descending order

`orderByDesc cmp rows` is what `ORDER BY … DESC` makes of some rows, and `firstBy cmp p rows` the first one of them that
satisfies a condition. Where no two rows compare as equal, that one is the greatest.

- `firstBy_eq_none`: and when there is none.
-/

namespace Beale.Library

universe u

variable {α : Type u} {cmp : α → α → Ordering} {p : α → Bool} {rows : List α} {row : α}

def orderByDesc (cmp : α → α → Ordering) (rows : List α) : List α := rows.insertionSort fun a b => cmp b a ≠ .gt

def firstBy (cmp : α → α → Ordering) (p : α → Bool) (rows : List α) : Option α := (orderByDesc cmp rows).find? p

/-- No two rows compare as equal. -/
def Keyed (cmp : α → α → Ordering) (rows : List α) : Prop := ∀ a ∈ rows, ∀ b ∈ rows, cmp a b = .eq → a = b

theorem mem_orderByDesc : row ∈ orderByDesc cmp rows ↔ row ∈ rows := List.mem_insertionSort _

theorem firstBy_eq_none : firstBy cmp p rows = none ↔ ∀ row ∈ rows, p row = false := by
  rw [firstBy, List.find?_eq_none]
  constructor
  · intro h row hrow
    exact Bool.eq_false_iff.mpr (h row (mem_orderByDesc.mpr hrow))
  · intro h row hrow
    rw [h row (mem_orderByDesc.mp hrow)]
    exact Bool.false_ne_true

section Ordered

variable [Std.TransCmp cmp]

/-- Rows are compared by what is read of them. -/
theorem transCmp_on {β : Type*} (f : β → α) : Std.TransCmp fun a b : β => cmp (f a) (f b) where
  eq_swap := Std.OrientedCmp.eq_swap
  isLE_trans := Std.TransCmp.isLE_trans

theorem ne_gt_trans {a b c : α} (hab : cmp a b ≠ .gt) (hbc : cmp b c ≠ .gt) : cmp a c ≠ .gt := by
  have hle : (cmp a c).isLE := Std.TransCmp.isLE_trans (by rwa [Ordering.isLE_iff_ne_gt]) (by rwa [Ordering.isLE_iff_ne_gt])
  rwa [Ordering.isLE_iff_ne_gt] at hle

/-- Two rows, neither of which is greater, compare as equal. -/
theorem eq_of_ne_gt {a b : α} (hab : cmp a b ≠ .gt) (hba : cmp b a ≠ .gt) : cmp a b = .eq := by
  have hswap : cmp b a = (cmp a b).swap := Std.OrientedCmp.eq_swap
  rw [hswap] at hba
  cases hcmp : cmp a b with
  | lt =>
    rw [hcmp] at hba
    exact absurd rfl hba
  | eq => rfl
  | gt => exact absurd hcmp hab

theorem pairwise_orderByDesc (rows : List α) : (orderByDesc cmp rows).Pairwise fun a b => cmp b a ≠ .gt := by
  have htotal : Std.Total fun a b => cmp b a ≠ .gt := by
    refine ⟨fun a b => ?_⟩
    by_cases hab : cmp a b = .gt
    · refine .inl ?_
      have hswap : cmp b a = (cmp a b).swap := Std.OrientedCmp.eq_swap
      rw [hswap, hab]
      nofun
    · exact .inr hab
  have htrans : IsTrans α fun a b => cmp b a ≠ .gt := by
    exact ⟨fun a b c hab hbc => ne_gt_trans hbc hab⟩
  exact List.pairwise_insertionSort _ rows

/-- What comes first is not less than any other row that satisfies the condition. -/
theorem firstBy_spec (h : firstBy cmp p rows = some row) :
    row ∈ rows ∧ p row = true ∧ ∀ b ∈ rows, p b = true → cmp b row ≠ .gt := by
  obtain ⟨hp, before, after, heq, hbef⟩ := List.find?_eq_some_iff_append.mp h
  have hmem : row ∈ orderByDesc cmp rows := by
    rw [heq]
    exact List.mem_append_right _ List.mem_cons_self
  refine ⟨mem_orderByDesc.mp hmem, hp, fun b hb hpb => ?_⟩
  have hsorted : (orderByDesc cmp rows).Pairwise fun a b => cmp b a ≠ .gt := pairwise_orderByDesc rows
  have hb' : b ∈ orderByDesc cmp rows := mem_orderByDesc.mpr hb
  rw [heq] at hsorted hb'
  rcases List.mem_append.mp hb' with hearlier | hlater
  · have hnot := hbef b hearlier
    rw [hpb] at hnot
    cases hnot
  · rcases List.mem_cons.mp hlater with rfl | hlater
    · have hself : cmp b b = .eq := Std.ReflCmp.compare_self
      rw [hself]
      nofun
    · exact List.rel_of_pairwise_cons (List.pairwise_append.mp hsorted).2.1 hlater

theorem firstBy_eq_some (hkeyed : Keyed cmp rows) :
    firstBy cmp p rows = some row ↔ row ∈ rows ∧ p row = true ∧ ∀ b ∈ rows, p b = true → cmp b row ≠ .gt := by
  refine ⟨firstBy_spec, ?_⟩
  rintro ⟨hrow, hp, hmax⟩
  cases hfirst : firstBy cmp p rows with
  | none =>
    rw [firstBy_eq_none.mp hfirst row hrow] at hp
    cases hp
  | some first =>
    obtain ⟨hmem, hpfirst, hfirst⟩ := firstBy_spec hfirst
    have heq := eq_of_ne_gt (hmax first hmem hpfirst) (hfirst row hrow hp)
    rw [hkeyed first hmem row hrow heq]

/-! ## The greatest rows -/

/-- The result consists of `n` rows, or of all of them, and none of the others is greater. -/
structure BestOf (cmp : α → α → Ordering) (rows result : List α) (n : Nat) : Prop where
  greatest : ∃ others, (result ++ others).Perm rows ∧ ∀ a ∈ result, ∀ b ∈ others, cmp b a ≠ .gt
  sorted : result.Pairwise fun a b => cmp b a ≠ .gt
  length : result.length = min n rows.length

theorem bestOf_take (rows : List α) (n : Nat) : BestOf cmp rows ((orderByDesc cmp rows).take n) n where
  greatest := by
    refine ⟨(orderByDesc cmp rows).drop n, ?_, fun a ha b hb => ?_⟩
    · rw [List.take_append_drop]
      exact List.perm_insertionSort _ rows
    · have hsorted : (orderByDesc cmp rows).Pairwise fun a b => cmp b a ≠ .gt := pairwise_orderByDesc rows
      rw [← List.take_append_drop n (orderByDesc cmp rows)] at hsorted
      exact (List.pairwise_append.mp hsorted).2.2 a ha b hb
  sorted := (pairwise_orderByDesc rows).sublist (List.take_sublist _ _)
  length := by rw [List.length_take, orderByDesc, List.length_insertionSort]

theorem BestOf.first {result : List α} {n : Nat} (h : BestOf cmp rows result n) (hn : 0 < n) (hrow : row ∈ rows) :
    ∃ first, result.head? = some first ∧ cmp row first ≠ .gt := by
  obtain ⟨others, hperm, hrest⟩ := h.greatest
  cases hres : result with
  | nil =>
    have hlen := h.length
    rw [hres, List.length_nil] at hlen
    have hpos := List.length_pos_of_mem hrow
    omega
  | cons first rest =>
    refine ⟨first, rfl, ?_⟩
    have hsorted := h.sorted
    rw [hres] at hsorted hperm hrest
    rcases List.mem_append.mp (hperm.mem_iff.mpr hrow) with hmem | hmem
    · rcases List.mem_cons.mp hmem with rfl | hlater
      · have hself : cmp row row = .eq := Std.ReflCmp.compare_self
        rw [hself]
        nofun
      · exact List.rel_of_pairwise_cons hsorted hlater
    · exact hrest first List.mem_cons_self row hmem

end Ordered

end Beale.Library
