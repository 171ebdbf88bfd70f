import Mathlib.Data.List.Basic

/-!
# Chains of parents

Members of a growing forest, each of which is a root or names its parent.
-/

namespace Beale.Library

variable {ι : Type}

/-- From a member a root is reached over so many members. What is no member has no `parent`; a
root has none to name. -/
inductive Depth (parent : ι → Option (Option ι)) : ι → Nat → Prop where
  | root {i : ι} : parent i = some none → Depth parent i 1
  | child {i p : ι} {n : Nat} : parent i = some (some p) → Depth parent p n → Depth parent i (n + 1)

variable {parent parent' : ι → Option (Option ι)}

theorem Depth.known {i : ι} {n : Nat} (h : Depth parent i n) : ∃ q, parent i = some q := by
  cases h with
  | root hroot => exact ⟨_, hroot⟩
  | child hchild _ => exact ⟨_, hchild⟩

theorem Depth.unique {i : ι} {m n : Nat} (hm : Depth parent i m) (hn : Depth parent i n) : m = n := by
  induction hm generalizing n with
  | root hroot =>
    cases hn with
    | root _ => rfl
    | child hchild _ =>
      rw [hroot] at hchild
      cases hchild
  | child hchild _ ih =>
    cases hn with
    | root hroot =>
      rw [hchild] at hroot
      cases hroot
    | child hchild' hpar =>
      rw [hchild] at hchild'
      cases hchild'
      rw [ih hpar]

/-- A member keeps its depth where the members keep their parents. -/
theorem Depth.extend (hkeep : ∀ i q, parent i = some q → parent' i = some q) {i : ι} {n : Nat}
    (h : Depth parent i n) : Depth parent' i n := by
  induction h with
  | root hroot => exact .root (hkeep _ _ hroot)
  | child hchild _ ih => exact .child (hkeep _ _ hchild) ih

/-- Every member reaches a root over at most so many members. -/
def Within (parent : ι → Option (Option ι)) (max : Nat) : Prop :=
  ∀ i q, parent i = some q → ∃ n ≤ max, Depth parent i n

/-- A new member under one that is not at the limit keeps the limit. -/
theorem Within.insert {max : Nat} (h : Within parent max)
    (hkeep : ∀ i q, parent i = some q → parent' i = some q)
    (hnew : ∀ i q, parent' i = some q → parent i = none → ∃ p, q = some p ∧ ∃ n < max, Depth parent p n) :
    Within parent' max := by
  intro i q hq
  cases hi : parent i with
  | some r =>
    obtain ⟨n, hn, hdepth⟩ := h i r hi
    exact ⟨n, hn, hdepth.extend hkeep⟩
  | none =>
    obtain ⟨p, rfl, n, hn, hdepth⟩ := hnew i q hq hi
    exact ⟨n + 1, hn, .child hq (hdepth.extend hkeep)⟩

end Beale.Library
