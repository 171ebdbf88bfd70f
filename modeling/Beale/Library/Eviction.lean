import Mathlib.Data.List.Basic

/-!
# Eviction from the front of a queue

- `evictFront_append`, `full_of_mem_evictFront`, `evictFront_rest`: nothing is lost, nothing is shifted off without need,
  and what stays is not too full.
-/

namespace Beale.Library

universe u

variable {α : Type u} (full : List α → Prop) [DecidablePred full]

/-- What is shifted off the queue while it is too full, and the rest. -/
def evictFront : List α → List α × List α
  | [] => ([], [])
  | a :: l => if full (a :: l) then (a :: (evictFront l).1, (evictFront l).2) else ([], a :: l)

theorem evictFront_append (l : List α) : (evictFront full l).1 ++ (evictFront full l).2 = l := by
  induction l with
  | nil => rfl
  | cons a l ih =>
    rw [evictFront]
    split
    · exact congrArg (a :: ·) ih
    · rfl

/-- What is shifted off could not stay with what is behind it. -/
theorem full_of_mem_evictFront {a : α} {l : List α} (h : a ∈ (evictFront full l).1) :
    ∃ post, a :: post <:+ l ∧ full (a :: post) := by
  induction l with
  | nil => cases h
  | cons b l ih =>
    rw [evictFront] at h
    split at h
    · next hfull =>
      rcases List.mem_cons.mp h with rfl | hmem
      · exact ⟨l, List.suffix_rfl, hfull⟩
      · obtain ⟨post, hsuffix, hpost⟩ := ih hmem
        exact ⟨post, hsuffix.trans (List.suffix_cons b l), hpost⟩
    · cases h

theorem evictFront_rest (l : List α) : (evictFront full l).2 = [] ∨ ¬ full (evictFront full l).2 := by
  induction l with
  | nil => exact .inl rfl
  | cons a l ih =>
    rw [evictFront]
    split
    · exact ih
    · next hfull => exact .inr hfull

/-- A queue that is too full with everything behind each of its elements is emptied. -/
theorem evictFront_all {l : List α} (h : ∀ a post, a :: post <:+ l → full (a :: post)) : evictFront full l = (l, []) := by
  induction l with
  | nil => rfl
  | cons a l ih =>
    rw [evictFront, if_pos (h a l List.suffix_rfl), ih fun b post hsuffix => h b post (hsuffix.trans (List.suffix_cons a l))]

/-! ## The longest suffix -/

variable {P Q : List α → Prop} {l m r x : List α}

/-- The longest suffix of a list that meets `P`: every other one is a suffix of it. -/
structure LongestSuffix (P : List α → Prop) (l r : List α) : Prop where
  suffix : r <:+ l
  holds : P r
  longest : ∀ s, s <:+ l → P s → s <:+ r

theorem LongestSuffix.unique (h : LongestSuffix P l r) (h' : LongestSuffix P l x) : r = x :=
  (h'.longest r h.suffix h.holds).eq_of_length_le (h.longest x h'.suffix h'.holds).length_le

theorem LongestSuffix.congr (h : LongestSuffix P l r) (hiff : ∀ s, s <:+ l → (P s ↔ Q s)) :
    LongestSuffix Q l r where
  suffix := h.suffix
  holds := (hiff r h.suffix).mp h.holds
  longest s hs hq := h.longest s hs ((hiff s hs).mpr hq)

/-- Of a suffix that was kept for one reason, some is kept for another one. -/
theorem LongestSuffix.and (hclose : ∀ s t, s <:+ t → P t → P s) (h : LongestSuffix P l r)
    (h' : LongestSuffix Q r x) : LongestSuffix (fun s => P s ∧ Q s) l x where
  suffix := h'.suffix.trans h.suffix
  holds := ⟨hclose x r h'.suffix h.holds, h'.holds⟩
  longest s hs hboth := h'.longest s (h.longest s hs hboth.1) hboth.2

/-- What was not kept before more comes would not be kept after it. -/
theorem LongestSuffix.append (hclose : ∀ s t, P (s ++ t) → P s) (h : LongestSuffix P l r)
    (h' : LongestSuffix P (r ++ m) x) : LongestSuffix P (l ++ m) x where
  suffix := by
    obtain ⟨gone, rfl⟩ := h.suffix
    rw [List.append_assoc]
    exact h'.suffix.trans (List.suffix_append gone _)
  holds := h'.holds
  longest s hs hholds := by
    refine h'.longest s ?_ hholds
    rcases List.suffix_or_suffix_of_suffix hs (List.suffix_append l m) with hshort | ⟨kept, rfl⟩
    · exact hshort.trans (List.suffix_append r m)
    · obtain ⟨gone, hgone⟩ := hs
      rw [← List.append_assoc] at hgone
      have hkept : kept <:+ r :=
        h.longest kept ⟨gone, List.append_cancel_right hgone⟩ (hclose kept m hholds)
      obtain ⟨rest, rfl⟩ := hkept
      exact ⟨rest, (List.append_assoc ..).symm⟩

end Beale.Library
