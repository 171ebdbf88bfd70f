import Mathlib.Data.List.Nodup

/-!
# Ledgers of obligations

Work is opened, and later discharged; what is neither discharged nor lost is
pending. The books balance when what was opened is, up to order, what was
discharged together with what is pending. With distinct obligations that says
each is discharged exactly once or still pending.
-/

namespace Beale.Library

universe u

variable {α : Type u}

/-- What was opened is what was discharged and what is pending, and no two
obligations are the same. -/
structure Balanced (opened discharged pending : List α) : Prop where
  books : opened.Perm (discharged ++ pending)
  distinct : opened.Nodup

namespace Balanced

variable {opened discharged pending : List α}

theorem nil : Balanced ([] : List α) [] [] := ⟨.refl _, List.nodup_nil⟩

section

variable (h : Balanced opened discharged pending)
include h

/-- A new obligation is pending. -/
theorem open_item {a : α} (ha : a ∉ opened) :
    Balanced (opened ++ [a]) discharged (pending ++ [a]) where
  books := by
    rw [← List.append_assoc]
    exact h.books.append_right [a]
  distinct := List.nodup_append.mpr ⟨h.distinct, by simp, by
    rintro x hx y hy rfl
    exact ha (List.mem_singleton.mp hy ▸ hx)⟩

/-- Obligations move from pending to discharged. The order of either does not matter. -/
theorem discharge {d rest discharged' : List α}
    (hpend : pending.Perm (d ++ rest)) (hdischarged : discharged'.Perm (discharged ++ d)) :
    Balanced opened discharged' rest where
  books := by
    refine (h.books.trans (hpend.append_left discharged)).trans ?_
    rw [← List.append_assoc]
    exact (hdischarged.append_right rest).symm
  distinct := h.distinct

theorem once [DecidableEq α] {a : α} (ha : a ∈ opened) :
    discharged.count a + pending.count a = 1 := by
  rw [← List.count_append, ← h.books.count_eq a]
  exact (List.nodup_iff_count_eq_one.mp h.distinct) a ha

theorem not_discharged {a : α} (ha : a ∈ pending) : a ∉ discharged := by
  have hnodup := h.books.nodup_iff.mp h.distinct
  exact fun hd => (List.nodup_append.mp hnodup).2.2 a hd a ha rfl

end

end Balanced

end Beale.Library
