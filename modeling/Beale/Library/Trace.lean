import Mathlib.Data.List.Basic

/-!
# Traces

A trace is the list of what happened, oldest first. A machine that logs what it
does makes its temporal properties statements about the log.

- `foldl_quiet`: a summary of the trace does not change over events it ignores.
-/

namespace Beale.Library

universe u v

variable {ω : Type u}

/-- Every event of the trace is related by `P` to the events before it. -/
def EachAfter (P : List ω → ω → Prop) (log : List ω) : Prop :=
  ∀ earlier o later, log = earlier ++ o :: later → P earlier o

variable {log : List ω}

theorem extends_trans {P : ω → Prop} {log' log'' : List ω}
    (h : ∃ os, log' = log ++ os ∧ ∀ o ∈ os, P o) (h' : ∃ os, log'' = log' ++ os ∧ ∀ o ∈ os, P o) :
    ∃ os, log'' = log ++ os ∧ ∀ o ∈ os, P o := by
  obtain ⟨os, rfl, hos⟩ := h
  obtain ⟨os', rfl, hos'⟩ := h'
  exact ⟨os ++ os', List.append_assoc _ _ _, List.forall_mem_append.mpr ⟨hos, hos'⟩⟩

theorem eachAfter_nil (P : List ω → ω → Prop) : EachAfter P [] := by
  intro earlier o later h
  simp at h

variable {P : List ω → ω → Prop}

theorem eachAfter_concat {o : ω} : EachAfter P (log ++ [o]) ↔ EachAfter P log ∧ P log o := by
  constructor
  · intro h
    refine ⟨?_, h log o [] rfl⟩
    rintro earlier o' later rfl
    exact h earlier o' (later ++ [o]) (by simp)
  · rintro ⟨hlog, ho⟩ earlier o' later h
    rcases List.eq_nil_or_concat later with rfl | ⟨later', last, rfl⟩
    · obtain ⟨rfl, hlast⟩ := List.append_inj' h rfl
      rw [List.cons.injEq] at hlast
      rw [← hlast.1]
      exact ho
    · refine hlog earlier o' later' ?_
      rw [List.concat_eq_append, ← List.cons_append, ← List.append_assoc] at h
      exact (List.append_inj' h rfl).1

/-- Events that `P` holds of after any trace can be added. -/
theorem EachAfter.append (h : EachAfter P log) {os : List ω}
    (hos : ∀ o ∈ os, ∀ earlier, P earlier o) : EachAfter P (log ++ os) := by
  induction os generalizing log with
  | nil => simpa using h
  | cons o os ih =>
    have hlog : EachAfter P (log ++ [o]) := eachAfter_concat.mpr ⟨h, hos o (by simp) log⟩
    have hrest := ih hlog fun o' ho' => hos o' (by simp [ho'])
    simpa using hrest

theorem eachAfter_iff_get : EachAfter P log ↔ ∀ i : Fin log.length, P (log.take i) log[i] := by
  constructor
  · intro h i
    exact h _ _ (log.drop (i + 1)) (by simp)
  · rintro h earlier o later rfl
    have hi := h ⟨earlier.length, by simp⟩
    simpa using hi

instance {P : List ω → ω → Prop} [∀ earlier o, Decidable (P earlier o)] (log : List ω) :
    Decidable (EachAfter P log) :=
  decidable_of_iff _ eachAfter_iff_get.symm

theorem foldl_quiet {β : Type v} {f : β → ω → β} {os : List ω} (h : ∀ o ∈ os, ∀ b, f b o = b)
    (b : β) : os.foldl f b = b := by
  induction os with
  | nil => rfl
  | cons o os ih =>
    rw [List.foldl_cons, h o (by simp) b]
    exact ih fun o' ho' => h o' (by simp [ho'])

end Beale.Library
