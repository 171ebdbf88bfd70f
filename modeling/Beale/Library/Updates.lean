import Mathlib.Data.List.Pairwise

/-!
# Updates of a record that is written as a whole

Operations change entries of a shared record, each by reading the whole record, changing its entry and writing
the record back. A log holds what was written where, the last change first, with the time at which its
operation has started.
-/

namespace Beale.Library

universe v w

variable {ε : Type v} {ν : Type w}

/-- What an operation has written to an entry. -/
structure Change (ε : Type v) (ν : Type w) where
  started : Nat
  entry : ε
  value : ν
deriving DecidableEq

/-- Each change is there, or was replaced by an operation that has started no earlier. -/
def Present (get : ε → ν) (changes : List (Change ε ν)) : Prop :=
  ∀ newer change older, changes = newer ++ change :: older → get change.entry = change.value ∨
    ∃ later ∈ newer, later.entry = change.entry ∧ change.started ≤ later.started

/-- The last change of each entry is there, and those before it were made by operations that have started no
later. -/
structure Recorded (get : ε → ν) (changes : List (Change ε ν)) : Prop where
  last : ∀ newer change older, changes = newer ++ change :: older →
    (∀ later ∈ newer, later.entry ≠ change.entry) → get change.entry = change.value
  ordered : changes.Pairwise fun newer older => newer.entry = older.entry → older.started ≤ newer.started

theorem Recorded.nil (get : ε → ν) : Recorded get [] where
  last newer change older h := by simp at h
  ordered := .nil

/-- A change that was replaced has the last change of its entry before it in the log. -/
theorem Recorded.present {get : ε → ν} {changes : List (Change ε ν)} (h : Recorded get changes) :
    Present get changes := by
  intro newer change older heq
  by_cases hlater : ∃ later ∈ newer, later.entry = change.entry
  · obtain ⟨later, hmem, hentry⟩ := hlater
    have hord := List.pairwise_append.mp (heq ▸ h.ordered)
    exact .inr ⟨later, hmem, hentry, hord.2.2 later hmem change List.mem_cons_self hentry⟩
  · exact .inl (h.last newer change older heq fun later hmem hentry => hlater ⟨later, hmem, hentry⟩)

/-- A write of one entry, by an operation that no operation after it has overtaken there. -/
theorem Recorded.write {get get' : ε → ν} {changes : List (Change ε ν)} (h : Recorded get changes)
    {change : Change ε ν} (hvalue : get' change.entry = change.value)
    (hother : ∀ entry, entry ≠ change.entry → get' entry = get entry)
    (hstart : ∀ earlier ∈ changes, earlier.entry = change.entry → earlier.started ≤ change.started) :
    Recorded get' (change :: changes) where
  last newer last older heq hlast := by
    cases newer with
    | nil =>
      obtain ⟨rfl, -⟩ := List.cons.inj heq
      exact hvalue
    | cons first newer =>
      obtain ⟨rfl, hrest⟩ := List.cons.inj heq
      have hne : last.entry ≠ change.entry := fun heq => hlast change List.mem_cons_self heq.symm
      rw [hother last.entry hne]
      exact h.last newer last older hrest fun later hmem => hlast later (List.mem_cons_of_mem _ hmem)
  ordered := List.pairwise_cons.mpr ⟨fun earlier hmem heq => hstart earlier hmem heq.symm, h.ordered⟩

end Beale.Library
