import Mathlib.Data.List.Basic

/-!
# Runs of a deterministic machine under a schedule of inputs

A machine is a step function `σ → ι → σ`: the state after one input. Everything
nondeterministic (who moves next, what a callback returns, what the clock says)
is part of the input, so a run is a list of inputs and "every interleaving" is
"every list".

- `runSteps_invariant`, `runSteps_invariant_of_meets`: an invariant that one
  step keeps holds along the whole run.
- `RunMeets.of_invariant`: and so does what every step does under it.
-/

namespace Beale.Library

universe u v

variable {σ : Type u} {ι : Type v}

/-- The state after a list of inputs. -/
def runSteps (step : σ → ι → σ) : σ → List ι → σ
  | s, [] => s
  | s, i :: is => runSteps step (step s i) is

section

variable (step : σ → ι → σ) (s : σ)

@[simp] theorem runSteps_nil : runSteps step s [] = s := rfl

@[simp] theorem runSteps_cons (i : ι) (is : List ι) :
    runSteps step s (i :: is) = runSteps step (step s i) is := rfl

theorem runSteps_append (is js : List ι) :
    runSteps step s (is ++ js) = runSteps step (runSteps step s is) js := by
  induction is generalizing s with
  | nil => rfl
  | cons i is ih => exact ih (step s i)

end

/-- Every step of the run meets `C` in the state it starts from. -/
def RunMeets (step : σ → ι → σ) (C : σ → ι → Prop) : σ → List ι → Prop
  | _, [] => True
  | s, i :: is => C s i ∧ RunMeets step C (step s i) is

variable {step : σ → ι → σ} {C D : σ → ι → Prop} {is : List ι}

theorem runMeets_of_forall (h : ∀ i ∈ is, ∀ s, C s i) (s : σ) : RunMeets step C s is := by
  induction is generalizing s with
  | nil => trivial
  | cons i is ih => exact ⟨h i (by simp) s, ih (fun j hj => h j (by simp [hj])) _⟩

variable {s : σ}

theorem RunMeets.and (h : RunMeets step C s is) (h' : RunMeets step D s is) :
    RunMeets step (fun s i => C s i ∧ D s i) s is := by
  induction is generalizing s with
  | nil => trivial
  | cons i is ih => exact ⟨⟨h.1, h'.1⟩, ih h.2 h'.2⟩

variable {i : ι}

theorem RunMeets.last {l : List ι}
    (h : RunMeets step C s (l ++ [i])) : C (runSteps step s l) i := by
  induction l generalizing s with
  | nil => exact h.1
  | cons j l ih => exact ih h.2

instance RunMeets.decidable {step : σ → ι → σ} {C : σ → ι → Prop} [∀ s i, Decidable (C s i)] :
    ∀ s is, Decidable (RunMeets step C s is)
  | _, [] => isTrue trivial
  | s, i :: is =>
    have : Decidable (RunMeets step C (step s i) is) := RunMeets.decidable (step s i) is
    inferInstanceAs (Decidable (C s i ∧ RunMeets step C (step s i) is))

variable {I : σ → Prop}

theorem runSteps_invariant (hstep : ∀ s i, I s → I (step s i)) (hs : I s) (is : List ι) :
    I (runSteps step s is) := by
  induction is generalizing s with
  | nil => exact hs
  | cons i is ih => exact ih (hstep s i hs)

theorem runSteps_invariant_of_meets (hstep : ∀ s i, I s → C s i → I (step s i)) (hs : I s)
    (hmeets : RunMeets step C s is) : I (runSteps step s is) := by
  induction is generalizing s with
  | nil => exact hs
  | cons i is ih => exact ih (hstep s i hs hmeets.1) hmeets.2

theorem RunMeets.of_invariant
    (hstep : ∀ s i, I s → C s i → I (step s i)) (hmeets : ∀ s i, I s → C s i → D s i)
    (hs : I s) (h : RunMeets step C s is) : RunMeets step D s is := by
  induction is generalizing s with
  | nil => trivial
  | cons i is ih => exact ⟨hmeets s i hs h.1, ih (hstep s i hs h.1) h.2⟩

/-- Two conditions that are one in every state a run can come to are met by the same runs. -/
theorem runMeets_iff_of_invariant
    (hiff : ∀ s i, I s → (C s i ↔ D s i)) (hstep : ∀ s i, I s → D s i → I (step s i))
    (hs : I s) (is : List ι) : RunMeets step C s is ↔ RunMeets step D s is := by
  induction is generalizing s with
  | nil => exact Iff.rfl
  | cons i is ih =>
    constructor
    · rintro ⟨hC, hrest⟩
      have hD := (hiff s i hs).mp hC
      exact ⟨hD, (ih (hstep s i hs hD)).mp hrest⟩
    · rintro ⟨hD, hrest⟩
      exact ⟨(hiff s i hs).mpr hD, (ih (hstep s i hs hD)).mpr hrest⟩

theorem runMeets_iff_forall_take {P : σ → Prop}
    (hstep : ∀ s i, I s → I (step s i)) (hiff : ∀ s i, I s → P s → (C s i ↔ P (step s i))) (hs : I s) (hP : P s)
    (is : List ι) : RunMeets step C s is ↔ ∀ k, P (runSteps step s (is.take k)) := by
  induction is generalizing s with
  | nil =>
    refine iff_of_true trivial fun k => ?_
    rwa [List.take_nil]
  | cons i is ih =>
    constructor
    · rintro ⟨hC, hrest⟩ k
      have hnext := (hiff s i hs hP).mp hC
      cases k with
      | zero => exact hP
      | succ k => exact (ih (hstep s i hs) hnext).mp hrest k
    · intro h
      have hnext : P (step s i) := h 1
      exact ⟨(hiff s i hs hP).mpr hnext, (ih (hstep s i hs) hnext).mpr fun k => h (k + 1)⟩

theorem RunMeets.take (h : RunMeets step C s is) (k : Nat) : RunMeets step C s (is.take k) := by
  induction is generalizing s k with
  | nil => rwa [List.take_nil]
  | cons i is ih =>
    cases k with
    | zero => trivial
    | succ k => exact ⟨h.1, ih h.2 k⟩

theorem RunMeets.step_at (h : RunMeets step C s is) {k : Nat}
    (hi : is[k]? = some i) : C (runSteps step s (is.take k)) i ∧
      runSteps step s (is.take (k + 1)) = step (runSteps step s (is.take k)) i := by
  induction is generalizing s k with
  | nil => cases hi
  | cons j is ih =>
    cases k with
    | zero =>
      cases hi
      exact ⟨h.1, rfl⟩
    | succ k => exact ih h.2 hi

/-! ## Interrupted runs -/

theorem runSteps_invariant_of_mem
    (hstep : ∀ i ∈ is, ∀ s, I s → I (step s i)) (hs : I s) : I (runSteps step s is) := by
  induction is generalizing s with
  | nil => exact hs
  | cons i is ih =>
    exact ih (fun j hj => hstep j (List.mem_cons_of_mem _ hj)) (hstep i List.mem_cons_self s hs)

/-- What one input brings about and no other one of the run undoes holds after the run. -/
theorem runSteps_establishes {P : σ → Prop} (hi : ∀ s, I s → P (step s i))
    (hmem : i ∈ is) (hinv : ∀ j ∈ is, ∀ s, I s → I (step s j))
    (hkeep : ∀ j ∈ is, ∀ s, I s → P s → P (step s j)) (hs : I s) : P (runSteps step s is) := by
  induction is generalizing s with
  | nil => cases hmem
  | cons j is ih =>
    have hrest : ∀ k ∈ is, ∀ s, I s ∧ P s → I (step s k) ∧ P (step s k) := fun k hk s h =>
      ⟨hinv k (List.mem_cons_of_mem _ hk) s h.1, hkeep k (List.mem_cons_of_mem _ hk) s h.1 h.2⟩
    have hnext := hinv j List.mem_cons_self s hs
    rcases List.mem_cons.mp hmem with rfl | hmem
    · exact (runSteps_invariant_of_mem hrest ⟨hnext, hi s hs⟩).2
    · exact ih hmem (fun k hk => hinv k (List.mem_cons_of_mem _ hk))
        (fun k hk => hkeep k (List.mem_cons_of_mem _ hk)) hnext

/-- A prefix of two runs in sequence ends in the first one, or comes to the second one. -/
theorem runSteps_take_append (step : σ → ι → σ) (s : σ) (is js : List ι) (k : Nat) :
    runSteps step s ((is ++ js).take k) = runSteps step s (is.take k) ∧ k ≤ is.length ∨
      runSteps step s ((is ++ js).take k) = runSteps step (runSteps step s is) (js.take (k - is.length)) := by
  rcases Nat.le_total k is.length with hk | hk
  · exact .inl ⟨by rw [List.take_append_of_le_length hk], hk⟩
  · refine .inr ?_
    rw [List.take_append, List.take_of_length_le hk, runSteps_append]

/-- An invariant that holds at every point of each of several procedures holds at every point
of their sequence. -/
theorem runSteps_take_flatMap {α : Type*} {f : α → List ι}
    {l : List α} (hstart : ∀ a ∈ l, ∀ s k, I s → I (runSteps step s ((f a).take k)))
    (hs : I s) (k : Nat) : I (runSteps step s ((l.flatMap f).take k)) := by
  induction l generalizing s k with
  | nil => rwa [List.flatMap_nil, List.take_nil]
  | cons a l ih =>
    rw [List.flatMap_cons]
    rcases runSteps_take_append step s (f a) (l.flatMap f) k with ⟨heq, -⟩ | heq
    · rw [heq]
      exact hstart a List.mem_cons_self s k hs
    · rw [heq]
      refine ih (fun b hb => hstart b (List.mem_cons_of_mem _ hb)) ?_ _
      have hwhole := hstart a List.mem_cons_self s (f a).length hs
      rwa [List.take_length] at hwhole

end Beale.Library
