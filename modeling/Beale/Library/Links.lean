import Mathlib.Data.Finset.Card
import Mathlib.Logic.Function.Basic
import Mathlib.Logic.Function.Iterate
import Mathlib.Logic.Relation

/-!
# Links

Every node links to a list of nodes.

- `Closing`, `mem_iterate_of_reaches`: a search that follows the links from what it has found,
  as often as there are nodes to find, finds everything that is reached.
-/

namespace Beale.Library

variable {α : Type}

/-- One or more links lead from `a` to `b`. -/
def Reaches (links : α → List α) (a b : α) : Prop := Relation.TransGen (fun a b => b ∈ links a) a b

/-- No node reaches itself. -/
def Acyclic (links : α → List α) : Prop := ∀ a, ¬Reaches links a a

theorem Reaches.single {links : α → List α} {a b : α} (h : b ∈ links a) : Reaches links a b :=
  Relation.TransGen.single h

section Update

variable [DecidableEq α] {links : α → List α} {v : α} {l : List α}

/-- A path under the new links either is a path under the old ones, or passes the node. -/
theorem Reaches.of_update {a b : α} (h : Reaches (Function.update links v l) a b) :
    Reaches links a b ∨ (a = v ∨ Reaches links a v) ∧ ∃ c ∈ l, c = b ∨ Reaches links c b := by
  induction h with
  | @single b hlink =>
    by_cases ha : a = v
    · subst ha
      rw [Function.update_self] at hlink
      exact .inr ⟨.inl rfl, b, hlink, .inl rfl⟩
    · rw [Function.update_of_ne ha] at hlink
      exact .inl (.single hlink)
  | @tail b c _ hlink ih =>
    by_cases hb : b = v
    · subst hb
      rw [Function.update_self] at hlink
      refine .inr ⟨?_, c, hlink, .inl rfl⟩
      rcases ih with hold | ⟨hto, -⟩
      · exact .inr hold
      · exact hto
    · rw [Function.update_of_ne hb] at hlink
      rcases ih with hold | ⟨hto, d, hd, hfrom⟩
      · exact .inl (hold.tail hlink)
      · refine .inr ⟨hto, d, hd, .inr ?_⟩
        rcases hfrom with rfl | hfrom
        · exact .single hlink
        · exact hfrom.tail hlink

/-- New links that do not lead back to their node close no cycle. -/
theorem Acyclic.update (h : Acyclic links) (hl : ∀ c ∈ l, c ≠ v ∧ ¬Reaches links c v) :
    Acyclic (Function.update links v l) := by
  intro a ha
  rcases ha.of_update with hold | ⟨hto, c, hc, hfrom⟩
  · exact h a hold
  · obtain ⟨hne, hnot⟩ := hl c hc
    -- the cycle leads from the new link to the node
    rcases hfrom with rfl | hfrom
    · rcases hto with rfl | hto
      · exact hne rfl
      · exact hnot hto
    · rcases hto with rfl | hto
      · exact hnot hfrom
      · exact hnot (hfrom.trans hto)

end Update

/-- A search step: what has been found, and what it links to. -/
def Closing (links : α → List α) (f : List α → List α) : Prop :=
  ∀ found x, x ∈ f found ↔ x ∈ found ∨ ∃ y ∈ found, x ∈ links y

namespace Closing

variable {links : α → List α} {f : List α → List α}

theorem subset_iterate (h : Closing links f) (found : List α) (n : Nat) : found ⊆ f^[n] found := by
  induction n with
  | zero => exact fun _ hx => hx
  | succ n ih =>
    rw [Function.iterate_succ_apply']
    exact fun x hx => (h _ x).mpr (.inl (ih hx))

variable {found nodes : List α}

theorem iterate_subset (h : Closing links f) (hfound : found ⊆ nodes)
    (hnodes : ∀ a, links a ⊆ nodes) (n : Nat) : f^[n] found ⊆ nodes := by
  induction n with
  | zero => exact hfound
  | succ n ih =>
    rw [Function.iterate_succ_apply']
    intro x hx
    rcases (h _ x).mp hx with hold | ⟨y, -, hlink⟩
    · exact ih hold
    · exact hnodes y hlink

/-- Once a step finds nothing new, none does. -/
theorem iterate_closed (h : Closing links f) {n : Nat}
    (hclose : ∀ y ∈ f^[n] found, links y ⊆ f^[n] found) (m : Nat) :
    f^[n + m] found ⊆ f^[n] found := by
  induction m with
  | zero => exact fun _ hx => hx
  | succ m ih =>
    rw [← Nat.add_assoc, Function.iterate_succ_apply']
    intro x hx
    rcases (h _ x).mp hx with hold | ⟨y, hy, hlink⟩
    · exact ih hold
    · exact hclose y (ih hy) hlink

variable [DecidableEq α]

/-- Each step that finds something new finds at least one node more. -/
theorem closed_or_card (h : Closing links f) (found : List α) (n : Nat) :
    (∀ y ∈ f^[n] found, links y ⊆ f^[n] found) ∨ n ≤ (f^[n] found).toFinset.card := by
  induction n with
  | zero => exact .inr (Nat.zero_le _)
  | succ n ih =>
    by_cases hclose : ∀ y ∈ f^[n] found, links y ⊆ f^[n] found
    · refine .inl fun y hy x hx => ?_
      have hsub := h.iterate_closed hclose 1
      rw [Function.iterate_succ_apply']
      exact (h _ x).mpr (.inl (hclose y (hsub hy) hx))
    · refine .inr ?_
      have hn : n ≤ (f^[n] found).toFinset.card := ih.resolve_left hclose
      simp only [not_forall, List.subset_def] at hclose
      obtain ⟨y, hy, x, hx, hnew⟩ := hclose
      have hstrict : (f^[n] found).toFinset ⊂ (f^[n + 1] found).toFinset := by
        rw [Function.iterate_succ_apply', Finset.ssubset_iff_of_subset]
        · exact ⟨x, List.mem_toFinset.mpr ((h _ x).mpr (.inr ⟨y, hy, hx⟩)), by simpa using hnew⟩
        · exact fun z hz => List.mem_toFinset.mpr ((h _ z).mpr (.inl (List.mem_toFinset.mp hz)))
      have hcard := Finset.card_lt_card hstrict
      omega

/-- As many steps as there are nodes to find leave nothing out. -/
theorem iterate_length_closed (h : Closing links f) (hfound : found ⊆ nodes)
    (hnodes : ∀ a, links a ⊆ nodes) (y : α) (hy : y ∈ f^[nodes.length] found) :
    links y ⊆ f^[nodes.length] found := by
  intro x hx
  by_contra hnew
  -- one step more would find more nodes than there are
  have hnext : ¬∀ y ∈ f^[nodes.length] found, links y ⊆ f^[nodes.length] found :=
    fun hclose => hnew (hclose y hy hx)
  have hcard := (h.closed_or_card found nodes.length).resolve_left hnext
  have hsub : (f^[nodes.length] found).toFinset ⊆ nodes.toFinset.erase x := by
    intro z hz
    have hz := List.mem_toFinset.mp hz
    refine Finset.mem_erase.mpr ⟨?_, List.mem_toFinset.mpr (h.iterate_subset hfound hnodes _ hz)⟩
    rintro rfl
    exact hnew hz
  have hx' : x ∈ nodes.toFinset := List.mem_toFinset.mpr (hnodes y hx)
  have hle := Finset.card_le_card hsub
  have herase := Finset.card_erase_lt_of_mem hx'
  have hlen := List.toFinset_card_le nodes
  omega

theorem mem_iterate_of_reaches (h : Closing links f) {a b : α}
    (hnodes : ∀ a, links a ⊆ nodes) (hreach : Reaches links a b) :
    b ∈ f^[nodes.length] (links a) := by
  induction hreach with
  | single hlink => exact h.subset_iterate _ _ hlink
  | tail _ hlink ih => exact h.iterate_length_closed (hnodes a) hnodes _ ih hlink

end Closing

end Beale.Library
