import Mathlib.Data.List.Basic
import Mathlib.Data.List.Perm.Basic

/-!
# Books of a queue

Requests arrive; each is answered at once, or waits in a queue and is answered later. The
books of such a server are three lists: what has arrived, what has been answered, and what
waits, each oldest first.

- `QueueStep.accounted`: whatever `P`, what has arrived is what was answered and what waits.
-/

namespace Beale.Library

universe u v

variable {α : Type u} {κ : Type v}

/-- What has arrived, what has been answered, and what waits. -/
@[ext] structure QueueBooks (α : Type u) where
  arrived : List α
  answered : List α
  waiting : List α

namespace QueueBooks

/-- Nothing has arrived. -/
def empty : QueueBooks α := ⟨[], [], []⟩

def Accounted (b : QueueBooks α) : Prop := b.arrived.Perm (b.answered ++ b.waiting)

/-- The requests of each class are answered in the order they arrived in, and those that
wait are the last of them, in order. -/
def InOrder [DecidableEq κ] (cls : α → κ) (b : QueueBooks α) : Prop :=
  ∀ k, b.arrived.filter (cls · = k) = (b.answered ++ b.waiting).filter (cls · = k)

/-- What was answered is a front part of what has arrived, and the rest waits, in order. -/
def Fifo (b : QueueBooks α) : Prop := b.arrived = b.answered ++ b.waiting

theorem Fifo.enqueue {b : QueueBooks α} (h : b.Fifo) (as : List α) :
    Fifo ⟨b.arrived ++ as, b.answered, b.waiting ++ as⟩ := by
  show b.arrived ++ as = b.answered ++ (b.waiting ++ as)
  rw [show b.arrived = _ from h, List.append_assoc]

theorem Fifo.flush {b : QueueBooks α} (h : b.Fifo) : Fifo ⟨b.arrived, b.answered ++ b.waiting, []⟩ := by
  show b.arrived = b.answered ++ b.waiting ++ []
  rw [List.append_nil]
  exact h

theorem accounted_empty : (empty : QueueBooks α).Accounted := .refl _

end QueueBooks

inductive QueueStep (P : List α → α → Prop) (b : QueueBooks α) : QueueBooks α → Prop where
  | quiet : QueueStep P b b
  | direct (a : α) (h : P b.waiting a) :
    QueueStep P b ⟨b.arrived ++ [a], b.answered ++ [a], b.waiting⟩
  | enqueue (a : α) : QueueStep P b ⟨b.arrived ++ [a], b.answered, b.waiting ++ [a]⟩
  | serve (a : α) (rest : List α) (h : b.waiting = a :: rest) :
    QueueStep P b ⟨b.arrived, b.answered ++ [a], rest⟩
  | flush : QueueStep P b ⟨b.arrived, b.answered ++ b.waiting, []⟩

namespace QueueStep

variable {P : List α → α → Prop} {b b' : QueueBooks α}

theorem accounted (h : QueueStep P b b') (hb : b.Accounted) : b'.Accounted := by
  unfold QueueBooks.Accounted at hb ⊢
  cases h with
  | quiet => exact hb
  | direct a _ =>
    -- the answer goes in front of what waits
    have hswap : (b.answered ++ b.waiting ++ [a]).Perm (b.answered ++ [a] ++ b.waiting) := by
      rw [List.append_assoc, List.append_assoc]
      exact List.perm_append_comm.append_left b.answered
    exact (hb.append_right [a]).trans hswap
  | enqueue a =>
    rw [← List.append_assoc]
    exact hb.append_right [a]
  | serve a rest hwait =>
    rw [hwait] at hb
    simpa using hb
  | flush => simpa using hb

/-- No request passes one of its own class. -/
theorem inOrder [DecidableEq κ] {cls : α → κ}
    (h : QueueStep (fun waiting a => ∀ w ∈ waiting, cls w ≠ cls a) b b') (hb : b.InOrder cls) :
    b'.InOrder cls := by
  intro k
  have hk := hb k
  cases h with
  | quiet => exact hk
  | direct a hpass =>
    show (b.arrived ++ [a]).filter _ = (b.answered ++ [a] ++ b.waiting).filter _
    rw [List.filter_append, hk]
    by_cases ha : cls a = k
    · -- nothing of this class waits
      have hnone : b.waiting.filter (cls · = k) = [] := by
        refine List.filter_eq_nil_iff.mpr fun w hw => ?_
        simpa [← ha] using hpass w hw
      simp [hnone, ha]
    · simp [ha]
  | enqueue a =>
    show (b.arrived ++ [a]).filter _ = (b.answered ++ (b.waiting ++ [a])).filter _
    rw [List.filter_append, hk, ← List.append_assoc, List.filter_append (b.answered ++ b.waiting)]
  | serve a rest hwait =>
    rw [hwait] at hk
    simpa using hk
  | flush => simpa using hk

end QueueStep

end Beale.Library
