import Mathlib.Data.List.Basic

/-!
# Lines of a stream

- `cutLines_append`: a text in two parts: what follows the first part's last newline stands before the second.
-/

namespace Beale.Library

universe u

variable {α : Type u} [DecidableEq α]

/-- The complete lines of a text without their newlines, and the rest. -/
def cutLines (newline : α) : List α → List (List α) × List α
  | [] => ([], [])
  | u :: rest =>
    if u = newline then ([] :: (cutLines newline rest).1, (cutLines newline rest).2)
    else match (cutLines newline rest).1 with
      | [] => ([], u :: (cutLines newline rest).2)
      | line :: lines => ((u :: line) :: lines, (cutLines newline rest).2)

theorem cutLines_append (newline : α) (text text' : List α) :
    cutLines newline (text ++ text') =
      ((cutLines newline text).1 ++ (cutLines newline ((cutLines newline text).2 ++ text')).1,
        (cutLines newline ((cutLines newline text).2 ++ text')).2) := by
  induction text with
  | nil => rfl
  | cons u rest ih =>
    rw [List.cons_append, cutLines, cutLines]
    by_cases hu : u = newline
    · rw [if_pos hu, if_pos hu, ih]
      rfl
    · rw [if_neg hu, if_neg hu, ih]
      cases hlines : (cutLines newline rest).1 with
      | nil =>
        -- the line goes on into the second part
        dsimp only [List.nil_append]
        rw [List.cons_append, cutLines, if_neg hu]
      | cons line lines => rfl

end Beale.Library
