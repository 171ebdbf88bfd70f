import Beale.Library.JsString

/-!
# Source of a cell, in lines

How a notebook cuts the text of a cell: `source.match(/.*(?:\n|$)/g)`. The dot stands for any unit but a line
terminator, and a line terminator other than `\n` ends no line.

- `sourceLines`: the lines of the whole text.
-/

namespace Beale.Runbooks

open Beale.Library

def lineFeed : UInt16 := 10

/-- The line terminators that a notebook does not end a line at: `\r`, U+2028 and U+2029. -/
def isSeparator (u : UInt16) : Bool := u = 13 || u = 0x2028 || u = 0x2029

/-- `.` -/
def isDot (u : UInt16) : Bool := u ≠ lineFeed && !isSeparator u

/-- `(?:\n|$)` after so many dots. -/
def lineEndAt (text : JsString) (dots : Nat) : Option Nat :=
  if (text.drop dots).head? = some lineFeed then some (dots + 1)
  else if text.drop dots = [] then some dots
  else none

/-- The match with at most so many dots; with fewer ones where no line ends there. -/
def matchWithin (text : JsString) : Nat → Option Nat
  | 0 => lineEndAt text 0
  | dots + 1 => (lineEndAt text (dots + 1)).or (matchWithin text dots)

/-- `.*(?:\n|$)` at the start of a text: the length of the match. -/
def matchAt (text : JsString) : Option Nat := matchWithin text (text.takeWhile isDot).length

/-- `text.match(/.*(?:\n|$)/g)`. After an empty match, and where there is none, the search goes on one unit later. -/
def matchAll (text : JsString) : List JsString :=
  match text with
  | [] => [[]]
  | u :: rest =>
    match matchAt (u :: rest) with
    | some 0 => [] :: matchAll rest
    | some (length + 1) => (u :: rest.take length) :: matchAll (rest.drop length)
    | none => matchAll rest
termination_by text.length

def sourceLines (source : JsString) : List JsString :=
  let lines := (matchAll source).filter (· ≠ [])
  if lines.length > 0 then lines else [[]]

/-! ## The lines of a text without other terminators -/

variable {text : JsString}

theorem lineEndAt_dots {dots : Nat} (h : dots < (text.takeWhile isDot).length) :
    lineEndAt text dots = none := by
  have hlt : dots < text.length := h.trans_le (text.takeWhile_prefix isDot).length_le
  have hget : (text.takeWhile isDot)[dots] = text[dots] := (text.takeWhile_prefix isDot).getElem h
  have hdot : isDot text[dots] = true := by
    rw [← hget]
    exact List.mem_takeWhile_imp (List.getElem_mem h)
  have hfeed : (text.drop dots).head? ≠ some lineFeed := by
    rw [List.head?_drop, List.getElem?_eq_getElem hlt]
    intro heq
    rw [Option.some.inj heq] at hdot
    exact absurd hdot (by decide)
  have hrest : text.drop dots ≠ [] := by
    rw [List.drop_eq_getElem_cons hlt]
    exact List.cons_ne_nil _ _
  rw [lineEndAt, if_neg hfeed, if_neg hrest]

/-- Fewer dots end no line: what follows them is a dot. -/
theorem matchWithin_dots {dots : Nat} (h : dots < (text.takeWhile isDot).length) :
    matchWithin text dots = none := by
  induction dots with
  | zero => exact lineEndAt_dots h
  | succ dots ih => rw [matchWithin, lineEndAt_dots h, ih (by omega), Option.or_none]

theorem matchAt_eq (text : JsString) : matchAt text = lineEndAt text (text.takeWhile isDot).length := by
  rw [matchAt]
  cases hdots : (text.takeWhile isDot).length with
  | zero => rfl
  | succ dots => rw [matchWithin, matchWithin_dots (by omega), Option.or_none]

theorem mem_takeWhile_isDot {u : UInt16} (h : u ∈ text.takeWhile isDot) : isSeparator u = false := by
  have hdot := List.mem_takeWhile_imp h
  simp only [isDot, Bool.and_eq_true, Bool.not_eq_true'] at hdot
  exact hdot.2

theorem matchAt_cases (text : JsString) :
    (∃ line rest, text = line ++ lineFeed :: rest ∧ (∀ u ∈ line, isSeparator u = false) ∧ matchAt text = some (line.length + 1))
      ∨ ((∀ u ∈ text, isSeparator u = false) ∧ matchAt text = some text.length)
      ∨ ((∃ u ∈ text, isSeparator u = true) ∧ matchAt text = none) := by
  have hsplit := List.takeWhile_append_dropWhile (p := isDot) (l := text)
  have hdrop : text.drop (text.takeWhile isDot).length = text.dropWhile isDot := by
    have hleft : ((text.takeWhile isDot) ++ text.dropWhile isDot).drop (text.takeWhile isDot).length =
        text.dropWhile isDot := List.drop_left
    rwa [hsplit] at hleft
  rw [matchAt_eq, lineEndAt, hdrop]
  cases hrest : text.dropWhile isDot with
  | nil =>
    rw [hrest, List.append_nil] at hsplit
    refine .inr (.inl ⟨fun u hu => mem_takeWhile_isDot (hsplit.symm ▸ hu), ?_⟩)
    rw [hsplit]
    rfl
  | cons u rest =>
    rw [hrest] at hsplit
    by_cases hfeed : u = lineFeed
    · refine .inl ⟨text.takeWhile isDot, rest, by rw [← hfeed, hsplit], fun u hu => mem_takeWhile_isDot hu, ?_⟩
      rw [if_pos (by rw [hfeed]; rfl)]
    · refine .inr (.inr ⟨⟨u, hsplit ▸ List.mem_append_right _ List.mem_cons_self, ?_⟩, ?_⟩)
      · have hdot : ¬ isDot u = true := by
          have := List.head?_dropWhile_not isDot text
          rw [hrest] at this
          simpa using this
        simpa [isDot, hfeed] using hdot
      · rw [if_neg (by simpa using hfeed), if_neg (List.cons_ne_nil _ _)]

/-- The lines hold the units of the text in order, and perhaps not all of them. -/
theorem flatten_matchAll_sublist (text : JsString) : (matchAll text).flatten.Sublist text := by
  fun_induction matchAll text with
  | case1 => exact List.Sublist.refl _
  | case2 u rest hmatch ih => exact ih.cons u
  | case3 u rest length hmatch ih =>
    rw [List.flatten_cons, List.cons_append]
    have hjoin := (List.Sublist.refl (rest.take length)).append ih
    rw [List.take_append_drop] at hjoin
    exact hjoin.cons_cons u
  | case4 u rest hmatch ih => exact ih.cons u

theorem flatten_matchAll_iff (text : JsString) :
    (matchAll text).flatten = text ↔ ∀ u ∈ text, isSeparator u = false := by
  fun_induction matchAll text with
  | case1 => simp
  | case2 u rest hmatch ih =>
    -- a match of nothing is one at the end
    obtain ⟨line, after, -, -, hlen⟩ | ⟨-, hlen⟩ | ⟨-, hlen⟩ := matchAt_cases (u :: rest)
    all_goals rw [hlen] at hmatch; simp at hmatch
  | case3 u rest length hmatch ih =>
    have hjoin : ((u :: rest.take length) :: matchAll (rest.drop length)).flatten = u :: rest ↔
        (matchAll (rest.drop length)).flatten = rest.drop length := by
      rw [List.flatten_cons, List.cons_append, List.cons_inj_right]
      constructor
      · intro hjoin
        exact List.append_cancel_left (hjoin.trans (List.take_append_drop length rest).symm)
      · intro hjoin
        rw [hjoin, List.take_append_drop]
    rw [hjoin, ih]
    have hline : ∀ v ∈ u :: rest.take length, isSeparator v = false := by
      rw [← List.take_succ_cons]
      obtain ⟨line, after, htext, hdots, hlen⟩ | ⟨hdots, hlen⟩ | ⟨-, hlen⟩ := matchAt_cases (u :: rest)
      · rw [hlen, Option.some.injEq] at hmatch
        rw [← Nat.succ_eq_add_one, ← hmatch, htext, ← List.singleton_append, ← List.append_assoc, List.take_left' (by simp)]
        intro v hv
        rcases List.mem_append.1 hv with hv | hv
        · exact hdots v hv
        · rw [List.mem_singleton.1 hv]
          rfl
      · exact fun v hv => hdots v (List.mem_of_mem_take hv)
      · rw [hlen] at hmatch
        nomatch hmatch
    constructor
    · intro hrest v hv
      rw [← List.take_append_drop length rest, ← List.cons_append] at hv
      exact (List.mem_append.1 hv).elim (hline v) (hrest v)
    · exact fun hall v hv => hall v (List.mem_cons_of_mem _ (List.mem_of_mem_drop hv))
  | case4 u rest hmatch ih =>
    obtain ⟨line, after, -, -, hlen⟩ | ⟨-, hlen⟩ | ⟨⟨v, hv, hsep⟩, -⟩ := matchAt_cases (u :: rest)
    · rw [hlen] at hmatch
      nomatch hmatch
    · rw [hlen] at hmatch
      nomatch hmatch
    · constructor
      · intro hjoin
        have hshort := (flatten_matchAll_sublist rest).length_le
        rw [hjoin, List.length_cons] at hshort
        omega
      · intro hall
        rw [hall v hv] at hsep
        nomatch hsep

theorem flatten_filter_ne_nil (lines : List JsString) : (lines.filter (· ≠ [])).flatten = lines.flatten := by
  induction lines with
  | nil => rfl
  | cons line lines ih => cases line <;> simp_all

theorem flatten_sourceLines (source : JsString) : (sourceLines source).flatten = (matchAll source).flatten := by
  rw [sourceLines, ← flatten_filter_ne_nil (matchAll source)]
  split
  · rfl
  · next hnone =>
    rw [List.length_eq_zero_iff.1 (Nat.eq_zero_of_not_pos hnone)]
    rfl

theorem flatten_sourceLines_sublist (source : JsString) : (sourceLines source).flatten.Sublist source :=
  flatten_sourceLines source ▸ flatten_matchAll_sublist source

/-- The lines join to the text where nothing but `\n` ends a line in it. -/
theorem flatten_sourceLines_iff (source : JsString) :
    (sourceLines source).flatten = source ↔ ∀ u ∈ source, isSeparator u = false :=
  flatten_sourceLines source ▸ flatten_matchAll_iff source

end Beale.Runbooks
