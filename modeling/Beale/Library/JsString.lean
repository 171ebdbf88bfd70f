import Mathlib.Algebra.Group.Int.Defs
import Mathlib.Algebra.GroupWithZero.Nat
import Mathlib.Data.List.Chain
import Mathlib.Data.List.DropRight
import Mathlib.Data.List.Infix

/-!
# ECMAScript strings

A string is the list of its UTF-16 code units, so `length`, `slice` and `trim`
are the list operations. A unit may be an unpaired surrogate: cutting a string
at a code unit is cutting the list.
-/

namespace Beale.Library

/-- A string: its UTF-16 code units. -/
abbrev JsString := List UInt16

instance : LawfulBEq JsString := inferInstance

/-- The UTF-16 code units of one character. -/
def utf16 (c : Char) : JsString :=
  if c.toNat < 0x10000 then [UInt16.ofNat c.toNat]
  else
    let rest := c.toNat - 0x10000
    [UInt16.ofNat (0xD800 + rest / 0x400), UInt16.ofNat (0xDC00 + rest % 0x400)]

def js (text : String) : JsString := text.toList.flatMap utf16

/-- `WhiteSpace` or `LineTerminator`: the units of `\s`, and those `trim` removes. -/
def isWhitespace (u : UInt16) : Bool :=
  [9, 10, 11, 12, 13, 0x20, 0xA0, 0x1680, 0x2000, 0x2001, 0x2002, 0x2003, 0x2004, 0x2005,
    0x2006, 0x2007, 0x2008, 0x2009, 0x200A, 0x2028, 0x2029, 0x202F, 0x205F, 0x3000,
    0xFEFF].contains u

/-- The space `collapseWhitespace` writes. -/
def space : UInt16 := 0x20

def trimEnd (s : JsString) : JsString := s.rdropWhile isWhitespace

def trim (s : JsString) : JsString := trimEnd (s.dropWhile isWhitespace)

/-- Whether the string holds nothing but white space: `!s.trim()`. -/
def isBlank (s : JsString) : Bool := (trim s).isEmpty

/-- `Array.prototype.join`. -/
def joinWith (separator : JsString) (parts : List JsString) : JsString :=
  (parts.intersperse separator).flatten

/-- `collapseWhitespace` after a white-space unit (`inRun`) or not. -/
def collapseFrom : Bool → JsString → JsString
  | _, [] => []
  | inRun, u :: rest =>
    if isWhitespace u then
      if inRun then collapseFrom true rest else space :: collapseFrom true rest
    else u :: collapseFrom false rest

/-- `s.replace(/\s+/g, " ")`. -/
def collapseWhitespace (s : JsString) : JsString := collapseFrom false s

/-! ## What trimming leaves -/

variable {s : JsString}

theorem trimEnd_eq_self_iff : trimEnd s = s ↔ ∀ h : s ≠ [], isWhitespace (s.getLast h) = false := by
  rw [trimEnd, List.rdropWhile_eq_self_iff]
  simp

theorem trimEnd_isPrefix (s : JsString) : trimEnd s <+: s := s.rdropWhile_prefix isWhitespace

theorem trimEnd_idem (s : JsString) : trimEnd (trimEnd s) = trimEnd s :=
  List.rdropWhile_idempotent isWhitespace s

variable {u : UInt16}

theorem trimEnd_concat (hu : isWhitespace u = false) : trimEnd (s ++ [u]) = s ++ [u] :=
  List.rdropWhile_concat_neg isWhitespace s u (by simp [hu])

/-- Trimming does nothing to a string that neither starts nor ends with white space. -/
theorem trim_eq_self (hhead : s.dropWhile isWhitespace = s)
    (hlast : trimEnd s = s) : trim s = s := by
  rw [trim, hhead, hlast]

/-- Trimming does nothing to a string without white space. -/
theorem trim_of_no_whitespace (h : ∀ u ∈ s, isWhitespace u = false) : trim s = s := by
  refine trim_eq_self ?_ (trimEnd_eq_self_iff.mpr fun hne => h _ (List.getLast_mem hne))
  cases s with
  | nil => rfl
  | cons u rest => rw [List.dropWhile_cons_of_neg (by simp [h u (by simp)])]

theorem isWhitespace_head
    (h : (u :: s).dropWhile isWhitespace = u :: s) : isWhitespace u = false := by
  by_contra hu
  rw [List.dropWhile_cons_of_pos (by simpa using hu)] at h
  have hlen := congrArg List.length h
  have hle := (List.dropWhile_suffix isWhitespace (l := s)).length_le
  rw [List.length_cons] at hlen
  omega

/-- A prefix of a string that starts with no white space starts with none. -/
theorem dropWhile_of_prefix {t : JsString} (hpre : t <+: s)
    (hs : s.dropWhile isWhitespace = s) : t.dropWhile isWhitespace = t := by
  cases t with
  | nil => rfl
  | cons u t =>
    obtain ⟨r, rfl⟩ := hpre
    rw [List.dropWhile_cons_of_neg (by simp [isWhitespace_head hs])]

theorem dropWhile_trim (s : JsString) : (trim s).dropWhile isWhitespace = trim s :=
  dropWhile_of_prefix (trimEnd_isPrefix _) (List.dropWhile_idempotent isWhitespace s)

theorem trim_idem (s : JsString) : trim (trim s) = trim s :=
  trim_eq_self (dropWhile_trim s) (trimEnd_idem _)

/-- A text with a unit that is no white space is not blank. -/
theorem isBlank_of_mem (hu : u ∈ s) (hspace : isWhitespace u = false) : isBlank s = false := by
  by_contra hblank
  have hnil : trim s = [] := by
    rw [Bool.not_eq_false] at hblank
    exact List.isEmpty_iff.mp hblank
  have hall : ∀ v ∈ s.dropWhile isWhitespace, isWhitespace v = true :=
    List.rdropWhile_eq_nil_iff.mp hnil
  have hdrop : s.dropWhile isWhitespace = [] := by
    cases hcase : s.dropWhile isWhitespace with
    | nil => rfl
    | cons v rest =>
      have hhead := List.head_dropWhile_not isWhitespace
        (show s.dropWhile isWhitespace ≠ [] by rw [hcase]; simp)
      rw [hall _ (List.head_mem _)] at hhead
      cases hhead
  have hu' := List.dropWhile_eq_nil_iff.mp hdrop u hu
  rw [hspace] at hu'
  cases hu'

/-! ## `slice(-n)` -/

variable {α : Type*}

theorem length_rtake_le (l : List α) (n : Nat) : (l.rtake n).length ≤ n := by
  unfold List.rtake
  rw [List.length_drop]
  omega

theorem mem_of_mem_rtake {l : List α} {n : Nat} {a : α} (h : a ∈ l.rtake n) : a ∈ l :=
  List.mem_of_mem_drop h

theorem rtake_of_length_le {l : List α} {n : Nat} (h : l.length ≤ n) : l.rtake n = l := by
  unfold List.rtake
  rw [Nat.sub_eq_zero_of_le h, List.drop_zero]

theorem rtake_idem (l : List α) (n : Nat) : (l.rtake n).rtake n = l.rtake n :=
  rtake_of_length_le (length_rtake_le l n)

/-- A trimmed string that is not empty: what a check for a non-blank text returns. -/
abbrev Text := { s : JsString // trim s = s ∧ s ≠ [] }

instance : LawfulBEq Text := inferInstance

/-- The trimmed string, where it is not empty. -/
def textOf? (s : JsString) : Option Text :=
  if h : trim s ≠ [] then some ⟨trim s, trim_idem s, h⟩ else none

@[simp] theorem textOf?_text (t : Text) : textOf? t.1 = some t := by
  have htrim : trim t.1 = t.1 := t.2.1
  rw [textOf?, dif_pos (htrim.symm ▸ t.2.2)]
  simp [htrim]

/-- A text with more text in front of it, where that starts with no white space. -/
theorem trim_append_text (t : Text) (hne : s ≠ [])
    (hs : s.dropWhile isWhitespace = s) : trim (s ++ t.1) = s ++ t.1 := by
  refine trim_eq_self ?_ ?_
  · cases s with
    | nil => exact absurd rfl hne
    | cons u rest =>
      rw [List.cons_append, List.dropWhile_cons_of_neg (by simp [isWhitespace_head hs])]
  · refine trimEnd_eq_self_iff.mpr fun h => ?_
    rw [List.getLast_append_of_ne_nil _ t.2.2]
    have hend : trimEnd t.1 = t.1 := by
      rw [← t.2.1]
      exact trimEnd_idem _
    exact trimEnd_eq_self_iff.mp hend t.2.2

/-! ## What collapsing leaves -/

/-- White space occurs as single spaces only. -/
structure Collapsed (s : JsString) : Prop where
  spaces : ∀ u ∈ s, isWhitespace u = true → u = space
  single : s.IsChain fun u v => ¬(isWhitespace u = true ∧ isWhitespace v = true)

theorem Collapsed.within {t : JsString} (h : Collapsed s) (ht : t <:+: s) : Collapsed t where
  spaces u hu := h.spaces u (ht.subset hu)
  single := h.single.infix ht

/-- A unit that is no white space may follow. -/
theorem Collapsed.concat (h : Collapsed s)
    (hu : isWhitespace u = false) : Collapsed (s ++ [u]) where
  spaces v hv hw := by
    rcases List.mem_append.mp hv with hv | hv
    · exact h.spaces v hv hw
    · rw [List.mem_singleton.mp hv, hu] at hw
      cases hw
  single := by
    refine List.isChain_append.mpr ⟨h.single, List.isChain_singleton u, ?_⟩
    rintro v - w hw ⟨-, hwhite⟩
    obtain rfl : u = w := by simpa using hw
    rw [hu] at hwhite
    cases hwhite

theorem collapseFrom_head (s : JsString) :
    ∀ u ∈ (collapseFrom true s).head?, isWhitespace u = false := by
  induction s with
  | nil => simp [collapseFrom]
  | cons u rest ih =>
    rw [collapseFrom]
    by_cases hu : isWhitespace u = true
    · simpa [hu] using ih
    · simp [hu]

theorem collapseFrom_collapsed (inRun : Bool) (s : JsString) : Collapsed (collapseFrom inRun s) := by
  induction s generalizing inRun with
  | nil => exact ⟨by simp [collapseFrom], by simp [collapseFrom]⟩
  | cons u rest ih =>
    rw [collapseFrom]
    by_cases hu : isWhitespace u = true
    · cases inRun with
      | true => simpa [hu] using ih true
      | false =>
        -- the space written for a run is followed by what comes after the run
        rw [if_pos hu, if_neg (by simp)]
        refine ⟨?_, ?_⟩
        · intro v hv hw
          rcases List.mem_cons.mp hv with rfl | hv
          · rfl
          · exact (ih true).spaces v hv hw
        · refine List.isChain_cons.mpr ⟨?_, (ih true).single⟩
          rintro v hv ⟨-, hw⟩
          rw [collapseFrom_head rest v hv] at hw
          cases hw
    · rw [if_neg hu]
      refine ⟨?_, ?_⟩
      · intro v hv hw
        rcases List.mem_cons.mp hv with rfl | hv
        · exact absurd hw hu
        · exact (ih false).spaces v hv hw
      · exact List.isChain_cons.mpr ⟨fun v _ h => hu h.1, (ih false).single⟩

theorem collapseWhitespace_collapsed (s : JsString) : Collapsed (collapseWhitespace s) :=
  collapseFrom_collapsed false s

theorem collapseFrom_eq_self {inRun : Bool} (h : Collapsed s)
    (hrun : inRun = true → ∀ u ∈ s.head?, isWhitespace u = false) : collapseFrom inRun s = s := by
  induction s generalizing inRun with
  | nil => rfl
  | cons u rest ih =>
    have hrest : Collapsed rest := h.within (List.suffix_cons u rest).isInfix
    rw [collapseFrom]
    by_cases hu : isWhitespace u = true
    · cases inRun with
      | true => exact absurd (hrun rfl u (by simp)) (by simp [hu])
      | false =>
        have hnext : ∀ v ∈ rest.head?, isWhitespace v = false := by
          intro v hv
          by_contra hw
          exact (List.isChain_cons.mp h.single).1 v hv ⟨hu, by simpa using hw⟩
        rw [if_pos hu, if_neg (by simp), ih hrest fun _ => hnext, h.spaces u (by simp) hu]
    · rw [if_neg hu, ih hrest (by simp)]

theorem collapseWhitespace_eq_self (h : Collapsed s) : collapseWhitespace s = s :=
  collapseFrom_eq_self h (by simp)

theorem Collapsed.trim (h : Collapsed s) : Collapsed (Library.trim s) :=
  h.within ((trimEnd_isPrefix _).isInfix.trans (List.dropWhile_suffix isWhitespace).isInfix)

/-! ## Partial readings -/

theorem optionBind_some {α β : Type} {x : Option α} {f : α → Option β} {b : β} :
    (x >>= f) = some b ↔ ∃ a, x = some a ∧ f a = some b := Option.bind_eq_some_iff

theorem optionPure_some {α : Type} {a b : α} : (pure a : Option α) = some b ↔ a = b := Option.some_inj

end Beale.Library
