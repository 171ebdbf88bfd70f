import Beale.Library.Json
import Mathlib.Data.List.TakeWhile

/-!
# Reading back the text of a JSON value

`stringify` loses nothing: a reader gets the value back, together with the text that
follows it. So two values with the same text are the same.
-/

namespace Beale.Library

/-! ## Strings -/

/-- The value of a hexadecimal digit. -/
def hexValue (u : UInt16) : Nat := if u ≤ 57 then u.toNat - 48 else u.toNat - 87

/-- The unit that an escape stands for, and the text after it. -/
def readEscape : JsString → Option (UInt16 × JsString)
  | 98 :: rest => some (8, rest)
  | 116 :: rest => some (9, rest)
  | 110 :: rest => some (10, rest)
  | 102 :: rest => some (12, rest)
  | 114 :: rest => some (13, rest)
  | 34 :: rest => some (34, rest)
  | 92 :: rest => some (92, rest)
  | 117 :: a :: b :: c :: d :: rest =>
    some (UInt16.ofNat (4096 * hexValue a + 256 * hexValue b + 16 * hexValue c + hexValue d), rest)
  | _ => none

/-- The string up to the closing quote, and the text after it. -/
def readUnits : Nat → JsString → Option (JsString × JsString)
  | 0, _ => none
  | _ + 1, [] => none
  | fuel + 1, u :: rest =>
    if u = 34 then some ([], rest)
    else if u = 92 then
      (readEscape rest).bind fun (v, rest) => (readUnits fuel rest).map fun (s, rest) => (v :: s, rest)
    else (readUnits fuel rest).map fun (s, rest) => (u :: s, rest)

theorem hexValue_hexDigit {n : Nat} (h : n < 16) : hexValue (hexDigit n) = n := by
  have hall : ∀ i : Fin 16, hexValue (hexDigit i.1) = i.1 := by decide
  exact hall ⟨n, h⟩

theorem readEscape_unicodeEscape (u : UInt16) (rest : JsString) :
    readEscape ((unicodeEscape u).tail ++ rest) = some (u, rest) := by
  have hlt := u.toNat_lt
  have hsum : 4096 * (u.toNat / 4096) + 256 * (u.toNat / 256 % 16) + 16 * (u.toNat / 16 % 16)
      + u.toNat % 16 = u.toNat := by omega
  show some (UInt16.ofNat (4096 * hexValue (hexDigit (u.toNat / 4096))
    + 256 * hexValue (hexDigit (u.toNat / 256 % 16)) + 16 * hexValue (hexDigit (u.toNat / 16 % 16))
    + hexValue (hexDigit (u.toNat % 16))), rest) = some (u, rest)
  rw [hexValue_hexDigit (by omega), hexValue_hexDigit (by omega), hexValue_hexDigit (by omega),
    hexValue_hexDigit (by omega), hsum, UInt16.ofNat_toNat]

theorem readUnits_escapeUnit (u : UInt16) (fuel : Nat) (rest : JsString) :
    readUnits (fuel + 1) (escapeUnit u ++ rest)
      = (readUnits fuel rest).map fun (s, rest) => (u :: s, rest) := by
  have hescaped : ∀ {text : JsString}, readEscape text = some (u, rest) →
      readUnits (fuel + 1) (92 :: text) = (readUnits fuel rest).map fun (s, rest) => (u :: s, rest) := by
    intro text htext
    rw [readUnits, if_neg (by decide), if_pos rfl, htext]
    rfl
  unfold escapeUnit
  iterate 7
    split
    next h => exact hescaped (h ▸ rfl)
  split
  · exact hescaped (readEscape_unicodeEscape u rest)
  next hquote hbackslash _ =>
    show readUnits (fuel + 1) (u :: rest) = _
    rw [readUnits, if_neg hquote, if_neg hbackslash]

variable {u : UInt16}

theorem readUnits_plain (hquote : u ≠ 34) (hbackslash : u ≠ 92) (fuel : Nat) (rest : JsString) :
    readUnits (fuel + 1) (u :: rest) = (readUnits fuel rest).map fun (s, rest) => (u :: s, rest) := by
  rw [readUnits, if_neg hquote, if_neg hbackslash]

/-- A surrogate is neither a quote nor a backslash. -/
theorem surrogate_plain (h : isLeadSurrogate u = true ∨ isTrailSurrogate u = true) :
    u ≠ 34 ∧ u ≠ 92 := by
  constructor
  · rintro rfl
    exact absurd h (by decide)
  · rintro rfl
    exact absurd h (by decide)

theorem exists_succ_of_lt {k n : Nat} (h : k < n) : ∃ m, n = m + 1 :=
  Nat.exists_eq_add_one_of_ne_zero (Nat.ne_zero_of_lt h)

theorem readUnits_escapeUnits (s : JsString) (rest : JsString) {fuel : Nat} (hfuel : s.length < fuel) :
    readUnits fuel (escapeUnits s ++ 34 :: rest) = some (s, rest) := by
  obtain ⟨fuel, rfl⟩ := exists_succ_of_lt hfuel
  induction s using escapeUnits.induct generalizing fuel with
  | case1 => rfl
  | case2 u =>
    obtain ⟨fuel, rfl⟩ := Nat.exists_eq_add_one_of_ne_zero (n := fuel) (by
      simp only [List.length_singleton] at hfuel
      omega)
    rw [escapeUnits, readUnits_escapeUnit]
    rfl
  | case3 u v s hpair ih =>
    simp only [List.length_cons] at hfuel
    obtain ⟨fuel, rfl⟩ := Nat.exists_eq_add_one_of_ne_zero (n := fuel) (by omega)
    obtain ⟨fuel, rfl⟩ := Nat.exists_eq_add_one_of_ne_zero (n := fuel) (by omega)
    obtain ⟨hlead, htrail⟩ := Bool.and_eq_true_iff.mp hpair
    obtain ⟨hu, hu'⟩ := surrogate_plain (Or.inl hlead)
    obtain ⟨hv, hv'⟩ := surrogate_plain (Or.inr htrail)
    rw [escapeUnits, if_pos hpair, List.cons_append, List.cons_append, readUnits_plain hu hu',
      readUnits_plain hv hv', ih fuel (by omega)]
    rfl
  | case4 u v s hpair ih =>
    simp only [List.length_cons] at hfuel ih
    obtain ⟨fuel, rfl⟩ := Nat.exists_eq_add_one_of_ne_zero (n := fuel) (by omega)
    rw [escapeUnits, if_neg hpair, List.append_assoc, readUnits_escapeUnit, ih fuel (by omega)]
    rfl

theorem length_le_escapeUnits (s : JsString) : s.length ≤ (escapeUnits s).length := by
  have hunit : ∀ u, 1 ≤ (escapeUnit u).length := by
    intro u
    unfold escapeUnit
    repeat' split
    all_goals simp [js, utf16, unicodeEscape]
  induction s using escapeUnits.induct with
  | case1 => exact Nat.le_refl _
  | case2 u => exact hunit u
  | case3 u v s hpair ih =>
    rw [escapeUnits, if_pos hpair]
    simpa using ih
  | case4 u v s hpair ih =>
    rw [escapeUnits, if_neg hpair, List.length_append, List.length_cons]
    have hone := hunit u
    omega

/-- A string in its quotes, and the text after it. -/
def readString : JsString → Option (JsString × JsString)
  | 34 :: rest => readUnits (rest.length + 1) rest
  | _ => none

theorem readString_quote (s rest : JsString) : readString (quote s ++ rest) = some (s, rest) := by
  have hquote : quote s ++ rest = 34 :: (escapeUnits s ++ 34 :: rest) := by
    show [34] ++ escapeUnits s ++ [34] ++ rest = _
    simp
  rw [hquote]
  show readUnits _ (escapeUnits s ++ 34 :: rest) = some (s, rest)
  refine readUnits_escapeUnits s rest ?_
  have hlen := length_le_escapeUnits s
  simp only [List.length_append, List.length_cons]
  omega

/-! ## Numbers -/

def isDigitUnit (u : UInt16) : Bool := 48 ≤ u && u ≤ 57

/-- A unit of the text of a number: a digit, or one of `+-.Ee`. -/
def isNumberUnit (u : UInt16) : Bool := isDigitUnit u || [43, 45, 46, 69, 101].contains u

/-- What may follow a number. -/
def NoNumberNext (rest : JsString) : Prop := ∀ u ∈ rest.head?, isNumberUnit u = false

theorem dropWhile_noNumberNext {rest : JsString} (h : NoNumberNext rest) :
    rest.takeWhile isNumberUnit = [] ∧ rest.dropWhile isNumberUnit = rest := by
  cases rest with
  | nil => exact ⟨rfl, rfl⟩
  | cons u rest =>
    have hu : ¬ isNumberUnit u = true := by simpa using h u rfl
    exact ⟨List.takeWhile_cons_of_neg hu, List.dropWhile_cons_of_neg hu⟩

/-- The number that digits are the text of. -/
def natValue (digits : JsString) : Nat :=
  Nat.ofDigitChars 10 (digits.map fun u => Char.ofNat u.toNat) 0

theorem digit_unit {c : Char} (h : c.isDigit = true) :
    utf16 c = [UInt16.ofNat c.toNat] ∧ isDigitUnit (UInt16.ofNat c.toNat) = true ∧
      Char.ofNat (UInt16.ofNat c.toNat).toNat = c := by
  have hrange : 48 ≤ c.toNat ∧ c.toNat ≤ 57 := by
    simpa [Char.isDigit, UInt32.le_iff_toNat_le] using h
  have hunit : (UInt16.ofNat c.toNat).toNat = c.toNat := by
    rw [UInt16.toNat_ofNat']
    exact Nat.mod_eq_of_lt (by omega)
  refine ⟨?_, ?_, ?_⟩
  · rw [utf16, if_pos (by omega)]
  · simp only [isDigitUnit, UInt16.le_iff_toNat_le, hunit, Bool.and_eq_true, decide_eq_true_eq]
    exact hrange
  · rw [hunit, Char.ofNat_toNat]

theorem flatMap_utf16_digits {cs : List Char} (h : ∀ c ∈ cs, c.isDigit = true) :
    cs.flatMap utf16 = cs.map fun c => UInt16.ofNat c.toNat := by
  induction cs with
  | nil => rfl
  | cons c cs ih =>
    rw [List.flatMap_cons, List.map_cons, (digit_unit (h c List.mem_cons_self)).1,
      ih fun d hd => h d (List.mem_cons_of_mem _ hd)]
    rfl

theorem natText_digits (n : Nat) : ∀ u ∈ natText n, isDigitUnit u = true := by
  have hdigits : ∀ c ∈ Nat.toDigits 10 n, c.isDigit = true := fun c hc =>
    Nat.isDigit_of_mem_toDigits (by decide) (by decide) hc
  intro u hu
  rw [natText, flatMap_utf16_digits hdigits] at hu
  obtain ⟨c, hc, rfl⟩ := List.mem_map.mp hu
  exact (digit_unit (hdigits c hc)).2.1

theorem natValue_natText (n : Nat) : natValue (natText n) = n := by
  have hdigits : ∀ c ∈ Nat.toDigits 10 n, c.isDigit = true := fun c hc =>
    Nat.isDigit_of_mem_toDigits (by decide) (by decide) hc
  have hchars : (natText n).map (fun u => Char.ofNat u.toNat) = Nat.toDigits 10 n := by
    rw [natText, flatMap_utf16_digits hdigits, List.map_map]
    conv_rhs => rw [← List.map_id (Nat.toDigits 10 n)]
    exact List.map_congr_left fun c hc => (digit_unit (hdigits c hc)).2.2
  rw [natValue, hchars, Nat.ofDigitChars_ten_toDigits]

theorem natText_head (n : Nat) : ∃ u rest, natText n = u :: rest ∧ isDigitUnit u = true := by
  have hdigits := natText_digits n
  cases htext : natText n with
  | nil =>
    rw [natText, List.flatMap_eq_nil_iff] at htext
    obtain ⟨c, cs, hchars⟩ := List.exists_cons_of_ne_nil (Nat.toDigits_ne_nil (n := n) (b := 10))
    have hc : c.isDigit = true :=
      Nat.isDigit_of_mem_toDigits (by decide) (by decide) (hchars ▸ List.mem_cons_self)
    have hnil := htext c (hchars ▸ List.mem_cons_self)
    rw [(digit_unit hc).1] at hnil
    cases hnil
  | cons u rest => exact ⟨u, rest, rfl, hdigits u (htext ▸ List.mem_cons_self)⟩

/-- The integer that a text is the text of. -/
def intValue : JsString → Int
  | 45 :: digits => -(natValue digits : Int)
  | digits => natValue digits

theorem intValue_text (n : Int) : intValue (JsNumber.integer n).text = n := by
  unfold JsNumber.text
  simp only
  split
  next hneg =>
    show -((natValue (natText n.natAbs) : Nat) : Int) = n
    rw [natValue_natText]
    omega
  next hpos =>
    obtain ⟨u, digits, htext, hdigit⟩ := natText_head n.natAbs
    have hvalue := natValue_natText n.natAbs
    rw [List.nil_append]
    rw [htext] at hvalue ⊢
    unfold intValue
    split
    next heq =>
      obtain ⟨rfl, -⟩ := List.cons.inj heq
      exact absurd hdigit (by decide)
    next =>
      rw [hvalue]
      omega

/-- The text is the text of a number: it starts with a minus or a digit, has the units of
numbers only, and the number is an integer where its text is the text of one. -/
def JsNumber.Proper : JsNumber → Prop
  | .integer _ => True
  | .other text => (∃ u ∈ text.head?, u = 45 ∨ isDigitUnit u = true) ∧
    (∀ u ∈ text, isNumberUnit u = true) ∧ ∀ n, text ≠ (JsNumber.integer n).text

theorem integer_text_units (n : Int) : ∀ u ∈ (JsNumber.integer n).text, isNumberUnit u = true := by
  have hdigits : ∀ u ∈ natText n.natAbs, isNumberUnit u = true := by
    intro u hu
    rw [isNumberUnit, natText_digits _ u hu, Bool.true_or]
  unfold JsNumber.text
  simp only
  split
  · intro u hu
    rcases List.mem_cons.mp hu with rfl | hu
    · decide
    · exact hdigits u hu
  · exact hdigits

variable {n : JsNumber}

theorem text_units (h : n.Proper) : ∀ u ∈ n.text, isNumberUnit u = true := by
  cases n with
  | integer n => exact integer_text_units n
  | other text => exact h.2.1

/-- The text of a number starts with a minus or a digit. -/
theorem text_head (h : n.Proper) :
    ∃ u units, n.text = u :: units ∧ (u = 45 ∨ isDigitUnit u = true) := by
  cases n with
  | integer n =>
    unfold JsNumber.text
    simp only
    obtain ⟨u, units, htext, hdigit⟩ := natText_head n.natAbs
    split
    · exact ⟨45, natText n.natAbs, rfl, .inl rfl⟩
    · exact ⟨u, units, htext, .inr hdigit⟩
  | other text =>
    obtain ⟨u, hu, hhead⟩ := h.1
    obtain ⟨units, rfl⟩ := List.head?_eq_some_iff.mp hu
    exact ⟨u, units, rfl, hhead⟩

def numberValue (text : JsString) : JsNumber :=
  if (JsNumber.integer (intValue text)).text = text then .integer (intValue text) else .other text

theorem numberValue_text (h : n.Proper) : numberValue n.text = n := by
  cases n with
  | integer n => rw [numberValue, intValue_text, if_pos rfl]
  | other text => exact if_neg fun heq => h.2.2 _ heq.symm

def readNumber (text : JsString) : JsNumber × JsString :=
  (numberValue (text.takeWhile isNumberUnit), text.dropWhile isNumberUnit)

theorem readNumber_text (h : n.Proper) {rest : JsString} (hrest : NoNumberNext rest) :
    readNumber (n.text ++ rest) = (n, rest) := by
  obtain ⟨htake, hdrop⟩ := dropWhile_noNumberNext hrest
  rw [readNumber, List.takeWhile_append_of_pos (text_units h),
    List.dropWhile_append_of_pos (text_units h), htake, hdrop, List.append_nil, numberValue_text h]

/-! ## Values -/

mutual

/-- The value at the start of a text, and the text after it. -/
def readValue : Nat → JsString → Option (Json × JsString)
  | 0, _ => none
  | fuel + 1, text =>
    match text with
    | 110 :: 117 :: 108 :: 108 :: rest => some (.null, rest)
    | 116 :: 114 :: 117 :: 101 :: rest => some (.bool true, rest)
    | 102 :: 97 :: 108 :: 115 :: 101 :: rest => some (.bool false, rest)
    | 91 :: 93 :: rest => some (.arr [], rest)
    | 91 :: rest => (readElements fuel rest).map fun (es, rest) => (.arr es, rest)
    | 123 :: 125 :: rest => some (.obj [], rest)
    | 123 :: rest => (readMembers fuel rest).map fun (ms, rest) => (.obj ms, rest)
    | 34 :: rest => (readString (34 :: rest)).map fun (s, rest) => (.str s, rest)
    | text => some (.num (readNumber text).1, (readNumber text).2)

/-- The elements of an array up to its bracket, and the text after it. -/
def readElements : Nat → JsString → Option (List Json × JsString)
  | 0, _ => none
  | fuel + 1, text =>
    match readValue fuel text with
    | some (e, 44 :: rest) => (readElements fuel rest).map fun (es, rest) => (e :: es, rest)
    | some (e, 93 :: rest) => some ([e], rest)
    | _ => none

/-- The members of an object up to its brace, and the text after it. -/
def readMembers : Nat → JsString → Option (List (JsString × Json) × JsString)
  | 0, _ => none
  | fuel + 1, text =>
    match readString text with
    | some (key, 58 :: rest) =>
      match readValue fuel rest with
      | some (v, 44 :: rest) => (readMembers fuel rest).map fun (ms, rest) => ((key, v) :: ms, rest)
      | some (v, 125 :: rest) => some ([(key, v)], rest)
      | _ => none
    | _ => none

end

mutual

/-- The texts of the value's numbers are texts of numbers. -/
def Json.Proper : Json → Prop
  | .num n => n.Proper
  | .arr elements => ElementsProper elements
  | .obj members => MembersProper members
  | _ => True

def ElementsProper : List Json → Prop
  | [] => True
  | e :: rest => e.Proper ∧ ElementsProper rest

def MembersProper : List (JsString × Json) → Prop
  | [] => True
  | (_, v) :: rest => v.Proper ∧ MembersProper rest

end

variable {ms : List (JsString × Json)}

theorem membersProper_iff : MembersProper ms ↔ ∀ m ∈ ms, m.2.Proper := by
  induction ms with
  | nil => simp [MembersProper]
  | cons m rest ih => rw [MembersProper, ih, List.forall_mem_cons]

theorem js_null : js "null" = [110, 117, 108, 108] := by decide

theorem js_true : js "true" = [116, 114, 117, 101] := by decide

theorem js_false : js "false" = [102, 97, 108, 115, 101] := by decide

theorem quote_head (s : JsString) : ∃ units, quote s = 34 :: units :=
  ⟨escapeUnits s ++ [34], rfl⟩

/-- The text of a value does not start with a closing bracket. -/
theorem stringify_head {v : Json} (h : v.Proper) :
    ∃ u units, stringify v = u :: units ∧ u ≠ 93 := by
  cases v with
  | null =>
    rw [stringify, js_null]
    exact ⟨_, _, rfl, by decide⟩
  | bool b =>
    cases b with
    | true =>
      rw [stringify, if_pos rfl, js_true]
      exact ⟨_, _, rfl, by decide⟩
    | false =>
      rw [stringify, if_neg (by decide), js_false]
      exact ⟨_, _, rfl, by decide⟩
  | num n =>
    rw [Json.Proper] at h
    obtain ⟨u, units, htext, hu⟩ := text_head h
    rw [stringify, htext]
    refine ⟨u, units, rfl, ?_⟩
    rintro rfl
    exact absurd hu (by decide)
  | str s =>
    obtain ⟨units, hquote⟩ := quote_head s
    rw [stringify, hquote]
    exact ⟨_, _, rfl, by decide⟩
  | arr elements => exact ⟨91, _, by rw [stringify]; rfl, by decide⟩
  | obj members => exact ⟨123, _, by rw [stringify]; rfl, by decide⟩

theorem readValue_number {units : JsString} (h : u = 45 ∨ isDigitUnit u = true) (fuel : Nat) :
    readValue (fuel + 1) (u :: units)
      = some (.num (readNumber (u :: units)).1, (readNumber (u :: units)).2) := by
  unfold readValue
  split
  all_goals first
    | rfl
    | next heq =>
      obtain ⟨rfl, -⟩ := List.cons.inj heq
      exact absurd h (by decide)

/-- What the reader gives back: the value, and the text after it. -/
def ReadsBack (v : Json) : Prop :=
  ∃ n, ∀ fuel, n ≤ fuel → ∀ rest, NoNumberNext rest → readValue fuel (stringify v ++ rest) = some (v, rest)

theorem noNumberNext_cons (h : isNumberUnit u = false) (rest : JsString) :
    NoNumberNext (u :: rest) := by
  intro u' hu'
  obtain rfl : u = u' := Option.some.inj hu'
  exact h

theorem readElements_stringify {es : List Json} (hes : es ≠ []) (h : ∀ e ∈ es, ReadsBack e) :
    ∃ n, ∀ fuel, n ≤ fuel → ∀ rest,
      readElements fuel (stringifyElements es ++ 93 :: rest) = some (es, rest) := by
  induction es with
  | nil => exact absurd rfl hes
  | cons e es ih =>
    obtain ⟨n, hread⟩ := h e List.mem_cons_self
    cases es with
    | nil =>
      refine ⟨n + 1, fun fuel hfuel rest => ?_⟩
      obtain ⟨fuel, rfl⟩ := exists_succ_of_lt hfuel
      rw [stringifyElements, readElements,
        hread fuel (by omega) _ (noNumberNext_cons (by decide) rest)]
      rfl
    | cons e' es =>
      obtain ⟨m, hrest⟩ := ih (List.cons_ne_nil _ _) fun x hx => h x (List.mem_cons_of_mem _ hx)
      refine ⟨max n m + 1, fun fuel hfuel rest => ?_⟩
      obtain ⟨fuel, rfl⟩ := exists_succ_of_lt hfuel
      have htext : stringifyElements (e :: e' :: es) ++ 93 :: rest
          = stringify e ++ 44 :: (stringifyElements (e' :: es) ++ 93 :: rest) := by
        show stringify e ++ [44] ++ stringifyElements (e' :: es) ++ 93 :: rest = _
        simp
      rw [htext, readElements, hread fuel (by omega) _ (noNumberNext_cons (by decide) _)]
      simp only
      rw [hrest fuel (by omega)]
      rfl

theorem readMembers_stringify (hms : ms ≠ []) (h : ∀ m ∈ ms, ReadsBack m.2) :
    ∃ n, ∀ fuel, n ≤ fuel → ∀ rest,
      readMembers fuel (stringifyMembers ms ++ 125 :: rest) = some (ms, rest) := by
  induction ms with
  | nil => exact absurd rfl hms
  | cons m ms ih =>
    obtain ⟨key, v⟩ := m
    obtain ⟨n, hread⟩ := h (key, v) List.mem_cons_self
    have hkey : ∀ text, readString (quote key ++ 58 :: text) = some (key, 58 :: text) :=
      fun text => readString_quote key (58 :: text)
    cases ms with
    | nil =>
      refine ⟨n + 1, fun fuel hfuel rest => ?_⟩
      obtain ⟨fuel, rfl⟩ := exists_succ_of_lt hfuel
      have htext : stringifyMembers [(key, v)] ++ 125 :: rest
          = quote key ++ 58 :: (stringify v ++ 125 :: rest) := by
        show quote key ++ [58] ++ stringify v ++ 125 :: rest = _
        simp
      rw [htext, readMembers, hkey]
      simp only
      rw [hread fuel (by omega) _ (noNumberNext_cons (by decide) rest)]
      rfl
    | cons m' ms =>
      obtain ⟨k, hrest⟩ := ih (List.cons_ne_nil _ _) fun x hx => h x (List.mem_cons_of_mem _ hx)
      refine ⟨max n k + 1, fun fuel hfuel rest => ?_⟩
      obtain ⟨fuel, rfl⟩ := exists_succ_of_lt hfuel
      have htext : stringifyMembers ((key, v) :: m' :: ms) ++ 125 :: rest
          = quote key ++ 58 :: (stringify v ++ 44 :: (stringifyMembers (m' :: ms) ++ 125 :: rest)) := by
        show quote key ++ [58] ++ stringify v ++ [44] ++ stringifyMembers (m' :: ms) ++ 125 :: rest = _
        simp
      rw [htext, readMembers, hkey]
      simp only
      rw [hread fuel (by omega) _ (noNumberNext_cons (by decide) _)]
      simp only
      rw [hrest fuel (by omega)]
      rfl

theorem readValue_bracket (h : u ≠ 93) (fuel : Nat) (units : JsString) :
    readValue (fuel + 1) (91 :: u :: units)
      = (readElements fuel (u :: units)).map fun (es, rest) => (.arr es, rest) := by
  unfold readValue
  split <;> simp_all

theorem readsBack_arr {es : List Json} (hproper : ElementsProper es) (h : ∀ e ∈ es, ReadsBack e) :
    ReadsBack (.arr es) := by
  cases es with
  | nil =>
    refine ⟨1, fun fuel hfuel rest _ => ?_⟩
    obtain ⟨fuel, rfl⟩ := exists_succ_of_lt hfuel
    rfl
  | cons e es =>
    obtain ⟨n, hread⟩ := readElements_stringify (List.cons_ne_nil e es) h
    refine ⟨n + 1, fun fuel hfuel rest _ => ?_⟩
    obtain ⟨fuel, rfl⟩ := exists_succ_of_lt hfuel
    have htext : stringify (.arr (e :: es)) ++ rest
        = 91 :: (stringifyElements (e :: es) ++ 93 :: rest) := by
      rw [stringify]
      show [91] ++ stringifyElements (e :: es) ++ [93] ++ rest = _
      simp
    obtain ⟨u, units, hhead, hbracket⟩ := stringify_head hproper.1
    have hfirst : ∃ more, stringifyElements (e :: es) = u :: more := by
      cases es with
      | nil => exact ⟨units, hhead⟩
      | cons e' es =>
        refine ⟨units ++ [44] ++ stringifyElements (e' :: es), ?_⟩
        show stringify e ++ [44] ++ stringifyElements (e' :: es) = _
        rw [hhead]
        rfl
    obtain ⟨more, hfirst⟩ := hfirst
    have hrest := hread fuel (by omega) rest
    rw [htext]
    rw [hfirst, List.cons_append] at hrest ⊢
    rw [readValue_bracket hbracket, hrest]
    rfl

theorem readsBack_obj (h : ∀ m ∈ ms, ReadsBack m.2) : ReadsBack (.obj ms) := by
  cases ms with
  | nil =>
    refine ⟨1, fun fuel hfuel rest _ => ?_⟩
    obtain ⟨fuel, rfl⟩ := exists_succ_of_lt hfuel
    rfl
  | cons m ms =>
    obtain ⟨n, hread⟩ := readMembers_stringify (List.cons_ne_nil m ms) h
    refine ⟨n + 1, fun fuel hfuel rest _ => ?_⟩
    obtain ⟨fuel, rfl⟩ := exists_succ_of_lt hfuel
    have htext : stringify (.obj (m :: ms)) ++ rest
        = 123 :: (stringifyMembers (m :: ms) ++ 125 :: rest) := by
      rw [stringify]
      show [123] ++ stringifyMembers (m :: ms) ++ [125] ++ rest = _
      simp
    have hfirst : ∃ more, stringifyMembers (m :: ms) = 34 :: more := by
      obtain ⟨units, hquote⟩ := quote_head m.1
      cases ms with
      | nil => exact ⟨units ++ js ":" ++ stringify m.2, by rw [stringifyMembers, hquote]; rfl⟩
      | cons m' ms =>
        refine ⟨units ++ js ":" ++ stringify m.2 ++ js "," ++ stringifyMembers (m' :: ms), ?_⟩
        show quote m.1 ++ js ":" ++ stringify m.2 ++ js "," ++ stringifyMembers (m' :: ms) = _
        rw [hquote]
        rfl
    obtain ⟨more, hfirst⟩ := hfirst
    have hrest := hread fuel (by omega) rest
    rw [htext]
    rw [hfirst, List.cons_append] at hrest ⊢
    show (readMembers fuel (34 :: (more ++ 125 :: rest))).map _ = _
    rw [hrest]
    rfl

mutual

/-- **Reading back**: the reader inverts `stringify`. -/
theorem readValue_stringify : ∀ v : Json, v.Proper → ReadsBack v
  | .null, _ => by
    refine ⟨1, fun fuel hfuel rest _ => ?_⟩
    obtain ⟨fuel, rfl⟩ := exists_succ_of_lt hfuel
    rw [stringify, js_null]
    rfl
  | .bool b, _ => by
    refine ⟨1, fun fuel hfuel rest _ => ?_⟩
    obtain ⟨fuel, rfl⟩ := exists_succ_of_lt hfuel
    cases b with
    | true =>
      rw [stringify, if_pos rfl, js_true]
      rfl
    | false =>
      rw [stringify, if_neg (by decide), js_false]
      rfl
  | .num n, h => by
    rw [Json.Proper] at h
    refine ⟨1, fun fuel hfuel rest hrest => ?_⟩
    obtain ⟨fuel, rfl⟩ := exists_succ_of_lt hfuel
    obtain ⟨u, units, htext, hu⟩ := text_head h
    have hread := readNumber_text h hrest
    rw [stringify]
    rw [htext, List.cons_append] at hread ⊢
    rw [readValue_number hu, hread]
  | .str s, _ => by
    refine ⟨1, fun fuel hfuel rest _ => ?_⟩
    obtain ⟨fuel, rfl⟩ := exists_succ_of_lt hfuel
    obtain ⟨units, hquote⟩ := quote_head s
    have hread := readString_quote s rest
    rw [stringify]
    rw [hquote, List.cons_append] at hread ⊢
    show (readString (34 :: (units ++ rest))).map _ = _
    rw [hread]
    rfl
  | .arr es, h => by
    simp only [Json.Proper] at h
    exact readsBack_arr h (readElements_readsBack es h)
  | .obj ms, h => by
    simp only [Json.Proper] at h
    exact readsBack_obj (readMembers_readsBack ms h)

theorem readElements_readsBack : ∀ es : List Json, ElementsProper es → ∀ e ∈ es, ReadsBack e
  | [], _ => nofun
  | e :: es, h => by
    intro x hx
    rcases List.mem_cons.mp hx with heq | hx
    · rw [heq]
      exact readValue_stringify e h.1
    · exact readElements_readsBack es h.2 x hx

theorem readMembers_readsBack :
    ∀ ms : List (JsString × Json), MembersProper ms → ∀ m ∈ ms, ReadsBack m.2
  | [], _ => nofun
  | (_, v) :: ms, h => by
    intro m hm
    rcases List.mem_cons.mp hm with heq | hm
    · rw [heq]
      exact readValue_stringify v h.1
    · exact readMembers_readsBack ms h.2 m hm

end

/-- Values with the same text are the same. -/
theorem stringify_injective {v w : Json} (hv : v.Proper) (hw : w.Proper)
    (h : stringify v = stringify w) : v = w := by
  obtain ⟨n, hreadV⟩ := readValue_stringify v hv
  obtain ⟨m, hreadW⟩ := readValue_stringify w hw
  have hend : NoNumberNext [] := nofun
  have hv' := hreadV (max n m) (Nat.le_max_left n m) [] hend
  have hw' := hreadW (max n m) (Nat.le_max_right n m) [] hend
  rw [h, hw'] at hv'
  exact (Prod.ext_iff.mp (Option.some.inj hv')).1.symm

end Beale.Library
