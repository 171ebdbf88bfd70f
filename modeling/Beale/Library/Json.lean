import Beale.Library.JsString
import Mathlib.Data.List.Sort

/-!
# JSON values and their text

What `JSON.parse` produces, the text of `JSON.stringify`, and the property reads that a
validator makes.
-/

namespace Beale.Library

/-- A number: an integer, or the text of another number. -/
inductive JsNumber where
  | integer (n : Int)
  | other (text : JsString)
deriving DecidableEq, Repr

inductive Json where
  | null
  | bool (b : Bool)
  | num (n : JsNumber)
  | str (s : JsString)
  | arr (elements : List Json)
  | obj (members : List (JsString × Json))
deriving Repr

/-! ## Reading properties -/

/-- `value[key]`, for a value that is a record: an object that is no array. -/
def Json.field? (key : JsString) : Json → Option Json
  | .obj members => members.lookup key
  | _ => none

/-- Whether the value is an object, and neither `null` nor an array. -/
def Json.isRecord : Json → Bool
  | .obj _ => true
  | _ => false

/-- The string, where `typeof value === "string"`. -/
def Json.asString? : Json → Option JsString
  | .str s => some s
  | _ => none

/-- The property at `key`, where it is a string. -/
def Json.stringField? (key : JsString) (value : Json) : Option JsString :=
  (value.field? key).bind Json.asString?

/-- The member of `all` whose text is the given value. -/
def ofText {α : Type} (text : α → JsString) (all : List α) (value : Option Json) : Option α :=
  (value.bind Json.asString?).bind fun s => all.find? fun a => text a = s

/-- A vocabulary with distinct texts is read back. -/
theorem ofText_text {α : Type} {text : α → JsString} {all : List α}
    (htext : ∀ a b, text a = text b → a = b) {a : α} (ha : a ∈ all) :
    ofText text all (some (.str (text a))) = some a := by
  show all.find? (fun b => text b = text a) = some a
  induction all with
  | nil => cases ha
  | cons b rest ih =>
    by_cases hb : text b = text a
    · rw [List.find?_cons_of_pos (by simpa using hb), htext b a hb]
    · have hne : a ≠ b := fun h => hb (h ▸ rfl)
      rw [List.find?_cons_of_neg (by simpa using hb)]
      exact ih ((List.mem_cons.mp ha).resolve_left hne)

/-! ## Text -/

/-- The lower-case hexadecimal digit of a number below sixteen. -/
def hexDigit (n : Nat) : UInt16 := UInt16.ofNat (if n < 10 then 48 + n else 87 + n)

/-- `\uXXXX` for a code unit. -/
def unicodeEscape (u : UInt16) : JsString :=
  [92, 117, hexDigit (u.toNat / 4096), hexDigit (u.toNat / 256 % 16), hexDigit (u.toNat / 16 % 16),
    hexDigit (u.toNat % 16)]

/-- Whether the unit leads a surrogate pair. -/
def isLeadSurrogate (u : UInt16) : Bool := 0xD800 ≤ u && u ≤ 0xDBFF

/-- Whether the unit ends a surrogate pair. -/
def isTrailSurrogate (u : UInt16) : Bool := 0xDC00 ≤ u && u ≤ 0xDFFF

/-- What a unit that is no part of a surrogate pair becomes in a quoted string. -/
def escapeUnit (u : UInt16) : JsString :=
  if u = 8 then js "\\b"
  else if u = 9 then js "\\t"
  else if u = 10 then js "\\n"
  else if u = 12 then js "\\f"
  else if u = 13 then js "\\r"
  else if u = 34 then js "\\\""
  else if u = 92 then js "\\\\"
  else if u < 32 || isLeadSurrogate u || isTrailSurrogate u then unicodeEscape u
  else [u]

/-- The units between the quotes: a surrogate pair stands for itself. -/
def escapeUnits : JsString → JsString
  | [] => []
  | [u] => escapeUnit u
  | u :: v :: rest =>
    if isLeadSurrogate u && isTrailSurrogate v then u :: v :: escapeUnits rest
    else escapeUnit u ++ escapeUnits (v :: rest)

/-- `JSON.stringify` of a string. -/
def quote (s : JsString) : JsString := js "\"" ++ escapeUnits s ++ js "\""

/-- The decimal digits of a number. -/
def natText (n : Nat) : JsString := (Nat.toDigits 10 n).flatMap utf16

def JsNumber.text : JsNumber → JsString
  | .integer n => (if n < 0 then js "-" else []) ++ natText n.natAbs
  | .other text => text

mutual

def stringify : Json → JsString
  | .null => js "null"
  | .bool b => if b then js "true" else js "false"
  | .num n => n.text
  | .str s => quote s
  | .arr elements => js "[" ++ stringifyElements elements ++ js "]"
  | .obj members => js "\x7b" ++ stringifyMembers members ++ js "\x7d"

/-- The elements of an array, with commas between them. -/
def stringifyElements : List Json → JsString
  | [] => []
  | [e] => stringify e
  | e :: rest => stringify e ++ js "," ++ stringifyElements rest

/-- The members of an object, with commas between them. -/
def stringifyMembers : List (JsString × Json) → JsString
  | [] => []
  | [(k, v)] => quote k ++ js ":" ++ stringify v
  | (k, v) :: rest => quote k ++ js ":" ++ stringify v ++ js "," ++ stringifyMembers rest

end

mutual

/-- `JSON.stringify(value, null, 2)`, inside lines that start with `pad`. -/
def prettyPrint (pad : JsString) : Json → JsString
  | .arr [] => js "[]"
  | .arr (e :: rest) =>
    js "[\n" ++ prettyElements (pad ++ js "  ") (e :: rest) ++ js "\n" ++ pad ++ js "]"
  | .obj [] => js "\x7b\x7d"
  | .obj (m :: rest) =>
    js "\x7b\n" ++ prettyMembers (pad ++ js "  ") (m :: rest) ++ js "\n" ++ pad ++ js "\x7d"
  | .null => js "null"
  | .bool b => if b then js "true" else js "false"
  | .num n => n.text
  | .str s => quote s

/-- The elements of an array, one on a line. -/
def prettyElements (pad : JsString) : List Json → JsString
  | [] => []
  | [e] => pad ++ prettyPrint pad e
  | e :: rest => pad ++ prettyPrint pad e ++ js ",\n" ++ prettyElements pad rest

/-- The members of an object, one on a line. -/
def prettyMembers (pad : JsString) : List (JsString × Json) → JsString
  | [] => []
  | [(k, v)] => pad ++ quote k ++ js ": " ++ prettyPrint pad v
  | (k, v) :: rest =>
    pad ++ quote k ++ js ": " ++ prettyPrint pad v ++ js ",\n" ++ prettyMembers pad rest

end

/-! ## Sorted values -/

def arrayIndex? (key : JsString) : Option Nat :=
  if key ≠ [] ∧ key.all (fun u => 48 ≤ u && u ≤ 57) ∧ (key.head? = some 48 → key.length = 1) then
    let n := key.foldl (fun n u => 10 * n + (u.toNat - 48)) 0
    if n < 2 ^ 32 - 1 then some n else none
  else none

/-- `Object.fromEntries(entries)` of distinct keys: array indices come first, in ascending
order. -/
def fromEntries (entries : List (JsString × Json)) : Json :=
  .obj
    ((entries.filter fun m => (arrayIndex? m.1).isSome).insertionSort
      (fun a b => (arrayIndex? a.1).getD 0 ≤ (arrayIndex? b.1).getD 0) ++
      entries.filter fun m => (arrayIndex? m.1).isNone)

mutual

/-- The value with the members of every object sorted by their keys. -/
def sortValue : Json → Json
  | .arr elements => .arr (sortElements elements)
  | .obj members => fromEntries ((sortMembers members).insertionSort fun a b => ¬ b.1 < a.1)
  | value => value

def sortElements : List Json → List Json
  | [] => []
  | e :: rest => sortValue e :: sortElements rest

def sortMembers : List (JsString × Json) → List (JsString × Json)
  | [] => []
  | (k, v) :: rest => (k, sortValue v) :: sortMembers rest

end

example : stringify (.obj [(js "a", .arr [.num (.integer (-12)), .null]), (js "b", .str [10, 34])])
    = js "\x7b\"a\":[-12,null],\"b\":\"\\n\\\"\"\x7d" := by
  simp [stringify, stringifyMembers, stringifyElements]
  decide

end Beale.Library
