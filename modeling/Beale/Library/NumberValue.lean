import Beale.Library.JsonText

/-!
# Values of numbers

- `NumberValue`: a finite number, one of the infinities, or no number.
- `NumberValue.lt`: `<`; nothing compares with what is no number.
-/

namespace Beale.Library

inductive NumberValue where
  | finite (q : Rat)
  | infinite (negative : Bool)
  | nan
deriving DecidableEq

namespace NumberValue

def lt : NumberValue → NumberValue → Bool
  | finite q, finite r => q < r
  | finite _, infinite negative => !negative
  | infinite negative, finite _ => negative
  | infinite negative, infinite negative' => negative && !negative'
  | nan, _ | _, nan => false

end NumberValue

/-- The value of digits, a dot and digits, and an exponent. -/
def decimalNumber (text : JsString) : Option Rat :=
  let whole := text.takeWhile isDigitUnit
  let rest := text.drop whole.length
  let fraction := if rest.head? = some 46 then rest.tail.takeWhile isDigitUnit else []
  let rest := if rest.head? = some 46 then rest.drop (fraction.length + 1) else rest
  let exponent : Option Int :=
    match rest with
    | [] => some 0
    | e :: sign :: digits =>
      if (e = 101 ∨ e = 69) ∧ digits ≠ [] ∧ digits.all isDigitUnit then
        if sign = 43 then some (natValue digits) else if sign = 45 then some (-natValue digits) else none
      else none
    | _ => none
  exponent.bind fun exponent =>
    let power := exponent - fraction.length
    let digits := natValue (whole ++ fraction)
    if whole = [] then none
    else if 0 ≤ power then some (digits * 10 ^ power.toNat : Nat)
    else some (mkRat digits (10 ^ (-power).toNat))

/-- The value of a number; the texts are those of `String(number)`. -/
def JsNumber.value : JsNumber → NumberValue
  | .integer n => .finite n
  | .other text =>
    if text = js "Infinity" then .infinite false
    else if text = js "-Infinity" then .infinite true
    else
      match text with
      | 45 :: digits => (decimalNumber digits).elim .nan fun q => .finite (-q)
      | digits => (decimalNumber digits).elim .nan .finite

end Beale.Library
