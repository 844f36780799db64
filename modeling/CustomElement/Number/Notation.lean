import CustomElement.Number.Shortest

/-!
# Notations for numbers

Two ways to write a double with its shortest digits. Programs show every number in full, without an
exponent. Stored trees keep a fraction part on whole numbers and use an exponent outside a fixed
range.
-/

namespace CustomElement

namespace Digits

/-- The digits around a decimal point, without an exponent; `whole` is added to whole numbers. -/
def positional (d : Digits) (whole : List Char) : List Char :=
  match d.point with
  | .negSucc k => '0' :: '.' :: (List.replicate (k + 1) '0' ++ d.digits)
  | .ofNat 0 => '0' :: '.' :: d.digits
  | .ofNat (k + 1) =>
    if d.digits.length ≤ k + 1 then
      d.digits ++ List.replicate (k + 1 - d.digits.length) '0' ++ whole
    else
      d.digits.take (k + 1) ++ '.' :: d.digits.drop (k + 1)

/-- One digit, a fraction, and an exponent of at least two digits that shows its sign. -/
def scientific (d : Digits) : List Char :=
  let exponent := d.point - 1
  let size := Nat.toDigits 10 exponent.natAbs
  let sign := if exponent < 0 then '-' else '+'
  let mantissa :=
    match d.digits with
    | [] => []
    | [c] => [c]
    | c :: rest => c :: '.' :: rest
  mantissa ++ 'e' :: sign :: (if size.length < 2 then '0' :: size else size)

end Digits

namespace Double

/-- Whether the number is a zero of either sign. -/
def isZero (x : Double) : Bool :=
  x.exponent.val == 0 && x.fraction.val == 0

/-- The number as programs show it. -/
def render (x : Double) : String :=
  if x.isNaN then "NaN"
  else
    let size :=
      if !x.isFinite then "Infinity".toList
      else if x.isZero then ['0']
      else (x.shortest .up).positional []
    String.ofList (if x.negative then '-' :: size else size)

/-- The number as stored trees show it; they have no form for numbers that are not finite. -/
def renderStored (x : Double) : String :=
  let size :=
    if x.isZero then "0.0".toList
    else
      let d := x.shortest .even
      if -4 ≤ d.point - 1 ∧ d.point - 1 < 16 then d.positional ".0".toList else d.scientific
  String.ofList (if x.negative then '-' :: size else size)

end Double

end CustomElement
