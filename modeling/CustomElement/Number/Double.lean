/-!
# Double-precision numbers

A number literal denotes a binary64 number. It is held by its three fields, so two numbers are equal
exactly when they are the same bit pattern, and all arithmetic is exact arithmetic on naturals
followed by one rounding to nearest, halves to even.
-/

namespace CustomElement

/-- A binary64 number: sign, biased exponent and fraction. -/
structure Double where
  negative : Bool
  exponent : Fin 2048
  fraction : Fin (Nat.pow 2 52)
deriving DecidableEq, Repr

namespace Double

/-- The largest biased exponent; it marks the infinities. -/
def topExponent : Nat := 2047

/-- The number whose exponent and fraction, read as one natural, are `code`; codes past the finite
numbers give an infinity. -/
def ofCode (negative : Bool) (code : Nat) : Double :=
  if code < topExponent * Nat.pow 2 52 then
    ⟨negative, Fin.ofNat 2048 (code / Nat.pow 2 52), Fin.ofNat (Nat.pow 2 52) code⟩
  else
    ⟨negative, Fin.ofNat 2048 topExponent, 0⟩

/-- Zero with the given sign. -/
def zero (negative : Bool) : Double :=
  ofCode negative 0

/-- The infinity with the given sign. -/
def infinity (negative : Bool) : Double :=
  ofCode negative (topExponent * Nat.pow 2 52)

/-- Neither an infinity nor a NaN. -/
def isFinite (x : Double) : Bool :=
  x.exponent.val != topExponent

/-- A NaN: no number at all. -/
def isNaN (x : Double) : Bool :=
  x.exponent.val == topExponent && x.fraction.val != 0

/-- The integer `m` in `m * 2 ^ e`, the absolute value of a finite number. -/
def significand (x : Double) : Nat :=
  if x.exponent.val = 0 then x.fraction.val else Nat.pow 2 52 + x.fraction.val

/-- `e + 1074` for the `e` in `m * 2 ^ e`, the absolute value of a finite number. -/
def shift (x : Double) : Nat :=
  x.exponent.val - 1

/-- The absolute value of a finite number as a fraction. -/
def ratio (x : Double) : Nat × Nat :=
  if 1074 ≤ x.shift then (x.significand * Nat.pow 2 (x.shift - 1074), 1)
  else (x.significand, Nat.pow 2 (1074 - x.shift))

/-- The natural nearest to `num / den`, the even one of two. -/
def roundHalfEven (num den : Nat) : Nat :=
  let quotient := num / den
  let twice := 2 * (num % den)
  if twice < den then quotient
  else if den < twice then quotient + 1
  else quotient + quotient % 2

/-- Whether `2 ^ e ≤ num / den`. -/
def reaches (num den : Nat) (e : Int) : Bool :=
  match e with
  | .ofNat k => den * Nat.pow 2 k ≤ num
  | .negSucc k => den ≤ num * Nat.pow 2 (k + 1)

/-- The number nearest to `num / den`, with the given sign. -/
def ofRatio (negative : Bool) (num den : Nat) : Double :=
  if num = 0 ∨ den = 0 then zero negative
  else
    let estimate : Int := (num.log2 : Int) - den.log2
    let lead := if reaches num den estimate then estimate else estimate - 1
    let unit := max (lead - 52) (-1074)
    let significand :=
      match unit with
      | .ofNat k => roundHalfEven num (den * Nat.pow 2 k)
      | .negSucc k => roundHalfEven (num * Nat.pow 2 (k + 1)) den
    ofCode negative ((unit + 1074).toNat * Nat.pow 2 52 + significand)

/-- The number nearest to a natural. -/
def ofNat (n : Nat) : Double :=
  ofRatio false n 1

/-- The rounded product of two finite numbers. -/
def mul (x y : Double) : Double :=
  ofRatio (x.negative != y.negative) (x.ratio.1 * y.ratio.1) (x.ratio.2 * y.ratio.2)

/-- The rounded quotient of two finite numbers; the divisor is not zero. -/
def div (x y : Double) : Double :=
  ofRatio (x.negative != y.negative) (x.ratio.1 * y.ratio.2) (x.ratio.2 * y.ratio.1)

/-- The number with the other sign. -/
def neg (x : Double) : Double :=
  { x with negative := !x.negative }

/-- The count of decimal digits of a natural. -/
def decimalLength (n : Nat) : Nat :=
  (Nat.toDigits 10 n).length

/-- The number nearest to `digits * 10 ^ exponent`. Exponents that leave the range of doubles in
either direction are cut off before the power is formed. -/
def ofDecimal (digits : Nat) (exponent : Int) : Double :=
  if digits = 0 then zero false
  else
    let top := exponent + decimalLength digits
    if 400 < top then infinity false
    else if top < -400 then zero false
    else
      match exponent with
      | .ofNat k => ofRatio false (digits * Nat.pow 10 k) 1
      | .negSucc k => ofRatio false digits (Nat.pow 10 (k + 1))

end Double

end CustomElement
