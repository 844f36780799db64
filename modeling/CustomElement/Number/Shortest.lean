import CustomElement.Number.Double

/-!
# Shortest decimal digits

The fewest decimal digits that read back as a given finite number. On each decimal grid only the two
neighbours of the value need to be tried: if any point of the grid rounds to the number, one of them
does.
-/

namespace CustomElement

/-- Decimal digits with a decimal point: `0.d₁d₂… * 10 ^ point`. The last digit is not zero. -/
structure Digits where
  digits : List Char
  point : Int
deriving DecidableEq, Repr

/-- Where a value half-way between two shortest candidates goes. -/
inductive Tie where
  | up
  | even
deriving DecidableEq, Repr

namespace Double

/-- Half the distances to the neighbours, below and above, for a significand in quarters: below a
power of two the lower neighbour is nearer. -/
def margins (x : Double) : Nat × Nat :=
  (if x.fraction.val = 0 ∧ 1 < x.exponent.val then 1 else 2, 2)

/-- The exponent of the leading decimal digit of `num / den`, for a positive fraction. -/
def leadingExponent (num den : Nat) : Int :=
  if den ≤ num then (decimalLength (num / den) : Int) - 1
  else -(decimalLength ((den + num - 1) / num - 1) : Int)

/-- The power `10 ^ e` as a fraction. -/
def powerOfTen : Int → Nat × Nat
  | .ofNat k => (Nat.pow 10 k, 1)
  | .negSucc k => (1, Nat.pow 10 (k + 1))

/-- Digits without trailing zeros. -/
def trimZeros (digits : List Char) : List Char :=
  (digits.reverse.dropWhile (· == '0')).reverse

/-- The digits of `n * 10 ^ e`. -/
def digitsOf (n : Nat) (e : Int) : Digits :=
  let written := Nat.toDigits 10 n
  ⟨trimZeros written, e + written.length⟩

/-- A quarter of a unit of the significand as a fraction. -/
def quarterUnit (x : Double) : Nat × Nat :=
  if 1076 ≤ x.shift then (Nat.pow 2 (x.shift - 1076), 1) else (1, Nat.pow 2 (1076 - x.shift))

/-- The exponent of the decimal grid on which `x` has `count` digits. -/
def gridOf (x : Double) (count : Nat) : Int :=
  leadingExponent (4 * x.significand * x.quarterUnit.1) x.quarterUnit.2 - count + 1

/-- A step of a grid. Steps and quarters are counted in units in which both are naturals. -/
def gridStep (x : Double) (grid : Int) : Nat :=
  (powerOfTen grid).1 * x.quarterUnit.2

/-- A quarter of a unit of the significand, in the units of `gridStep`. -/
def gridQuarter (x : Double) (grid : Int) : Nat :=
  x.quarterUnit.1 * (powerOfTen grid).2

/-- The number of steps of a grid that are not above `x`. -/
def stepsBelow (x : Double) (grid : Int) : Nat :=
  4 * x.significand * x.gridQuarter grid / x.gridStep grid

/-- Whether `n` steps of a grid read back as `x`. -/
def roundsOn (x : Double) (grid : Int) (n : Nat) : Bool :=
  let low := (4 * x.significand - x.margins.1) * x.gridQuarter grid
  let high := (4 * x.significand + x.margins.2) * x.gridQuarter grid
  if x.significand % 2 == 0 then low ≤ n * x.gridStep grid && n * x.gridStep grid ≤ high
  else low < n * x.gridStep grid && n * x.gridStep grid < high

/-- Whether `x` goes to the upper one of the two points of a grid around it. -/
def takesUpper (tie : Tie) (x : Double) (grid : Int) : Bool :=
  let twice := 2 * (4 * x.significand) * x.gridQuarter grid
  let middle := (2 * x.stepsBelow grid + 1) * x.gridStep grid
  if twice = middle then
    match tie with
    | .up => true
    | .even => x.stepsBelow grid % 2 == 1
  else middle < twice

/-- The shortest candidate with `count` digits, if one reads back as `x`. -/
def candidate (tie : Tie) (x : Double) (count : Nat) : Option Digits :=
  let grid := x.gridOf count
  let below := x.stepsBelow grid
  match x.roundsOn grid below, x.roundsOn grid (below + 1) with
  | false, false => none
  | true, false => some (digitsOf below grid)
  | false, true => some (digitsOf (below + 1) grid)
  | true, true => some (digitsOf (if takesUpper tie x grid then below + 1 else below) grid)

/-- The shortest digits that read back as `x`, a finite number other than zero. Seventeen digits
always suffice. -/
def shortest (tie : Tie) (x : Double) : Digits :=
  ((List.range 17).findSome? fun k => candidate tie x (k + 1)).getD ⟨[], 0⟩

end Double

end CustomElement
