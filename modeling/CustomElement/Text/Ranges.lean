/-!
# Character classes as sorted ranges

A class of characters is a list of inclusive ranges of code points in increasing order.
`Ranges.contains` walks the list and stops at the first range that starts above the code point.
-/

namespace CustomElement.Text

/-- Inclusive ranges of code points, in increasing order. -/
abbrev Ranges := List (Nat × Nat)

/-- Whether some range holds the code point. -/
def Ranges.contains : Ranges → Nat → Bool
  | [], _ => false
  | (lo, hi) :: rest, n =>
    if n < lo then false else if n ≤ hi then true else Ranges.contains rest n

/-- Whether some range holds the character. -/
def Ranges.holds (ranges : Ranges) (c : Char) : Bool :=
  ranges.contains c.toNat

end CustomElement.Text
