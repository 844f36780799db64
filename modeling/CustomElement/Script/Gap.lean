/-!
# Between tokens

White space and comments separate tokens. Whether a line ends between two tokens matters, since a
statement may end there without a semicolon.
-/

namespace CustomElement.Script

/-- A character that ends a line. -/
def isLineEnd (c : Char) : Bool :=
  c == '\n' || c == '\r' || c.toNat == 0x2028 || c.toNat == 0x2029

/-- White space within a line. -/
def isSpace (c : Char) : Bool :=
  let n := c.toNat
  n == 0x20 || n == 0x09 || n == 0x0B || n == 0x0C || n == 0x85 || n == 0xA0 || n == 0x1680 ||
    (0x2000 ≤ n && n ≤ 0x200B) || n == 0x202F || n == 0x205F || n == 0x3000 || n == 0xFEFF

/-- Where in a gap a character stands. -/
inductive GapPlace where
  | blank
  | lineComment
  | blockComment
deriving DecidableEq, Repr

/-- The text after a gap, and whether a line ends in the gap; none if a comment does not end. -/
def skipGap : GapPlace → Bool → List Char → Option (Bool × List Char)
  | .blank, newline, '/' :: '/' :: rest => skipGap .lineComment newline rest
  | .blank, newline, '/' :: '*' :: rest => skipGap .blockComment newline rest
  | .blank, newline, c :: rest =>
    if isLineEnd c then skipGap .blank true rest
    else if isSpace c then skipGap .blank newline rest
    else some (newline, c :: rest)
  | .lineComment, newline, c :: rest =>
    if isLineEnd c then skipGap .blank true rest else skipGap .lineComment newline rest
  | .blockComment, newline, '*' :: '/' :: rest => skipGap .blank newline rest
  | .blockComment, newline, c :: rest => skipGap .blockComment (newline || isLineEnd c) rest
  | .blockComment, _, [] => none
  | _, newline, [] => some (newline, [])

/-- The text after a gap does not start with one. -/
theorem skipGap_here {place : GapPlace} {newline b : Bool} {text here : List Char}
    (h : skipGap place newline text = some (b, here)) :
    skipGap .blank false here = some (false, here) := by
  fun_induction skipGap place newline text with
  | case5 newline c rest hline hblock hend hspace =>
    cases h
    rw [skipGap.eq_3 _ _ _ hline hblock, if_neg hend, if_neg hspace]
  | case10 => cases h
  | case11 place newline hplace =>
    cases h
    rfl
  | _ =>
    rename_i ih
    exact ih h

end CustomElement.Script
