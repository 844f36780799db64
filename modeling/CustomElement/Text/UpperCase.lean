import CustomElement.Text.UpperCaseTable
import CustomElement.Text.CharClass

/-!
# Upper case

The upper case of a character is a sequence of one to three characters.
-/

namespace CustomElement.Text

/-- The upper case of a code point inside a run. -/
def CaseRun.image? (run : CaseRun) (n : Nat) : Option Nat :=
  if run.first ≤ n && n ≤ run.last && (n - run.first) % run.step == 0
  then some (run.upper + (n - run.first))
  else none

/-- The upper case of a character; a character without one stands for itself. -/
def upperCase (c : Char) : List Char :=
  let n := c.toNat
  if n < 0x80 then
    if 'a' ≤ c && c ≤ 'z' then [Char.ofNat (n - 32)] else [c]
  else
    match upperCaseExpansions.lookup n with
    | some codes => codes.map Char.ofNat
    | none =>
      match upperCaseRuns.findSome? (·.image? n) with
      | some code => [Char.ofNat code]
      | none => [c]

end CustomElement.Text
