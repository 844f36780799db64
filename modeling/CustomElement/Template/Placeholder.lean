import CustomElement.Template.Braces
import CustomElement.Tree.Basic

/-!
# Placeholders

While the markup around them is read, bindings are stood in for by numbered words that mean nothing to
markup. Afterwards each such word in a text or attribute is its binding again.
-/

namespace CustomElement.Template

open CustomElement.Text

/-- What every placeholder starts with. No template may use it. -/
def placeholderStart : String :=
  "__LAZY_BINDING_"

/-- What every placeholder ends with. -/
def placeholderEnd : String :=
  "__"

/-- The word that stands in for a binding. -/
def placeholder (index : Nat) : List Char :=
  placeholderStart.toList ++ (Nat.toDigits 10 index) ++ placeholderEnd.toList

/-- The text of pieces with bindings stood in for, the first of which has the given number. -/
def withPlaceholders : Nat → List Segment → List Char
  | _, [] => []
  | index, .char c :: rest => c :: withPlaceholders index rest
  | index, .binding _ :: rest => placeholder index ++ withPlaceholders (index + 1) rest

/-- The sources of the bindings of a text. -/
def sources (pieces : List Segment) : List (List Char) :=
  pieces.filterMap fun
    | .char _ => none
    | .binding source => some source

/-- The digits of a placeholder at the start of a text, and the text after it. Digits of every script
are read, though only ASCII digits name a binding. -/
def readPlaceholder (text : List Char) : Option (List Char × List Char) :=
  if placeholderStart.toList.isPrefixOf text then
    let rest := text.drop placeholderStart.length
    let digits := rest.takeWhile isDecimalDigit
    let after := rest.drop digits.length
    if !digits.isEmpty && placeholderEnd.toList.isPrefixOf after then
      some (digits, after.drop placeholderEnd.length)
    else none
  else none

/-- A placeholder is not empty. -/
theorem readPlaceholder_length {text digits after : List Char}
    (h : readPlaceholder text = some (digits, after)) : after.length < text.length := by
  simp only [readPlaceholder] at h
  split at h
  · rename_i hp
    split at h
    · obtain ⟨rfl, rfl⟩ := Prod.mk.injEq .. ▸ Option.some.inj h
      have hl := (List.isPrefixOf_iff_prefix.1 hp).length_le
      have : placeholderStart.toList.length = 15 := by decide
      have : placeholderStart.length = 15 := by decide
      simp only [List.length_drop]
      omega
    · simp at h
  · simp at h

/-- A piece of a text or of the value of an attribute. -/
inductive Fragment where
  | text (text : List Char)
  | binding (e : Tree.Expr)

/-- A character in front of fragments. -/
def pushChar (c : Char) : List Fragment → List Fragment
  | .text text :: rest => .text (c :: text) :: rest
  | rest => .text [c] :: rest

/-- The binding that digits name. -/
def bindingOf? (bindings : List Tree.Expr) (digits : List Char) : Option Tree.Expr :=
  if digits.all isAsciiDigit then bindings[decimalNumber digits]? else none

/-- The fragments of a text. What looks like a placeholder but names no binding is text. -/
def fragments (bindings : List Tree.Expr) : List Char → List Fragment
  | [] => []
  | c :: rest =>
    match _h : readPlaceholder (c :: rest) with
    | some (digits, after) =>
      match bindingOf? bindings digits with
      | some e => .binding e :: fragments bindings after
      | none =>
        ((c :: rest).take (rest.length + 1 - after.length)).foldr pushChar
          (fragments bindings after)
    | none => pushChar c (fragments bindings rest)
termination_by text => text.length
decreasing_by
  · exact readPlaceholder_length _h
  · exact readPlaceholder_length _h
  · exact Nat.lt_succ_self _

end CustomElement.Template
