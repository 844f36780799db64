import CustomElement.Script.Escape

/-!
# Words

Identifiers and keywords, possibly spelled with escapes.
-/

namespace CustomElement.Script

open CustomElement.Text

/-- A word and the text after it. -/
structure WordText where
  name : List Char
  escaped : Bool
  rest : List Char
deriving DecidableEq, Repr

/-- The rest of a word that has an escape. `acc` holds the characters so far in reverse. -/
def escapedWord : Nat → List Char → List Char → Option WordText
  | 0, _, _ => none
  | fuel + 1, acc, text =>
    match text with
    | '\\' :: 'u' :: after =>
      match unicodeCode after with
      | some (code, rest) =>
        let c := Char.ofNat code
        let fits := if acc.isEmpty then isIdentifierStart c else isIdentifierPart c
        if !isSurrogate code && fits then escapedWord fuel (c :: acc) rest else none
      | none => none
    | '\\' :: _ => none
    | c :: rest =>
      if isIdentifierPart c then escapedWord fuel (c :: acc) rest
      else some ⟨acc.reverse, true, text⟩
    | [] => some ⟨acc.reverse, true, []⟩

/-- The word at the start of a text; none if there is none or an escape is malformed. -/
def readWord (text : List Char) : Option WordText :=
  match text with
  | [] => none
  | c :: _ =>
    if isIdentifierStart c then
      let plain := text.takeWhile isIdentifierPart
      match text.dropWhile isIdentifierPart with
      | '\\' :: after => escapedWord (after.length + 2) plain.reverse ('\\' :: after)
      | rest => some ⟨plain, false, rest⟩
    else if c == '\\' then escapedWord (text.length + 1) [] text
    else none

end CustomElement.Script
