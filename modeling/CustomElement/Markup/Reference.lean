import CustomElement.Markup.EntityTable
import CustomElement.Markup.Token

/-!
# Character references

A reference stands for one or two characters: by number, or by name. Of the names that a text starts
with, the longest counts. In an attribute, a name without its semicolon is no reference if the text
goes on with a letter, a digit or an equals sign.
-/

namespace CustomElement.Markup

open CustomElement.Text

/-- The characters that the numbers from 128 to 159 stand for. -/
def controlReplacements : List Nat := [
  0x20AC, 0x81, 0x201A, 0x0192, 0x201E, 0x2026, 0x2020, 0x2021,
  0x02C6, 0x2030, 0x0160, 0x2039, 0x0152, 0x8D, 0x017D, 0x8F,
  0x90, 0x2018, 0x2019, 0x201C, 0x201D, 0x2022, 0x2013, 0x2014,
  0x02DC, 0x2122, 0x0161, 0x203A, 0x0153, 0x9D, 0x017E, 0x0178]

/-- The character that a number stands for. -/
def numberedChar (n : Nat) : Char :=
  if n == 0 || n > 0x10FFFF || (0xD800 ≤ n && n ≤ 0xDFFF) then replacement
  else if 0x80 ≤ n && n ≤ 0x9F then Char.ofNat (controlReplacements.getD (n - 0x80) n)
  else Char.ofNat n

/-- The text after the semicolon of a reference, which may be missing. -/
def skipSemicolon : List Char → List Char
  | ';' :: rest => rest
  | text => text

/-- A reference by the number that leading digits of a text spell. -/
def readDigits (isDigit : Char → Bool) (value : List Char → Nat) (text : List Char) :
    Option (List Char × List Char) :=
  let digits := text.takeWhile isDigit
  if digits.isEmpty then none
  else some ([numberedChar (value digits)], skipSemicolon (text.dropWhile isDigit))

/-- A reference by number, after the number sign. -/
def readNumbered : List Char → Option (List Char × List Char)
  | 'x' :: rest => readDigits isHexDigit hexNumber rest
  | 'X' :: rest => readDigits isHexDigit hexNumber rest
  | text => readDigits isAsciiDigit decimalNumber text

/-- The longer of two names. -/
def longer (a b : Option (String × String)) : Option (String × String) :=
  match a, b with
  | some x, some y => if x.1.length < y.1.length then some y else some x
  | some x, none => some x
  | none, y => y

/-- The longest name that a text starts with, and what it stands for. -/
def longestName (names : List (String × String)) (text : List Char) : Option (String × String) :=
  names.foldl (fun found e => longer found (if e.1.toList.isPrefixOf text then some e else none)) none

/-- Whether a text goes on in a way that rules out a reference without a semicolon. -/
def goesOn : List Char → Bool
  | c :: _ => c == '=' || isAsciiLetter c || isAsciiDigit c
  | [] => false

/-- A reference by name. -/
def readNamed (inAttribute : Bool) (text : List Char) : Option (List Char × List Char) :=
  match longestName (namesOf (text.headD ' ')) text with
  | none => none
  | some (name, value) =>
    let rest := text.drop name.length
    if inAttribute && name.toList.getLast? != some ';' && goesOn rest then none
    else some (value.toList, rest)

/-- A reference after its ampersand: the characters it stands for, and the text after it. -/
def readReference (inAttribute : Bool) (text : List Char) : Option (List Char × List Char) :=
  match text with
  | '#' :: rest => readNumbered rest
  | _ => readNamed inAttribute text

/-- A text with at most so many characters and references of it decoded. -/
def decodeUpTo (inAttribute : Bool) : Nat → List Char → List Char
  | 0, text => text
  | _ + 1, [] => []
  | limit + 1, '&' :: rest =>
    match readReference inAttribute rest with
    | some (chars, after) => chars ++ decodeUpTo inAttribute limit after
    | none => '&' :: decodeUpTo inAttribute limit rest
  | limit + 1, c :: rest => textChar c :: decodeUpTo inAttribute limit rest

/-- A text with its references decoded. -/
def decode (inAttribute : Bool) (text : List Char) : List Char :=
  decodeUpTo inAttribute text.length text

end CustomElement.Markup
