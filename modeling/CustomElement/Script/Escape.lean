import CustomElement.Script.Gap
import CustomElement.Text.CharClass

/-!
# Escapes

The escapes of names, strings and templates. The value of a text is a list of code points, in which a
surrogate can only come from an escape. A surrogate without its partner cannot stand in a string; it
is kept as a replacement character followed by its four digits, and in such a string a replacement
character proper is written in the same way.
-/

namespace CustomElement.Script

open CustomElement.Text

/-- A high surrogate. -/
def isHighSurrogate (n : Nat) : Bool :=
  0xD800 ≤ n && n ≤ 0xDBFF

/-- A low surrogate. -/
def isLowSurrogate (n : Nat) : Bool :=
  0xDC00 ≤ n && n ≤ 0xDFFF

/-- A surrogate of either kind. -/
def isSurrogate (n : Nat) : Bool :=
  0xD800 ≤ n && n ≤ 0xDFFF

/-- The code point of two surrogates. -/
def joinSurrogates (high low : Nat) : Nat :=
  0x10000 + (high - 0xD800) * 0x400 + (low - 0xDC00)

/-- The number that exactly four hexadecimal digits spell. -/
def fourDigits : List Char → Option (Nat × List Char)
  | a :: b :: c :: d :: rest =>
    if isHexDigit a && isHexDigit b && isHexDigit c && isHexDigit d then
      some (hexNumber [a, b, c, d], rest)
    else none
  | _ => none

/-- A code point in braces, after the opening one. -/
def bracedCode (text : List Char) : Option (Nat × List Char) :=
  let digits := text.takeWhile isHexDigit
  match text.dropWhile isHexDigit with
  | '\x7d' :: rest =>
    if digits.isEmpty || 0x10FFFF < hexNumber digits then none else some (hexNumber digits, rest)
  | _ => none

/-- The code point of an escape after its `u`. -/
def unicodeCode : List Char → Option (Nat × List Char)
  | '\x7b' :: rest => bracedCode rest
  | text => fourDigits text

/-- The code point of an escape in a string or template, after its `u`. Two escapes that spell a pair
of surrogates make one code point. -/
def unicodeEscape : List Char → Option (Nat × List Char)
  | '\x7b' :: rest => bracedCode rest
  | text =>
    match fourDigits text with
    | some (high, '\\' :: 'u' :: after) =>
      if isHighSurrogate high then
        match fourDigits after with
        | some (low, rest) =>
          if isLowSurrogate low then some (joinSurrogates high low, rest)
          else some (high, '\\' :: 'u' :: after)
        | none => some (high, '\\' :: 'u' :: after)
      else some (high, '\\' :: 'u' :: after)
    | other => other

/-- An octal digit. -/
def isOctalDigit (c : Char) : Bool :=
  '0' ≤ c && c ≤ '7'

/-- The value of an escape with octal digits: up to three, and at most 255. -/
def octalEscape : List Char → Nat × List Char
  | a :: b :: c :: rest =>
    if isOctalDigit b then
      if isOctalDigit c && a ≤ '3' then (hexValue a * 64 + hexValue b * 8 + hexValue c, rest)
      else (hexValue a * 8 + hexValue b, c :: rest)
    else (hexValue a, b :: c :: rest)
  | [a, b] => if isOctalDigit b then (hexValue a * 8 + hexValue b, []) else (hexValue a, [b])
  | a :: rest => (hexValue a, rest)
  | [] => (0, [])

/-- The code points of an escape after its backslash, and the text after it. Templates have no octal
escapes. -/
def readEscape (inTemplate : Bool) : List Char → Option (List Nat × List Char)
  | [] => none
  | 'n' :: rest => some ([0x0A], rest)
  | 'r' :: rest => some ([0x0D], rest)
  | 't' :: rest => some ([0x09], rest)
  | 'b' :: rest => some ([0x08], rest)
  | 'v' :: rest => some ([0x0B], rest)
  | 'f' :: rest => some ([0x0C], rest)
  | '\r' :: '\n' :: rest => some ([], rest)
  | 'x' :: a :: b :: rest =>
    if isHexDigit a && isHexDigit b then some ([hexNumber [a, b]], rest) else none
  | 'x' :: _ => none
  | 'u' :: rest => (unicodeEscape rest).map fun (code, after) => ([code], after)
  | c :: rest =>
    if isLineEnd c then some ([], rest)
    else if isAsciiDigit c then
      let alone := !(rest.headD ' ' |> isAsciiDigit)
      if c == '0' && alone then some ([0], rest)
      else if inTemplate then none
      else if isOctalDigit c then
        let (code, after) := octalEscape (c :: rest)
        some ([code], after)
      else some ([c.toNat], rest)
    else some ([c.toNat], rest)

/-- Four hexadecimal digits in lower case. -/
def fourHex (n : Nat) : List Char :=
  [Nat.digitChar (n / 4096 % 16), Nat.digitChar (n / 256 % 16), Nat.digitChar (n / 16 % 16),
    Nat.digitChar (n % 16)]

/-- The characters of one code point in a text with lone surrogates. -/
def encodeMarked (n : Nat) : List Char :=
  if isSurrogate n || n == 0xFFFD then Char.ofNat 0xFFFD :: fourHex n else [Char.ofNat n]

/-- The string of a list of code points. -/
def stringOfCodes (codes : List Nat) : String :=
  if codes.any isSurrogate then String.ofList (codes.flatMap encodeMarked)
  else String.ofList (codes.map Char.ofNat)

end CustomElement.Script
