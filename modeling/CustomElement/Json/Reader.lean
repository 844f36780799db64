import CustomElement.Json.Basic
import CustomElement.Text.CharClass

/-!
# Reading JSON

`Json.parse?` reads a whole text. Values may nest to a fixed depth. A number with a fraction or an
exponent is read as its digits, rounded, times or divided by a rounded power of ten.
-/

namespace CustomElement.Json

open CustomElement.Text

/-- A reader takes a value off the front of a text. -/
abbrev Read (α : Type) := List Char → Option (α × List Char)

/-- Text without leading blanks. -/
def skipBlanks (text : List Char) : List Char :=
  text.dropWhile fun c => c == ' ' || c == '\t' || c == '\n' || c == '\r'

/-- The number that four hexadecimal digits spell. -/
def readHex4 : Read Nat
  | a :: b :: c :: d :: rest =>
    if [a, b, c, d].all isHexDigit then some (hexNumber [a, b, c, d], rest) else none
  | _ => none

/-- The rest of a `\u` escape: one unit, or two that form a surrogate pair. -/
def readUnicodeEscape (text : List Char) : Option (Char × List Char) := do
  let (high, rest) ← readHex4 text
  if 0xDC00 ≤ high && high < 0xE000 then none
  else if 0xD800 ≤ high && high < 0xDC00 then
    match rest with
    | '\\' :: 'u' :: rest =>
      let (low, rest) ← readHex4 rest
      if 0xDC00 ≤ low && low < 0xE000 then
        some (Char.ofNat (0x10000 + (high - 0xD800) * 0x400 + (low - 0xDC00)), rest)
      else none
    | _ => none
  else some (Char.ofNat high, rest)

/-- The rest of a string after its opening quote. -/
def readString : Nat → Read (List Char)
  | 0, _ => none
  | fuel + 1, text =>
    match text with
    | '"' :: rest => some ([], rest)
    | '\\' :: 'u' :: rest => do
      let (c, rest) ← readUnicodeEscape rest
      let (cs, rest) ← readString fuel rest
      some (c :: cs, rest)
    | '\\' :: e :: rest => do
      let c ←
        match e with
        | '"' => some '"'
        | '\\' => some '\\'
        | '/' => some '/'
        | 'b' => some (Char.ofNat 8)
        | 'f' => some (Char.ofNat 12)
        | 'n' => some '\n'
        | 'r' => some '\r'
        | 't' => some '\t'
        | _ => none
      let (cs, rest) ← readString fuel rest
      some (c :: cs, rest)
    | c :: rest =>
      if c.toNat < 0x20 then none
      else do
        let (cs, rest) ← readString fuel rest
        some (c :: cs, rest)
    | [] => none

/-- A string value after its opening quote. -/
def readText (text : List Char) : Option (String × List Char) :=
  (readString (text.length + 1) text).map fun (cs, rest) => (String.ofList cs, rest)

/-- A significand and a power of ten: the significand is rounded, and so is the power. -/
def scale (significand : Nat) (exponent : Int) : Option Double :=
  let x := Double.ofNat significand
  match exponent with
  | .ofNat k =>
    if k ≤ 308 then
      let product := x.mul (Double.ofDecimal 1 k)
      if product.isFinite then some product else none
    else if significand = 0 then some x
    else none
  | .negSucc k =>
    let k := k + 1
    if k ≤ 308 then some (x.div (Double.ofDecimal 1 k))
    else
      let x := x.div (Double.ofDecimal 1 308)
      if k ≤ 616 then some (x.div (Double.ofDecimal 1 (k - 308)))
      else some (Double.zero false)

/-- The greatest significand that is kept exactly. -/
def significandLimit : Nat := Nat.pow 2 64

/-- Digits added to a significand as long as it stays below the limit, and how many were added. -/
def addDigits (significand : Nat) : List Char → Nat × Nat
  | [] => (significand, 0)
  | c :: rest =>
    let next := 10 * significand + (c.toNat - '0'.toNat)
    if next < significandLimit then
      let (s, n) := addDigits next rest
      (s, n + 1)
    else (significand, 0)

/-- The exponent part of a number, if there is one. -/
def readExponent (text : List Char) : Option (Option Int × List Char) :=
  let digits (sign : Int) (text : List Char) :=
    let ds := text.takeWhile isAsciiDigit
    if ds.isEmpty then none
    else some (some (sign * decimalNumber ds), text.dropWhile isAsciiDigit)
  match text with
  | 'e' :: '-' :: rest => digits (-1) rest
  | 'E' :: '-' :: rest => digits (-1) rest
  | 'e' :: '+' :: rest => digits 1 rest
  | 'E' :: '+' :: rest => digits 1 rest
  | 'e' :: rest => digits 1 rest
  | 'E' :: rest => digits 1 rest
  | _ => some (none, text)

/-- The fraction part of a number, if there is one. -/
def readFraction (text : List Char) : Option (Option (List Char) × List Char) :=
  match text with
  | '.' :: rest =>
    let ds := rest.takeWhile isAsciiDigit
    if ds.isEmpty then none else some (some ds, rest.dropWhile isAsciiDigit)
  | _ => some (none, text)

/-- A number after its sign. -/
def readNumber (negative : Bool) (text : List Char) : Option (Json × List Char) := do
  let whole := text.takeWhile isAsciiDigit
  let rest := text.dropWhile isAsciiDigit
  if whole.isEmpty || (whole.length > 1 && whole.head? == some '0') then none
  else
    let (fraction, rest) ← readFraction rest
    let (exponent, rest) ← readExponent rest
    let value := decimalNumber whole
    let signed (x : Double) : Json := .double (if negative then x.neg else x)
    match fraction, exponent with
    | none, none =>
      if !negative && value < Nat.pow 2 64 then some (.natural value, rest)
      else if negative && value ≤ Nat.pow 2 63 && value != 0 then some (.negative value, rest)
      else
        let (significand, kept) := addDigits 0 whole
        let x ← scale significand (whole.length - kept : Nat)
        some (signed x, rest)
    | _, _ =>
      let (significand, kept) := addDigits 0 whole
      let dropped := whole.length - kept
      let (significand, places) :=
        if dropped = 0 then addDigits significand (fraction.getD []) else (significand, 0)
      let x ← scale significand ((dropped : Int) - places + exponent.getD 0)
      some (signed x, rest)

/-- The items of an array after its opening bracket. -/
def readItems (value : Read Json) : Nat → Read (List Json)
  | 0, _ => none
  | fuel + 1, text => do
    let (item, rest) ← value text
    match skipBlanks rest with
    | ',' :: rest =>
      let (items, rest) ← readItems value fuel rest
      some (item :: items, rest)
    | ']' :: rest => some ([item], rest)
    | _ => none

/-- The fields of an object after its opening brace; of two fields of one name the later counts. -/
def readFields (value : Read Json) : Nat → Read (List (String × Json))
  | 0, _ => none
  | fuel + 1, text =>
    match skipBlanks text with
    | '"' :: rest => do
      let (key, rest) ← readText rest
      match skipBlanks rest with
      | ':' :: rest =>
        let (item, rest) ← value rest
        match skipBlanks rest with
        | ',' :: rest =>
          let (fields, rest) ← readFields value fuel rest
          if fields.any (·.1 == key) then some (fields, rest)
          else some ((key, item) :: fields, rest)
        | '\x7d' :: rest => some ([(key, item)], rest)
        | _ => none
      | _ => none
    | _ => none

/-- A value that nests at most as deep as the first argument says. -/
def readValue : Nat → Read Json
  | 0, _ => none
  | depth + 1, text =>
    match skipBlanks text with
    | 'n' :: 'u' :: 'l' :: 'l' :: rest => some (.null, rest)
    | 't' :: 'r' :: 'u' :: 'e' :: rest => some (.bool true, rest)
    | 'f' :: 'a' :: 'l' :: 's' :: 'e' :: rest => some (.bool false, rest)
    | '"' :: rest => (readText rest).map fun (s, rest) => (.string s, rest)
    | '[' :: rest =>
      match skipBlanks rest with
      | ']' :: rest => some (.array [], rest)
      | rest => (readItems (readValue depth) rest.length rest).map fun (xs, rest) => (.array xs, rest)
    | '\x7b' :: rest =>
      match skipBlanks rest with
      | '\x7d' :: rest => some (.object [], rest)
      | rest =>
        (readFields (readValue depth) rest.length rest).map fun (fs, rest) => (.object fs, rest)
    | '-' :: rest => readNumber true rest
    | text => readNumber false text

/-- Arrays and objects may stand inside at most this many others. -/
def depthLimit : Nat := 127

/-- The value that a text spells. -/
def parse? (text : String) : Option Json :=
  match readValue (depthLimit + 1) text.toList with
  | some (value, rest) => if (skipBlanks rest).isEmpty then some value else none
  | none => none

end CustomElement.Json
