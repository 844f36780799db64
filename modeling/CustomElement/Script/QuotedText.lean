import CustomElement.Script.Escape
import CustomElement.Script.NumberText

/-!
# Strings, templates and regular expressions
-/

namespace CustomElement.Script

/-- The code points of a string up to its closing quote, and the text after it. `acc` holds the code
points so far in reverse. -/
def stringCodes (quote : Char) : Nat → List Nat → List Char → Option (List Nat × List Char)
  | 0, _, _ => none
  | fuel + 1, acc, text =>
    match text with
    | [] => none
    | c :: rest =>
      if c == quote then some (acc.reverse, rest)
      else if c == '\\' then
        match readEscape false rest with
        | some (codes, after) => stringCodes quote fuel (codes.reverse ++ acc) after
        | none => none
      else if c == '\n' || c == '\r' then none
      else stringCodes quote fuel (c.toNat :: acc) rest

/-- A string after its opening quote. -/
def readString (quote : Char) (text : List Char) : Scanned := do
  let (codes, rest) ← stringCodes quote (text.length + 1) [] text
  let raw := text.take (text.length - rest.length - 1)
  some (.string (stringOfCodes codes) (String.ofList raw), rest)

/-- Whether a text between quotes has an escape for a surrogate without its partner, looking at no more
than so many characters and escapes. -/
def loneSurrogateIn : Nat → List Char → Bool
  | 0, _ => false
  | _, [] => false
  | fuel + 1, '\\' :: rest =>
    match readEscape false rest with
    | some (codes, after) => codes.any isSurrogate || loneSurrogateIn fuel after
    | none => false
  | fuel + 1, _ :: rest => loneSurrogateIn fuel rest

/-- Whether the text between the quotes of a string has a surrogate without its partner. -/
def hasLoneSurrogate (raw : String) : Bool :=
  loneSurrogateIn raw.length raw.toList

/-- A piece of a template: raw characters and code points, both in reverse. The code points are
missing once an escape was malformed. -/
structure Piece where
  raw : List Char
  codes : Option (List Nat)

/-- Text with every line end written as a line feed. -/
def normalizeLines : List Char → List Char
  | [] => []
  | '\r' :: '\n' :: rest => '\n' :: normalizeLines rest
  | '\r' :: rest => '\n' :: normalizeLines rest
  | c :: rest => c :: normalizeLines rest

/-- A piece with one more character that stands for itself. -/
def Piece.push (p : Piece) (c : Char) : Piece :=
  ⟨c :: p.raw, p.codes.map (c.toNat :: ·)⟩

/-- The token of a finished piece. -/
def Piece.token (p : Piece) (tail : Bool) : Token :=
  .template (String.ofList p.raw.reverse)
    (p.codes.map fun codes => stringOfCodes codes.reverse) tail

/-- The rest of a template piece: up to the closing backquote, or to the next substitution. -/
def templatePiece : Nat → Piece → List Char → Scanned
  | 0, _, _ => none
  | fuel + 1, p, text =>
    match text with
    | [] => none
    | '`' :: rest => some (p.token true, rest)
    | '$' :: '\x7b' :: rest => some (p.token false, rest)
    | '\r' :: '\n' :: rest => templatePiece fuel (p.push '\n') rest
    | '\r' :: rest => templatePiece fuel (p.push '\n') rest
    | '\\' :: rest =>
      match readEscape true rest with
      | some (codes, after) =>
        let raw := normalizeLines (rest.take (rest.length - after.length))
        templatePiece fuel ⟨raw.reverse ++ '\\' :: p.raw, p.codes.map (codes.reverse ++ ·)⟩ after
      | none =>
        match rest with
        | c :: after => templatePiece fuel ⟨c :: '\\' :: p.raw, none⟩ after
        | [] => none
    | c :: rest => templatePiece fuel (p.push c) rest

/-- A template piece after the backquote or brace in front of it. -/
def readTemplate (text : List Char) : Scanned :=
  templatePiece (text.length + 1) ⟨[], some []⟩ text

/-- The pattern of a regular expression after its opening slash, and the text after the closing one.
A slash inside brackets does not close. -/
def regexPattern (inClass escaped : Bool) : List Char → Option (List Char × List Char)
  | [] => none
  | c :: rest =>
    if isLineEnd c then none
    else if escaped then
      (regexPattern inClass false rest).map fun (pattern, after) => (c :: pattern, after)
    else if c == '/' && !inClass then some ([], rest)
    else
      let inClass := if c == '[' then true else if c == ']' then false else inClass
      (regexPattern inClass (c == '\\') rest).map fun (pattern, after) => (c :: pattern, after)

/-- A character that is read as a flag of a regular expression. -/
def isFlagChar (c : Char) : Bool :=
  c == '$' || c == '_' || Text.isAsciiLetter c || Text.isAsciiDigit c

/-- The flags, in the order in which they are written out. -/
def regexFlags : List Char :=
  ['d', 'g', 'i', 'm', 's', 'u', 'v', 'y']

/-- Whether the flags are known, none is repeated, and at most one of the two that ask for Unicode is
among them. -/
def areFlags (flags : List Char) : Bool :=
  flags.all regexFlags.contains && regexFlags.all (fun f => flags.count f ≤ 1) &&
    !(flags.contains 'u' && flags.contains 'v')

/-- A regular expression after its opening slash: the pattern, the flags in their fixed order, and
the text after it. -/
def readRegex (text : List Char) : Option (String × String × List Char) := do
  let (pattern, after) ← regexPattern false false text
  let flags := after.takeWhile isFlagChar
  if areFlags flags then
    some (String.ofList pattern, String.ofList (regexFlags.filter flags.contains),
      after.dropWhile isFlagChar)
  else none

end CustomElement.Script
