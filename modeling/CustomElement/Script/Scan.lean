import CustomElement.Script.QuotedText
import CustomElement.Script.Word

/-!
# Scanning

The next token of a text. The punctuators that a text starts with are tried from the longest on.
-/

namespace CustomElement.Script

open CustomElement.Text

/-- The punctuators, longer ones before their beginnings. -/
def punctuators : List String := [
  "...", "===", "!==", "**=", "<<=", "&&=", "||=", "??=",
  "=>", "==", "!=", "++", "--", "+=", "-=", "*=", "/=", "%=", "&=", "|=", "^=", "&&", "||", "??",
  "**", "<<", "<=",
  "\x7b", "\x7d", "(", ")", "[", "]", ".", ";", ",", "<", ">", "+", "-", "*", "/", "%", "&", "|", "^",
  "!", "~", "?", ":", "=", "@"]

/-- The operators that a `>` may start, longer ones first. -/
def rightAngles : List String :=
  [">>>=", ">>>", ">>=", ">>", ">=", ">"]

/-- The first of some punctuators that a text starts with, and the text after it. -/
def firstPunct (symbols : List String) (text : List Char) : Option (String × List Char) :=
  match symbols with
  | [] => none
  | s :: others =>
    if s.toList.isPrefixOf text then some (s, text.drop s.length) else firstPunct others text

/-- A punctuator. A question mark and a dot are two tokens in front of a digit. -/
def readPunct (text : List Char) : Scanned :=
  match text with
  | '?' :: '.' :: rest =>
    if (rest.headD ' ' |> isAsciiDigit) then some (.punct "?", '.' :: rest)
    else some (.punct "?.", rest)
  | _ => (firstPunct punctuators text).map fun (s, rest) => (.punct s, rest)

/-- The token at the start of a text that does not start with a gap. -/
def readToken (text : List Char) : Scanned :=
  match text with
  | [] => some (.eof, [])
  | c :: rest =>
    if isIdentifierStart c || c == '\\' then
      (readWord text).map fun w => (.word (String.ofList w.name) w.escaped, w.rest)
    else if isAsciiDigit c then readNumber text
    else if c == '"' || c == '\'' then readString c rest
    else if c == '`' then readTemplate rest
    else if c == '#' then
      (readWord rest).map fun w => (.privateName (String.ofList w.name), w.rest)
    else if c == '.' && (rest.headD ' ' |> isAsciiDigit) then pointNumber rest
    else readPunct text

end CustomElement.Script
