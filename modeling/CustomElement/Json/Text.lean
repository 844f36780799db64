import CustomElement.Json.Basic
import CustomElement.Number.Notation

/-!
# Writing JSON

`Json.compact` writes a value on one line and `Json.pretty` with one field or item on each line,
indented by two spaces.
-/

namespace CustomElement.Json

/-- A hexadecimal digit in lower case. -/
def hexDigit (n : Nat) : Char :=
  Nat.digitChar (n % 16)

/-- A character inside a JSON string. -/
def escapeChar (c : Char) : List Char :=
  if c == '"' then ['\\', '"']
  else if c == '\\' then ['\\', '\\']
  else if c == '\n' then ['\\', 'n']
  else if c == '\r' then ['\\', 'r']
  else if c == '\t' then ['\\', 't']
  else if c.toNat == 8 then ['\\', 'b']
  else if c.toNat == 12 then ['\\', 'f']
  else if c.toNat < 0x20 then ['\\', 'u', '0', '0', hexDigit (c.toNat / 16), hexDigit c.toNat]
  else [c]

/-- A string between double quotes. -/
def quote (s : String) : String :=
  String.ofList ('"' :: (s.toList.flatMap escapeChar ++ ['"']))

/-- Numbers, truth values, null and strings. -/
def scalar : Json → String
  | .null => "null"
  | .bool b => if b then "true" else "false"
  | .natural n => String.ofList (Nat.toDigits 10 n)
  | .negative n => String.ofList ('-' :: Nat.toDigits 10 n)
  | .double x => x.renderStored
  | .string s => quote s
  | .array _ => ""
  | .object _ => ""

mutual
/-- The value on one line. -/
def compact : Json → String
  | .array items => "[" ++ compactItems items ++ "]"
  | .object fields => "\x7b" ++ compactFields fields ++ "\x7d"
  | value => scalar value

/-- Items on one line. -/
def compactItems : List Json → String
  | [] => ""
  | [item] => compact item
  | item :: rest => compact item ++ "," ++ compactItems rest

/-- Fields on one line. -/
def compactFields : List (String × Json) → String
  | [] => ""
  | [field] => compactField field
  | field :: rest => compactField field ++ "," ++ compactFields rest

/-- A field on one line. -/
def compactField : String × Json → String
  | (key, value) => quote key ++ ":" ++ compact value
end

/-- A line break followed by the indentation of a level. -/
def newline (level : Nat) : String :=
  String.ofList ('\n' :: List.replicate (2 * level) ' ')

mutual
/-- The value on lines of its own, at a level of indentation. -/
def prettyAt (level : Nat) : Json → String
  | .array [] => "[]"
  | .array items => "[" ++ prettyItems (level + 1) items ++ newline level ++ "]"
  | .object [] => "\x7b\x7d"
  | .object fields => "\x7b" ++ prettyFields (level + 1) fields ++ newline level ++ "\x7d"
  | value => scalar value

/-- Items, each on lines of its own. -/
def prettyItems (level : Nat) : List Json → String
  | [] => ""
  | [item] => newline level ++ prettyAt level item
  | item :: rest => newline level ++ prettyAt level item ++ "," ++ prettyItems level rest

/-- Fields, each on lines of its own. -/
def prettyFields (level : Nat) : List (String × Json) → String
  | [] => ""
  | [field] => newline level ++ prettyField level field
  | field :: rest => newline level ++ prettyField level field ++ "," ++ prettyFields level rest

/-- A field on lines of its own. -/
def prettyField (level : Nat) : String × Json → String
  | (key, value) => quote key ++ ": " ++ prettyAt level value
end

/-- The value with one field or item on each line. -/
def pretty (value : Json) : String :=
  prettyAt 0 value

end CustomElement.Json
