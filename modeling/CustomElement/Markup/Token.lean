import CustomElement.Text.CharClass

/-!
# Markup tokens

What a markup text consists of: tags, runs of blank or other characters, comments. The content of a
comment is of no interest, but a comment keeps the texts around it apart.
-/

namespace CustomElement.Markup

/-- An attribute of a tag. -/
structure TagAttribute where
  name : String
  value : List Char
deriving DecidableEq, Repr

/-- A tag. -/
structure Tag where
  name : String
  attributes : List TagAttribute := []
  selfClosing : Bool := false
deriving DecidableEq, Repr

/-- A token. -/
inductive Token where
  | startTag (tag : Tag)
  | endTag (name : String)
  /-- A run of blank characters. -/
  | blank (text : List Char)
  /-- A run of other characters. -/
  | text (text : List Char)
  /-- The character with code zero. -/
  | null
  | comment
deriving DecidableEq, Repr

/-- A blank character of markup. -/
def isBlank (c : Char) : Bool :=
  c == ' ' || c == '\n' || c == '\t' || c == '\r' || c.toNat == 12

/-- What is shown for a character that cannot be. -/
def replacement : Char :=
  Char.ofNat 0xFFFD

/-- A character in front of tokens. -/
def pushChar (c : Char) (tokens : List Token) : List Token :=
  if c.toNat == 0 then .null :: tokens
  else if isBlank c then
    match tokens with
    | .blank text :: rest => .blank (c :: text) :: rest
    | _ => .blank [c] :: tokens
  else
    match tokens with
    | .text text :: rest => .text (c :: text) :: rest
    | _ => .text [c] :: tokens

/-- The tokens of characters. -/
def charTokens (text : List Char) : List Token :=
  text.foldr pushChar []

/-- An ASCII letter in lower case; other characters are left alone. -/
def lower (c : Char) : Char :=
  if 'A' ≤ c && c ≤ 'Z' then Char.ofNat (c.toNat + 32) else c

/-- A character of a name in a tag. -/
def nameChar (c : Char) : Char :=
  if c.toNat == 0 then replacement else lower c

/-- A character of a text in which the one with code zero cannot be. -/
def textChar (c : Char) : Char :=
  if c.toNat == 0 then replacement else c

/-- Whether a text starts with the word, in any case. -/
def startsWith (word : String) (text : List Char) : Bool :=
  word.toList.isPrefixOf ((text.take word.length).map lower)

end CustomElement.Markup
