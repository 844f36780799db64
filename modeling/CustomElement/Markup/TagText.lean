import CustomElement.Markup.Reference

/-!
# The text of tags

A tag after its name has been told from other text by a letter. A tag that the text does not close is
dropped, and of two attributes of one name the first counts.
-/

namespace CustomElement.Markup

/-- A character that ends the name of a tag. -/
def endsTagName (c : Char) : Bool :=
  isBlank c || c == '/' || c == '>'

/-- A character that ends the name of an attribute. -/
def endsAttributeName (c : Char) : Bool :=
  endsTagName c || c == '='

/-- A character that ends a value without quotes. -/
def endsValue (c : Char) : Bool :=
  isBlank c || c == '>'

/-- The text after leading blanks. -/
def skipBlank (text : List Char) : List Char :=
  text.dropWhile isBlank

/-- A value and the text after it; none if the text ends before. -/
def quotedValue (quote : Char) (text : List Char) : Option (List Char × List Char) :=
  match text.dropWhile (· != quote) with
  | [] => none
  | _ :: rest => some (decode true (text.takeWhile (· != quote)), rest)

/-- The value of an attribute after its equals sign. -/
def readValue (text : List Char) : Option (List Char × List Char) :=
  match skipBlank text with
  | '"' :: rest => quotedValue '"' rest
  | '\'' :: rest => quotedValue '\'' rest
  | '>' :: rest => some ([], '>' :: rest)
  | rest =>
    some (decode true (rest.takeWhile fun c => !endsValue c), rest.dropWhile fun c => !endsValue c)

/-- The name of an attribute and the text after it. Its first character is taken whatever it is. -/
def readAttributeName (first : Char) (text : List Char) : String × List Char :=
  let name := first :: text.takeWhile fun c => !endsAttributeName c
  (String.ofList (name.map nameChar), text.dropWhile fun c => !endsAttributeName c)

/-- An attribute that starts with the given character. -/
def readAttribute (first : Char) (text : List Char) : Option (TagAttribute × List Char) :=
  let (name, rest) := readAttributeName first text
  match skipBlank rest with
  | '=' :: after => (readValue after).map fun (value, rest) => (⟨name, value⟩, rest)
  | after => some (⟨name, []⟩, after)

/-- One more attribute, unless there is one of its name. -/
def addAttribute (attributes : List TagAttribute) (a : TagAttribute) : List TagAttribute :=
  if attributes.any (·.name == a.name) then attributes else attributes ++ [a]

/-- The attributes of a tag up to its end, whether it closes itself, and the text after it. None if
the text ends before. -/
def readAttributes : Nat → List TagAttribute → List Char →
    Option (List TagAttribute × Bool × List Char)
  | 0, _, _ => none
  | limit + 1, attributes, text =>
    match skipBlank text with
    | [] => none
    | '>' :: rest => some (attributes, false, rest)
    | '/' :: '>' :: rest => some (attributes, true, rest)
    | '/' :: rest => readAttributes limit attributes rest
    | c :: rest =>
      match readAttribute c rest with
      | none => none
      | some (a, after) => readAttributes limit (addAttribute attributes a) after

/-- A tag from its name on, and the text after it. None if the text ends before. -/
def readTag (text : List Char) : Option (Tag × List Char) :=
  let name := text.takeWhile fun c => !endsTagName c
  let rest := text.dropWhile fun c => !endsTagName c
  (readAttributes (rest.length + 1) [] rest).map fun (attributes, selfClosing, after) =>
    (⟨String.ofList (name.map nameChar), attributes, selfClosing⟩, after)

end CustomElement.Markup
