import CustomElement.Markup.TagText

/-!
# Scanning markup

The first tokens of a text, and the text after them. Elements such as `script` hold raw text, which
only their end tag ends.
-/

namespace CustomElement.Markup

open CustomElement.Text (isAsciiLetter)

/-- Tokens and the text after them. -/
structure Lexed where
  tokens : List Token
  rest : List Char

/-! ## Comments and declarations -/

/-- Where in a comment a character stands. -/
inductive CommentPlace where
  | start
  | startDash
  | inside
  | dash
  | dashes
  | bang
deriving DecidableEq, Repr

/-- The text after a comment. -/
def afterComment : CommentPlace → List Char → List Char
  | _, [] => []
  | .start, '-' :: rest => afterComment .startDash rest
  | .start, '>' :: rest => rest
  | .start, _ :: rest => afterComment .inside rest
  | .startDash, '-' :: rest => afterComment .dashes rest
  | .startDash, '>' :: rest => rest
  | .startDash, _ :: rest => afterComment .inside rest
  | .inside, '-' :: rest => afterComment .dash rest
  | .inside, _ :: rest => afterComment .inside rest
  | .dash, '-' :: rest => afterComment .dashes rest
  | .dash, _ :: rest => afterComment .inside rest
  | .dashes, '-' :: rest => afterComment .dashes rest
  | .dashes, '>' :: rest => rest
  | .dashes, '!' :: rest => afterComment .bang rest
  | .dashes, _ :: rest => afterComment .inside rest
  | .bang, '-' :: rest => afterComment .dash rest
  | .bang, '>' :: rest => rest
  | .bang, _ :: rest => afterComment .inside rest

/-- The text after the next `>`. -/
def afterAngle (text : List Char) : List Char :=
  (text.dropWhile (· != '>')).drop 1

/-- The characters of a section up to its end, and the text after it. -/
def sectionText : List Char → List Char × List Char
  | [] => ([], [])
  | ']' :: ']' :: '>' :: rest => ([], rest)
  | c :: rest =>
    let (chars, after) := sectionText rest
    (c :: chars, after)

/-- What follows `<!`. A section of characters may stand in foreign content only. -/
def readDeclaration (foreign : Bool) (text : List Char) : Lexed :=
  if startsWith "--" text then ⟨[.comment], afterComment .start (text.drop 2)⟩
  else if startsWith "doctype" text then ⟨[], afterAngle text⟩
  else if foreign && "[CDATA[".toList.isPrefixOf text then
    let (chars, rest) := sectionText (text.drop 7)
    ⟨charTokens chars, rest⟩
  else ⟨[.comment], afterAngle text⟩

/-! ## Tags and characters -/

/-- A start tag from its name on. -/
def readStartTag (text : List Char) : Lexed :=
  match readTag text with
  | some (tag, rest) => ⟨[.startTag tag], rest⟩
  | none => ⟨[], []⟩

/-- An end tag from its name on. -/
def readEndTag (text : List Char) : Lexed :=
  match readTag text with
  | some (tag, rest) => ⟨[.endTag tag.name], rest⟩
  | none => ⟨[], []⟩

/-- What follows `</`. -/
def readClosing (text : List Char) : Lexed :=
  match text with
  | [] => ⟨charTokens ['<', '/'], []⟩
  | '>' :: rest => ⟨[], rest⟩
  | c :: _ => if isAsciiLetter c then readEndTag text else ⟨[.comment], afterAngle text⟩

/-- What follows `<`. -/
def readMarkup (foreign : Bool) (text : List Char) : Lexed :=
  match text with
  | '!' :: rest => readDeclaration foreign rest
  | '/' :: rest => readClosing rest
  | '?' :: _ => ⟨[.comment], afterAngle text⟩
  | c :: _ => if isAsciiLetter c then readStartTag text else ⟨charTokens ['<'], text⟩
  | [] => ⟨charTokens ['<'], []⟩

/-- A character that stands for itself. -/
def isPlain (c : Char) : Bool :=
  c != '<' && c != '&'

/-- The first tokens of a text. -/
def readTokens (foreign : Bool) (text : List Char) : Lexed :=
  match text with
  | [] => ⟨[], []⟩
  | '<' :: rest => readMarkup foreign rest
  | '&' :: rest =>
    match readReference false rest with
    | some (chars, after) => ⟨charTokens chars, after⟩
    | none => ⟨charTokens ['&'], rest⟩
  | _ => ⟨charTokens (text.takeWhile isPlain), text.dropWhile isPlain⟩

/-! ## Raw text -/

/-- How the text after a start tag is read. -/
inductive Content where
  | markup
  /-- Text in which references count. -/
  | references
  | raw
  | script
  /-- Text that nothing ends. -/
  | plain
deriving DecidableEq, Repr

/-- Whether the end tag of a name follows, after its `</`. -/
def closes (name : String) (text : List Char) : Bool :=
  startsWith name text && (text.drop name.length).head?.any endsTagName

/-- The raw text in front of the end tag of a name, and the text from there on. -/
def splitRaw (name : String) : List Char → List Char × List Char
  | [] => ([], [])
  | '<' :: '/' :: rest =>
    if closes name rest then ([], '<' :: '/' :: rest)
    else
      let (chars, after) := splitRaw name ('/' :: rest)
      ('<' :: chars, after)
  | c :: rest =>
    let (chars, after) := splitRaw name rest
    (c :: chars, after)

/-- Where in a script a character stands: a script may hold what looks like a comment, and in it what
looks like a script. -/
inductive ScriptPlace where
  | code
  | comment (dashes : Nat)
  | nested (dashes : Nat)
deriving DecidableEq, Repr

/-- The place after a character that is neither `<` nor the end of a comment. -/
def ScriptPlace.after (p : ScriptPlace) (c : Char) : ScriptPlace :=
  match p with
  | .code => .code
  | .comment dashes =>
    if c == '-' then .comment (min 2 (dashes + 1))
    else if c == '>' && dashes == 2 then .code
    else .comment 0
  | .nested dashes =>
    if c == '-' then .nested (min 2 (dashes + 1))
    else if c == '>' && dashes == 2 then .code
    else .nested 0

/-- The place after a `<` that ends nothing, in front of the given text. -/
def ScriptPlace.afterAngle (p : ScriptPlace) (text : List Char) : ScriptPlace :=
  match p with
  | .code => .code
  | .comment _ => if closes "script" text then .nested 0 else .comment 0
  | .nested _ =>
    match text with
    | '/' :: rest => if closes "script" rest then .comment 0 else .nested 0
    | _ => .nested 0

/-- Whether the end tag of a script counts here. -/
def ScriptPlace.canEnd : ScriptPlace → Bool
  | .nested _ => false
  | _ => true

/-- The text of a script in front of its end tag, and the text from there on. -/
def splitScript (name : String) : ScriptPlace → List Char → List Char × List Char
  | _, [] => ([], [])
  | .code, '<' :: '!' :: '-' :: '-' :: rest =>
    let (chars, after) := splitScript name (.comment 2) rest
    ('<' :: '!' :: '-' :: '-' :: chars, after)
  | p, '<' :: rest =>
    if p.canEnd && rest.head? == some '/' && closes name (rest.drop 1) then ([], '<' :: rest)
    else
      let (chars, after) := splitScript name (p.afterAngle rest) rest
      ('<' :: chars, after)
  | p, c :: rest =>
    let (chars, after) := splitScript name (p.after c) rest
    (c :: chars, after)

/-- The content of an element with raw text and its end tag. -/
def closeRaw (chars rest : List Char) : Lexed :=
  match rest with
  | '<' :: '/' :: text =>
    let closing := readEndTag text
    ⟨charTokens chars ++ closing.tokens, closing.rest⟩
  | _ => ⟨charTokens chars, []⟩

/-- The tokens of the content of an element, up to and with its end tag. -/
def readContent (content : Content) (name : String) (text : List Char) : Lexed :=
  match content with
  | .markup => ⟨[], text⟩
  | .references =>
    let (chars, rest) := splitRaw name text
    closeRaw (decode false chars) rest
  | .raw =>
    let (chars, rest) := splitRaw name text
    closeRaw (chars.map textChar) rest
  | .script =>
    let (chars, rest) := splitScript name .code text
    closeRaw (chars.map textChar) rest
  | .plain => ⟨charTokens (text.map textChar), []⟩

end CustomElement.Markup
