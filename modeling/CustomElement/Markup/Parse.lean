import CustomElement.Markup.Modes

/-!
# Reading markup

The nodes of a markup text. Every text is markup: what is malformed is read in some way.
-/

namespace CustomElement.Markup

namespace Builder

/-! ## Foreign content -/

/-- The innermost open element, unless only the root is open. -/
def innermost? (b : Builder) : Option Open :=
  match b.stack with
  | e :: _ :: _ => some e
  | _ => none

/-- Whether the innermost element is one of graphics or formulas. -/
def inForeign (b : Builder) : Bool :=
  b.innermost?.any fun e => e.name.space != .html

/-- Whether a token is ordinary content inside of a foreign element. -/
def isOrdinaryIn (e : Open) (t : Token) : Bool :=
  let annotated := e.name == ⟨.mathml, "annotation-xml"⟩
  match t with
  | .blank _ | .text _ | .null => e.name.isTextPoint || e.name.isMarkupPoint || e.holdsMarkup
  | .startTag tag =>
    (e.name.isTextPoint && tag.name != "mglyph" && tag.name != "malignmark") ||
      e.name.isMarkupPoint || (annotated && tag.name == "svg") || e.holdsMarkup
  | _ => false

/-- Whether the rules for foreign content are in force for a token. -/
def isForeign (b : Builder) (t : Token) : Bool :=
  b.innermost?.any fun e => e.name.space != .html && !isOrdinaryIn e t

/-- A start tag in foreign content. -/
def startForeign (b : Builder) (tag : Tag) : Builder :=
  let space := b.currentName.space
  b.insertForeign space { tag with name := foreignTag space tag.name }

/-- Start tags that cannot stand in foreign content. -/
def breakoutTags : List String := [
  "b", "big", "blockquote", "body", "br", "center", "code", "dd", "div", "dl", "dt", "em", "embed",
  "h1", "h2", "h3", "h4", "h5", "h6", "head", "hr", "i", "img", "li", "listing", "menu", "meta",
  "nobr", "ol", "p", "pre", "ruby", "s", "small", "span", "strong", "strike", "sub", "sup", "table",
  "tt", "u", "ul", "var"]

/-- Whether a start tag cannot stand in foreign content. -/
def breaksOut (tag : Tag) : Bool :=
  breakoutTags.contains tag.name ||
    (tag.name == "font" &&
      tag.attributes.any fun a => ["color", "face", "size"].contains a.name)

/-- Closes foreign elements for a tag that cannot stand in them. -/
def breakOut (b : Builder) (t : Token) : Outcome :=
  (b.popUntil fun n => n.space == .html || n.isTextPoint || n.isMarkupPoint).step t

/-- The end tag of a foreign element, from the innermost open element on. Where an HTML element is
open outside of it first, the ordinary rules take over. -/
def endForeign (b : Builder) (tag : String) (first : Bool) : List Open → Outcome
  | [] => b.done
  | [_] => b.done
  | e :: rest =>
    if !first && e.name.space == .html then b.step (.endTag tag)
    else if lowerText e.name.tag == tag then { b with stack := rest }.done
    else b.endForeign tag false rest

/-- A token in foreign content. -/
def inForeignContent (b : Builder) : Token → Outcome
  | .blank text => (b.insertText text).done
  | .text text => (b.insertText text).done
  | .null => (b.insertText [replacement]).done
  | .comment => b.insertComment.done
  | .startTag tag => if breaksOut tag then b.breakOut (.startTag tag) else (b.startForeign tag).done
  | .endTag tag =>
    if tag == "br" || tag == "p" then b.breakOut (.endTag tag) else b.endForeign tag true b.stack

/-! ## All tokens -/

/-- Deals with a token in at most so many steps. -/
def processIn : Nat → Token → Builder → Builder
  | 0, _, b => b
  | steps + 1, t, b =>
    let (next, again) := if b.isForeign t then b.inForeignContent t else b.step t
    if again then processIn steps t next else next

/-- A blank text without the line feed at its start; none if nothing is left. -/
def withoutLineFeed : Token → Option Token
  | .blank ['\n'] => none
  | .blank ('\n' :: rest) => some (.blank rest)
  | t => some t

/-- Deals with a token. Each step that leaves it to other rules closes an element or goes on to the
next of a few modes. -/
def process (b : Builder) (t : Token) : Builder :=
  let token? := if b.skipLineFeed then withoutLineFeed t else some t
  let b := { b with skipLineFeed := false }
  match token? with
  | some t => processIn (16 + 8 * b.stack.length) t b
  | none => b

/-- Reads a text in at most so many steps. -/
def readIn : Nat → List Char → Builder → Builder
  | 0, _, b => b
  | steps + 1, text, b =>
    match b.content with
    | .markup =>
      if text.isEmpty then b
      else
        let l := readTokens b.inForeign text
        readIn steps l.rest (l.tokens.foldl process b)
    | content =>
      let l := readContent content b.rawName text
      readIn steps l.rest (l.tokens.foldl process { b with content := .markup })

/-- The state after the end of the text. -/
def finish (b : Builder) : Builder :=
  if b.mode == .tableText then b.releasePending else b

end Builder

/-- A text with line ends as line feeds. -/
def normalizeLineEnds : List Char → List Char
  | [] => []
  | '\r' :: '\n' :: rest => '\n' :: normalizeLineEnds rest
  | '\r' :: rest => '\n' :: normalizeLineEnds rest
  | c :: rest => c :: normalizeLineEnds rest

/-- A text without the mark of its byte order. -/
def dropByteOrderMark : List Char → List Char
  | [] => []
  | c :: rest => if c.toNat == 0xFEFF then rest else c :: rest

/-- The nodes of a markup text. -/
def parse (text : List Char) : List Node :=
  let text := normalizeLineEnds (dropByteOrderMark text)
  let b := (Builder.readIn (2 * text.length + 2) text Builder.start).finish
  match b.nodes.toNode (b.nodes.next + 1) 0 with
  | some (.element _ _ children) => children
  | _ => []

end CustomElement.Markup
