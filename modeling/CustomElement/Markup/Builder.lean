import CustomElement.Markup.ElementClass
import CustomElement.Markup.Foreign
import CustomElement.Markup.Lexer

/-!
# Building the tree

The state of tree building: the nodes so far, the elements that are open, and the rules in force. The
text is the content of a template, so a root element is always open and every kind of content may
start it.
-/

namespace CustomElement.Markup

/-- The rules in force, named for where the next token stands. -/
inductive Mode where
  | body
  | text
  | table
  | tableText
  | caption
  | columnGroup
  | tableBody
  | row
  | cell
  | select
  | selectInTable
  | template
deriving DecidableEq, Repr

/-- An open element. -/
structure Open where
  node : NodeId
  name : ElementName
  /-- A formula's annotation that holds ordinary markup. -/
  holdsMarkup : Bool

/-- A formatting element that is opened again where its end tag is missing, or a border that this
does not cross. -/
inductive Format where
  | border
  | element (node : NodeId) (tag : Tag)

/-- Whether an entry is a border. -/
def Format.isBorder : Format → Bool
  | .border => true
  | .element .. => false

/-- Whether an entry is for a node. -/
def Format.isFor (node : NodeId) : Format → Bool
  | .border => false
  | .element n _ => n == node

/-- The state of tree building. -/
structure Builder where
  nodes : Arena
  mode : Mode
  /-- The mode that raw text or text in a table returns to. -/
  outerMode : Mode
  /-- The open elements, the innermost first. -/
  stack : List Open
  /-- The formatting elements, the latest first. -/
  formats : List Format
  /-- The modes of the open templates, the innermost first. -/
  templateModes : List Mode
  /-- The characters in a table of which it is open where they belong, the latest first. -/
  pending : List Token
  /-- The form that is open. -/
  form : Option NodeId
  /-- Misplaced content is moved out of tables. -/
  fostering : Bool
  /-- A line feed at the start of the next text is dropped. -/
  skipLineFeed : Bool
  /-- How the text after the last tag is read. -/
  content : Content
  /-- The last start tag with raw text after it. -/
  rawName : String

/-- The root element. -/
def rootName : ElementName :=
  ⟨.html, "html"⟩

namespace Builder

/-- The state at the start of a text. -/
def start : Builder where
  nodes := Arena.add ⟨#[]⟩ (.element rootName [])
  mode := .template
  outerMode := .template
  stack := [⟨0, rootName, false⟩]
  formats := []
  templateModes := [.template]
  pending := []
  form := none
  fostering := false
  skipLineFeed := false
  content := .markup
  rawName := ""

/-! ## Open elements -/

/-- Whether an element that is wanted is open, in front of all that end the search. -/
def inScope (ends : ElementName → Bool) (wanted : Open → Bool) : List Open → Bool
  | [] => false
  | e :: rest => wanted e || (!ends e.name && inScope ends wanted rest)

/-- Whether an HTML element of a tag is open within a scope. -/
def hasInScope (b : Builder) (ends : ElementName → Bool) (tag : String) : Bool :=
  inScope ends (·.name.isHtml tag) b.stack

/-- The name of the innermost open element. -/
def currentName (b : Builder) : ElementName :=
  (b.stack.head?.map (·.name)).getD rootName

/-- Whether the innermost open element is the HTML element of a tag. -/
def atElement (b : Builder) (tag : String) : Bool :=
  b.currentName.isHtml tag

/-- Whether a template is open. -/
def inTemplate (b : Builder) : Bool :=
  b.stack.any (·.name.isHtml "template")

/-- The open elements after the innermost of a kind. -/
def afterFirst (wanted : ElementName → Bool) : List Open → List Open
  | [] => []
  | e :: rest => if wanted e.name then rest else afterFirst wanted rest

/-- Closes the innermost element. -/
def pop (b : Builder) : Builder :=
  { b with stack := b.stack.drop 1 }

/-- Closes elements up to and with the innermost of a kind. -/
def popThrough (b : Builder) (wanted : ElementName → Bool) : Builder :=
  { b with stack := afterFirst wanted b.stack }

/-- Closes elements up to and with the innermost HTML element of a tag. -/
def popTag (b : Builder) (tag : String) : Builder :=
  b.popThrough (·.isHtml tag)

/-- Closes elements that are not of a kind. -/
def popUntil (b : Builder) (wanted : ElementName → Bool) : Builder :=
  { b with stack := b.stack.dropWhile fun e => !wanted e.name }

/-- Closes elements as long as their end tags may be left out. -/
def closeImplied (b : Builder) (implied : ElementName → Bool) : Builder :=
  { b with stack := b.stack.dropWhile fun e => implied e.name }

/-- Closes elements as long as their end tags may be left out, but none of a tag. -/
def closeImpliedExcept (b : Builder) (tag : String) : Builder :=
  b.closeImplied fun n => n.hasImpliedEnd && !n.isHtml tag

/-- Closes an open element of a node, wherever it is. -/
def removeOpen (b : Builder) (node : NodeId) : Builder :=
  { b with stack := b.stack.filter (·.node != node) }

/-- Closes a paragraph and what is open in it. -/
def closeParagraph (b : Builder) : Builder :=
  (b.closeImpliedExcept "p").popTag "p"

/-- Closes a paragraph if one is open. -/
def closeOpenParagraph (b : Builder) : Builder :=
  if b.hasInScope ElementName.endsButtonScope "p" then b.closeParagraph else b

/-! ## Insertion -/

/-- Where content in a table that does not belong there goes: in front of the table. -/
def fosterSpot (nodes : Arena) : List Open → Arena.Spot
  | [] => .lastIn 0
  | e :: rest =>
    if e.name.isHtml "template" then .lastIn e.node
    else if e.name.isHtml "table" then
      if (nodes.parent? e.node).isSome then .before e.node
      else .lastIn ((rest.head?.map (·.node)).getD 0)
    else fosterSpot nodes rest

/-- The place for new content in a target. -/
def spotIn (b : Builder) (target : NodeId) (name : ElementName) : Arena.Spot :=
  if b.fostering && name.isTablePart then fosterSpot b.nodes b.stack else .lastIn target

/-- The place for new content. -/
def spot (b : Builder) : Arena.Spot :=
  match b.stack with
  | [] => .lastIn 0
  | e :: _ => b.spotIn e.node e.name

/-- Puts text in its place. -/
def insertText (b : Builder) (text : List Char) : Builder :=
  { b with nodes := b.nodes.insertText b.spot text }

/-- Puts a comment in its place. -/
def insertComment (b : Builder) : Builder :=
  { b with nodes := (b.nodes.add .comment).insert b.spot b.nodes.next }

/-- Whether an annotation's attributes say that it holds ordinary markup. -/
def isMarkupAnnotation (name : ElementName) (attributes : List TagAttribute) : Bool :=
  name == ⟨.mathml, "annotation-xml"⟩ && attributes.any fun a =>
    a.name == "encoding" &&
      ["text/html", "application/xhtml+xml"].contains (lowerText (String.ofList a.value))

/-- A new element that stands nowhere. -/
def create (b : Builder) (name : ElementName) (attributes : List TagAttribute) : Builder :=
  { b with nodes := b.nodes.add (.element name attributes) }

/-- Puts a new element in its place without opening it. -/
def insertClosed (b : Builder) (name : ElementName) (attributes : List TagAttribute) : Builder :=
  let node := b.nodes.next
  let b' := b.create name attributes
  { b' with nodes := b'.nodes.insert b.spot node }

/-- Puts a new element in its place and opens it. -/
def insertOpen (b : Builder) (name : ElementName) (attributes : List TagAttribute) : Builder :=
  let e : Open := ⟨b.nodes.next, name, isMarkupAnnotation name attributes⟩
  let b' := b.insertClosed name attributes
  { b' with stack := e :: b'.stack }

/-- Puts the HTML element of a tag in its place and opens it. -/
def insertTag (b : Builder) (tag : Tag) : Builder :=
  b.insertOpen ⟨.html, tag.name⟩ tag.attributes

/-- Puts the HTML element of a tag, which has no content, in its place. -/
def insertVoid (b : Builder) (tag : Tag) : Builder :=
  b.insertClosed ⟨.html, tag.name⟩ tag.attributes

/-- Puts an element that the text leaves out in its place. -/
def insertImplied (b : Builder) (tag : String) : Builder :=
  b.insertOpen ⟨.html, tag⟩ []

/-- Opens an element whose text is read in a way of its own. -/
def insertRaw (b : Builder) (tag : Tag) (content : Content) : Builder :=
  { b.insertTag tag with
    outerMode := b.mode, mode := .text, content := content, rawName := tag.name }

/-- Puts an element of graphics or formulas in its place. -/
def insertForeign (b : Builder) (space : Namespace) (tag : Tag) : Builder :=
  let attributes := foreignAttributes space tag.attributes
  if tag.selfClosing then b.insertClosed ⟨space, tag.name⟩ attributes
  else b.insertOpen ⟨space, tag.name⟩ attributes

/-! ## Modes -/

/-- The mode inside of a selection. -/
def selectMode : List Open → Mode
  | [] => .select
  | e :: rest =>
    if e.name.isHtml "template" then .select
    else if e.name.isHtml "table" then .selectInTable
    else selectMode rest

/-- The mode that the open elements call for. -/
def modeFor (inner : Mode) : List Open → Mode
  | [] => inner
  | [_] => inner
  | e :: rest =>
    if e.name.space != .html then modeFor inner rest
    else
      match e.name.tag with
      | "select" => selectMode rest
      | "td" | "th" => .cell
      | "tr" => .row
      | "tbody" | "thead" | "tfoot" => .tableBody
      | "caption" => .caption
      | "colgroup" => .columnGroup
      | "table" => .table
      | "template" => inner
      | _ => modeFor inner rest

/-- The state with the mode that the open elements call for. -/
def resetMode (b : Builder) : Builder :=
  { b with mode := modeFor (b.templateModes.headD .template) b.stack }

end Builder

end CustomElement.Markup
