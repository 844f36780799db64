import CustomElement.Markup.Formatting

/-!
# Tokens in ordinary content

The rules for tokens in the body of a document, and for the few that have the same effect anywhere.
-/

namespace CustomElement.Markup

namespace Builder

/-! ## Metadata and templates -/

/-- Whether a start tag is for an element of metadata, or for a template. -/
def isMetadata (tag : String) : Bool :=
  ["base", "basefont", "bgsound", "link", "meta", "noframes", "script", "style", "template",
    "title"].contains tag

/-- Opens a template. -/
def openTemplate (b : Builder) (tag : Tag) : Builder :=
  { (b.insertTag tag).addBorder with
    mode := .template, templateModes := .template :: b.templateModes }

/-- Closes a template, if one is open. -/
def closeTemplate (b : Builder) : Builder :=
  if b.inTemplate then
    let b := ((b.closeImplied ElementName.hasImpliedEndInTemplate).popTag "template").clearToBorder
    { b with templateModes := b.templateModes.drop 1 }.resetMode
  else b

/-- A start tag of metadata, or of a template. -/
def startMetadata (b : Builder) (tag : Tag) : Builder :=
  match tag.name with
  | "title" => b.insertRaw tag .references
  | "noframes" | "style" => b.insertRaw tag .raw
  | "script" => b.insertRaw tag .script
  | "template" => b.openTemplate tag
  | _ => b.insertVoid tag

/-! ## Start tags -/

/-- Blocks that end a paragraph. -/
def blockTags : List String := [
  "address", "article", "aside", "blockquote", "center", "details", "dialog", "dir", "div", "dl",
  "fieldset", "figcaption", "figure", "footer", "header", "hgroup", "main", "menu", "nav", "ol",
  "p", "search", "section", "summary", "ul"]

/-- Blocks with an end tag of their own. -/
def closableTags : List String := [
  "address", "article", "aside", "blockquote", "button", "center", "details", "dialog", "dir",
  "div", "dl", "fieldset", "figcaption", "figure", "footer", "header", "hgroup", "listing", "main",
  "menu", "nav", "ol", "pre", "search", "section", "summary", "ul"]

/-- Formatting elements other than links. -/
def formatTags : List String := [
  "b", "big", "code", "em", "font", "i", "s", "small", "strike", "strong", "tt", "u"]

/-- Headings. -/
def headingTags : List String :=
  ["h1", "h2", "h3", "h4", "h5", "h6"]

/-- Elements that formatting does not reach out of. -/
def borderTags : List String :=
  ["applet", "marquee", "object"]

/-- Elements without content that stand in a line of text. -/
def voidTags : List String :=
  ["area", "br", "embed", "img", "keygen", "wbr", "input"]

/-- Start tags that mean nothing in ordinary content. -/
def ignoredTags : List String := [
  "body", "caption", "col", "colgroup", "frame", "frameset", "head", "html", "tbody", "td", "tfoot",
  "th", "thead", "tr"]

/-- Whether an item is open that an item of the same kind ends. -/
def openItem? (ends : String → Bool) : List Open → Option String
  | [] => none
  | e :: rest =>
    if e.name.space == .html && ends e.name.tag then some e.name.tag
    else if e.name.isSpecial && !e.name.isHtmlIn ["address", "div", "p"] then none
    else openItem? ends rest

/-- Closes the item that an item of the same kind ends. -/
def closeItem (b : Builder) (ends : String → Bool) : Builder :=
  match openItem? ends b.stack with
  | some tag => (b.closeImpliedExcept tag).popTag tag
  | none => b

/-- Whether an item ends one of a tag. -/
def endsItem (item tag : String) : Bool :=
  if item == "li" then tag == "li" else tag == "dd" || tag == "dt"

/-- A start tag of a form. Forms cannot be nested. -/
def startForm (b : Builder) (tag : Tag) : Builder :=
  if b.form.isSome && !b.inTemplate then b
  else
    let b := b.closeOpenParagraph
    let node := b.nodes.next
    let b' := b.insertTag tag
    if b.inTemplate then b' else { b' with form := some node }

/-- A start tag of a button. Buttons cannot be nested. -/
def startButton (b : Builder) (tag : Tag) : Builder :=
  let b :=
    if b.hasInScope ElementName.endsScope "button" then
      (b.closeImplied ElementName.hasImpliedEnd).popTag "button"
    else b
  b.reconstruct.insertTag tag

/-- A start tag of `nobr`, which cannot be nested. -/
def startNobr (b : Builder) (tag : Tag) : Builder :=
  let b := b.reconstruct
  let b := if b.hasInScope ElementName.endsScope "nobr" then (b.adopt "nobr").reconstruct else b
  b.insertFormat tag

/-- A start tag of a selection. -/
def startSelect (b : Builder) (tag : Tag) : Builder :=
  let inTable := [Mode.table, .caption, .tableBody, .row, .cell].contains b.mode
  { b.reconstruct.insertTag tag with mode := if inTable then .selectInTable else .select }

/-- A start tag of a ruby annotation, in front of which end tags may be left out. -/
def startRuby (b : Builder) (tag : Tag) (implied : ElementName → Bool) : Builder :=
  let b := if b.hasInScope ElementName.endsScope "ruby" then b.closeImplied implied else b
  b.insertTag tag

/-- A start tag of a heading. Headings cannot be nested. -/
def startHeading (b : Builder) (tag : Tag) : Builder :=
  let b := b.closeOpenParagraph
  let b := if b.currentName.isHeading then b.pop else b
  b.insertTag tag

/-- A start tag that is told by its name. -/
def startNamed (b : Builder) (tag : Tag) : Builder :=
  match tag.name with
  | "pre" | "listing" => { b.closeOpenParagraph.insertTag tag with skipLineFeed := true }
  | "form" => b.startForm tag
  | "li" | "dd" | "dt" => (b.closeItem (endsItem tag.name)).closeOpenParagraph.insertTag tag
  | "plaintext" => { b.closeOpenParagraph.insertTag tag with content := .plain }
  | "button" => b.startButton tag
  | "a" => b.closeLink.reconstruct.insertFormat tag
  | "nobr" => b.startNobr tag
  | "table" => { b.closeOpenParagraph.insertTag tag with mode := .table }
  | "param" | "source" | "track" => b.insertVoid tag
  | "hr" => b.closeOpenParagraph.insertVoid tag
  | "image" => b.reconstruct.insertVoid { tag with name := "img" }
  | "textarea" => { b.insertRaw tag .references with skipLineFeed := true }
  | "xmp" => b.closeOpenParagraph.reconstruct.insertRaw tag .raw
  | "iframe" | "noembed" | "noscript" => b.insertRaw tag .raw
  | "select" => b.startSelect tag
  | "optgroup" | "option" => (if b.atElement "option" then b.pop else b).reconstruct.insertTag tag
  | "rb" | "rtc" => b.startRuby tag ElementName.hasImpliedEnd
  | "rp" | "rt" => b.startRuby tag fun n => n.hasImpliedEnd && !n.isHtml "rtc"
  | "math" => b.insertForeign .mathml tag
  | "svg" => b.insertForeign .svg tag
  | _ => b.reconstruct.insertTag tag

/-- A start tag in ordinary content. -/
def startInBody (b : Builder) (tag : Tag) : Builder :=
  if isMetadata tag.name then b.startMetadata tag
  else if blockTags.contains tag.name then b.closeOpenParagraph.insertTag tag
  else if headingTags.contains tag.name then b.startHeading tag
  else if formatTags.contains tag.name then b.reconstruct.insertFormat tag
  else if borderTags.contains tag.name then (b.reconstruct.insertTag tag).addBorder
  else if voidTags.contains tag.name then b.reconstruct.insertVoid tag
  else if ignoredTags.contains tag.name then b
  else b.startNamed tag

/-! ## End tags -/

/-- Closes an element of a tag that is in scope, and what is open in it. -/
def closeInScope (b : Builder) (ends : ElementName → Bool) (tag : String) : Builder :=
  if b.hasInScope ends tag then (b.closeImpliedExcept tag).popTag tag else b

/-- Closes a form. -/
def closeForm (b : Builder) : Builder :=
  if b.inTemplate then
    if b.hasInScope ElementName.endsScope "form" then
      (b.closeImplied ElementName.hasImpliedEnd).popTag "form"
    else b
  else
    match b.form with
    | none => b
    | some node =>
      let b := { b with form := none }
      if inScope ElementName.endsScope (·.node == node) b.stack then
        (b.closeImplied ElementName.hasImpliedEnd).removeOpen node
      else b

/-- Closes the heading that is in scope, whatever its level. -/
def closeHeading (b : Builder) : Builder :=
  if inScope ElementName.endsScope (·.name.isHeading) b.stack then
    (b.closeImplied ElementName.hasImpliedEnd).popThrough ElementName.isHeading
  else b

/-- The end tag of a paragraph. One that closes nothing stands for an empty paragraph. -/
def endParagraph (b : Builder) : Builder :=
  if b.hasInScope ElementName.endsButtonScope "p" then b.closeParagraph
  else (b.insertImplied "p").closeParagraph

/-- An end tag that is told by its name. -/
def endNamed (b : Builder) (tag : String) : Builder :=
  match tag with
  | "template" => b.closeTemplate
  | "form" => b.closeForm
  | "p" => b.endParagraph
  | "li" => b.closeInScope ElementName.endsListScope tag
  | "dd" | "dt" => b.closeInScope ElementName.endsScope tag
  | "br" => b.reconstruct.insertVoid { name := "br" }
  | "body" | "html" => b
  | _ => b.endOther tag

/-- An end tag in ordinary content. -/
def endInBody (b : Builder) (tag : String) : Builder :=
  if closableTags.contains tag then
    if b.hasInScope ElementName.endsScope tag then
      (b.closeImplied ElementName.hasImpliedEnd).popTag tag
    else b
  else if headingTags.contains tag then b.closeHeading
  else if tag == "a" || tag == "nobr" || formatTags.contains tag then b.adopt tag
  else if borderTags.contains tag then
    if b.hasInScope ElementName.endsScope tag then
      ((b.closeImplied ElementName.hasImpliedEnd).popTag tag).clearToBorder
    else b
  else b.endNamed tag

/-- A token in ordinary content. -/
def inBody (b : Builder) : Token → Builder
  | .startTag tag => b.startInBody tag
  | .endTag tag => b.endInBody tag
  | .blank text => b.reconstruct.insertText text
  | .text text => b.reconstruct.insertText text
  | .null => b
  | .comment => b.insertComment

/-- A token in ordinary content that is moved out of a table. -/
def foster (b : Builder) (t : Token) : Builder :=
  { ({ b with fostering := true }.inBody t) with fostering := false }

end Builder

end CustomElement.Markup
