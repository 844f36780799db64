import CustomElement.Markup.Body

/-!
# Tokens in tables, selections and templates

The rules of each mode. A rule either deals with a token, or changes the mode and leaves the token to
the rules of the new one.
-/

namespace CustomElement.Markup

/-- The state after a rule, and whether the token is still to be dealt with. -/
abbrev Outcome := Builder × Bool

namespace Builder

/-- The token has been dealt with. -/
def done (b : Builder) : Outcome :=
  (b, false)

/-- The token is left to the rules of a mode. -/
def again (b : Builder) (mode : Mode) : Outcome :=
  ({ b with mode := mode }, true)

/-- The token is left to the rules that the open elements call for. -/
def againReset (b : Builder) : Outcome :=
  (b.resetMode, true)

/-! ## Raw text -/

/-- A token in raw text. -/
def inText (b : Builder) : Token → Outcome
  | .blank text => (b.insertText text).done
  | .text text => (b.insertText text).done
  | .endTag _ => { b.pop with mode := b.outerMode }.done
  | _ => b.done

/-! ## Tables -/

/-- The parts of a table. -/
def tablePartTags : List String :=
  ["caption", "col", "colgroup", "tbody", "td", "tfoot", "th", "thead", "tr"]

/-- The elements in which rows stand. -/
def isBodyContext (n : ElementName) : Bool :=
  n.isHtmlIn ["tbody", "tfoot", "thead", "template", "html"]

/-- The elements in which cells stand. -/
def isRowContext (n : ElementName) : Bool :=
  n.isHtmlIn ["tr", "template", "html"]

/-- Whether an input is hidden. -/
def isHidden (tag : Tag) : Bool :=
  tag.attributes.any fun a => a.name == "type" && lowerText (String.ofList a.value) == "hidden"

/-- Characters in a table. They are held back until it is known whether all of them are blank. -/
def charsInTable (b : Builder) (t : Token) : Outcome :=
  if b.currentName.isTablePart then { b with outerMode := b.mode }.again .tableText
  else (b.foster t).done

/-- A start tag in a table. -/
def startInTable (b : Builder) (tag : Tag) : Outcome :=
  let t := Token.startTag tag
  let cleared := b.popUntil ElementName.endsTableScope
  match tag.name with
  | "caption" => { cleared.addBorder.insertTag tag with mode := .caption }.done
  | "colgroup" => { cleared.insertTag tag with mode := .columnGroup }.done
  | "col" => (cleared.insertImplied "colgroup").again .columnGroup
  | "tbody" | "tfoot" | "thead" => { cleared.insertTag tag with mode := .tableBody }.done
  | "td" | "th" | "tr" => (cleared.insertImplied "tbody").again .tableBody
  | "table" =>
    if b.hasInScope ElementName.endsTableScope "table" then (b.popTag "table").againReset else b.done
  | "style" | "script" | "template" => (b.startMetadata tag).done
  | "input" => if isHidden tag then (b.insertVoid tag).done else (b.foster t).done
  | "form" =>
    if !b.inTemplate && b.form.isNone then
      { b.insertVoid tag with form := some b.nodes.next }.done
    else b.done
  | _ => (b.foster t).done

/-- An end tag in a table. -/
def endInTable (b : Builder) (tag : String) : Outcome :=
  if tag == "table" then
    if b.hasInScope ElementName.endsTableScope "table" then (b.popTag "table").resetMode.done
    else b.done
  else if tag == "template" then b.closeTemplate.done
  else if tag == "body" || tag == "html" || tablePartTags.contains tag then b.done
  else (b.foster (.endTag tag)).done

/-- A token in a table. -/
def inTable (b : Builder) (t : Token) : Outcome :=
  match t with
  | .blank _ | .text _ | .null => b.charsInTable t
  | .comment => b.insertComment.done
  | .startTag tag => b.startInTable tag
  | .endTag tag => b.endInTable tag

/-- Puts characters that were held back in their place: in the table if all are blank, else in front
of it. -/
def releasePending (b : Builder) : Builder :=
  let held := b.pending.reverse
  let b := { b with pending := [] }
  let isText : Token → Bool
    | .text _ => true
    | _ => false
  if held.any isText then held.foldl foster b
  else
    held.foldl (fun b t =>
      match t with
      | .blank text => b.insertText text
      | _ => b) b

/-- A token after characters in a table. -/
def inTableText (b : Builder) (t : Token) : Outcome :=
  match t with
  | .null => b.done
  | .blank _ | .text _ => { b with pending := t :: b.pending }.done
  | _ => b.releasePending.again b.outerMode

/-- Closes a caption. -/
def closeCaption (b : Builder) : Builder :=
  ((b.closeImplied ElementName.hasImpliedEnd).popTag "caption").clearToBorder

/-- A token in a caption. -/
def inCaption (b : Builder) (t : Token) : Outcome :=
  let open? := b.hasInScope ElementName.endsTableScope "caption"
  match t with
  | .startTag tag =>
    if tablePartTags.contains tag.name then
      if open? then b.closeCaption.again .table else b.done
    else (b.inBody t).done
  | .endTag tag =>
    if tag == "caption" then
      if open? then { b.closeCaption with mode := .table }.done else b.done
    else if tag == "table" then
      if open? then b.closeCaption.again .table else b.done
    else if tag == "body" || tag == "html" || tablePartTags.contains tag then b.done
    else (b.inBody t).done
  | _ => (b.inBody t).done

/-- A token that ends a group of columns. -/
def leaveColumnGroup (b : Builder) : Outcome :=
  if b.atElement "colgroup" then b.pop.again .table else b.done

/-- A token in a group of columns. -/
def inColumnGroup (b : Builder) (t : Token) : Outcome :=
  match t with
  | .blank text => (b.insertText text).done
  | .comment => b.insertComment.done
  | .startTag tag =>
    match tag.name with
    | "html" => b.done
    | "col" => (b.insertVoid tag).done
    | "template" => (b.openTemplate tag).done
    | _ => b.leaveColumnGroup
  | .endTag tag =>
    match tag with
    | "colgroup" =>
      if b.atElement "colgroup" then { b.pop with mode := .table }.done else b.done
    | "col" => b.done
    | "template" => b.closeTemplate.done
    | _ => b.leaveColumnGroup
  | _ => b.leaveColumnGroup

/-- A token that ends a group of rows. -/
def leaveTableBody (b : Builder) : Outcome :=
  if inScope ElementName.endsTableScope (·.name.isHtmlIn ["table", "tbody", "tfoot"]) b.stack then
    (b.popUntil isBodyContext).pop.again .table
  else b.done

/-- A token in a group of rows. -/
def inTableBody (b : Builder) (t : Token) : Outcome :=
  match t with
  | .startTag tag =>
    match tag.name with
    | "tr" => { (b.popUntil isBodyContext).insertTag tag with mode := .row }.done
    | "th" | "td" => ((b.popUntil isBodyContext).insertImplied "tr").again .row
    | "caption" | "col" | "colgroup" | "tbody" | "tfoot" | "thead" => b.leaveTableBody
    | _ => b.inTable t
  | .endTag tag =>
    match tag with
    | "tbody" | "tfoot" | "thead" =>
      if b.hasInScope ElementName.endsTableScope tag then
        { (b.popUntil isBodyContext).pop with mode := .table }.done
      else b.done
    | "table" => b.leaveTableBody
    | "body" | "caption" | "col" | "colgroup" | "html" | "td" | "th" | "tr" => b.done
    | _ => b.inTable t
  | _ => b.inTable t

/-- Closes a row. -/
def closeRow (b : Builder) : Builder :=
  (b.popUntil isRowContext).pop

/-- A token that ends a row. -/
def leaveRow (b : Builder) : Outcome :=
  if b.hasInScope ElementName.endsTableScope "tr" then b.closeRow.again .tableBody else b.done

/-- A token in a row. -/
def inRow (b : Builder) (t : Token) : Outcome :=
  match t with
  | .startTag tag =>
    match tag.name with
    | "th" | "td" => { ((b.popUntil isRowContext).insertTag tag).addBorder with mode := .cell }.done
    | "caption" | "col" | "colgroup" | "tbody" | "tfoot" | "thead" | "tr" => b.leaveRow
    | _ => b.inTable t
  | .endTag tag =>
    match tag with
    | "tr" =>
      if b.hasInScope ElementName.endsTableScope "tr" then { b.closeRow with mode := .tableBody }.done
      else b.done
    | "table" => b.leaveRow
    | "tbody" | "tfoot" | "thead" =>
      if b.hasInScope ElementName.endsTableScope tag then b.leaveRow else b.done
    | "body" | "caption" | "col" | "colgroup" | "html" | "td" | "th" => b.done
    | _ => b.inTable t
  | _ => b.inTable t

/-- Closes a cell. -/
def closeCell (b : Builder) : Builder :=
  ((b.closeImplied ElementName.hasImpliedEnd).popThrough ElementName.isCell).clearToBorder

/-- A token in a cell. -/
def inCell (b : Builder) (t : Token) : Outcome :=
  match t with
  | .startTag tag =>
    if tablePartTags.contains tag.name then
      if inScope ElementName.endsTableScope (·.name.isCell) b.stack then b.closeCell.again .row
      else b.done
    else (b.inBody t).done
  | .endTag tag =>
    match tag with
    | "td" | "th" =>
      if b.hasInScope ElementName.endsTableScope tag then
        let b := ((b.closeImplied ElementName.hasImpliedEnd).popTag tag).clearToBorder
        { b with mode := .row }.done
      else b.done
    | "body" | "caption" | "col" | "colgroup" | "html" => b.done
    | "table" | "tbody" | "tfoot" | "thead" | "tr" =>
      if b.hasInScope ElementName.endsTableScope tag then b.closeCell.again .row else b.done
    | _ => (b.inBody t).done
  | _ => (b.inBody t).done

/-! ## Selections -/

/-- Closes an element of a tag if it is the innermost. -/
def popAt (b : Builder) (tag : String) : Builder :=
  if b.atElement tag then b.pop else b

/-- Closes a selection, if one is open. -/
def closeSelect (b : Builder) : Builder :=
  if b.hasInScope ElementName.endsSelectScope "select" then (b.popTag "select").resetMode else b

/-- The end tag of a group of options. -/
def endOptionGroup (b : Builder) : Builder :=
  let inGroup := (b.stack.drop 1).head?.any (·.name.isHtml "optgroup")
  let b := if b.atElement "option" && inGroup then b.pop else b
  b.popAt "optgroup"

/-- A start tag in a selection. -/
def startInSelect (b : Builder) (tag : Tag) : Outcome :=
  match tag.name with
  | "option" => ((b.popAt "option").insertTag tag).done
  | "optgroup" => (((b.popAt "option").popAt "optgroup").insertTag tag).done
  | "select" => b.closeSelect.done
  | "input" | "keygen" | "textarea" =>
    if b.hasInScope ElementName.endsSelectScope "select" then (b.popTag "select").againReset
    else b.done
  | "script" | "template" => (b.startMetadata tag).done
  | _ => b.done

/-- An end tag in a selection. -/
def endInSelect (b : Builder) (tag : String) : Outcome :=
  match tag with
  | "optgroup" => b.endOptionGroup.done
  | "option" => (b.popAt "option").done
  | "select" => b.closeSelect.done
  | "template" => b.closeTemplate.done
  | _ => b.done

/-- A token in a selection. -/
def inSelect (b : Builder) : Token → Outcome
  | .blank text => (b.insertText text).done
  | .text text => (b.insertText text).done
  | .null => b.done
  | .comment => b.insertComment.done
  | .startTag tag => b.startInSelect tag
  | .endTag tag => b.endInSelect tag

/-- The tags that end a selection in a table. -/
def selectBreakers : List String :=
  ["caption", "table", "tbody", "tfoot", "thead", "tr", "td", "th"]

/-- A token in a selection in a table. -/
def inSelectInTable (b : Builder) (t : Token) : Outcome :=
  match t with
  | .startTag tag =>
    if selectBreakers.contains tag.name then (b.popTag "select").againReset else b.inSelect t
  | .endTag tag =>
    if selectBreakers.contains tag then
      if b.hasInScope ElementName.endsTableScope tag then (b.popTag "select").againReset else b.done
    else b.inSelect t
  | _ => b.inSelect t

/-! ## Templates -/

/-- The token is left to the rules of a mode, which the template keeps. -/
def settle (b : Builder) (mode : Mode) : Outcome :=
  { b with templateModes := mode :: b.templateModes.drop 1 }.again mode

/-- A start tag at the start of a template. It tells what kind of content the template has. -/
def startInTemplate (b : Builder) (tag : Tag) : Outcome :=
  if isMetadata tag.name then (b.startMetadata tag).done
  else
    match tag.name with
    | "caption" | "colgroup" | "tbody" | "tfoot" | "thead" => b.settle .table
    | "col" => b.settle .columnGroup
    | "tr" => b.settle .tableBody
    | "td" | "th" => b.settle .row
    | _ => b.settle .body

/-- A token at the start of a template. -/
def atTemplate (b : Builder) (t : Token) : Outcome :=
  match t with
  | .blank _ | .text _ | .comment => (b.inBody t).done
  | .null => b.done
  | .startTag tag => b.startInTemplate tag
  | .endTag tag => if tag == "template" then b.closeTemplate.done else b.done

/-- A token by the rules in force. -/
def step (b : Builder) (t : Token) : Outcome :=
  match b.mode with
  | .body => (b.inBody t).done
  | .text => b.inText t
  | .table => b.inTable t
  | .tableText => b.inTableText t
  | .caption => b.inCaption t
  | .columnGroup => b.inColumnGroup t
  | .tableBody => b.inTableBody t
  | .row => b.inRow t
  | .cell => b.inCell t
  | .select => b.inSelect t
  | .selectInTable => b.inSelectInTable t
  | .template => b.atTemplate t

end Builder

end CustomElement.Markup
