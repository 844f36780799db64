import CustomElement.Markup.Node

/-!
# Classes of elements

The sets of elements that the rules of tree building speak of.
-/

namespace CustomElement.Markup

namespace ElementName

/-- Whether an element is the HTML element of a tag. -/
def isHtml (n : ElementName) (tag : String) : Bool :=
  n.space == .html && n.tag == tag

/-- Whether an element is an HTML element of one of the tags. -/
def isHtmlIn (n : ElementName) (tags : List String) : Bool :=
  n.space == .html && tags.contains n.tag

/-- An element of formulas that holds ordinary text. -/
def isTextPoint (n : ElementName) : Bool :=
  n.space == .mathml && ["mi", "mo", "mn", "ms", "mtext"].contains n.tag

/-- An element of graphics that holds ordinary markup. -/
def isMarkupPoint (n : ElementName) : Bool :=
  n.space == .svg && ["foreignObject", "desc", "title"].contains n.tag

/-- An element that ends the search for an open element. -/
def endsScope (n : ElementName) : Bool :=
  n.isHtmlIn
      ["applet", "caption", "html", "table", "td", "th", "marquee", "object", "template"] ||
    n.isTextPoint || n.isMarkupPoint

/-- An element that ends the search for an open item of a list. -/
def endsListScope (n : ElementName) : Bool :=
  n.endsScope || n.isHtmlIn ["ol", "ul"]

/-- An element that ends the search for an open paragraph. -/
def endsButtonScope (n : ElementName) : Bool :=
  n.endsScope || n.isHtml "button"

/-- An element that ends the search for an open part of a table. -/
def endsTableScope (n : ElementName) : Bool :=
  n.isHtmlIn ["html", "table", "template"]

/-- An element that ends the search for an open selection. -/
def endsSelectScope (n : ElementName) : Bool :=
  !n.isHtmlIn ["optgroup", "option"]

/-- An element whose end tag may be left out. -/
def hasImpliedEnd (n : ElementName) : Bool :=
  n.isHtmlIn ["dd", "dt", "li", "option", "optgroup", "p", "rb", "rp", "rt", "rtc"]

/-- An element whose end tag may be left out in front of the end of a template. -/
def hasImpliedEndInTemplate (n : ElementName) : Bool :=
  n.hasImpliedEnd ||
    n.isHtmlIn ["caption", "colgroup", "tbody", "td", "tfoot", "th", "thead", "tr"]

/-- A heading. -/
def isHeading (n : ElementName) : Bool :=
  n.isHtmlIn ["h1", "h2", "h3", "h4", "h5", "h6"]

/-- A cell of a table. -/
def isCell (n : ElementName) : Bool :=
  n.isHtmlIn ["td", "th"]

/-- An element that misplaced content in a table is moved out of. -/
def isTablePart (n : ElementName) : Bool :=
  n.isHtmlIn ["table", "tbody", "tfoot", "thead", "tr"]

/-- The tags of elements that are more than a stretch of text. -/
def specialTags : List String := [
  "address", "applet", "area", "article", "aside", "base", "basefont", "bgsound", "blockquote",
  "body", "br", "button", "caption", "center", "col", "colgroup", "dd", "details", "dir", "div",
  "dl", "dt", "embed", "fieldset", "figcaption", "figure", "footer", "form", "frame", "frameset",
  "h1", "h2", "h3", "h4", "h5", "h6", "head", "header", "hgroup", "hr", "html", "iframe", "img",
  "input", "isindex", "li", "link", "listing", "main", "marquee", "menu", "meta", "nav", "noembed",
  "noframes", "noscript", "object", "ol", "p", "param", "plaintext", "pre", "script", "section",
  "select", "source", "style", "summary", "table", "tbody", "td", "template", "textarea", "tfoot",
  "th", "thead", "title", "tr", "track", "ul", "wbr", "xmp"]

/-- An element that is more than a stretch of text. -/
def isSpecial (n : ElementName) : Bool :=
  n.isHtmlIn specialTags

end ElementName

end CustomElement.Markup
