import CustomElement.Markup.Node

/-!
# Names in foreign content

Tags and attributes are read in lower case. Those of graphics and formulas get their proper spelling
back, and an attribute with a known prefix of its own namespace loses it.
-/

namespace CustomElement.Markup

/-- The tags of graphics that have capital letters. -/
def svgTags : List String := [
  "altGlyph", "altGlyphDef", "altGlyphItem", "animateColor", "animateMotion", "animateTransform",
  "clipPath", "feBlend", "feColorMatrix", "feComponentTransfer", "feComposite", "feConvolveMatrix",
  "feDiffuseLighting", "feDisplacementMap", "feDistantLight", "feDropShadow", "feFlood", "feFuncA",
  "feFuncB", "feFuncG", "feFuncR", "feGaussianBlur", "feImage", "feMerge", "feMergeNode",
  "feMorphology", "feOffset", "fePointLight", "feSpecularLighting", "feSpotLight", "feTile",
  "feTurbulence", "foreignObject", "glyphRef", "linearGradient", "radialGradient", "textPath"]

/-- The attributes of graphics that have capital letters. -/
def svgAttributes : List String := [
  "attributeName", "attributeType", "baseFrequency", "baseProfile", "calcMode", "clipPathUnits",
  "diffuseConstant", "edgeMode", "filterUnits", "glyphRef", "gradientTransform", "gradientUnits",
  "kernelMatrix", "kernelUnitLength", "keyPoints", "keySplines", "keyTimes", "lengthAdjust",
  "limitingConeAngle", "markerHeight", "markerUnits", "markerWidth", "maskContentUnits",
  "maskUnits", "numOctaves", "pathLength", "patternContentUnits", "patternTransform",
  "patternUnits", "pointsAtX", "pointsAtY", "pointsAtZ", "preserveAlpha", "preserveAspectRatio",
  "primitiveUnits", "refX", "refY", "repeatCount", "repeatDur", "requiredExtensions",
  "requiredFeatures", "specularConstant", "specularExponent", "spreadMethod", "startOffset",
  "stdDeviation", "stitchTiles", "surfaceScale", "systemLanguage", "tableValues", "targetX",
  "targetY", "textLength", "viewBox", "viewTarget", "xChannelSelector", "yChannelSelector",
  "zoomAndPan"]

/-- The attributes of formulas that have capital letters. -/
def mathmlAttributes : List String :=
  ["definitionURL"]

/-- The attributes with a prefix, and their names without it. -/
def prefixedAttributes : List (String × String) := [
  ("xlink:actuate", "actuate"), ("xlink:arcrole", "arcrole"), ("xlink:href", "href"),
  ("xlink:role", "role"), ("xlink:show", "show"), ("xlink:title", "title"),
  ("xlink:type", "type"), ("xml:lang", "lang"), ("xml:space", "space"), ("xmlns:xlink", "xlink")]

/-- A text in lower case. -/
def lowerText (s : String) : String :=
  String.ofList (s.toList.map lower)

/-- The proper spelling of a name in lower case, if it is among the given ones. -/
def spelling (names : List String) (name : String) : String :=
  (names.find? fun n => lowerText n == name).getD name

/-- The name of an attribute without its prefix. -/
def withoutPrefix (name : String) : String :=
  ((prefixedAttributes.find? fun (n, _) => n == name).map (·.2)).getD name

/-- The attributes with capital letters in a namespace. -/
def Namespace.spelledAttributes : Namespace → List String
  | .html => []
  | .svg => svgAttributes
  | .mathml => mathmlAttributes

/-- The attributes of a foreign element. -/
def foreignAttributes (space : Namespace) (attributes : List TagAttribute) : List TagAttribute :=
  attributes.map fun a => { a with name := withoutPrefix (spelling space.spelledAttributes a.name) }

/-- The tag of an element inside of foreign content. -/
def foreignTag (space : Namespace) (tag : String) : String :=
  if space == .svg then spelling svgTags tag else tag

end CustomElement.Markup
