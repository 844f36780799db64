import CustomElement.Json.Fields

/-!
# Compile options
-/

namespace CustomElement.Component

/-- The options of a compilation. -/
structure Options where
  /-- The superclass of the element class, a dotted path. -/
  baseClass : String := "HTMLElement"
  /-- The object that registers elements, a dotted path. -/
  registry : String := "customElements"
  /-- The element class is exported. -/
  exportClass : Bool := true
  /-- The path of the source, for reports. -/
  filePath : String := ""
deriving DecidableEq, Repr

/-- The options as JSON. -/
def Options.encode (o : Options) : Json :=
  .object [("baseClass", .string o.baseClass), ("registry", .string o.registry),
    ("exportClass", .bool o.exportClass), ("filePath", .string o.filePath)]

/-- The options from JSON; those that are missing keep their defaults. -/
def Options.decode (j : Json) : Option Options := do
  let f ← j.fields? 4
  let defaults : Options := {}
  some {
    baseClass := ← f.withDefault 0 "baseClass" defaults.baseClass Json.text?
    registry := ← f.withDefault 1 "registry" defaults.registry Json.text?
    exportClass := ← f.withDefault 2 "exportClass" defaults.exportClass Json.bool?
    filePath := ← f.withDefault 3 "filePath" defaults.filePath Json.text? }

end CustomElement.Component
