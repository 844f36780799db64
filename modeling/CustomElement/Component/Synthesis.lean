import CustomElement.Component.Property
import CustomElement.Component.Skeleton

/-!
# From props to the element class

The value of a prop lives in a binding of the constructor's scope, and accessors on the instance
expose it, so every instance has a state of its own. The names that a list of props brings in have to
be distinct: external names, the accessor keys made from them, and bindings.
-/

namespace CustomElement.Component

open CustomElement.Tree

/-- The key for a name: the bare word where that is possible, else a string. -/
def keyOf (name : String) : Expr :=
  if Text.isIdentifierName name.toList then .identifier name else .string name

namespace Property

/-- The key of the accessor. -/
def accessorKey (p : Property) : String :=
  Text.toLowerCamelCase p.externalName

/-- The field that shows the shape of an instance. -/
def field (p : Property) : ClassMember :=
  .field (keyOf p.externalName) none false false

/-- The binding that holds the value. -/
def binding (p : Property) : Stmt :=
  .variable (if p.constant then .const else .let) p.internalName p.initialValue

/-- The function that reads the value. -/
def getter (p : Property) : Expr :=
  .arrow [] (.identifier p.internalName) true false

/-- The function that stores a value. -/
def setter (p : Property) : Expr :=
  .arrowBlock [.identifier "value"]
    [.ofExpr (.assign .assign (.identifier p.internalName) (.identifier "value"))] false false

/-- The entry of the accessor in the map of descriptors. A constant prop cannot be set. -/
def accessor (p : Property) : ObjectMember :=
  .pair (keyOf p.accessorKey) (.object (
    .pair (.identifier "get") p.getter ::
      if p.constant then [] else [.pair (.identifier "set") p.setter]))

end Property

/-- The attributes to watch: the external names of all props that can change. -/
def observedAttributes (props : List Property) : List Expr :=
  (props.filter (!·.constant)).map fun p => .string p.externalName

/-- The statement that defines the accessors of all props on an instance. -/
def accessorDefinitions (props : List Property) : Stmt :=
  .ofExpr (.callOf ((Expr.identifier "Object").dot "defineProperties")
    [.thisRef, .object (props.map (·.accessor))])

/-- The statement that passes an attribute's new value on to its accessor. -/
def attributeForwarding : Stmt :=
  .ofExpr (.assign .assign (.member .thisRef (.identifier "name") true false)
    (.identifier "newValue"))

/-- The skeleton for a list of props. -/
def skeletonOf (name : String) (props : List Property) (imports : List Import) : Skeleton where
  name := name
  imports := imports
  observedAttributes := observedAttributes props
  fields := props.map (·.field)
  constructorBody := props.map (·.binding) ++ [accessorDefinitions props]
  attributeChangedBody := [attributeForwarding]
  methods := []

/-- Why no element class can be made. -/
inductive NameFault where
  /-- The component's name does not give a class name. -/
  | className (name attempt : String)
  /-- An external name is used twice. -/
  | external (name : String)
  /-- Two external names give one accessor key. -/
  | accessor (previous name key : String)
  /-- A binding backs two props, the second of the given external name. -/
  | internal (name binding : String)
deriving DecidableEq, Repr

/-- The report on names that do not work. -/
def NameFault.diagnostic : NameFault → Diagnostic
  | .className name attempt =>
    ((Diagnostic.ofKind .invalidComponentName
      ("Component name '" ++ name ++ "' does not yield a class name ('" ++ attempt ++ "')")
      ).withContext name).withHint "Start the name with a letter, e.g. `x-card`"
  | .external name =>
    (Diagnostic.ofKind .duplicateProp ("Prop '" ++ name ++ "' is exported more than once")
      ).withContext name
  | .accessor previous name key =>
    (Diagnostic.ofKind .duplicateProp
      ("Props '" ++ previous ++ "' and '" ++ name ++ "' both define the accessor '" ++ key ++ "'")
      ).withContext name
  | .internal name binding =>
    ((Diagnostic.ofKind .duplicateProp ("Binding '" ++ binding ++ "' backs more than one prop")
      ).withContext name).withHint "Export each binding under a single name"

/-- What is wrong with a prop after those in front of it. -/
def clash? (earlier : List Property) (p : Property) : Option NameFault :=
  if earlier.any (·.externalName == p.externalName) then some (.external p.externalName)
  else
    match earlier.find? (·.accessorKey == p.accessorKey) with
    | some q => some (.accessor q.externalName p.externalName p.accessorKey)
    | none =>
      if earlier.any (·.internalName == p.internalName) then
        some (.internal p.externalName p.internalName)
      else none

/-- The first clash among props, those in `earlier` being distinct. -/
def firstClash? (earlier : List Property) : List Property → Option NameFault
  | [] => none
  | p :: rest =>
    match clash? earlier p with
    | some fault => some fault
    | none => firstClash? (earlier ++ [p]) rest

/-- The element module for a component's name, props and imports. -/
def synthesize (name : String) (props : List Property) (imports : List Import) (o : Options) :
    Except NameFault Program :=
  let className := Text.toUpperCamelCase name
  if !Text.isIdentifierName className.toList then throw (.className name className)
  else
    match firstClash? [] props with
    | some fault => throw fault
    | none => pure ((skeletonOf name props imports).toProgram o)

end CustomElement.Component
