import CustomElement.Component.Options
import CustomElement.Text.CamelCase
import CustomElement.Tree.Build

/-!
# The element module

The module of a component has its imports, the element class and the registration of the class. A
skeleton holds what differs between components; the rest is the same for all.
-/

namespace CustomElement.Component

open CustomElement.Tree

/-- What differs between the modules of components. -/
structure Skeleton where
  /-- The tag name of the element. -/
  name : String
  imports : List Import
  observedAttributes : List Expr
  fields : List ClassMember
  /-- The statements of the constructor after `super()`. -/
  constructorBody : List Stmt
  attributeChangedBody : List Stmt
  /-- Methods after those that every element has. -/
  methods : List ClassMember

namespace Skeleton

/-- The parts of a text between dots. -/
def splitDots : List Char → List (List Char)
  | [] => [[]]
  | c :: rest =>
    match c, splitDots rest with
    | '.', parts => [] :: parts
    | _, [] => [[c]]
    | _, part :: parts => (c :: part) :: parts

/-- A dotted path as a chain of properties. -/
def dottedPath (path : String) : Expr :=
  match splitDots path.toList with
  | [] => .identifier ""
  | first :: rest =>
    rest.foldl (fun e part => e.dot (String.ofList part)) (.identifier (String.ofList first))

/-- The name of the element class. -/
def className (s : Skeleton) : String :=
  Text.toUpperCamelCase s.name

/-- The getter that lists the attributes to watch. -/
def observedAttributesGetter (s : Skeleton) : ClassMember :=
  .method (.identifier "observedAttributes")
    (.anonymous [] [.return (some (.arrayOf s.observedAttributes))]) .get false true

/-- The constructor. -/
def constructorMember (s : Skeleton) : ClassMember :=
  .method (.identifier "constructor")
    (.anonymous [] (.ofExpr (.callOf .superRef []) :: s.constructorBody)) .constructor false false

/-- The members of the element class. -/
def members (s : Skeleton) : List ClassMember :=
  s.observedAttributesGetter :: s.fields ++ [
    s.constructorMember,
    .named "connectedCallback" [] [],
    .named "attributeChangedCallback" ["name", "oldValue", "newValue"] s.attributeChangedBody,
    .named "disconnectedCallback" [] []] ++ s.methods

/-- The element class. -/
def elementClass (s : Skeleton) (o : Options) : ClassDef :=
  ⟨some s.className, some (dottedPath o.baseClass), s.members⟩

/-- The item that declares the element class. -/
def classItem (s : Skeleton) (o : Options) : Item :=
  if o.exportClass then .exportNamed ⟨some (.classDef (s.elementClass o)), [], none⟩
  else .statement (.classDef (s.elementClass o))

/-- The statement that registers the element class. -/
def registration (s : Skeleton) (o : Options) : Stmt :=
  .ofExpr (.callOf ((dottedPath o.registry).dot "define") [.string s.name, .identifier s.className])

/-- The module of a component. -/
def toProgram (s : Skeleton) (o : Options) : Program :=
  ⟨.module, s.imports.map .import ++ [s.classItem o, .statement (s.registration o)]⟩

end Skeleton

end CustomElement.Component
