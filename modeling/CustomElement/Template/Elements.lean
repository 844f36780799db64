import CustomElement.Markup.Node
import CustomElement.Template.Placeholder
import CustomElement.Tree.Build

/-!
# Elements of a template

The elements of a template from the nodes of its markup. Blank texts and comments are dropped, and so
is text outside of all elements. A root, head or body around elements is looked through.
-/

namespace CustomElement.Template

open CustomElement.Markup (Node TagAttribute)
open CustomElement.Text

/-- A fragment of an attribute's value. -/
def attributePiece : Fragment → Tree.AttributePiece
  | .text text => .literal (Tree.Literal.string (String.ofList text))
  | .binding e => .binding e

/-- An attribute. -/
def attributeOf (bindings : List Tree.Expr) (a : TagAttribute) : Tree.Attribute :=
  ⟨a.name, (fragments bindings a.value).map attributePiece⟩

/-- A fragment of a text as a child; none if it is blank. -/
def childOf? : Fragment → Option Tree.Child
  | .text text =>
    if (trim text).isEmpty then none else some (.literal (Tree.Literal.string (String.ofList text)))
  | .binding e => some (.binding e)

/-- An element from its tag, attributes and children. -/
def elementOf (bindings : List Tree.Expr) (tag : String) (attributes : List TagAttribute)
    (children : List Tree.Child) : Tree.Element :=
  ⟨tag, attributes.map (attributeOf bindings), children⟩

mutual
/-- The children that a node stands for. -/
def childrenOf (bindings : List Tree.Expr) : Node → List Tree.Child
  | .element name attributes children =>
    [.element (elementOf bindings name.tag attributes (childrenOfAll bindings children))]
  | .text text => (fragments bindings text).filterMap childOf?
  | .comment => []

/-- The children that nodes stand for. -/
def childrenOfAll (bindings : List Tree.Expr) : List Node → List Tree.Child
  | [] => []
  | n :: rest => childrenOf bindings n ++ childrenOfAll bindings rest
end

/-- The tags of elements that are looked through at the top. -/
def wrapperTags : List String :=
  ["html", "head", "body"]

mutual
/-- The elements of a template that a node at its top stands for. -/
def topElements (bindings : List Tree.Expr) : Node → List Tree.Element
  | .element name attributes children =>
    if wrapperTags.contains name.tag then topElementsOfAll bindings children
    else [elementOf bindings name.tag attributes (childrenOfAll bindings children)]
  | .text _ => []
  | .comment => []

/-- The elements of a template that nodes at its top stand for. -/
def topElementsOfAll (bindings : List Tree.Expr) : List Node → List Tree.Element
  | [] => []
  | n :: rest => topElements bindings n ++ topElementsOfAll bindings rest
end

end CustomElement.Template
