import CustomElement.Markup.Token

/-!
# Nodes

The tree that a markup text is read as. While it is built, nodes are moved about, so they are first
kept in an arena and refer to each other by number.
-/

namespace CustomElement.Markup

/-- The vocabulary that an element belongs to. -/
inductive Namespace where
  | html
  | svg
  | mathml
deriving DecidableEq, Repr

/-- The name of an element. -/
structure ElementName where
  space : Namespace
  tag : String
deriving DecidableEq, Repr

/-- A node of a markup tree. -/
inductive Node where
  | element (name : ElementName) (attributes : List TagAttribute) (children : List Node)
  | text (text : List Char)
  | comment

/-- A node by its number. -/
abbrev NodeId := Nat

/-- What a node is, apart from its children. -/
inductive NodeKind where
  | element (name : ElementName) (attributes : List TagAttribute)
  | text (text : List Char)
  | comment

/-- Whether a node is a text. -/
def NodeKind.isText : NodeKind → Bool
  | .text _ => true
  | _ => false

/-- A text node with more text. -/
def NodeKind.append (kind : NodeKind) (text : List Char) : NodeKind :=
  match kind with
  | .text t => .text (t ++ text)
  | other => other

/-- A node and its place among the others. -/
structure Entry where
  kind : NodeKind
  parent : Option NodeId
  children : List NodeId

/-- Nodes that refer to each other by number. -/
structure Arena where
  entries : Array Entry

namespace Arena

/-- The node of a number. -/
def get? (a : Arena) (n : NodeId) : Option Entry :=
  a.entries[n]?

/-- The arena with one node changed. -/
def modify (a : Arena) (n : NodeId) (f : Entry → Entry) : Arena :=
  ⟨a.entries.modify n f⟩

/-- The children of a node. -/
def children (a : Arena) (n : NodeId) : List NodeId :=
  (a.get? n).elim [] (·.children)

/-- The parent of a node. -/
def parent? (a : Arena) (n : NodeId) : Option NodeId :=
  (a.get? n).bind (·.parent)

/-- The number of the next node. -/
def next (a : Arena) : NodeId :=
  a.entries.size

/-- The arena with a new node that stands nowhere. -/
def add (a : Arena) (kind : NodeKind) : Arena :=
  ⟨a.entries.push ⟨kind, none, []⟩⟩

/-- The arena with a node taken away from its parent. -/
def detach (a : Arena) (n : NodeId) : Arena :=
  match a.parent? n with
  | none => a
  | some p =>
    (a.modify p fun e => { e with children := e.children.filter (· != n) }).modify n
      fun e => { e with parent := none }

/-- A place for a node. -/
inductive Spot where
  /-- After the last child of a node. -/
  | lastIn (parent : NodeId)
  /-- Right in front of a node. -/
  | before (sibling : NodeId)
deriving DecidableEq, Repr

/-- A list with an item put in front of another. -/
def insertBefore (item other : NodeId) : List NodeId → List NodeId
  | [] => [item]
  | n :: rest => if n == other then item :: n :: rest else n :: insertBefore item other rest

/-- The item in front of another in a list. -/
def itemBefore? (other : NodeId) : List NodeId → Option NodeId
  | [] => none
  | [_] => none
  | n :: m :: rest => if m == other then some n else itemBefore? other (m :: rest)

/-- The arena with a node put in a place. -/
def insert (a : Arena) (spot : Spot) (n : NodeId) : Arena :=
  match spot with
  | .lastIn p =>
    (a.modify p fun e => { e with children := e.children ++ [n] }).modify n
      fun e => { e with parent := some p }
  | .before s =>
    match a.parent? s with
    | none => a
    | some p =>
      (a.modify p fun e => { e with children := insertBefore n s e.children }).modify n
        fun e => { e with parent := some p }

/-- The node that stands in front of a place. -/
def previous? (a : Arena) : Spot → Option NodeId
  | .lastIn p => (a.children p).getLast?
  | .before s => (a.parent? s).bind fun p => itemBefore? s (a.children p)

/-- The text node that stands in front of a place. -/
def previousText? (a : Arena) (spot : Spot) : Option NodeId :=
  (a.previous? spot).filter fun n => (a.get? n).any (·.kind.isText)

/-- The arena with text put in a place. It is joined with text in front of it. -/
def insertText (a : Arena) (spot : Spot) (text : List Char) : Arena :=
  match a.previousText? spot with
  | some n => a.modify n fun e => { e with kind := e.kind.append text }
  | none => (a.add (.text text)).insert spot a.next

/-- The arena with all children of a node moved to another. -/
def moveChildren (a : Arena) (source target : NodeId) : Arena :=
  (a.children source).foldl (fun a n => (a.detach n).insert (.lastIn target) n) a

/-- The tree of a node, down to a depth. -/
def toNode (a : Arena) : Nat → NodeId → Option Node
  | 0, _ => none
  | depth + 1, n =>
    match a.get? n with
    | none => none
    | some e =>
      match e.kind with
      | .element name attributes =>
        some (.element name attributes (e.children.filterMap (toNode a depth)))
      | .text text => some (.text text)
      | .comment => some .comment

end Arena

end CustomElement.Markup
