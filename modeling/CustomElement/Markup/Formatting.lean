import CustomElement.Markup.Builder

/-!
# Formatting elements

Elements such as `b` need not be nested properly. One that is still in force where it is not open is
opened again, and an end tag in the wrong place splits the elements that it cuts through.
-/

namespace CustomElement.Markup

namespace Builder

/-- Whether a node is open. -/
def isOpen (b : Builder) (node : NodeId) : Bool :=
  b.stack.any (·.node == node)

/-- Whether an entry needs no opening. -/
def isSettled (b : Builder) : Format → Bool
  | .border => true
  | .element node _ => b.isOpen node

/-- Opens formatting elements again, the earliest first. -/
def reopen (b : Builder) : List Format → Builder
  | [] => b
  | .border :: rest => b.reopen rest
  | .element _ tag :: rest =>
    let node := b.nodes.next
    let b' := b.insertTag tag
    { b' with formats := .element node tag :: b'.formats }.reopen rest

/-- Opens the formatting elements again that are in force but not open. -/
def reconstruct (b : Builder) : Builder :=
  let missing := b.formats.takeWhile fun f => !b.isSettled f
  { b with formats := b.formats.drop missing.length }.reopen missing.reverse

/-- The entries up to the next border. -/
def activeFormats (b : Builder) : List Format :=
  b.formats.takeWhile fun f => !f.isBorder

/-- Whether two tags agree up to the order of their attributes. -/
def sameTag (s t : Tag) : Bool :=
  s.name == t.name && s.attributes.length == t.attributes.length &&
    s.attributes.all t.attributes.contains

/-- Whether an entry is for a tag like the given one. -/
def isLike (tag : Tag) : Format → Bool
  | .border => false
  | .element _ t => sameTag tag t

/-- Entries without the one for a node. -/
def withoutFormat (node : NodeId) (formats : List Format) : List Format :=
  formats.eraseP (·.isFor node)

/-- The node of an entry. -/
def formatNode? : Format → Option NodeId
  | .border => none
  | .element n _ => some n

/-- Entries of which at most two are like a tag, up to the next border. -/
def makeRoom (b : Builder) (tag : Tag) : Builder :=
  let alike := b.activeFormats.filter (isLike tag)
  if alike.length < 3 then b
  else
    match alike.getLast?.bind formatNode? with
    | some node => { b with formats := withoutFormat node b.formats }
    | none => b

/-- Puts a formatting element in its place and opens it. -/
def insertFormat (b : Builder) (tag : Tag) : Builder :=
  let b := b.makeRoom tag
  let node := b.nodes.next
  let b' := b.insertTag tag
  { b' with formats := .element node tag :: b'.formats }

/-- Puts up a border. -/
def addBorder (b : Builder) : Builder :=
  { b with formats := .border :: b.formats }

/-- Drops the entries up to and with the next border. -/
def clearToBorder (b : Builder) : Builder :=
  { b with formats := (b.formats.dropWhile fun f => !f.isBorder).drop 1 }

/-! ## End tags of ordinary elements -/

/-- The open elements from the innermost HTML element of a tag on, unless a special element is open
inside of it. -/
def matching (tag : String) : List Open → Option (List Open)
  | [] => none
  | e :: rest =>
    if e.name.isHtml tag then some (e :: rest)
    else if e.name.isSpecial then none
    else matching tag rest

/-- Closes the element of an end tag that no other rule is about. -/
def endOther (b : Builder) (tag : String) : Builder :=
  match matching tag b.stack with
  | none => b
  | some rest => { b with stack := rest.drop 1 }

/-! ## Misnested formatting elements -/

/-- Where the entry of a split element goes: in the place of the old one, or after that of a copy. -/
inductive Bookmark where
  | replace
  | after (node : NodeId)

/-- The entries with one for a split element put in its place. -/
def placeFormat (old : NodeId) (entry : Format) (bookmark : Bookmark) (formats : List Format) :
    List Format :=
  match bookmark with
  | .replace => formats.map fun f => if f.isFor old then entry else f
  | .after node =>
    withoutFormat old (formats.flatMap fun f => if f.isFor node then [entry, f] else [f])

/-- The state of a split: the elements between the formatting element and the block are copied, from
the inside out, and each copy takes in what was made before. -/
structure Split where
  builder : Builder
  /-- The copies that stay open, the innermost first. -/
  kept : List Open
  /-- What the next copy takes in. -/
  last : NodeId
  bookmark : Bookmark

/-- The tag of the formatting element of a node. -/
def formatTag? (b : Builder) (node : NodeId) : Option Tag :=
  match b.formats.find? (·.isFor node) with
  | some (.element _ tag) => some tag
  | _ => none

/-- Copies an element and puts what was made before into the copy. -/
def copyInto (s : Split) (block : NodeId) (e : Open) (tag : Tag) : Split :=
  let b := s.builder
  let node := b.nodes.next
  let copy : Open := ⟨node, ⟨.html, tag.name⟩, false⟩
  let created := b.create copy.name tag.attributes
  let nodes := (created.nodes.detach s.last).insert (.lastIn node) s.last
  let formats := b.formats.map fun f => if f.isFor e.node then .element node tag else f
  { builder := { created with nodes := nodes, formats := formats }
    kept := s.kept ++ [copy]
    last := node
    bookmark := if s.last == block then .after node else s.bookmark }

/-- Goes through the elements between the block and the formatting element, the innermost first. At
most three of them are copied; others, and those that are no formatting elements, are closed. -/
def splitBetween (block : NodeId) : Nat → List Open → Split → Split
  | _, [], s => s
  | count, e :: rest, s =>
    match s.builder.formatTag? e.node with
    | none => splitBetween block (count + 1) rest s
    | some tag =>
      if count < 3 then splitBetween block (count + 1) rest (copyInto s block e tag)
      else
        let b := s.builder
        splitBetween block (count + 1) rest
          { s with builder := { b with formats := withoutFormat e.node b.formats } }

/-- The furthest special element of the ones above the formatting element, with those outside of it
and those inside of it. The list has the innermost element first. -/
def furthestBlock : List Open → Option (List Open × Open × List Open)
  | [] => none
  | e :: rest =>
    match furthestBlock rest with
    | some (inside, block, between) => some (e :: inside, block, between)
    | none => if e.name.isSpecial then some ([], e, rest) else none

/-- Splits a formatting element at the block that is open inside of it. -/
def splitAt (b : Builder) (element : NodeId) (tag : Tag) (inside : List Open) (block : Open)
    (between outer : List Open) : Builder :=
  let s := splitBetween block.node 0 between ⟨b, [], block.node, .replace⟩
  let ancestor := outer.head?.getD ⟨0, rootName, false⟩
  let stack := inside ++ block :: s.kept ++ outer
  let detached := { s.builder with nodes := s.builder.nodes.detach s.last, stack := b.stack }
  let spot := detached.spotIn ancestor.node ancestor.name
  let placed := { detached with nodes := detached.nodes.insert spot s.last }
  let node := placed.nodes.next
  let copy : Open := ⟨node, ⟨.html, tag.name⟩, false⟩
  let created := placed.create copy.name tag.attributes
  let nodes := (created.nodes.moveChildren block.node node).insert (.lastIn block.node) node
  { created with
    nodes := nodes
    formats := placeFormat element (.element node tag) s.bookmark created.formats
    stack := inside ++ copy :: stack.drop inside.length }

/-- The latest entry up to the next border for an element of a tag. -/
def findFormat? (b : Builder) (tag : String) : Option (NodeId × Tag) :=
  b.activeFormats.findSome? fun f =>
    match f with
    | .border => none
    | .element node t => if t.name == tag then some (node, t) else none

/-- One round of closing a formatting element. The flag tells whether another round follows. -/
def adoptOnce (b : Builder) (tag : String) : Builder × Bool :=
  match b.findFormat? tag with
  | none => (b.endOther tag, false)
  | some (node, t) =>
    if !b.isOpen node then ({ b with formats := withoutFormat node b.formats }, false)
    else if !inScope ElementName.endsScope (·.node == node) b.stack then (b, false)
    else
      let inner := b.stack.takeWhile (·.node != node)
      let outer := b.stack.drop (inner.length + 1)
      match furthestBlock inner with
      | none => ({ b with stack := outer, formats := withoutFormat node b.formats }, false)
      | some (inside, block, between) => (b.splitAt node t inside block between outer, true)

/-- At most so many rounds of closing a formatting element. -/
def adoptRounds (tag : String) : Nat → Builder → Builder
  | 0, b => b
  | rounds + 1, b =>
    let (next, again) := b.adoptOnce tag
    if again then adoptRounds tag rounds next else next

/-- Closes a formatting element. -/
def adopt (b : Builder) (tag : String) : Builder :=
  match b.stack with
  | e :: _ =>
    if e.name.isHtml tag && !b.formats.any (·.isFor e.node) then b.pop else adoptRounds tag 8 b
  | [] => b

/-- Closes a link that is open, since links cannot be nested. -/
def closeLink (b : Builder) : Builder :=
  match b.findFormat? "a" with
  | none => b
  | some (node, _) =>
    let b := b.adopt "a"
    { b with formats := withoutFormat node b.formats }.removeOpen node

end Builder

end CustomElement.Markup
