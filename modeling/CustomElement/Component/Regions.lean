import CustomElement.Text.CharClass

/-!
# The regions of a component

A component is a script followed by markup. The markup starts at the first `<` that stands at the
start of the source or after white space, together with the white space before it.
-/

namespace CustomElement.Component

/-- The two regions of a source. -/
structure Regions where
  script : List Char
  template : List Char
deriving DecidableEq, Repr

/-- The regions of a source. `blank` is the white space, in reverse, that ends what has been read;
`atStart` says that nothing else has been read. -/
def regionsFrom (atStart : Bool) (blank : List Char) : List Char → Regions
  | [] => ⟨blank.reverse, []⟩
  | c :: rest =>
    if c == '<' && (atStart || !blank.isEmpty) then ⟨[], blank.reverse ++ c :: rest⟩
    else if Text.isBlank c then regionsFrom atStart (c :: blank) rest
    else
      let r := regionsFrom false [] rest
      ⟨blank.reverse ++ c :: r.script, r.template⟩

/-- The regions of a source. -/
def Regions.ofSource (source : List Char) : Regions :=
  regionsFrom true [] source

/-- The byte offset at which the template region starts. -/
def Regions.offset (r : Regions) : Nat :=
  Text.byteLength r.script

end CustomElement.Component
