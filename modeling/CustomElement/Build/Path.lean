/-!
# Paths

A path keeps the spelling that it was given in. What it names are its components: empty segments and
dots in its middle do not count, a dot at its start does.
-/

namespace CustomElement.Build

/-- A path as it is spelled. -/
structure Path where
  text : List Char
deriving DecidableEq, Repr

/-- A step of a path. -/
inductive Component where
  | root
  | current
  | parent
  | name (n : List Char)
deriving DecidableEq, Repr

/-- A text cut at its slashes. -/
def pieces : List Char → List (List Char)
  | [] => [[]]
  | c :: rest =>
    if c == '/' then [] :: pieces rest
    else
      match pieces rest with
      | [] => [[c]]
      | p :: ps => (c :: p) :: ps

/-- Pieces with slashes between them. -/
def joinPieces : List (List Char) → List Char
  | [] => []
  | [p] => p
  | p :: q :: rest => p ++ '/' :: joinPieces (q :: rest)

/-- A piece that does not count. -/
def isIdle (piece : List Char) : Bool :=
  piece == [] || piece == ['.']

namespace Path

/-- The path as it is spelled. -/
def display (p : Path) : String :=
  String.ofList p.text

/-- The start of a path, a slash or a dot that counts, and the text after it. -/
def anchored (p : Path) : List Char × List Char :=
  match p.text with
  | '/' :: rest => (['/'], rest)
  | ['.'] => (['.'], [])
  | '.' :: '/' :: rest => (['.'], '/' :: rest)
  | text => ([], text)

/-- The step that the start of a path is. -/
def anchorComponents (anchor : List Char) : List Component :=
  if anchor == ['/'] then [.root] else if anchor == ['.'] then [.current] else []

/-- The step that a piece is. -/
def componentOf? (piece : List Char) : Option Component :=
  if isIdle piece then none else if piece == ['.', '.'] then some .parent else some (.name piece)

/-- The steps of a path. -/
def components (p : Path) : List Component :=
  anchorComponents p.anchored.1 ++ (pieces p.anchored.2).filterMap componentOf?

/-- Whether two paths have the same steps. -/
def same (p q : Path) : Bool :=
  p.components == q.components

/-- The pieces of a path after its start, the last first, without those at its end that do not
count. -/
def lastPieces (p : Path) : List (List Char) :=
  (pieces p.anchored.2).reverse.dropWhile isIdle

/-- The name that the path ends in; none if it ends in `..` or has no names. -/
def fileName? (p : Path) : Option (List Char) :=
  match p.lastPieces with
  | [] => none
  | name :: _ => if name == ['.', '.'] then none else some name

/-- A name cut at its last dot. A dot at its start does not count. -/
def splitName (name : List Char) : List Char × Option (List Char) :=
  let tail := name.reverse.takeWhile (· != '.')
  let stem := (name.reverse.drop (tail.length + 1)).reverse
  if tail.length == name.length || stem.isEmpty then (name, none) else (stem, some tail.reverse)

/-- The name of the file without its extension. -/
def stem? (p : Path) : Option (List Char) :=
  p.fileName?.map fun n => (splitName n).1

/-- The extension of the file. -/
def extension? (p : Path) : Option (List Char) :=
  p.fileName?.bind fun n => (splitName n).2

/-- The path of a name inside of a directory. -/
def join (p : Path) (name : List Char) : Path :=
  match p.text.getLast? with
  | none => ⟨name⟩
  | some c => if c == '/' then ⟨p.text ++ name⟩ else ⟨p.text ++ '/' :: name⟩

/-- The path of the directory of a file. -/
def directory (p : Path) : Path :=
  ⟨p.anchored.1 ++ joinPieces ((p.lastPieces.drop 1).dropWhile isIdle).reverse⟩

/-- The path of another file in the same directory. -/
def withFileName (p : Path) (name : List Char) : Path :=
  if p.fileName?.isSome then p.directory.join name else p.join name

/-- Whether the spelling of a path says that it is a directory. -/
def namesDirectory (p : Path) : Bool :=
  match (pieces p.anchored.2).reverse with
  | last :: _ :: _ => isIdle last
  | _ => false

end Path

end CustomElement.Build
