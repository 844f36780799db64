import CustomElement.Build.Path

/-!
# File trees

What a build needs of a disk, and a disk that is a value: the files and directories below the
directory in which a build runs.
-/

namespace CustomElement.Build

/-- What can go wrong with a file. -/
inductive Fault where
  | missing
  | exists
  | notDirectory
  | isDirectory
  | notText
  | other (text : String)
deriving DecidableEq, Repr

/-- A fault in words. -/
def Fault.message : Fault → String
  | .missing => "No such file or directory (os error 2)"
  | .exists => "File exists (os error 17)"
  | .notDirectory => "Not a directory (os error 20)"
  | .isDirectory => "Is a directory (os error 21)"
  | .notText => "stream did not contain valid UTF-8"
  | .other text => text

/-- A disk: what a build asks of it. -/
structure Disk (m : Type → Type) where
  /-- Whether a path is one of a directory. -/
  isDirectory : Path → m Bool
  /-- The names in a directory. -/
  names : Path → m (List (List Char))
  /-- The text of a file. -/
  read : Path → m (Except Fault String)
  /-- Makes a file hold a text. -/
  write : Path → String → m (Except Fault Unit)
  /-- Makes a directory and those around it. -/
  createDirectory : Path → m (Except Fault Unit)

/-- The names from the working directory down to a file. -/
abbrev Location := List (List Char)

/-- A file with its bytes, or a directory. -/
inductive FileEntry where
  | file (bytes : ByteArray)
  | directory

/-- The files and directories below the working directory. -/
structure FileTree where
  entries : List (Location × FileEntry)

namespace FileTree

/-- A tree without files. -/
def empty : FileTree :=
  ⟨[]⟩

/-- What is at a location. The working directory is always there. -/
def lookup (t : FileTree) (l : Location) : Option FileEntry :=
  if l.isEmpty then some .directory else (t.entries.find? (·.1 == l)).map (·.2)

/-- The entries with one put at a location. -/
def put (l : Location) (e : FileEntry) : List (Location × FileEntry) → List (Location × FileEntry)
  | [] => [(l, e)]
  | x :: rest => if x.1 == l then (l, e) :: rest else x :: put l e rest

/-- The tree with an entry put at a location. -/
def insert (t : FileTree) (l : Location) (e : FileEntry) : FileTree :=
  ⟨put l e t.entries⟩

/-- The names in a directory. -/
def namesAt (t : FileTree) (l : Location) : List (List Char) :=
  t.entries.filterMap fun (k, _) => if k.dropLast == l then k.getLast? else none

/-- Goes from a location along the steps of a path. Every step needs a directory to start from, and
the tree has nothing outside of the working directory. -/
def walk (t : FileTree) : Location → List Component → Except Fault Location
  | l, [] => .ok l
  | l, c :: rest =>
    match t.lookup l with
    | none => .error .missing
    | some (.file _) => .error .notDirectory
    | some .directory =>
      match c with
      | .root => .error .missing
      | .current => t.walk l rest
      | .parent => if l.isEmpty then .error .missing else t.walk l.dropLast rest
      | .name n => t.walk (l ++ [n]) rest

/-- The location of a path. -/
def locate (t : FileTree) (p : Path) : Except Fault Location :=
  match t.walk [] p.components with
  | .error f => .error f
  | .ok l =>
    match t.lookup l with
    | some (.file _) => if p.namesDirectory then .error .notDirectory else .ok l
    | _ => .ok l

/-- Whether a path is one of a directory. -/
def isDirectory (t : FileTree) (p : Path) : Bool :=
  match t.locate p with
  | .error _ => false
  | .ok l =>
    match t.lookup l with
    | some .directory => true
    | _ => false

/-- The text of a file. -/
def read (t : FileTree) (p : Path) : Except Fault String :=
  match t.locate p with
  | .error f => .error f
  | .ok l =>
    match t.lookup l with
    | none => .error .missing
    | some .directory => .error .isDirectory
    | some (.file bytes) =>
      match String.fromUTF8? bytes with
      | some s => .ok s
      | none => .error .notText

/-- The tree with a file that holds a text. -/
def write (t : FileTree) (p : Path) (text : String) : Except Fault FileTree :=
  match t.locate p with
  | .error f => .error f
  | .ok l =>
    match t.lookup l with
    | some .directory => .error .isDirectory
    | some (.file _) => .ok (t.insert l (.file text.toUTF8))
    | none =>
      match t.lookup l.dropLast with
      | some .directory => .ok (t.insert l (.file text.toUTF8))
      | some (.file _) => .error .notDirectory
      | none => .error .missing

/-- The tree with all directories along the steps of a path from a location. -/
def createAlong (t : FileTree) : Location → List Component → Except Fault FileTree
  | _, [] => .ok t
  | _, .root :: _ => .error .missing
  | l, .current :: rest => t.createAlong l rest
  | l, .parent :: rest => if l.isEmpty then .error .missing else t.createAlong l.dropLast rest
  | l, .name n :: rest =>
    match t.lookup (l ++ [n]) with
    | some .directory => t.createAlong (l ++ [n]) rest
    | some (.file _) => .error (if rest.isEmpty then .exists else .notDirectory)
    | none => (t.insert (l ++ [n]) .directory).createAlong (l ++ [n]) rest

/-- The tree with a directory and those around it. -/
def createDirectory (t : FileTree) (p : Path) : Except Fault FileTree :=
  t.createAlong [] p.components

/-- A change of the tree that may fail, which leaves the tree as it was. -/
def change (f : FileTree → Except Fault FileTree) : StateM FileTree (Except Fault Unit) := do
  match f (← get) with
  | .ok t =>
    set t
    return .ok ()
  | .error fault => return .error fault

/-- A file tree as a disk. -/
def disk : Disk (StateM FileTree) where
  isDirectory p := do return (← get).isDirectory p
  names p := do
    let t ← get
    match t.locate p with
    | .ok l => return t.namesAt l
    | .error _ => return []
  read p := do return (← get).read p
  write p text := change (·.write p text)
  createDirectory p := change (·.createDirectory p)

end FileTree

end CustomElement.Build
