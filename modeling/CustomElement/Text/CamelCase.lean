import CustomElement.Text.UpperCase

/-!
# Camel case

A name is cut into its maximal runs of word characters. The upper camel case form joins the runs,
each with its first character in upper case; the lower camel case form keeps the first run as it is
written.
-/

namespace CustomElement.Text

/-- The maximal runs of word characters; `run` holds, in reverse, the run that is being read. -/
def segmentsFrom (run : List Char) : List Char → List (List Char)
  | [] => if run.isEmpty then [] else [run.reverse]
  | c :: rest =>
    if isWord c then segmentsFrom (c :: run) rest
    else if run.isEmpty then segmentsFrom [] rest
    else run.reverse :: segmentsFrom [] rest

/-- The maximal runs of word characters of a name, in order. -/
def segments (name : List Char) : List (List Char) :=
  segmentsFrom [] name

/-- A segment with its first character in upper case. -/
def capitalize : List Char → List Char
  | [] => []
  | c :: rest => upperCase c ++ rest

/-- `foo-bar` becomes `FooBar`: the form of a class name. -/
def upperCamel (name : List Char) : List Char :=
  ((segments name).map capitalize).flatten

/-- `foo-bar` becomes `fooBar`: the form of an accessor key. -/
def lowerCamel (name : List Char) : List Char :=
  match segments name with
  | [] => []
  | first :: rest => first ++ (rest.map capitalize).flatten

/-- The upper camel case form of a text. -/
def toUpperCamelCase (name : String) : String :=
  String.ofList (upperCamel name.toList)

/-- The lower camel case form of a text. -/
def toLowerCamelCase (name : String) : String :=
  String.ofList (lowerCamel name.toList)

end CustomElement.Text
