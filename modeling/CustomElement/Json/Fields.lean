import CustomElement.Json.Basic

/-!
# Reading structures out of JSON

A structure is given as an object, whose unknown fields are ignored, or as an array of its fields in
order. A choice between structures is told by a name: the field `type` of an object or the first item
of an array. A choice between words is given as a string, or as an object with one field of that name
and nothing in it.

Choices inside a named structure are read from a copy of the input that is kept aside. In such a
copy, `kept` below, a name may also be given by its position in the list of names.
-/

namespace CustomElement.Json

/-- The fields of a structure, by name or by position. -/
inductive Fields where
  | named (fields : List (String × Json))
  | listed (items : List Json)

namespace Fields

/-- The field with the given position and name. -/
def get? : Fields → Nat → String → Option Json
  | named fields, _, key => fields.lookup key
  | listed items, index, _ => items[index]?

/-- Whether no more than `size` fields are listed. -/
def fits : Fields → Nat → Bool
  | named _, _ => true
  | listed items, size => items.length ≤ size

/-- A field that has to be there. -/
def required {α : Type} (f : Fields) (index : Nat) (key : String) (decode : Json → Option α) :
    Option α :=
  (f.get? index key).bind decode

/-- A field with a value to use when it is missing. -/
def withDefault {α : Type} (f : Fields) (index : Nat) (key : String) (fallback : α)
    (decode : Json → Option α) : Option α :=
  match f.get? index key with
  | some value => decode value
  | none => some fallback

end Fields

/-- A value or null. -/
def nullable {α : Type} (decode : Json → Option α) : Json → Option (Option α)
  | .null => some none
  | value => (decode value).map some

/-- A list of values. -/
def list {α : Type} (decode : Json → Option α) : Json → Option (List α)
  | .array items => items.mapM decode
  | _ => none

/-- A field that may be null. Among named fields it may also be missing. -/
def Fields.optional {α : Type} (f : Fields) (index : Nat) (key : String)
    (decode : Json → Option α) : Option (Option α) :=
  match f with
  | .named _ => f.withDefault index key none (nullable decode)
  | .listed _ => f.required index key (nullable decode)

/-- The fields of a structure that has `size` of them. -/
def fields? (size : Nat) : Json → Option Fields
  | .object fields => some (.named fields)
  | .array items => if items.length ≤ size then some (.listed items) else none
  | _ => none

/-- The chosen name: spelled out, or by position in a kept copy. -/
def choice? (kept : Bool) (names : List String) : Json → Option String
  | .string s => if names.contains s then some s else none
  | .natural n => if kept then names[n]? else none
  | _ => none

/-- The name and the fields of one of several structures. -/
def tagged? (kept : Bool) (names : List String) : Json → Option (String × Fields)
  | .object fields => do
    let name ← choice? kept names (← fields.lookup "type")
    some (name, .named fields)
  | .array (first :: rest) => do
    let name ← choice? kept names first
    some (name, .listed rest)
  | _ => none

/-- Whether a value stands for nothing: null, or an empty object in a kept copy. -/
def isUnit (kept : Bool) : Json → Bool
  | .null => true
  | .object [] => kept
  | _ => false

/-- One of several words. -/
def word? {α : Type} (kept : Bool) (all : List α) (spell : α → String) : Json → Option α
  | .string s => all.find? (spell · == s)
  | .object [(key, value)] =>
    if isUnit kept value then all.find? (spell · == key) else none
  | _ => none

end CustomElement.Json
