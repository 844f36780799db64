import CustomElement.Number.Double

/-!
# JSON values

Numbers keep the distinction that their text makes: naturals and negative integers of at most 64
bits, and doubles for all others. Objects keep the order of their fields.
-/

namespace CustomElement

/-- A JSON value. -/
inductive Json where
  | null
  | bool (value : Bool)
  | natural (value : Nat)
  | negative (size : Nat)
  | double (value : Double)
  | string (value : String)
  | array (items : List Json)
  | object (fields : List (String × Json))

namespace Json

mutual
/-- The greatest number of nested values, the value itself included. -/
def depth : Json → Nat
  | .array items => 1 + depthItems items
  | .object fields => 1 + depthFields fields
  | _ => 1

/-- The greatest depth of an item. -/
def depthItems : List Json → Nat
  | [] => 0
  | item :: rest => max item.depth (depthItems rest)

/-- The greatest depth of a field's value. -/
def depthFields : List (String × Json) → Nat
  | [] => 0
  | field :: rest => max (depthField field) (depthFields rest)

/-- The depth of a field's value. -/
def depthField : String × Json → Nat
  | (_, value) => value.depth
end

mutual
/-- Equality of values, objects being compared field by field. -/
def beq : Json → Json → Bool
  | .null, .null => true
  | .bool a, .bool b => a == b
  | .natural a, .natural b => a == b
  | .negative a, .negative b => a == b
  | .double a, .double b => a == b
  | .string a, .string b => a == b
  | .array a, .array b => beqItems a b
  | .object a, .object b => beqFields a b
  | _, _ => false

/-- Equality of lists of values. -/
def beqItems : List Json → List Json → Bool
  | [], [] => true
  | a :: as, b :: bs => beq a b && beqItems as bs
  | _, _ => false

/-- Equality of lists of fields. -/
def beqFields : List (String × Json) → List (String × Json) → Bool
  | [], [] => true
  | a :: as, b :: bs => beqField a b && beqFields as bs
  | _, _ => false

/-- Equality of fields. -/
def beqField : String × Json → String × Json → Bool
  | (k, a), (l, b) => k == l && beq a b
end

instance : BEq Json := ⟨beq⟩

/-- The value of a field of an object. -/
def field? (key : String) : Json → Option Json
  | .object fields => fields.lookup key
  | _ => none

/-- The text of a string. -/
def text? : Json → Option String
  | .string s => some s
  | _ => none

/-- The items of an array. -/
def items? : Json → Option (List Json)
  | .array items => some items
  | _ => none

/-- A truth value. -/
def bool? : Json → Option Bool
  | .bool b => some b
  | _ => none

/-- A natural number. -/
def natural? : Json → Option Nat
  | .natural n => some n
  | _ => none

/-- Any number, as a double. -/
def double? : Json → Option Double
  | .natural n => some (Double.ofNat n)
  | .negative n => some (Double.ofNat n).neg
  | .double x => some x
  | _ => none

/-- A double as a value: numbers that are not finite have none and are written as null. -/
def ofDouble (x : Double) : Json :=
  if x.isFinite then .double x else .null

/-- An optional value, written as null when it is absent. -/
def ofOption : Option Json → Json
  | some value => value
  | none => .null

end Json

end CustomElement
