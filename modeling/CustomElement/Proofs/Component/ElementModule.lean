import CustomElement.Component.Synthesis

/-!
# The element module, read back

A compiled component is a module that declares one class. `elementClass?` finds the class, and
`observedNames` and `descriptors` read two of its parts: the strings that the static getter
`observedAttributes` returns, and the map that the constructor passes to `Object.defineProperties`.
For the module made from a list of props, `observedNames_toProgram` and `descriptors_toProgram` say
what the two are, and `attributeChanged_toProgram` what happens on a changed attribute.
-/

namespace CustomElement.Component

open CustomElement.Tree

/-! ## Parts of a module -/

/-- The class that an item declares, exported or not. -/
def declaredClass? : Item → Option ClassDef
  | .statement (.classDef c) => some c
  | .exportNamed ⟨some (.classDef c), _, _⟩ => some c
  | _ => none

/-- The first class that a module declares. -/
def elementClass? (p : Program) : Option ClassDef :=
  p.body.findSome? declaredClass?

/-- The function of the static getter with the given name. -/
def staticGetter? (name : String) (c : ClassDef) : Option Func :=
  c.members.findSome? fun
    | .method (.identifier key) f .get false true => if key = name then some f else none
    | _ => none

/-- The function of the constructor. -/
def constructor? (c : ClassDef) : Option Func :=
  c.members.findSome? fun
    | .method _ f .constructor _ _ => some f
    | _ => none

/-- The function of the method with the given name. -/
def method? (name : String) (c : ClassDef) : Option Func :=
  c.members.findSome? fun
    | .method (.identifier key) f .method false false => if key = name then some f else none
    | _ => none

/-- The string that an element of an array is. -/
def elementString? : Option Expr → Option String
  | some (.literal ⟨.string s, none, none⟩) => some s
  | _ => none

/-- The strings of the array that a function returns. -/
def returnedStrings (f : Func) : List String :=
  (f.body.findSome? fun
    | .return (some (.array elements)) => some (elements.filterMap elementString?)
    | _ => none).getD []

/-- The strings that the getter `observedAttributes` of a module's class returns. -/
def observedNames (p : Program) : List String :=
  (((elementClass? p).bind (staticGetter? "observedAttributes")).map returnedStrings).getD []

/-- The map that a statement passes to `Object.defineProperties` for `this`. -/
def definedProperties? : Stmt → Option (List ObjectMember)
  | .expression (.call (.member (.identifier "Object") (.identifier "defineProperties") false false)
      [.thisRef, .object members] _) _ => some members
  | _ => none

/-- The map of descriptors that the constructor of a module's class defines. -/
def descriptors (p : Program) : List ObjectMember :=
  (((elementClass? p).bind constructor?).bind (·.body.findSome? definedProperties?)).getD []

/-- The name that a key spells. -/
def keyName? : Expr → Option String
  | .identifier name => some name
  | .literal ⟨.string s, none, none⟩ => some s
  | _ => none

/-- The name of the property that a member of an object literal defines. A plain entry for
`__proto__` defines none: it sets the prototype of the object. -/
def memberName? : ObjectMember → Option String
  | .property key _ kind method computed shorthand =>
    if computed then none
    else (keyName? key).filter fun name =>
      !(name = "__proto__" && kind = .init && !method && !shorthand)
  | .spread _ => none

/-- The entries of an object literal that define the property with the given name. -/
def entriesNamed (name : String) (members : List ObjectMember) : List ObjectMember :=
  members.filter (memberName? · = some name)

/-- The value of a member of an object literal. -/
def memberValue? : ObjectMember → Option Expr
  | .property _ value .init _ _ _ => some value
  | _ => none

/-- The function in the entry `set` of a descriptor. -/
def setter? (entry : ObjectMember) : Option Expr :=
  match memberValue? entry with
  | some (.object members) => (entriesNamed "set" members).findSome? memberValue?
  | _ => none

/-- The function in the entry `get` of a descriptor. -/
def getter? (entry : ObjectMember) : Option Expr :=
  match memberValue? entry with
  | some (.object members) => (entriesNamed "get" members).findSome? memberValue?
  | _ => none

/-- The name that an arrow function returns. -/
def returnedName? : Expr → Option String
  | .arrow _ (.identifier name) _ _ => some name
  | _ => none

/-- The name that an arrow function assigns to, and the name that it assigns. -/
def assignedNames? : Expr → Option (String × String)
  | .arrowBlock _ [.expression (.assign .assign (.identifier target) (.identifier source)) _] _ _ =>
    some (target, source)
  | _ => none

theorem keyName?_keyOf (name : String) : keyName? (keyOf name) = some name := by
  unfold keyOf
  split <;> rfl

theorem getter?_accessor (p : Property) : getter? p.accessor = some p.getter :=
  rfl

theorem setter?_accessor {p : Property} (h : p.constant = false) :
    setter? p.accessor = some p.setter := by
  unfold Property.accessor
  rw [h]
  rfl

theorem setter?_accessor_of_constant {p : Property} (h : p.constant = true) :
    setter? p.accessor = none := by
  unfold Property.accessor
  rw [h]
  rfl

/-! ## The parts of a skeleton's module -/

theorem elementClass?_toProgram (s : Skeleton) (o : Options) :
    elementClass? (s.toProgram o) = some (s.elementClass o) := by
  have himports : (s.imports.map Item.import).findSome? declaredClass? = none := by
    rw [List.findSome?_map, List.findSome?_eq_none_iff]
    intro i _
    rfl
  have hclass : declaredClass? (s.classItem o) = some (s.elementClass o) := by
    unfold Skeleton.classItem
    split <;> rfl
  simp only [elementClass?, Skeleton.toProgram, List.findSome?_append, himports, Option.none_or,
    List.findSome?_cons, hclass]

/-- Fields are neither methods nor constructors, so a search for those passes over them. -/
theorem findSome?_members {α : Type} {f : ClassMember → Option α}
    (hf : ∀ key value computed isStatic, f (.field key value computed isStatic) = none)
    (name : String) (props : List Property) (imports : List Import) :
    (skeletonOf name props imports).members.findSome? f =
      [(skeletonOf name props imports).observedAttributesGetter,
        (skeletonOf name props imports).constructorMember,
        .named "connectedCallback" [] [],
        .named "attributeChangedCallback" ["name", "oldValue", "newValue"] [attributeForwarding],
        .named "disconnectedCallback" [] []].findSome? f := by
  have hfields : (skeletonOf name props imports).fields.findSome? f = none := by
    simp only [skeletonOf, List.findSome?_map, List.findSome?_eq_none_iff]
    intro p _
    exact hf ..
  simp only [Skeleton.members, List.cons_append, List.append_assoc, List.findSome?_cons,
    List.findSome?_append, hfields, Option.none_or]
  rfl

/-- The constructor of the element class for a list of props. -/
def constructorOf (props : List Property) : Func :=
  .anonymous [] (.ofExpr (.callOf .superRef []) ::
    (props.map (·.binding) ++ [accessorDefinitions props]))

section Views

variable (name : String) (props : List Property) (imports : List Import) (o : Options)

/-- The attributes that the class watches are the external names of the props that can change. -/
theorem observedNames_toProgram :
    observedNames ((skeletonOf name props imports).toProgram o) =
      (props.filter (!·.constant)).map (·.externalName) := by
  have hgetter : staticGetter? "observedAttributes" ((skeletonOf name props imports).elementClass o)
      = some (.anonymous [] [.return (some (.arrayOf (observedAttributes props)))]) := rfl
  rw [observedNames, elementClass?_toProgram, Option.bind_some, hgetter, Option.map_some,
    Option.getD_some]
  simp only [returnedStrings, Func.anonymous, Expr.arrayOf, observedAttributes,
    List.findSome?_cons, Option.getD_some, List.filterMap_map]
  exact congrFun List.filterMap_eq_map' (props.filter (!·.constant))

theorem constructor?_toProgram :
    (elementClass? ((skeletonOf name props imports).toProgram o)).bind constructor? =
      some (constructorOf props) := by
  rw [elementClass?_toProgram, Option.bind_some]
  exact findSome?_members (fun _ _ _ _ => rfl) name props imports

/-- The descriptors of the class are the accessors of the props. -/
theorem descriptors_toProgram :
    descriptors ((skeletonOf name props imports).toProgram o) = props.map (·.accessor) := by
  have hbindings : (props.map (·.binding)).findSome? definedProperties? = none := by
    simp only [List.findSome?_map, List.findSome?_eq_none_iff]
    intro p _
    rfl
  rw [descriptors, constructor?_toProgram, Option.bind_some]
  simp only [constructorOf, Func.anonymous, List.findSome?_cons, List.findSome?_append, hbindings, Option.none_or]
  rfl

/-- A changed attribute is assigned to the property with the attribute's name. -/
theorem attributeChanged_toProgram :
    (elementClass? ((skeletonOf name props imports).toProgram o)).bind
        (method? "attributeChangedCallback") =
      some (.anonymous [.identifier "name", .identifier "oldValue", .identifier "newValue"]
        [attributeForwarding]) := by
  rw [elementClass?_toProgram, Option.bind_some]
  exact findSome?_members (fun _ _ _ _ => rfl) name props imports

end Views

end CustomElement.Component
