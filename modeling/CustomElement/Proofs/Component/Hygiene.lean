import CustomElement.Proofs.Component.ElementModule
import CustomElement.Proofs.Component.Projection
import CustomElement.Proofs.Component.Stages
import CustomElement.Proofs.Tree.Scope

/-!
# What the names in a constructor mean

The bindings of a component's props share the scope of the constructor with names that every
constructor has: the parameter `value` of the functions that store, and the global `Object`. A
function that reads a prop always reads the prop's own binding, and a function that stores always
stores its argument. What it stores into is the prop's own binding unless that is called `value`,
and `Object` is the global object unless a binding is called so. `accessor_names_resolve` says that
there are no other exceptions; a variable `value` compiles to a function that assigns its parameter
to itself (`value_captured`).

A prop that exports a name from a list has that name for its binding and as its first value. The
binding stands between the value and what the name means outside of the class, so the constructor
reads each such constant before it has a value (`reexport_reads_itself`).
-/

namespace CustomElement.Component

open CustomElement.Tree

/-! ## Names in an accessor -/

section Meaning

variable (f : Func) (i : Nat) (entry : ObjectMember)

/-- A descriptor's `get` returns a name that statement `i` of the constructor declares. -/
def GetsFrom : Prop :=
  ∃ get name, getter? entry = some get ∧ returnedName? get = some name ∧
    f.resolve [get] name = some (1, .declaration i)

/-- A descriptor's `set` assigns to a name that statement `i` of the constructor declares. -/
def SetsTo : Prop :=
  ∃ set names, setter? entry = some set ∧ assignedNames? set = some names ∧
    f.resolve [set] names.1 = some (1, .declaration i)

/-- A descriptor's `set` assigns its own parameter. -/
def SetsArgument : Prop :=
  ∃ set names, setter? entry = some set ∧ assignedNames? set = some names ∧
    f.resolve [set] names.2 = some (0, .parameter 0)

end Meaning

/-! ## The scope of the constructor -/

theorem body_constructorOf {props : List Property} {i : Nat} {p : Property}
    (hp : props[i]? = some p) : (constructorOf props).body[i + 1]? = some p.binding := by
  obtain ⟨hi, rfl⟩ := List.getElem?_eq_some_iff.1 hp
  simp [constructorOf, Func.anonymous, List.getElem?_append, hi]

/-- Of statements that are the bindings of props and a last one without names, the first binding
with a name binds it. -/
theorem binder?_bindings (last : Stmt) (hlast : last.declared = []) (name : String) (k : Nat)
    (props : List Property) :
    Scope.binder? (scopeFrom .declaration k ((props.map (·.binding) ++ [last]).map (·.declared)))
        name =
      (props.findIdx? (·.internalName == name)).map fun j => .declaration (k + j) := by
  induction props generalizing k with
  | nil =>
    simp only [List.map_nil, List.nil_append, List.map_cons, scopeFrom, hlast]
    rfl
  | cons p props ih =>
    have hdeclared : p.binding.declared = [p.internalName] := rfl
    simp only [List.map_cons, List.cons_append, scopeFrom, hdeclared, List.map_nil,
      List.nil_append, Scope.binder?_cons, List.findIdx?_cons, ih]
    split
    · rfl
    · rw [Option.map_map]
      congr 1
      funext j
      simp only [Function.comp_apply, Binder.declaration.injEq]
      omega

/-- The constructor binds the names of the bindings, and `arguments`. -/
theorem binder?_constructorOf (props : List Property) (name : String) :
    (constructorOf props).scope.binder? name =
      ((props.findIdx? (·.internalName == name)).map fun j => .declaration (1 + j)).or
        (Scope.binder? [("arguments", .arguments)] name) := by
  rw [Func.scope, Scope.binder?_append, Scope.binder?_append]
  have hbody := binder?_bindings (accessorDefinitions props) rfl name 1 props
  have hparams : Scope.binder? (parameterScope (constructorOf props).params) name = none := rfl
  rw [hparams, Option.or_none]
  exact congrArg (Option.or · _) hbody

/-- Where bindings are apart, the name of a binding is bound by that binding. -/
theorem binder?_internalName {props : List Property} (hapart : props.Pairwise Property.Apart)
    {i : Nat} {p : Property} (hp : props[i]? = some p) :
    (constructorOf props).scope.binder? p.internalName = some (.declaration (i + 1)) := by
  obtain ⟨hi, rfl⟩ := List.getElem?_eq_some_iff.1 hp
  have hfirst : props.findIdx? (·.internalName == props[i].internalName) = some i := by
    rw [List.findIdx?_eq_some_iff_getElem]
    refine ⟨hi, beq_self_eq_true _, fun j hj => ?_⟩
    have hne := (List.pairwise_iff_getElem.1 hapart j i (by omega) hi hj).internal
    simpa using hne
  rw [binder?_constructorOf, hfirst]
  simp [Nat.add_comm]

theorem binder?_eq_declaration_iff (props : List Property) {name : String}
    (hname : name ≠ "arguments") :
    (∃ i, (constructorOf props).scope.binder? name = some (.declaration i)) ↔
      ∃ p ∈ props, p.internalName = name := by
  have harguments : Scope.binder? [("arguments", .arguments)] name = none := by
    rw [Scope.binder?_cons, if_neg (by simpa using hname.symm)]
    rfl
  rw [binder?_constructorOf, harguments, Option.or_none]
  constructor
  · rintro ⟨i, hi⟩
    obtain ⟨j, hj, -⟩ := Option.map_eq_some_iff.1 hi
    obtain ⟨hlt, hbound, -⟩ := List.findIdx?_eq_some_iff_getElem.1 hj
    exact ⟨props[j], List.getElem_mem hlt, by simpa using hbound⟩
  · rintro ⟨p, hp, hbound⟩
    have hsome : (props.findIdx? (·.internalName == name)).isSome = true := by
      rw [List.findIdx?_isSome, List.any_eq_true]
      exact ⟨p, hp, by simpa using hbound⟩
    obtain ⟨j, hj⟩ := Option.isSome_iff_exists.1 hsome
    exact ⟨1 + j, by rw [hj]; rfl⟩

/-! ## Accessors -/

/-- An arrow function that does not bind the name of a binding leaves it to that binding. -/
theorem resolve_internalName {props : List Property} (hapart : props.Pairwise Property.Apart)
    {i : Nat} {p : Property} (hp : props[i]? = some p) {arrow : Expr}
    (hfree : (arrowScope arrow).binder? p.internalName = none) :
    (constructorOf props).resolve [arrow] p.internalName = some (1, .declaration (i + 1)) := by
  have hbound := binder?_internalName hapart hp
  rw [Func.resolve, List.map_cons, List.cons_append, resolve_of_binder?_eq_none hfree,
    List.map_nil, List.nil_append, resolve_of_binder? hbound]
  rfl

theorem getsFrom_accessor {props : List Property} (hapart : props.Pairwise Property.Apart)
    {i : Nat} {p : Property} (hp : props[i]? = some p) :
    GetsFrom (constructorOf props) (i + 1) p.accessor :=
  ⟨p.getter, p.internalName, getter?_accessor p, rfl, resolve_internalName hapart hp rfl⟩

theorem arrowScope_setter (p : Property) : arrowScope p.setter = [("value", .parameter 0)] :=
  rfl

theorem setsArgument_accessor (props : List Property) {p : Property} (h : p.constant = false) :
    SetsArgument (constructorOf props) p.accessor := by
  refine ⟨p.setter, (p.internalName, "value"), setter?_accessor h, rfl, ?_⟩
  rfl

/-- A parameter `value` stands between a binding of that name and the assignment. -/
theorem setsTo_accessor_iff {props : List Property} (hapart : props.Pairwise Property.Apart)
    {i : Nat} {p : Property} (hp : props[i]? = some p) (h : p.constant = false) :
    SetsTo (constructorOf props) (i + 1) p.accessor ↔ p.internalName ≠ "value" := by
  have hsetter := setter?_accessor h
  constructor
  · rintro ⟨set, names, hset, hnames, hresolve⟩ hvalue
    obtain rfl := Option.some.inj (hsetter.symm.trans hset)
    obtain rfl := Option.some.inj hnames
    have hcaught : (arrowScope p.setter).binder? p.internalName = some (.parameter 0) := by
      rw [hvalue]
      rfl
    rw [Func.resolve, List.map_cons, List.cons_append, resolve_of_binder? hcaught] at hresolve
    cases hresolve
  · intro hne
    refine ⟨p.setter, (p.internalName, "value"), hsetter, rfl, ?_⟩
    have hfree : (arrowScope p.setter).binder? p.internalName = none := by
      rw [arrowScope_setter, Scope.binder?_cons, if_neg (by simpa using hne.symm)]
      rfl
    exact resolve_internalName hapart hp hfree

theorem object_resolves_iff (props : List Property) :
    (∃ i, (constructorOf props).resolve [] "Object" = some (0, .declaration i)) ↔
      ∃ p ∈ props, p.internalName = "Object" := by
  rw [← binder?_eq_declaration_iff props (by decide)]
  refine exists_congr fun i => ?_
  rw [Func.resolve, List.map_nil, List.nil_append]
  cases hbinder : (constructorOf props).scope.binder? "Object" with
  | none => rw [resolve_of_binder?_eq_none hbinder]; simp [Tree.resolve]
  | some b => rw [resolve_of_binder? hbinder]; simp

/-- The names in the accessors of a component. Every `get` returns the prop's own binding, the
statement after those of the props in front of it, and every `set` assigns its argument. It assigns
to the prop's own binding unless that is called `value`, and `Object` is the global object unless a
binding is called so. -/
theorem accessor_names_resolve {name : String} {props : List Property} {imports : List Import}
    {o : Options} {out : Program} (h : synthesize name props imports o = .ok out) :
    ∃ f, (elementClass? out).bind constructor? = some f ∧
      (∀ i p, props[i]? = some p → ∃ entry, (descriptors out)[i]? = some entry ∧
        f.body[i + 1]? = some p.binding ∧ GetsFrom f (i + 1) entry ∧
        (p.constant = false →
          SetsArgument f entry ∧ (SetsTo f (i + 1) entry ↔ p.internalName ≠ "value"))) ∧
      ((∃ i, f.resolve [] "Object" = some (0, .declaration i)) ↔
        ∃ p ∈ props, p.internalName = "Object") := by
  obtain ⟨-, hclash, rfl⟩ := synthesize_ok h
  have hapart := (firstClash?_eq_none_iff.1 hclash).2
  refine ⟨constructorOf props, constructor?_toProgram .., fun i p hp => ?_,
    object_resolves_iff props⟩
  refine ⟨p.accessor, ?_, body_constructorOf hp, getsFrom_accessor hapart hp, fun hchange =>
    ⟨setsArgument_accessor props hchange, setsTo_accessor_iff hapart hp hchange⟩⟩
  rw [descriptors_toProgram, List.getElem?_map, hp, Option.map_some]

/-- The props of a component that exports the variables `title` and `value`. -/
def titleAndValue : List Property :=
  [⟨"title", "title", none, false⟩, ⟨"value", "value", none, false⟩]

theorem value_captured :
    ∃ out f title value, synthesize "x-field" titleAndValue [] {} = .ok out ∧
      (elementClass? out).bind constructor? = some f ∧ descriptors out = [title, value] ∧
      GetsFrom f 1 title ∧ SetsTo f 1 title ∧ GetsFrom f 2 value ∧ ¬ SetsTo f 2 value := by
  obtain ⟨f, hf, haccessors, -⟩ :=
    @accessor_names_resolve "x-field" titleAndValue [] {} _ rfl
  obtain ⟨title, htitle, -, hget₁, hset₁⟩ := haccessors 0 _ rfl
  obtain ⟨value, hvalue, -, hget₂, hset₂⟩ := haccessors 1 _ rfl
  obtain rfl := Option.some.inj htitle
  obtain rfl := Option.some.inj hvalue
  exact ⟨_, f, _, _, rfl, hf, rfl, hget₁, (hset₁ rfl).2.2 (by decide), hget₂,
    fun hset => (hset₂ rfl).2.1 hset rfl⟩

/-! ## Exported names of other bindings -/

theorem exists_of_forall₂ {α β : Type} {R : α → β → Prop} {xs : List α} {ys : List β}
    (h : List.Forall₂ R xs ys) {i : Nat} {x : α} (hx : xs[i]? = some x) :
    ∃ y, ys[i]? = some y ∧ R x y := by
  obtain ⟨hi, rfl⟩ := List.getElem?_eq_some_iff.1 hx
  have hi' : i < ys.length := h.length_eq ▸ hi
  exact ⟨ys[i], List.getElem?_eq_getElem hi', h.get hi hi'⟩

/-- A name of a list of exports is the value of a constant of the same name. In the constructor the
name means this constant, also where it is read to give the constant its value. -/
theorem reexport_reads_itself {name : String} {p out : Program} {o : Options}
    (h : compileProgram name p o = .ok out) {i : Nat} {c : ExportClause}
    (hc : (exportedBy p)[i]? = some (.clause c)) :
    ∃ f binding, (elementClass? out).bind constructor? = some f ∧
      (Exported.clause c).internalName? = some binding ∧
      f.body[i + 1]? = some (.variable .const binding (some (.identifier binding))) ∧
      f.resolve [] binding = some (0, .declaration (i + 1)) := by
  obtain ⟨parts, props, hparts, hprops, h⟩ := compileProgram_ok h
  obtain ⟨-, hclash, rfl⟩ := synthesize_ok h
  have hapart := (firstClash?_eq_none_iff.1 hclash).2
  have hdescribes : List.Forall₂ Exported.Describes (exportedBy p) props := by
    rw [exportedBy, ← (parts_ofItems hparts).2]
    exact describes_exports hprops
  obtain ⟨prop, hprop, hdescribed⟩ := exists_of_forall₂ hdescribes hc
  refine ⟨constructorOf props, prop.internalName, constructor?_toProgram .., hdescribed.internal,
    ?_, ?_⟩
  · have hconstant : prop.constant = true := hdescribed.constant
    have hvalue : prop.initialValue = some (.identifier prop.internalName) :=
      hdescribed.value.trans (congrArg (Option.map Expr.identifier) hdescribed.internal)
    rw [body_constructorOf hprop, Property.binding, hconstant, hvalue]
    rfl
  · have hbound := binder?_internalName hapart hprop
    rw [Func.resolve, List.map_nil, List.nil_append, resolve_of_binder? hbound]

theorem icon_reads_itself :
    ∃ out f, compileProgram "x-card" mixedExports {} = .ok out ∧
      (elementClass? out).bind constructor? = some f ∧
      f.body[4]? = some (.variable .const "icon" (some (.identifier "icon"))) ∧
      f.resolve [] "icon" = some (0, .declaration 4) := by
  obtain ⟨f, binding, hf, hbinding, hbody, hresolve⟩ :=
    @reexport_reads_itself "x-card" mixedExports _ {} rfl 3 _ rfl
  obtain rfl : "icon" = binding := Option.some.inj hbinding
  exact ⟨_, f, rfl, hf, hbody, hresolve⟩

end CustomElement.Component
