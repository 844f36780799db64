import CustomElement.Proofs.Component.ElementModule
import CustomElement.Proofs.Component.Stages

/-!
# From exports to the class

Each name that a component exports has a field of the element class, a binding in the constructor
and an accessor, in the order of the source. `exports_projected` says so of every compiled
component, together with the rest of the module: the imports in front of the class, and the
registration after it. The names in a list count only where the export has no declaration
(`listed_names_dropped`).
-/

namespace CustomElement.Component

open CustomElement.Tree

/-! ## Exported names -/

/-- A place in the source that exports a name. -/
inductive Exported where
  | variable (kind : VariableKind) (d : Declarator)
  | function (f : Func)
  | clause (c : ExportClause)

namespace Exported

/-- The name that is seen from outside. -/
def externalName? : Exported → Option String
  | .variable _ ⟨.identifier name, _⟩ => some name
  | .function f => f.name
  | .clause (.named _ exported) => exported.name?
  | _ => none

/-- The name of what is exported. -/
def internalName? : Exported → Option String
  | .clause (.named binding _) => binding.name?
  | .clause _ => none
  | e => e.externalName?

/-- The value that the name starts with. -/
def value? : Exported → Option Expr
  | .variable _ d => d.init
  | .function f => some (.function f)
  | e => e.internalName?.map .identifier

/-- Whether the name can get another value: it is that of a variable, not of a constant. -/
def changes : Exported → Bool
  | .variable kind _ => kind != .const
  | _ => false

/-- What a declaration exports. A class exports no name that a component could have. -/
def ofDeclaration : Declaration → List Exported
  | .variables kind declarations => declarations.map (.variable kind)
  | .function f => [.function f]
  | .classDef _ => []

/-- What an export exports: the names of its declaration, or else of its list. -/
def ofExport (e : NamedExport) : List Exported :=
  match e.declaration with
  | some d => ofDeclaration d
  | none => e.clauses.map .clause

end Exported

/-- The named export that an item is. -/
def namedExport? : Item → Option NamedExport
  | .exportNamed e => some e
  | _ => none

/-- The import that an item is. -/
def import? : Item → Option Import
  | .import i => some i
  | _ => none

/-- What a program exports, in source order. -/
def exportedBy (p : Program) : List Exported :=
  (p.body.filterMap namedExport?).flatMap Exported.ofExport

/-- The imports of a program, in source order. -/
def importsOf (p : Program) : List Import :=
  p.body.filterMap import?

/-! ## Props of exported names -/

/-- A prop is what an exported name says it is. -/
structure Exported.Describes (e : Exported) (p : Property) : Prop where
  external : e.externalName? = some p.externalName
  internal : e.internalName? = some p.internalName
  value : p.initialValue = e.value?
  constant : p.constant = !e.changes

theorem parts_ofItems {items : List Item} {parts : Parts} (h : Parts.ofItems items = .ok parts) :
    parts.imports = items.filterMap import? ∧ parts.exports = items.filterMap namedExport? := by
  induction items generalizing parts with
  | nil =>
    obtain rfl := Except.ok.inj h
    exact ⟨rfl, rfl⟩
  | cons item rest ih =>
    cases item with
    | exportDefault e => cases h
    | exportAll source exported => cases h
    | «import» i =>
      obtain ⟨parts', hparts, h⟩ := ok_of_bind h
      obtain rfl := Except.ok.inj h
      obtain ⟨himports, hexports⟩ := ih hparts
      exact ⟨congrArg (i :: ·) himports, hexports⟩
    | exportNamed e =>
      obtain ⟨parts', hparts, h⟩ := ok_of_bind h
      obtain rfl := Except.ok.inj h
      obtain ⟨himports, hexports⟩ := ih hparts
      exact ⟨himports, congrArg (e :: ·) hexports⟩
    | element e =>
      obtain ⟨parts', hparts, h⟩ := ok_of_bind h
      obtain rfl := Except.ok.inj h
      obtain ⟨himports, hexports⟩ := ih hparts
      exact ⟨himports, hexports⟩
    | statement s =>
      obtain ⟨parts', hparts, h⟩ := ok_of_bind h
      obtain rfl := Except.ok.inj h
      obtain ⟨himports, hexports⟩ := ih hparts
      exact ⟨himports, hexports⟩

theorem describes_declarator {kind : VariableKind} {d : Declarator} {p : Property}
    (h : propertyOfDeclarator kind d = .ok p) : (Exported.variable kind d).Describes p := by
  obtain ⟨target, init⟩ := d
  cases target with
  | identifier name =>
    obtain rfl := Except.ok.inj h
    refine ⟨rfl, rfl, rfl, ?_⟩
    cases kind <;> rfl
  | _ => cases h

theorem describes_clause {c : ExportClause} {p : Property} (h : propertyOfClause c = .ok p) :
    (Exported.clause c).Describes p := by
  cases c with
  | named binding exported =>
    simp only [propertyOfClause] at h
    split at h
    · rename_i internal external hinternal hexternal
      obtain rfl := Except.ok.inj h
      exact ⟨hexternal, hinternal, (congrArg (Option.map Expr.identifier) hinternal).symm, rfl⟩
    · cases h
  | _ => cases h

theorem describes_declaration {d : Declaration} {props : List Property}
    (h : propertiesOfDeclaration d = .ok props) :
    List.Forall₂ Exported.Describes (Exported.ofDeclaration d) props := by
  cases d with
  | classDef c => cases h
  | function f =>
    simp only [propertiesOfDeclaration] at h
    split at h
    · rename_i name hname
      obtain rfl := Except.ok.inj h
      exact .cons ⟨hname, hname, rfl, rfl⟩ .nil
    · cases h
  | _ kind declarations =>
    rw [Exported.ofDeclaration, List.forall₂_map_left_iff]
    exact (forall₂_of_mapM_ok h).imp fun _ _ => describes_declarator

theorem describes_export {e : NamedExport} {props : List Property}
    (h : propertiesOfExport e = .ok props) :
    List.Forall₂ Exported.Describes (Exported.ofExport e) props := by
  unfold propertiesOfExport at h
  unfold Exported.ofExport
  cases hd : e.declaration with
  | some d =>
    rw [hd] at h
    exact describes_declaration h
  | none =>
    simp only [hd] at h
    split at h
    · cases h
    · split at h
      · cases h
      · rw [List.forall₂_map_left_iff]
        exact (forall₂_of_mapM_ok h).imp fun _ _ => describes_clause

/-- The props of exports are those of the exported names, in their order. -/
theorem describes_exports {exports : List NamedExport} {props : List Property}
    (h : propertiesOfExports exports = .ok props) :
    List.Forall₂ Exported.Describes (exports.flatMap Exported.ofExport) props := by
  obtain ⟨lists, hlists, h⟩ := ok_of_bind h
  obtain rfl := Except.ok.inj h
  rw [List.flatMap_def]
  refine List.rel_flatten ?_
  rw [List.forall₂_map_left_iff]
  exact (forall₂_of_mapM_ok hlists).imp fun _ _ => describes_export

/-! ## The class of a compiled component -/

/-- Whether a member of a class is a field of its instances. -/
def isInstanceField : ClassMember → Bool
  | .field _ _ _ isStatic => !isStatic
  | _ => false

/-- The fields of an instance of a class. -/
def instanceFields (c : ClassDef) : List ClassMember :=
  c.members.filter isInstanceField

/-- The key of a plain entry of an object literal, as it is written. -/
def entryKey? : ObjectMember → Option String
  | .property key _ .init false false false => keyName? key
  | _ => none

namespace Exported

variable (e : Exported)

/-- A member of a class is the field of an exported name: it has no value of its own. -/
def IsField (m : ClassMember) : Prop :=
  ∃ key external, m = .field key none false false ∧ keyName? key = some external ∧
    e.externalName? = some external

/-- A statement is the binding of an exported name. -/
def IsBinding (s : Stmt) : Prop :=
  ∃ internal, e.internalName? = some internal ∧
    s = .variable (if e.changes then .let else .const) internal e.value?

/-- An entry of a map of descriptors is the accessor of an exported name. Its function `get` returns
the name of the binding, and only if that can change, a function `set` assigns to it. -/
def IsAccessor (m : ObjectMember) : Prop :=
  ∃ external internal get, e.externalName? = some external ∧ e.internalName? = some internal ∧
    entryKey? m = some (Text.toLowerCamelCase external) ∧
    getter? m = some get ∧ returnedName? get = some internal ∧
    if e.changes then ∃ set, setter? m = some set ∧ assignedNames? set = some (internal, "value")
    else setter? m = none

end Exported

namespace Exported.Describes

variable {e : Exported} {p : Property}

theorem isField (h : e.Describes p) : e.IsField p.field :=
  ⟨keyOf p.externalName, p.externalName, rfl, keyName?_keyOf _, h.external⟩

theorem isBinding (h : e.Describes p) : e.IsBinding p.binding := by
  refine ⟨p.internalName, h.internal, ?_⟩
  rw [Property.binding, h.constant, h.value]
  cases e.changes <;> rfl

theorem isAccessor (h : e.Describes p) : e.IsAccessor p.accessor := by
  refine ⟨p.externalName, p.internalName, p.getter, h.external, h.internal, keyName?_keyOf _,
    getter?_accessor p, rfl, ?_⟩
  have hconstant := h.constant
  split
  · rename_i hchanges
    rw [hchanges] at hconstant
    exact ⟨p.setter, setter?_accessor hconstant, rfl⟩
  · rename_i hchanges
    rw [Bool.not_eq_true] at hchanges
    rw [hchanges] at hconstant
    exact setter?_accessor_of_constant hconstant

end Exported.Describes

/-- The attributes that a class watches are the exported names that can change. -/
theorem observed_of_describes {exported : List Exported} {props : List Property}
    (h : List.Forall₂ Exported.Describes exported props) :
    (props.filter (!·.constant)).map (·.externalName) =
      (exported.filter (·.changes)).filterMap (·.externalName?) := by
  induction h with
  | nil => rfl
  | @cons e p exported props hp _ ih =>
    have hchanges : (!p.constant) = e.changes := by rw [hp.constant, Bool.not_not]
    rw [List.filter_cons, List.filter_cons, hchanges]
    split
    · rw [List.map_cons, List.filterMap_cons, hp.external, ih]
    · exact ih

theorem instanceFields_elementClass (name : String) (props : List Property)
    (imports : List Import) (o : Options) :
    instanceFields ((skeletonOf name props imports).elementClass o) = props.map (·.field) := by
  have hfields : (props.map (·.field)).filter isInstanceField = props.map (·.field) := by
    rw [List.filter_eq_self]
    intro m hm
    obtain ⟨p, -, rfl⟩ := List.mem_map.1 hm
    rfl
  have hmembers : ((skeletonOf name props imports).elementClass o).members =
      [(skeletonOf name props imports).observedAttributesGetter] ++ props.map (·.field) ++
        [(skeletonOf name props imports).constructorMember, .named "connectedCallback" [] [],
          .named "attributeChangedCallback" ["name", "oldValue", "newValue"] [attributeForwarding],
          .named "disconnectedCallback" [] []] := by
    rw [Skeleton.elementClass, Skeleton.members]
    exact List.append_nil _
  rw [instanceFields, hmembers, List.filter_append, List.filter_append, hfields]
  exact List.append_nil _

/-- What a compiled component consists of. The module has the imports, the class and its
registration. The fields of the class, the bindings that its constructor makes and the entries of
the map that it passes to `Object.defineProperties` are those of the exported names, one each and in
their order, and the class watches the names that can change. -/
theorem exports_projected {name : String} {p out : Program} {o : Options}
    (h : compileProgram name p o = .ok out) :
    ∃ c className f declarations definition,
      out = ⟨.module, (importsOf p).map .import ++ [
        if o.exportClass then .exportNamed ⟨some (.classDef c), [], none⟩
        else .statement (.classDef c),
        .statement (.ofExpr (.callOf ((Skeleton.dottedPath o.registry).dot "define")
          [.string name, .identifier className]))]⟩ ∧
      c.name = some className ∧ constructor? c = some f ∧
      f.body = .ofExpr (.callOf .superRef []) :: declarations ++ [definition] ∧
      definedProperties? definition = some (descriptors out) ∧
      List.Forall₂ Exported.IsField (exportedBy p) (instanceFields c) ∧
      List.Forall₂ Exported.IsBinding (exportedBy p) declarations ∧
      List.Forall₂ Exported.IsAccessor (exportedBy p) (descriptors out) ∧
      observedNames out = ((exportedBy p).filter (·.changes)).filterMap (·.externalName?) := by
  obtain ⟨parts, props, hparts, hprops, h⟩ := compileProgram_ok h
  obtain ⟨-, -, rfl⟩ := synthesize_ok h
  obtain ⟨himports, hexports⟩ := parts_ofItems hparts
  have hdescribes : List.Forall₂ Exported.Describes (exportedBy p) props := by
    rw [exportedBy, ← hexports]
    exact describes_exports hprops
  refine ⟨(skeletonOf name props parts.imports).elementClass o, Text.toUpperCamelCase name,
    constructorOf props, props.map (·.binding), accessorDefinitions props, ?_, rfl,
    findSome?_members (fun _ _ _ _ => rfl) name props parts.imports, rfl, ?_, ?_, ?_, ?_, ?_⟩
  · rw [importsOf, ← himports]
    rfl
  · rw [descriptors_toProgram]
    rfl
  · rw [instanceFields_elementClass, List.forall₂_map_right_iff]
    exact hdescribes.imp fun _ _ => Exported.Describes.isField
  · rw [List.forall₂_map_right_iff]
    exact hdescribes.imp fun _ _ => Exported.Describes.isBinding
  · rw [descriptors_toProgram, List.forall₂_map_right_iff]
    exact hdescribes.imp fun _ _ => Exported.Describes.isAccessor
  · rw [observedNames_toProgram]
    exact observed_of_describes hdescribes

/-- A program with exports of every kind, between an import, a statement and an element. -/
def mixedExports : Program :=
  ⟨.module, [
    .exportNamed ⟨some (.variables .let [⟨.identifier "title", none⟩,
      ⟨.identifier "count", some .thisRef⟩]), [], none⟩,
    .import ⟨[.default "icon"], .string "./icon"⟩,
    .exportNamed ⟨some (.function ⟨some "reset", [], [], false, false⟩), [], none⟩,
    .statement .debugger,
    .exportNamed ⟨none, [.named (.identifier "icon") (.literal (.string "my-icon"))], none⟩,
    .element ⟨"p", [], []⟩,
    .exportNamed ⟨some (.variables .const [⟨.identifier "limit", some .thisRef⟩]), [], none⟩]⟩

theorem mixedExports_projected :
    ∃ out c, compileProgram "x-card" mixedExports {} = .ok out ∧
      (exportedBy mixedExports).map (·.externalName?) =
        [some "title", some "count", some "reset", some "my-icon", some "limit"] ∧
      List.Forall₂ Exported.IsField (exportedBy mixedExports) (instanceFields c) ∧
      List.Forall₂ Exported.IsAccessor (exportedBy mixedExports) (descriptors out) ∧
      observedNames out = ["title", "count"] := by
  obtain ⟨c, _, _, _, _, -, -, -, -, -, hfields, -, haccessors, hobserved⟩ :=
    @exports_projected "x-card" mixedExports _ {} rfl
  exact ⟨_, c, rfl, rfl, hfields, haccessors, hobserved⟩

/-- All names of an export, those of its declaration and those of its list. -/
def Exported.mentionedIn (e : NamedExport) : List Exported :=
  (e.declaration.map ofDeclaration).getD [] ++ e.clauses.map .clause

/-- A program whose export has both a declaration and a list. -/
def declarationAndList : Program :=
  ⟨.module, [.exportNamed ⟨some (.variables .let [⟨.identifier "a", none⟩]),
    [.named (.identifier "b") (.identifier "c")], none⟩]⟩

theorem listed_names_dropped :
    ∃ out c, compileProgram "x-a" declarationAndList {} = .ok out ∧ elementClass? out = some c ∧
      ¬ List.Forall₂ Exported.IsField
        ((declarationAndList.body.filterMap namedExport?).flatMap Exported.mentionedIn)
        (instanceFields c) := by
  refine ⟨_, _, rfl, rfl, fun hfields => ?_⟩
  have hlength : 2 = 1 := hfields.length_eq
  exact absurd hlength (by decide)

end CustomElement.Component
