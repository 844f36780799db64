import CustomElement.Component.Parse
import CustomElement.Proofs.Component.Projection
import CustomElement.Proofs.Script.FitStatements

/-!
# What was parsed or compiled can be printed

The items of a script that parses have a written form, and so have the initial values that the props of
a component take from them. The module of a component holds nothing else that could fail to have one
(`toProgram_printable`), so whatever is compiled can be printed.
-/

namespace CustomElement.Component

open CustomElement.Tree

/-! ## Props -/

/-- The initial value of a prop, if it has one, has a written form. -/
def Property.isPrintable (p : Property) : Bool :=
  printableOption .all p.initialValue

theorem isPrintable_of_declarators {kind : VariableKind} {declarations : List Declarator}
    {props : List Property} (hd : printableDeclarators .all declarations = true)
    (h : declarations.mapM (propertyOfDeclarator kind) = .ok props) :
    ∀ p ∈ props, p.isPrintable = true := by
  replace h := forall₂_of_mapM_ok h
  induction h with
  | nil => exact List.forall_mem_nil _
  | @cons d p ds ps hp hps ih =>
    obtain ⟨target, init⟩ := d
    obtain ⟨hd, hds⟩ := Bool.and_eq_true_iff.1 hd
    obtain ⟨-, hinit⟩ := Bool.and_eq_true_iff.1 hd
    refine List.forall_mem_cons.2 ⟨?_, ih hds⟩
    cases target with
    | identifier name =>
      cases hp
      exact hinit
    | _ => cases hp

theorem isPrintable_of_declaration {d : Declaration} {props : List Property}
    (hd : d.printable .all = true) (h : propertiesOfDeclaration d = .ok props) :
    ∀ p ∈ props, p.isPrintable = true := by
  cases d with
  | function f =>
    cases hname : f.name with
    | none =>
      simp only [propertiesOfDeclaration, hname] at h
      cases h
    | some name =>
      simp only [propertiesOfDeclaration, hname] at h
      cases h
      exact List.forall_mem_singleton.2 hd
  | classDef c => cases h
  | _ kind declarations => exact isPrintable_of_declarators hd h

theorem isPrintable_of_clause {c : ExportClause} {p : Property} (h : propertyOfClause c = .ok p) :
    p.isPrintable = true := by
  unfold propertyOfClause at h
  split at h
  · split at h
    · cases h
      rfl
    · cases h
  · cases h

theorem isPrintable_of_export {e : NamedExport} {props : List Property}
    (he : e.printable .all = true) (h : propertiesOfExport e = .ok props) :
    ∀ p ∈ props, p.isPrintable = true := by
  obtain ⟨declaration, clauses, source⟩ := e
  cases declaration with
  | some d => exact isPrintable_of_declaration he h
  | none =>
    unfold propertiesOfExport at h
    dsimp only at h
    split at h
    · cases h
    · cases source with
      | some source => cases h
      | none =>
        intro p hp
        obtain ⟨c, -, hc⟩ := exists_mem_of_mapM_ok h p hp
        exact isPrintable_of_clause hc

theorem isPrintable_of_exports {exports : List NamedExport} {props : List Property}
    (he : ∀ e ∈ exports, e.printable .all = true) (h : propertiesOfExports exports = .ok props) :
    ∀ p ∈ props, p.isPrintable = true := by
  intro p hp
  obtain ⟨lists, hlists, h⟩ := ok_of_bind h
  obtain rfl := Except.ok.inj h
  obtain ⟨l, hl, hp⟩ := List.mem_flatten.1 hp
  obtain ⟨e, hmem, hprops⟩ := exists_mem_of_mapM_ok hlists l hl
  exact isPrintable_of_export (he e hmem) hprops p hp

/-! ## The element module -/

theorem printable_keyOf (name : String) : (keyOf name).printable .all = true := by
  unfold keyOf
  split <;> rfl

theorem printable_dottedPath (path : String) : (Skeleton.dottedPath path).printable .all = true := by
  have hfold : ∀ (parts : List (List Char)) (e : Expr), e.printable .all = true →
      (parts.foldl (fun e part => e.dot (String.ofList part)) e).printable .all = true := by
    intro parts
    induction parts with
    | nil => exact fun e he => he
    | cons part rest ih => exact fun e he => ih _ (Bool.and_eq_true_iff.2 ⟨he, rfl⟩)
  unfold Skeleton.dottedPath
  split
  · rfl
  · exact hfold _ _ rfl

theorem printable_pair {key value : Expr} (hk : key.printable .all = true) (hv : value.printable .all = true) :
    (ObjectMember.pair key value).printable .all = true :=
  Script.printable_objectProperty hk hv (fun h => by cases h) false false

theorem printable_accessor (p : Property) : p.accessor.printable .all = true := by
  refine printable_pair (printable_keyOf _) ?_
  have hget : (ObjectMember.pair (.identifier "get") p.getter).printable .all = true :=
    printable_pair rfl rfl
  cases hconst : p.constant with
  | true => exact Script.and_true hget rfl
  | false => exact Script.and_true hget (Script.and_true (printable_pair rfl rfl) rfl)

theorem printable_accessors (props : List Property) :
    printableMembers .all (props.map (·.accessor)) = true := by
  induction props with
  | nil => rfl
  | cons p rest ih => exact Script.and_true (printable_accessor p) ih

theorem printable_observedAttributes (props : List Property) :
    printableElements .all ((observedAttributes props).map some) = true := by
  unfold observedAttributes
  induction props.filter (!·.constant) with
  | nil => rfl
  | cons p rest ih => exact ih

/-- The statements after those that bind props, behind bindings with a written form. -/
theorem printable_bindings {props : List Property} (h : ∀ p ∈ props, p.isPrintable = true)
    {rest : List Stmt} (hrest : printableStmts .all rest = true) :
    printableStmts .all (props.map (·.binding) ++ rest) = true := by
  induction props with
  | nil => exact hrest
  | cons p props ih =>
    obtain ⟨hp, hprops⟩ := List.forall_mem_cons.1 h
    have hbinding : p.binding.printable .all = true :=
      Script.and_true (Script.and_true rfl hp) rfl
    exact Script.and_true hbinding (ih hprops)

/-- The members after the fields of a class. -/
theorem printable_fields (props : List Property) {rest : List ClassMember}
    (hrest : printableClassMembers .all rest = true) :
    printableClassMembers .all (props.map (·.field) ++ rest) = true := by
  induction props with
  | nil => exact hrest
  | cons p props ih =>
    have hfield : p.field.printable .all = true := Script.and_true (printable_keyOf _) rfl
    exact Script.and_true hfield ih

theorem printable_accessorDefinitions (props : List Property) :
    (accessorDefinitions props).printable .all = true := by
  have harguments : printableExprs .all [.thisRef, .object (props.map (·.accessor))] = true :=
    Script.and_true (a := (Expr.object _).printable .all) (printable_accessors props) rfl
  exact harguments

/-- The module of a component has a written form, if the initial values of its props have one. -/
theorem toProgram_printable (name : String) {props : List Property} (imports : List Import)
    (o : Options) (h : ∀ p ∈ props, p.isPrintable = true) :
    ((skeletonOf name props imports).toProgram o).printable .all = true := by
  have hbody : printableStmts .all (skeletonOf name props imports).constructorBody = true :=
    printable_bindings h (Script.and_true (printable_accessorDefinitions props) rfl)
  have hgetter : (skeletonOf name props imports).observedAttributesGetter.printable .all = true :=
    Script.and_true (printable_observedAttributes props) rfl
  have hconstructor : (skeletonOf name props imports).constructorMember.printable .all = true := hbody
  have hmembers : printableClassMembers .all (skeletonOf name props imports).members = true := by
    rw [Skeleton.members, show (skeletonOf name props imports).methods = [] from rfl,
      List.append_nil]
    exact Script.and_true hgetter (printable_fields props (Script.and_true hconstructor rfl))
  have hclass : ((skeletonOf name props imports).elementClass o).printable .all = true :=
    Script.and_true (printable_dottedPath o.baseClass) hmembers
  have hitem : ((skeletonOf name props imports).classItem o).printable .all = true := by
    unfold Skeleton.classItem
    split <;> exact hclass
  have hregistration : ((skeletonOf name props imports).registration o).printable .all = true :=
    Script.and_true (Script.and_true (printable_dottedPath o.registry) rfl) rfl
  rw [Program.printable, Skeleton.toProgram, List.all_append, List.all_map]
  exact Script.and_true (List.all_eq_true.2 fun i _ => Emit.printable_import i)
    (Script.and_true hitem (Script.and_true hregistration rfl))

/-! ## Programs that can be printed -/

/-- The named exports of a component's text stand in its script. -/
theorem printable_of_mem_exports {source : List Char} {p : Program} {parts : Parts}
    (hp : parse source = .ok p) (hparts : Parts.ofProgram p = .ok parts) :
    ∀ e ∈ parts.exports, e.printable .all = true := by
  obtain ⟨items, hitems, h⟩ := ok_of_bind hp
  obtain ⟨elements, -, h⟩ := ok_of_bind h
  obtain rfl := Except.ok.inj h
  intro e he
  rw [(parts_ofItems hparts).2] at he
  obtain ⟨item, hmem, hitem⟩ := List.mem_filterMap.1 he
  rcases List.mem_append.1 hmem with hmem | hmem
  · have hprintable := List.all_eq_true.1 (Script.parseModule_printable hitems) item hmem
    cases item with
    | exportNamed e' =>
      obtain rfl := Option.some.inj hitem
      exact hprintable
    | _ => cases hitem
  · obtain ⟨element, -, rfl⟩ := List.mem_map.1 hmem
    cases hitem

theorem compileSource_printable {name : String} {source : List Char} {o : Options} {out : Program}
    (h : compileSource name source o = .ok out) : out.printable .all = true := by
  obtain ⟨p, hp, h⟩ := ok_of_bind h
  obtain ⟨parts, props, hparts, hprops, h⟩ := compileProgram_ok h
  obtain ⟨-, -, rfl⟩ := synthesize_ok h
  have hexports := printable_of_mem_exports (ok_of_mapError hp) hparts
  exact toProgram_printable name parts.imports o (isPrintable_of_exports hexports hprops)

theorem exists_program_of_printable {p : Program} (h : p.printable .all = true) (o : Emit.Options) :
    ∃ code, Emit.program p o = .ok code := by
  have hok : (Emit.program p o).isOk = true := (Emit.program_isOk p o).trans h
  cases hcode : Emit.program p o with
  | error fault =>
    rw [hcode] at hok
    cases hok
  | ok code => exact ⟨code, rfl⟩

/-- Whatever the parser accepts can be printed, and so can whatever is compiled. -/
theorem accepted_is_printed :
    (∀ (text : List Char) (items : List Item), Script.parseModule text = .ok items →
      ∀ eo : Emit.Options, ∃ code, Emit.program ⟨.module, items⟩ eo = .ok code) ∧
    ∀ (name : String) (source : List Char) (o : Options) (out : Program),
      compileSource name source o = .ok out →
        ∀ eo : Emit.Options, ∃ code, Emit.program out eo = .ok code :=
  ⟨fun _ _ h => exists_program_of_printable (Script.parseModule_printable h),
    fun _ _ _ _ h => exists_program_of_printable (compileSource_printable h)⟩

/-- A script with an accessor, a key in brackets and an optional access. -/
def accessorScript : List Char :=
  "({ get a() {}, [b]: c?.d })".toList

/-- A component that exports an object with an accessor. -/
def accessorComponent : List Char :=
  "export let a = { get b() {} }".toList

theorem accessors_are_printed :
    (∃ items code, Script.parseModule accessorScript = .ok items ∧
      Emit.program ⟨.module, items⟩ {} = .ok code) ∧
    ∃ out code, compileSource "x-card" accessorComponent {} = .ok out ∧
      Emit.program out {} = .ok code := by
  have hscript : (Script.parseModule accessorScript).isOk = true := by decide +kernel
  have hcomponent : (compileSource "x-card" accessorComponent {}).isOk = true := by decide +kernel
  constructor
  · cases hitems : Script.parseModule accessorScript with
    | error d =>
      rw [hitems] at hscript
      cases hscript
    | ok items =>
      obtain ⟨code, hcode⟩ := accepted_is_printed.1 accessorScript items hitems {}
      exact ⟨items, code, rfl, hcode⟩
  · cases hout : compileSource "x-card" accessorComponent {} with
    | error d =>
      rw [hout] at hcomponent
      cases hcomponent
    | ok out =>
      obtain ⟨code, hcode⟩ := accepted_is_printed.2 "x-card" accessorComponent {} out hout {}
      exact ⟨out, code, rfl, hcode⟩

end CustomElement.Component
