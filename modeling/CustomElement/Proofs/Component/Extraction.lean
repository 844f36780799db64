import CustomElement.Component.Property
import Mathlib.Logic.Basic

/-!
# Exports that give no props

The props of a list of exports are found in source order, and the first place at which there is none
ends it. `Place` lists what is looked at in an export: each variable of a declaration, its function
or class, or else the source and each clause of a list of names. `extraction_stops_at_first` says
that lists are taken one after the other, which exports are refused, and that the kind of report
belongs to the first place that is. The list of an export with a declaration is not looked at
(`listed_clause_ignored`).
-/

namespace CustomElement.Component

open CustomElement.Tree

/-! ## Places in an export -/

/-- The variable is a plain name. -/
def isPlainDeclarator (d : Declarator) : Bool :=
  match d.target with
  | .identifier _ => true
  | _ => false

/-- The clause is a plain one, and both of its names are words or strings. -/
def isPlainClause : ExportClause → Bool
  | .named binding exported => binding.name?.isSome && exported.name?.isSome
  | _ => false

/-- A part of an export that is looked at in its own right. -/
inductive Place where
  /-- All of an export with neither a declaration nor a list of names. -/
  | nothing
  | classDef (c : ClassDef)
  | function (f : Func)
  | declarator (d : Declarator)
  | source (s : Literal)
  | clause (c : ExportClause)

namespace Place

/-- The places in a list of names, with the module that it is from in front of them. -/
def ofClauses (source : Option Literal) : List ExportClause → List Place
  | [] => [.nothing]
  | clauses => source.toList.map .source ++ clauses.map .clause

/-- The places in an export, in the order in which they are looked at. -/
def ofExport (e : NamedExport) : List Place :=
  match e.declaration with
  | some (.variables _ declarations) => declarations.map .declarator
  | some (.function f) => [.function f]
  | some (.classDef c) => [.classDef c]
  | none => ofClauses e.source e.clauses

/-- The kind of report on a place that gives no prop. -/
def refusal? : Place → Option Diagnostic.Kind
  | .nothing => some .malformedExport
  | .classDef _ => some .unsupportedDeclarationShape
  | .function f => if f.name.isSome then none else some .malformedExport
  | .declarator d => if isPlainDeclarator d then none else some .unsupportedBindingPattern
  | .source _ => some .unsupportedExportShape
  | .clause c => if isPlainClause c then none else some .malformedSpecifier

@[simp]
theorem isSome_refusal?_declarator (d : Declarator) :
    (declarator d).refusal?.isSome = !isPlainDeclarator d := by
  rw [refusal?]
  cases isPlainDeclarator d <;> rfl

@[simp]
theorem isSome_refusal?_clause (c : ExportClause) :
    (clause c).refusal?.isSome = !isPlainClause c := by
  rw [refusal?]
  cases isPlainClause c <;> rfl

end Place

/-- An export that does not give its props: a class, a function without a name, a variable that is
not a plain name, or, where nothing is declared, no names at all, names from another module or a
clause that is not a plain one. -/
def Refused (e : NamedExport) : Prop :=
  match e.declaration with
  | some (.classDef _) => True
  | some (.function f) => f.name = none
  | some (.variables _ declarations) => ∃ d ∈ declarations, isPlainDeclarator d = false
  | none => e.clauses = [] ∨ e.source ≠ none ∨ ∃ c ∈ e.clauses, isPlainClause c = false

theorem refused_iff_exists_place (e : NamedExport) :
    Refused e ↔ ∃ place ∈ Place.ofExport e, place.refusal?.isSome = true := by
  unfold Refused Place.ofExport
  cases e.declaration with
  | none =>
    cases e.clauses with
    | nil => simp [Place.ofClauses, Place.refusal?]
    | cons c rest =>
      cases e.source with
      | none => simp [Place.ofClauses]
      | some s => simp [Place.ofClauses, Place.refusal?]
  | some d =>
    cases d with
    | classDef c => simp [Place.refusal?]
    | function f => simp [Place.refusal?]
    | _ kind declarations => simp

/-! ## Reports -/

/-- The kind of report that a failure leads to. -/
def reportKind? {α : Type} : Except PropertyFault α → Option Diagnostic.Kind
  | .error fault => some fault.diagnostic.kind
  | .ok _ => none

theorem reportKind?_bind_pure {α β : Type} (r : Except PropertyFault α) (g : α → β) :
    reportKind? (r >>= fun a => pure (g a)) = reportKind? r := by
  cases r <;> rfl

theorem reportKind?_mapM {α β : Type} (f : α → Except PropertyFault β) (xs : List α) :
    reportKind? (xs.mapM f) = xs.findSome? fun x => reportKind? (f x) := by
  induction xs with
  | nil => rfl
  | cons x xs ih =>
    rw [List.mapM_cons, List.findSome?_cons]
    cases f x with
    | error fault => rfl
    | ok y => exact (reportKind?_bind_pure _ _).trans ih

theorem reportKind?_declarator (kind : VariableKind) (d : Declarator) :
    reportKind? (propertyOfDeclarator kind d) = (Place.declarator d).refusal? := by
  obtain ⟨target, init⟩ := d
  cases target <;> rfl

theorem reportKind?_clause (c : ExportClause) :
    reportKind? (propertyOfClause c) = (Place.clause c).refusal? := by
  cases c with
  | named binding exported =>
    have hplain : isPlainClause (.named binding exported) = true ↔
        (∃ internal, binding.name? = some internal) ∧
          ∃ external, exported.name? = some external := by
      rw [isPlainClause, Bool.and_eq_true, Option.isSome_iff_exists, Option.isSome_iff_exists]
    simp only [propertyOfClause, Place.refusal?]
    split
    · rename_i internal external hinternal hexternal
      rw [if_pos (hplain.2 ⟨⟨internal, hinternal⟩, external, hexternal⟩)]
      rfl
    · rename_i hnames
      rw [if_neg]
      · rfl
      · rw [hplain]
        rintro ⟨⟨internal, hinternal⟩, external, hexternal⟩
        exact hnames internal external hinternal hexternal
  | _ => rfl

theorem reportKind?_export (e : NamedExport) :
    reportKind? (propertiesOfExport e) = (Place.ofExport e).findSome? Place.refusal? := by
  unfold propertiesOfExport Place.ofExport
  cases e.declaration with
  | none =>
    cases e.clauses with
    | nil => rfl
    | cons c rest =>
      cases e.source with
      | some s => rfl
      | none =>
        have hclauses : Place.ofClauses none (c :: rest) = (c :: rest).map .clause := rfl
        rw [hclauses, List.findSome?_map]
        exact (reportKind?_mapM ..).trans (by simp only [reportKind?_clause]; rfl)
  | some d =>
    cases d with
    | classDef c => rfl
    | function f =>
      simp only [propertiesOfDeclaration, Place.refusal?, List.findSome?_cons]
      cases f.name <;> rfl
    | _ kind declarations =>
      simp only [List.findSome?_map]
      exact (reportKind?_mapM ..).trans (by simp only [reportKind?_declarator]; rfl)

theorem findSome?_flatMap {α β γ : Type} (g : α → List β) (f : β → Option γ) (xs : List α) :
    (xs.flatMap g).findSome? f = xs.findSome? fun x => (g x).findSome? f := by
  induction xs with
  | nil => rfl
  | cons x xs ih =>
    rw [List.flatMap_cons, List.findSome?_append, List.findSome?_cons, ih]
    cases (g x).findSome? f <;> rfl

/-- The report on a list of exports is that on the first place which gives no prop. -/
theorem reportKind?_exports (exports : List NamedExport) :
    reportKind? (propertiesOfExports exports) =
      (exports.flatMap Place.ofExport).findSome? Place.refusal? := by
  rw [findSome?_flatMap, propertiesOfExports, reportKind?_bind_pure, reportKind?_mapM]
  simp only [reportKind?_export]

theorem isSome_reportKind?_iff {α : Type} (r : Except PropertyFault α) :
    (reportKind? r).isSome = true ↔ ∃ fault, r = .error fault := by
  cases r <;> simp [reportKind?]

theorem propertiesOfExports_append (xs ys : List NamedExport) :
    propertiesOfExports (xs ++ ys) = (do
      let ps ← propertiesOfExports xs
      let qs ← propertiesOfExports ys
      pure (ps ++ qs)) := by
  unfold propertiesOfExports
  rw [List.mapM_append]
  cases xs.mapM propertiesOfExport with
  | error fault => rfl
  | ok pss =>
    cases ys.mapM propertiesOfExport with
    | error fault => rfl
    | ok qss => exact congrArg Except.ok List.flatten_append

/-- How props are found. The exports of one list after another give the props of both or the first
report; there is a report exactly if an export is refused, and its kind belongs to the first place
that gives no prop. -/
theorem extraction_stops_at_first (xs ys exports : List NamedExport) :
    (propertiesOfExports (xs ++ ys) = do
      let ps ← propertiesOfExports xs
      let qs ← propertiesOfExports ys
      pure (ps ++ qs)) ∧
    ((∃ fault, propertiesOfExports exports = .error fault) ↔ ∃ e ∈ exports, Refused e) ∧
    ∀ fault, propertiesOfExports exports = .error fault →
      (exports.flatMap Place.ofExport).findSome? Place.refusal? = some fault.diagnostic.kind := by
  refine ⟨propertiesOfExports_append xs ys, ?_, ?_⟩
  · rw [← isSome_reportKind?_iff, reportKind?_exports, findSome?_flatMap,
      List.findSome?_isSome_iff]
    simp only [List.findSome?_isSome_iff, refused_iff_exists_place]
  · intro fault h
    rw [← reportKind?_exports, h]
    rfl

/-- Exports of a variable, of a clause that is not a plain one from another module, and of a
class. -/
def mixedFaults : List NamedExport :=
  [⟨some (.variables .let [⟨.identifier "a", none⟩]), [], none⟩,
    ⟨none, [.namespace (.identifier "n")], some ⟨.string "./m", none, none⟩⟩,
    ⟨some (.classDef ⟨none, none, []⟩), [], none⟩]

theorem mixedFaults_refused :
    ∃ fault, propertiesOfExports mixedFaults = .error fault ∧
      (mixedFaults.flatMap Place.ofExport).findSome? Place.refusal? =
        some fault.diagnostic.kind ∧
      fault.diagnostic.kind = .unsupportedExportShape :=
  ⟨_, rfl, (extraction_stops_at_first [] [] mixedFaults).2.2 _ rfl, rfl⟩

/-- An export of a variable that has a clause as well, and not a plain one. -/
def variableAndNamespace : NamedExport :=
  ⟨some (.variables .let [⟨.identifier "a", none⟩]), [.namespace (.identifier "n")], none⟩

/-- A clause that is not a plain one does not always make an export refused. -/
theorem listed_clause_ignored :
    ¬ ((∃ fault, propertiesOfExports [variableAndNamespace] = .error fault) ↔
      ∃ e ∈ [variableAndNamespace], Refused e ∨ ∃ c ∈ e.clauses, isPlainClause c = false) := by
  intro h
  have hclause : ∃ c ∈ variableAndNamespace.clauses, isPlainClause c = false :=
    ⟨_, List.mem_singleton_self _, rfl⟩
  obtain ⟨fault, hfault⟩ := h.2 ⟨_, List.mem_singleton_self _, .inr hclause⟩
  cases hfault

end CustomElement.Component
