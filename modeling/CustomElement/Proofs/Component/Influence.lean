import CustomElement.Proofs.Component.Projection

/-!
# What a compilation depends on

A component is compiled from its imports and its named exports. `compiled_from_imports_and_exports`
compares two programs that agree in these: their statements, their markup and the order in which
items of different kinds follow each other make no difference, neither to the module nor to the
report. A default or wildcard export anywhere in a program comes before all other faults, and the
first one is reported.
-/

namespace CustomElement.Component

open CustomElement.Tree

/-- Why a component cannot have an item. -/
def refusal? : Item → Option RefusedExport
  | .exportDefault _ => some .default
  | .exportAll .. => some .wildcard
  | _ => none

/-- The first export of a program that no component can have. -/
def firstRefusal? (p : Program) : Option RefusedExport :=
  p.body.findSome? refusal?

/-- The named exports of a program, in source order. -/
def namedExportsOf (p : Program) : List NamedExport :=
  p.body.filterMap namedExport?

theorem ofItems_eq_error_iff {items : List Item} {refused : RefusedExport} :
    Parts.ofItems items = .error refused ↔ items.findSome? refusal? = some refused := by
  induction items with
  | nil => exact ⟨fun h => (nomatch h), fun h => (nomatch h)⟩
  | cons item rest ih =>
    -- An item that is not refused hands on the fault of those behind it.
    have hpass : ∀ add : Parts → Parts,
        (Parts.ofItems rest >>= fun p => pure (add p)) = .error refused ↔
          rest.findSome? refusal? = some refused := by
      intro add
      rw [← ih]
      cases Parts.ofItems rest with
      | error other => exact Iff.rfl
      | ok parts => exact ⟨fun h => (nomatch h), fun h => (nomatch h)⟩
    cases item with
    | exportDefault e => exact ⟨fun h => by cases h; rfl, fun h => by cases h; rfl⟩
    | exportAll source exported => exact ⟨fun h => by cases h; rfl, fun h => by cases h; rfl⟩
    | «import» i => exact hpass _
    | exportNamed e => exact hpass _
    | element e => exact hpass _
    | statement s => exact hpass _

/-- The parts of a program without refused exports. -/
theorem ofProgram_of_firstRefusal?_eq_none {p : Program} (h : firstRefusal? p = none) :
    ∃ parts, Parts.ofProgram p = .ok parts ∧ parts.imports = importsOf p ∧
      parts.exports = namedExportsOf p := by
  cases hparts : Parts.ofProgram p with
  | error refused =>
    have hrefused := ofItems_eq_error_iff.1 hparts
    rw [firstRefusal?, hrefused] at h
    cases h
  | ok parts => exact ⟨parts, rfl, parts_ofItems hparts⟩

theorem compileProgram_of_parts {name : String} {p : Program} {o : Options} {parts : Parts}
    (h : Parts.ofProgram p = .ok parts) :
    compileProgram name p o = inFile o.filePath (do
      let props ← reported PropertyFault.diagnostic (propertiesOfExports parts.exports)
      reported NameFault.diagnostic (synthesize name props parts.imports o)) := by
  rw [compileProgram, compileStages, h]
  rfl

/-- What is compiled depends on the imports and named exports of a program only. A default or
wildcard export makes it fail, and the first one decides how. -/
theorem compiled_from_imports_and_exports (name : String) (o : Options) :
    (∀ p q : Program, firstRefusal? p = none → firstRefusal? q = none →
      importsOf p = importsOf q → namedExportsOf p = namedExportsOf q →
      compileProgram name p o = compileProgram name q o) ∧
    ∀ (p : Program) (refused : RefusedExport), firstRefusal? p = some refused →
      compileProgram name p o = .error { refused.diagnostic with file := o.filePath } ∧
        refused.diagnostic.kind = .unsupportedExportShape := by
  constructor
  · intro p q hp hq himports hexports
    obtain ⟨parts, hparts, hpimports, hpexports⟩ := ofProgram_of_firstRefusal?_eq_none hp
    obtain ⟨parts', hparts', hqimports, hqexports⟩ := ofProgram_of_firstRefusal?_eq_none hq
    rw [compileProgram_of_parts hparts, compileProgram_of_parts hparts', hpimports, hpexports,
      hqimports, hqexports, himports, hexports]
  · intro p refused h
    have hparts : Parts.ofProgram p = .error refused := ofItems_eq_error_iff.2 h
    rw [compileProgram, compileStages, hparts]
    cases refused with
    | default => exact ⟨rfl, rfl⟩
    | wildcard => exact ⟨rfl, rfl⟩

/-- A program in which an export of a class comes before a wildcard and a default export. -/
def refusedLate : Program :=
  ⟨.module, [.exportNamed ⟨some (.classDef ⟨none, none, []⟩), [], none⟩,
    .exportAll (.string "./all") none, .exportDefault (.expression .thisRef)]⟩

/-- The items of `mixedExports` that count, in another order among the kinds. -/
def sortedExports : Program :=
  ⟨.script, (importsOf mixedExports).map .import ++
    (namedExportsOf mixedExports).map .exportNamed⟩

theorem sortedExports_compiled_alike :
    compileProgram "x-card" mixedExports {} = compileProgram "x-card" sortedExports {} ∧
      compileProgram "" refusedLate {} = .error RefusedExport.wildcard.diagnostic :=
  ⟨(compiled_from_imports_and_exports "x-card" {}).1 mixedExports sortedExports rfl rfl rfl rfl,
    ((compiled_from_imports_and_exports "" {}).2 refusedLate .wildcard rfl).1⟩

end CustomElement.Component
