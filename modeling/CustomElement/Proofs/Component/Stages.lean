import CustomElement.Component.Compile
import Mathlib.Data.List.Forall2

/-!
# What a compiled component went through

A compilation that gives a module has found the parts of the program and the props of its exports,
and made the module from them (`compileProgram_ok`, `synthesize_ok`). The props then have names
that are pairwise apart (`firstClash?_eq_none_iff`), and a prop that can change is a variable, so
that it has one name only (`internalName_of_changeable`).
-/

namespace CustomElement.Component

open CustomElement.Tree

/-! ## Stages -/

theorem ok_of_mapError {ε ε' α : Type} {f : ε → ε'} {r : Except ε α} {a : α}
    (h : r.mapError f = .ok a) : r = .ok a := by
  cases r with
  | error e => cases h
  | ok b => exact congrArg Except.ok (Except.ok.inj h)

theorem ok_of_bind {ε α β : Type} {r : Except ε α} {k : α → Except ε β} {b : β}
    (h : r >>= k = .ok b) : ∃ a, r = .ok a ∧ k a = .ok b := by
  cases r with
  | error e => cases h
  | ok a => exact ⟨a, rfl, h⟩

theorem error_of_mapError {ε ε' α : Type} {f : ε → ε'} {r : Except ε α} {e' : ε'}
    (h : r.mapError f = .error e') : ∃ e, r = .error e ∧ e' = f e := by
  cases r with
  | error e => exact ⟨e, rfl, (Except.error.inj h).symm⟩
  | ok a => cases h

/-- A fault is that of the first step, or of what follows on its result. -/
theorem error_of_bind {ε α β : Type} {r : Except ε α} {k : α → Except ε β} {e : ε}
    (h : r >>= k = .error e) : r = .error e ∨ ∃ a, r = .ok a ∧ k a = .error e := by
  cases r with
  | error e' => exact .inl (congrArg Except.error (Except.error.inj h))
  | ok a => exact .inr ⟨a, rfl, h⟩

/-- A fault of `mapM` is that of an element of the list. -/
theorem error_of_mapM {ε α β : Type} {f : α → Except ε β} {xs : List α} {e : ε}
    (h : xs.mapM f = .error e) : ∃ x ∈ xs, f x = .error e := by
  induction xs with
  | nil => cases h
  | cons x xs ih =>
    rw [List.mapM_cons] at h
    rcases error_of_bind h with hx | ⟨y, -, h⟩
    · exact ⟨x, List.mem_cons_self, hx⟩
    rcases error_of_bind h with hxs | ⟨ys, -, h⟩
    · obtain ⟨z, hz, hfault⟩ := ih hxs
      exact ⟨z, List.mem_cons_of_mem x hz, hfault⟩
    · cases h

/-- The results of `mapM` are those of the elements of the list, in their order. -/
theorem forall₂_of_mapM_ok {ε α β : Type} {f : α → Except ε β} {xs : List α} {ys : List β}
    (h : xs.mapM f = .ok ys) : List.Forall₂ (fun x y => f x = .ok y) xs ys := by
  induction xs generalizing ys with
  | nil =>
    obtain rfl := Except.ok.inj h
    exact .nil
  | cons x xs ih =>
    rw [List.mapM_cons] at h
    obtain ⟨z, hz, h⟩ := ok_of_bind h
    obtain ⟨zs, hzs, h⟩ := ok_of_bind h
    obtain rfl := Except.ok.inj h
    exact .cons hz (ih hzs)

/-- A result of `mapM` comes from an element of the list. -/
theorem exists_mem_of_mapM_ok {ε α β : Type} {f : α → Except ε β} {xs : List α} {ys : List β}
    (h : xs.mapM f = .ok ys) : ∀ y ∈ ys, ∃ x ∈ xs, f x = .ok y := by
  replace h := forall₂_of_mapM_ok h
  induction h with
  | nil => intro y hy; cases hy
  | cons hz _ ih =>
    intro y hy
    rcases List.mem_cons.1 hy with rfl | hy
    · exact ⟨_, List.mem_cons_self, hz⟩
    · obtain ⟨x, hx, hy⟩ := ih y hy
      exact ⟨x, List.mem_cons_of_mem _ hx, hy⟩

theorem compileProgram_ok {name : String} {p out : Program} {o : Options}
    (h : compileProgram name p o = .ok out) :
    ∃ parts props, Parts.ofProgram p = .ok parts ∧
      propertiesOfExports parts.exports = .ok props ∧
      synthesize name props parts.imports o = .ok out := by
  obtain ⟨parts, hparts, h⟩ := ok_of_bind (ok_of_mapError h)
  obtain ⟨props, hprops, h⟩ := ok_of_bind h
  exact ⟨parts, props, ok_of_mapError hparts, ok_of_mapError hprops, ok_of_mapError h⟩

theorem synthesize_ok {name : String} {props : List Property} {imports : List Import}
    {o : Options} {out : Program} (h : synthesize name props imports o = .ok out) :
    Text.isIdentifierName (Text.toUpperCamelCase name).toList = true ∧
      firstClash? [] props = none ∧ out = (skeletonOf name props imports).toProgram o := by
  simp only [synthesize] at h
  split at h
  · cases h
  · rename_i hname
    split at h
    · cases h
    · rename_i hclash
      exact ⟨by simpa using hname, hclash, (Except.ok.inj h).symm⟩

/-! ## Names of props -/

/-- Two props that share neither an external name nor an accessor key nor a binding. -/
structure Property.Apart (p q : Property) : Prop where
  external : p.externalName ≠ q.externalName
  accessor : p.accessorKey ≠ q.accessorKey
  internal : p.internalName ≠ q.internalName

theorem clash?_eq_none_iff {earlier : List Property} {p : Property} :
    clash? earlier p = none ↔ ∀ q ∈ earlier, q.Apart p := by
  unfold clash?
  constructor
  · intro h q hq
    split at h
    · cases h
    · rename_i hexternal
      split at h
      · cases h
      · rename_i haccessor
        split at h
        · cases h
        · rename_i hinternal
          simp only [List.any_eq_true, beq_iff_eq, not_exists, not_and] at hexternal hinternal
          refine ⟨hexternal q hq, ?_, hinternal q hq⟩
          simpa using List.find?_eq_none.1 haccessor q hq
  · intro h
    have hfind : earlier.find? (·.accessorKey == p.accessorKey) = none :=
      List.find?_eq_none.2 fun q hq => by simpa using (h q hq).accessor
    rw [if_neg, hfind]
    · exact if_neg (by simpa using fun q hq => (h q hq).internal)
    · simpa using fun q hq => (h q hq).external

/-- The props in front of a list and those of the list have names apart if no clash is found. -/
theorem firstClash?_eq_none_iff : ∀ {earlier props : List Property},
    firstClash? earlier props = none ↔
      (∀ p ∈ props, ∀ q ∈ earlier, q.Apart p) ∧ props.Pairwise Property.Apart
  | earlier, [] => by simp [firstClash?]
  | earlier, p :: rest => by
    unfold firstClash?
    rw [List.pairwise_cons]
    cases hp : clash? earlier p with
    | some fault =>
      have hnot : ¬ ∀ q ∈ earlier, q.Apart p := by rw [← clash?_eq_none_iff, hp]; simp
      exact ⟨fun h => (nomatch h), fun h => absurd (h.1 p List.mem_cons_self) hnot⟩
    | none =>
      have hapart := clash?_eq_none_iff.1 hp
      simp only [@firstClash?_eq_none_iff (earlier ++ [p]) rest, List.mem_append,
        List.mem_singleton, List.forall_mem_cons]
      constructor
      · rintro ⟨h, hrest⟩
        exact ⟨⟨hapart, fun r hr q hq => h r hr q (.inl hq)⟩,
          fun r hr => h r hr p (.inr rfl), hrest⟩
      · rintro ⟨⟨-, h⟩, hp, hrest⟩
        refine ⟨fun r hr q hq => ?_, hrest⟩
        rcases hq with hq | rfl
        · exact h r hr q hq
        · exact hp r hr

theorem internalName_of_declarator {kind : VariableKind} {d : Declarator} {p : Property}
    (h : propertyOfDeclarator kind d = .ok p) : p.internalName = p.externalName := by
  unfold propertyOfDeclarator at h
  split at h
  · obtain rfl := Except.ok.inj h; rfl
  · cases h

theorem constant_of_clause {c : ExportClause} {p : Property} (h : propertyOfClause c = .ok p) :
    p.constant = true := by
  unfold propertyOfClause at h
  split at h
  · split at h
    · obtain rfl := Except.ok.inj h; rfl
    · cases h
  · cases h

/-- Only variables can change, and a variable is exported under its own name. -/
theorem internalName_of_export {e : NamedExport} {props : List Property}
    (h : propertiesOfExport e = .ok props) :
    ∀ p ∈ props, p.constant = false → p.internalName = p.externalName := by
  intro p hp hconst
  unfold propertiesOfExport at h
  split at h
  · unfold propertiesOfDeclaration at h
    split at h
    · obtain ⟨d, -, hd⟩ := exists_mem_of_mapM_ok h p hp
      exact internalName_of_declarator hd
    · split at h
      · obtain rfl := Except.ok.inj h
        obtain rfl := List.mem_singleton.1 hp
        rfl
      · cases h
    · cases h
  · split at h
    · cases h
    · split at h
      · cases h
      · obtain ⟨c, -, hc⟩ := exists_mem_of_mapM_ok h p hp
        rw [constant_of_clause hc] at hconst
        cases hconst

theorem internalName_of_changeable {exports : List NamedExport} {props : List Property}
    (h : propertiesOfExports exports = .ok props) :
    ∀ p ∈ props, p.constant = false → p.internalName = p.externalName := by
  intro p hp
  obtain ⟨lists, hlists, h⟩ := ok_of_bind h
  obtain rfl := Except.ok.inj h
  obtain ⟨l, hl, hp⟩ := List.mem_flatten.1 hp
  obtain ⟨e, -, he⟩ := exists_mem_of_mapM_ok hlists l hl
  exact internalName_of_export he p hp

end CustomElement.Component
