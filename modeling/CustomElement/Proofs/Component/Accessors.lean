import CustomElement.Proofs.Component.ElementModule
import CustomElement.Proofs.Component.Stages
import CustomElement.Proofs.Text.CamelCase

/-!
# Attributes and accessors

A changed attribute is assigned to the property of the same name. Its prop has an accessor under
that name if the lower camel case form of the name is the name itself. `accessor_of_observed_iff`
says exactly when: all characters of the name are word characters, and the name is not
`__proto__`, whose entry in the map of descriptors defines no property. A `$` is part of many names
and is no word character, so the attribute `$a` reaches no accessor (`observed_without_accessor`).
-/

namespace CustomElement.Component

open CustomElement.Tree

/-! ## Entries of the map of descriptors -/

theorem memberName?_accessor (p : Property) :
    memberName? p.accessor = if p.accessorKey = "__proto__" then none else some p.accessorKey := by
  simp only [Property.accessor, ObjectMember.pair, memberName?, keyName?_keyOf, Option.filter]
  by_cases h : p.accessorKey = "__proto__" <;> simp [h]

theorem accessorKey_eq_externalName_iff {p : Property} :
    p.accessorKey = p.externalName ↔ ∀ c ∈ p.externalName.toList, Text.isWord c = true := by
  rw [← Text.lowerCamel_eq_self_iff, ← String.toList_inj, Property.accessorKey,
    Text.toLowerCamelCase, String.toList_ofList]

theorem isWord_of_mem_accessorKey {p : Property} {c : Char} (hc : c ∈ p.accessorKey.toList) :
    Text.isWord c = true := by
  rw [Property.accessorKey, Text.toLowerCamelCase, String.toList_ofList] at hc
  exact Text.isWord_of_mem_lowerCamel hc

/-- Whether a name can be that of an accessor: a name of word characters, and not the one whose
entry sets the prototype. -/
def isAccessorName (name : String) : Bool :=
  name.toList.all Text.isWord && name != "__proto__"

theorem isAccessorName_iff {name : String} :
    isAccessorName name = true ↔
      (∀ c ∈ name.toList, Text.isWord c = true) ∧ name ≠ "__proto__" := by
  simp [isAccessorName]

/-- Where accessor keys are apart, a key has the entry of its prop and no other. -/
theorem entriesNamed_accessorKey {props : List Property} (hapart : props.Pairwise Property.Apart)
    {p : Property} (hp : p ∈ props) (hproto : p.accessorKey ≠ "__proto__") :
    entriesNamed p.accessorKey (props.map (·.accessor)) = [p.accessor] := by
  induction props with
  | nil => cases hp
  | cons q props ih =>
    obtain ⟨hq, hapart⟩ := List.pairwise_cons.1 hapart
    rw [entriesNamed, List.map_cons, List.filter_cons, memberName?_accessor]
    rcases List.mem_cons.1 hp with rfl | hp
    · have hrest : (props.map (·.accessor)).filter (memberName? · = some p.accessorKey) = [] := by
        simp only [List.filter_eq_nil_iff, List.mem_map, forall_exists_index, and_imp]
        rintro _ r hr rfl
        have := (hq r hr).accessor
        simp only [memberName?_accessor]
        grind
      simp [hproto, hrest]
    · have hne := (hq p hp).accessor
      rw [if_neg (by grind)]
      exact ih hapart hp

/-- No entry defines a property whose name no accessor can have. -/
theorem entriesNamed_eq_nil {props : List Property} {name : String}
    (hname : isAccessorName name = false) :
    entriesNamed name (props.map (·.accessor)) = [] := by
  simp only [entriesNamed, List.filter_eq_nil_iff, List.mem_map, decide_eq_true_eq]
  rintro _ ⟨p, -, rfl⟩ hp
  rw [memberName?_accessor] at hp
  split at hp
  · cases hp
  · rename_i hproto
    obtain rfl := Option.some.inj hp
    have : isAccessorName p.accessorKey = true :=
      isAccessorName_iff.2 ⟨fun c hc => isWord_of_mem_accessorKey hc, hproto⟩
    rw [this] at hname
    cases hname

/-! ## Changed attributes -/

/-- The function that stores its argument in a binding. -/
def storeInto (binding : String) : Expr :=
  .arrowBlock [.identifier "value"]
    [.ofExpr (.assign .assign (.identifier binding) (.identifier "value"))] false false

/-- A changed attribute is assigned to the property of its name. If accessors can have that name,
one entry of the map of descriptors defines the property, with a function that stores into the
exported variable; otherwise no entry defines it. -/
theorem accessor_of_observed_iff {name watched : String} {p out : Program} {o : Options}
    (h : compileProgram name p o = .ok out) (hwatched : watched ∈ observedNames out) :
    (elementClass? out).bind (method? "attributeChangedCallback") =
        some (.anonymous [.identifier "name", .identifier "oldValue", .identifier "newValue"]
          [attributeForwarding]) ∧
      ((∃ entry, entriesNamed watched (descriptors out) = [entry] ∧
          setter? entry = some (storeInto watched)) ↔ isAccessorName watched = true) ∧
      (isAccessorName watched = false → entriesNamed watched (descriptors out) = []) := by
  obtain ⟨parts, props, -, hprops, h⟩ := compileProgram_ok h
  obtain ⟨-, hclash, rfl⟩ := synthesize_ok h
  have hapart := (firstClash?_eq_none_iff.1 hclash).2
  rw [observedNames_toProgram] at hwatched
  obtain ⟨p, hp, rfl⟩ := List.mem_map.1 hwatched
  obtain ⟨hp, hchange⟩ := List.mem_filter.1 hp
  have hchange : p.constant = false := by simpa using hchange
  rw [descriptors_toProgram]
  refine ⟨attributeChanged_toProgram .., ⟨?_, ?_⟩, entriesNamed_eq_nil⟩
  · rintro ⟨entry, hentry, -⟩
    cases hname : isAccessorName p.externalName with
    | true => rfl
    | false => rw [entriesNamed_eq_nil hname] at hentry; cases hentry
  · intro hname
    obtain ⟨hwords, hproto⟩ := isAccessorName_iff.1 hname
    have hkey := accessorKey_eq_externalName_iff.2 hwords
    refine ⟨p.accessor, ?_, ?_⟩
    · rw [← hkey] at hproto ⊢
      exact entriesNamed_accessorKey hapart hp hproto
    · rw [setter?_accessor hchange, Property.setter, internalName_of_changeable hprops p hp hchange]
      rfl

/-- A program that exports the variables `title` and `$a`. -/
def twoVariables : Program :=
  ⟨.module, [.exportNamed ⟨some (.variables .let
    [⟨.identifier "title", none⟩, ⟨.identifier "$a", some .thisRef⟩]), [], none⟩]⟩

theorem observed_without_accessor :
    ∃ out, compileProgram "x-card" twoVariables {} = .ok out ∧
      observedNames out = ["title", "$a"] ∧
      (∃ entry, entriesNamed "title" (descriptors out) = [entry] ∧
        setter? entry = some (storeInto "title")) ∧
      entriesNamed "$a" (descriptors out) = [] := by
  refine ⟨_, rfl, rfl, ?_, ?_⟩
  · have h := @accessor_of_observed_iff "x-card" "title" twoVariables _ {} rfl (by decide)
    exact h.2.1.2 (by decide)
  · have h := @accessor_of_observed_iff "x-card" "$a" twoVariables _ {} rfl (by decide)
    exact h.2.2 (by decide)

end CustomElement.Component
