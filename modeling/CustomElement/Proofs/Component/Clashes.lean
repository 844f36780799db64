import CustomElement.Proofs.Component.Stages

/-!
# Names that clash

An element class can be made exactly if the component's name gives a class name, and no two props
share an external name, an accessor key or a binding (`synthesized_iff_distinct`). Otherwise the
report is on the class name if that is wrong, and else on the first prop that repeats a name of a
prop in front of it. One prop may repeat several: `RepeatMessage` says which of them is told.
-/

namespace CustomElement.Component

/-- The message on a prop that repeats a name of earlier props: its external name counts first, then
its accessor key and last its binding. -/
inductive RepeatMessage (earlier : List Property) (p : Property) : String → Prop
  | external (hexternal : p.externalName ∈ earlier.map (·.externalName)) :
    RepeatMessage earlier p ("Prop '" ++ p.externalName ++ "' is exported more than once")
  | accessor {q : Property} (hexternal : p.externalName ∉ earlier.map (·.externalName))
    (hq : q ∈ earlier) (hkey : q.accessorKey = p.accessorKey) :
    RepeatMessage earlier p ("Props '" ++ q.externalName ++ "' and '" ++ p.externalName ++
      "' both define the accessor '" ++ p.accessorKey ++ "'")
  | internal (hexternal : p.externalName ∉ earlier.map (·.externalName))
    (haccessor : p.accessorKey ∉ earlier.map (·.accessorKey))
    (hinternal : p.internalName ∈ earlier.map (·.internalName)) :
    RepeatMessage earlier p ("Binding '" ++ p.internalName ++ "' backs more than one prop")

/-- A report that two props share a name, on the second of them. -/
structure RepeatReport (earlier : List Property) (p : Property) (d : Diagnostic) : Prop where
  kind : d.kind = .duplicateProp
  context : d.context = some p.externalName
  message : RepeatMessage earlier p d.message

theorem mem_map_iff_any {α : Type} (name : α → String) (xs : List α) (s : String) :
    s ∈ xs.map name ↔ xs.any (name · == s) = true := by
  simp only [List.mem_map, List.any_eq_true, beq_iff_eq]

/-- What is found wrong with one prop, after those in front of it. -/
theorem repeatReport_of_clash? {earlier : List Property} {p : Property} {fault : NameFault}
    (h : clash? earlier p = some fault) : RepeatReport earlier p fault.diagnostic := by
  unfold clash? at h
  split at h
  · rename_i hexternal
    obtain rfl := Option.some.inj h
    exact ⟨rfl, rfl, .external ((mem_map_iff_any _ _ _).2 hexternal)⟩
  · rename_i hexternal
    rw [← mem_map_iff_any Property.externalName] at hexternal
    split at h
    · rename_i q hfound
      obtain rfl := Option.some.inj h
      have hkey : q.accessorKey = p.accessorKey := by simpa using List.find?_some hfound
      exact ⟨rfl, rfl, .accessor hexternal (List.mem_of_find?_eq_some hfound) hkey⟩
    · rename_i hnone
      have haccessor : p.accessorKey ∉ earlier.map (·.accessorKey) := by
        rw [mem_map_iff_any, List.any_eq_true]
        rintro ⟨q, hq, hkey⟩
        exact List.find?_eq_none.1 hnone q hq hkey
      split at h
      · rename_i hinternal
        obtain rfl := Option.some.inj h
        exact ⟨rfl, rfl,
          .internal hexternal haccessor ((mem_map_iff_any _ _ _).2 hinternal)⟩
      · cases h

/-- The scan stops at the first clash: the props that it has passed are apart. -/
theorem exists_of_firstClash? {props earlier : List Property} {fault : NameFault}
    (hapart : earlier.Pairwise Property.Apart) (h : firstClash? earlier props = some fault) :
    ∃ passed p rest, props = passed ++ p :: rest ∧
      (earlier ++ passed).Pairwise Property.Apart ∧ clash? (earlier ++ passed) p = some fault := by
  induction props generalizing earlier with
  | nil => cases h
  | cons p rest ih =>
    rw [firstClash?] at h
    cases hp : clash? earlier p with
    | some found =>
      simp only [hp] at h
      exact ⟨[], p, rest, rfl, by rwa [List.append_nil], by rw [List.append_nil, hp, h]⟩
    | none =>
      simp only [hp] at h
      -- `p` joins the props that are known to be apart, and the scan goes on behind it.
      have hnext : (earlier ++ [p]).Pairwise Property.Apart := by
        rw [List.pairwise_append]
        refine ⟨hapart, List.pairwise_singleton .., fun q hq r hr => ?_⟩
        rw [List.mem_singleton.1 hr]
        exact clash?_eq_none_iff.1 hp q hq
      obtain ⟨passed, q, rest', rfl, hpassed, hq⟩ := ih hnext h
      rw [List.append_assoc, List.singleton_append] at hpassed hq
      exact ⟨p :: passed, q, rest', rfl, hpassed, hq⟩

theorem synthesize_error {name : String} {props : List Property} {imports : List Tree.Import}
    {o : Options} {fault : NameFault} (h : synthesize name props imports o = .error fault) :
    Text.isIdentifierName (Text.toUpperCamelCase name).toList = false ∧
        fault = .className name (Text.toUpperCamelCase name) ∨
      Text.isIdentifierName (Text.toUpperCamelCase name).toList = true ∧
        firstClash? [] props = some fault := by
  simp only [synthesize] at h
  split at h
  · rename_i hname
    exact .inl ⟨by simpa using hname, (Except.error.inj h).symm⟩
  · rename_i hname
    split at h
    · rename_i found hfound
      exact .inr ⟨by simpa using hname, by rw [hfound, Except.error.inj h]⟩
    · cases h

theorem pairwise_apart_iff (props : List Property) :
    props.Pairwise Property.Apart ↔ (props.map (·.externalName)).Nodup ∧
      (props.map (·.accessorKey)).Nodup ∧ (props.map (·.internalName)).Nodup := by
  simp only [List.Nodup, List.pairwise_map, ← List.pairwise_and_iff]
  exact ⟨.imp fun h => ⟨h.external, h.accessor, h.internal⟩, .imp fun h => ⟨h.1, h.2.1, h.2.2⟩⟩

/-- When an element class can be made, and what is reported if not. -/
theorem synthesized_iff_distinct (name : String) (props : List Property)
    (imports : List Tree.Import) (o : Options) :
    ((∃ out, synthesize name props imports o = .ok out) ↔
      Text.isIdentifierName (Text.toUpperCamelCase name).toList = true ∧
        (props.map (·.externalName)).Nodup ∧
        (props.map fun p => Text.toLowerCamelCase p.externalName).Nodup ∧
        (props.map (·.internalName)).Nodup) ∧
    ∀ fault, synthesize name props imports o = .error fault →
      (Text.isIdentifierName (Text.toUpperCamelCase name).toList = false →
        fault.diagnostic.kind = .invalidComponentName) ∧
      (Text.isIdentifierName (Text.toUpperCamelCase name).toList = true →
        ∃ earlier p rest, props = earlier ++ p :: rest ∧ earlier.Pairwise Property.Apart ∧
          RepeatReport earlier p fault.diagnostic) := by
  have hdistinct := pairwise_apart_iff props
  constructor
  · constructor
    · rintro ⟨out, hout⟩
      obtain ⟨hname, hclash, -⟩ := synthesize_ok hout
      exact ⟨hname, hdistinct.1 (firstClash?_eq_none_iff.1 hclash).2⟩
    · rintro ⟨hname, hnames⟩
      have hclash : firstClash? [] props = none :=
        firstClash?_eq_none_iff.2 ⟨by simp, hdistinct.2 hnames⟩
      cases h : synthesize name props imports o with
      | ok out => exact ⟨out, rfl⟩
      | error fault =>
        rcases synthesize_error h with ⟨hname', -⟩ | ⟨-, hfault⟩
        · rw [hname] at hname'
          cases hname'
        · rw [hclash] at hfault
          cases hfault
  · intro fault h
    rcases synthesize_error h with ⟨hname, rfl⟩ | ⟨hname, hfault⟩
    · exact ⟨fun _ => rfl, fun hname' => absurd (hname.symm.trans hname') (by decide)⟩
    · obtain ⟨earlier, p, rest, hprops, hearlier, hp⟩ := exists_of_firstClash? .nil hfault
      exact ⟨fun hname' => absurd (hname.symm.trans hname') (by decide),
        fun _ => ⟨earlier, p, rest, hprops, hearlier, repeatReport_of_clash? hp⟩⟩

/-- Props of which the last has the accessor key of the second and the binding of the first. -/
def crowdedNames : List Property :=
  [⟨"a", "a", none, false⟩, ⟨"foo-bar", "b", none, false⟩, ⟨"fooBar", "a", none, true⟩]

theorem crowdedNames_refused :
    ∃ fault, synthesize "x-card" crowdedNames [] {} = .error fault ∧
      fault.diagnostic.message =
        "Props 'foo-bar' and 'fooBar' both define the accessor 'fooBar'" ∧
      ∃ earlier p rest, crowdedNames = earlier ++ p :: rest ∧ earlier.Pairwise Property.Apart ∧
        RepeatReport earlier p fault.diagnostic := by
  have hreport := (synthesized_iff_distinct "x-card" crowdedNames [] {}).2 _ rfl
  exact ⟨_, rfl, rfl, hreport.2 (by decide)⟩

end CustomElement.Component
