import CustomElement.Build.FileTree
import CustomElement.Proofs.Build.Path

/-!
# Where paths lead

A tree decides whether a path can be walked, but not where it leads: that is `Path.location?`, the
same in all trees (`location?_of_locate`). Paths without detours that lead to one location have the
same steps (`components_eq_of_location?`).

Two trees with the same directories lead to the same places (`walk_of_directories`), and if they
also have files in the same places along a path, walking it fails in the same way (`walk_congr`). What
is written goes where `place` says (`write_eq_place`).
-/

namespace CustomElement.Build

/-- Where steps lead from a location, unless they leave the working directory. -/
def settle : Location → List Component → Option Location
  | l, [] => some l
  | _, .root :: _ => none
  | l, .current :: rest => settle l rest
  | l, .parent :: rest => if l.isEmpty then none else settle l.dropLast rest
  | l, .name n :: rest => settle (l ++ [n]) rest

/-- Where a path leads, unless it leaves the working directory. -/
def Path.location? (p : Path) : Option Location :=
  settle [] p.components

theorem settle_append (l : Location) (a b : List Component) :
    settle l (a ++ b) = (settle l a).bind (settle · b) := by
  induction a generalizing l with
  | nil => rfl
  | cons c a ih =>
    cases c with
    | root => rfl
    | current => exact ih l
    | parent =>
      simp only [List.cons_append, settle]
      split
      · rfl
      · exact ih l.dropLast
    | name n => exact ih (l ++ [n])

/-- Steps without detours lead down along their names. -/
theorem settle_of_straight {cs : List Component} (hcurrent : .current ∉ cs) (hparent : .parent ∉ cs)
    {l l' : Location} (h : settle l cs = some l') :
    ∃ names : Location, cs = names.map .name ∧ l' = l ++ names := by
  induction cs generalizing l with
  | nil =>
    obtain rfl := Option.some.inj h
    exact ⟨[], rfl, (List.append_nil l).symm⟩
  | cons c cs ih =>
    simp only [List.mem_cons, not_or] at hcurrent hparent
    cases c with
    | root => cases h
    | current => exact absurd rfl hcurrent.1
    | parent => exact absurd rfl hparent.1
    | name n =>
      obtain ⟨names, hcs, hl⟩ := ih hcurrent.2 hparent.2 h
      refine ⟨n :: names, by rw [hcs]; rfl, ?_⟩
      rw [hl, List.append_assoc]
      rfl

theorem Path.components_of_location? {p : Path} (h : p.Straight) {l : Location}
    (hl : p.location? = some l) : p.components = l.map .name := by
  obtain ⟨names, hcs, hnames⟩ := settle_of_straight h.1 h.2 hl
  rw [hcs, hnames]
  rfl

/-- Paths without detours that lead to one location have the same steps. -/
theorem Path.components_eq_of_location? {p q : Path} (hp : p.Straight) (hq : q.Straight)
    {l : Location} (hpl : p.location? = some l) (hql : q.location? = some l) :
    p.components = q.components := by
  rw [components_of_location? hp hpl, components_of_location? hq hql]

namespace FileTree

variable {t u : FileTree}

/-! ## Contents -/

@[simp] theorem lookup_nil (t : FileTree) : t.lookup [] = some .directory :=
  rfl

theorem find?_put (l k : Location) (e : FileEntry) (entries : List (Location × FileEntry)) :
    ((put l e entries).find? (·.1 == k)).map (·.2) =
      if k = l then some e else (entries.find? (·.1 == k)).map (·.2) := by
  induction entries with
  | nil =>
    rw [put, List.find?_cons]
    by_cases hk : k = l
    · simp [hk]
    · have hne : (l == k) = false := by simpa using Ne.symm hk
      simp [hk, hne]
  | cons x rest ih =>
    rw [put]
    by_cases hx : x.1 = l
    · rw [if_pos (by simpa using hx)]
      by_cases hk : k = l
      · simp [hk]
      · simp [hk, Ne.symm hk, hx]
    · rw [if_neg (by simpa using hx), List.find?_cons, List.find?_cons]
      by_cases hxk : x.1 = k
      · have hk : k ≠ l := hxk ▸ hx
        simp [hxk, hk]
      · have hne : (x.1 == k) = false := by simpa using hxk
        simp only [hne]
        exact ih

theorem lookup_insert (t : FileTree) {l : Location} (hl : l ≠ []) (e : FileEntry) (k : Location) :
    (t.insert l e).lookup k = if k = l then some e else t.lookup k := by
  cases k with
  | nil => rw [if_neg hl.symm]; rfl
  | cons n k => exact find?_put l (n :: k) e t.entries

/-! ## Walks -/

theorem walk_append (t : FileTree) (l : Location) (a b : List Component) :
    t.walk l (a ++ b) = (t.walk l a).bind (t.walk · b) := by
  induction a generalizing l with
  | nil => rfl
  | cons c a ih =>
    simp only [List.cons_append, walk]
    cases t.lookup l with
    | none => rfl
    | some e =>
      cases e with
      | file bytes => rfl
      | directory =>
        cases c with
        | root => rfl
        | current => exact ih l
        | parent =>
          simp only
          split
          · rfl
          · exact ih l.dropLast
        | name n => exact ih (l ++ [n])

/-- One more name after a walk needs a directory where the walk ends. -/
theorem walk_concat_ok {l l' : Location} {cs : List Component} {n : List Char}
    (h : t.walk l (cs ++ [.name n]) = .ok l') :
    ∃ d, t.walk l cs = .ok d ∧ t.lookup d = some .directory ∧ l' = d ++ [n] := by
  rw [walk_append] at h
  cases hd : t.walk l cs with
  | error f => rw [hd] at h; cases h
  | ok d =>
    rw [hd] at h
    simp only [Except.bind, walk] at h
    cases hlookup : t.lookup d with
    | none => rw [hlookup] at h; cases h
    | some e =>
      rw [hlookup] at h
      cases e with
      | file bytes => cases h
      | directory => exact ⟨d, rfl, hlookup, (Except.ok.inj h).symm⟩

/-- A walk leads where its steps lead in any tree. -/
theorem settle_of_walk {l l' : Location} {cs : List Component} (h : t.walk l cs = .ok l') :
    settle l cs = some l' := by
  induction cs generalizing l with
  | nil => exact congrArg some (Except.ok.inj h)
  | cons c cs ih =>
    simp only [walk] at h
    cases hlookup : t.lookup l with
    | none => rw [hlookup] at h; cases h
    | some e =>
      rw [hlookup] at h
      cases e with
      | file bytes => cases h
      | directory =>
        cases c with
        | root => cases h
        | current => exact ih h
        | parent =>
          simp only at h
          split at h
          · cases h
          · rename_i hl
            rw [settle, if_neg hl]
            exact ih h
        | name n => exact ih h

theorem walk_of_locate {p : Path} {l : Location} (h : t.locate p = .ok l) :
    t.walk [] p.components = .ok l := by
  unfold locate at h
  split at h
  · cases h
  · rename_i l' hwalk
    split at h
    · split at h
      · cases h
      · rw [hwalk, h]
    · rw [hwalk, h]

theorem location?_of_locate {p : Path} {l : Location} (h : t.locate p = .ok l) :
    p.location? = some l :=
  settle_of_walk (walk_of_locate h)

/-- Nothing can be read below a place where there is nothing. -/
theorem read_below_missing {p : Path} {cs rest : List Component} {l : Location}
    (hp : p.components = cs ++ rest) (hrest : rest ≠ []) (hwalk : t.walk [] cs = .ok l)
    (hl : t.lookup l = none) : t.read p = .error .missing := by
  obtain ⟨c, rest, rfl⟩ := List.exists_cons_of_ne_nil hrest
  have h : t.walk [] p.components = .error .missing := by
    rw [hp, walk_append, hwalk]
    simp only [Except.bind, walk, hl]
  simp only [read, locate, h]

/-- Nothing can be read below a file. -/
theorem read_below_file {p : Path} {cs rest : List Component} {l : Location} {bytes : ByteArray}
    (hp : p.components = cs ++ rest) (hrest : rest ≠ []) (hwalk : t.walk [] cs = .ok l)
    (hl : t.lookup l = some (.file bytes)) : t.read p = .error .notDirectory := by
  obtain ⟨c, rest, rfl⟩ := List.exists_cons_of_ne_nil hrest
  have h : t.walk [] p.components = .error .notDirectory := by
    rw [hp, walk_append, hwalk]
    simp only [Except.bind, walk, hl]
  simp only [read, locate, h]

/-! ## Walks in two trees -/

/-- A tree has all directories of another. -/
theorem walk_of_directories (hdirs : ∀ l, t.lookup l = some .directory → u.lookup l = some .directory)
    {l l' : Location} {cs : List Component} (h : t.walk l cs = .ok l') : u.walk l cs = .ok l' := by
  induction cs generalizing l with
  | nil => exact h
  | cons c cs ih =>
    simp only [walk] at h ⊢
    cases hlookup : t.lookup l with
    | none => rw [hlookup] at h; cases h
    | some e =>
      rw [hlookup] at h
      cases e with
      | file bytes => cases h
      | directory =>
        rw [hdirs l hlookup]
        cases c with
        | root => cases h
        | current => exact ih h
        | parent =>
          simp only at h ⊢
          split at h
          · cases h
          · rename_i hl
            rw [if_neg hl]
            exact ih h
        | name n => exact ih h

/-- Two places that are both empty, both directories, or both files. -/
def SameKind : Option FileEntry → Option FileEntry → Prop
  | none, none => True
  | some .directory, some .directory => True
  | some (.file _), some (.file _) => True
  | _, _ => False

theorem SameKind.refl (e : Option FileEntry) : SameKind e e := by
  cases e with
  | none => trivial
  | some e => cases e <;> trivial

/-- Trees with the same kinds of things along steps without detours let one walk them alike. -/
theorem walk_congr {cs : List Component} (hcurrent : .current ∉ cs) (hparent : .parent ∉ cs)
    {l : Location}
    (hkinds : ∀ names : Location, names.map .name <+: cs → names.map .name ≠ cs →
      SameKind (t.lookup (l ++ names)) (u.lookup (l ++ names))) :
    t.walk l cs = u.walk l cs := by
  induction cs generalizing l with
  | nil => rfl
  | cons c cs ih =>
    simp only [List.mem_cons, not_or] at hcurrent hparent
    have hkind := hkinds [] List.nil_prefix (by simp)
    rw [List.append_nil] at hkind
    simp only [walk]
    unfold SameKind at hkind
    split at hkind
    · rename_i ht hu
      rw [ht, hu]
    · rename_i ht hu
      rw [ht, hu]
      cases c with
      | root => rfl
      | current => exact absurd rfl hcurrent.1
      | parent => exact absurd rfl hparent.1
      | name n =>
        refine ih hcurrent.2 hparent.2 fun names hprefix hne => ?_
        have h := hkinds (n :: names) ((List.prefix_cons_inj _).2 hprefix) (by simpa using hne)
        rwa [List.append_assoc]
    · rename_i ht hu
      rw [ht, hu]
    · exact hkind.elim

/-- A path that can be walked alike, and ends in the same thing, is located alike. -/
theorem locate_congr {p : Path} (hwalk : t.walk [] p.components = u.walk [] p.components)
    (hend : ∀ l, t.walk [] p.components = .ok l → t.lookup l = u.lookup l) :
    t.locate p = u.locate p := by
  unfold locate
  rw [← hwalk]
  cases h : t.walk [] p.components with
  | error f => rfl
  | ok l => simp only [hend l h]

theorem read_congr {p : Path} (hwalk : t.walk [] p.components = u.walk [] p.components)
    (hend : ∀ l, t.walk [] p.components = .ok l → t.lookup l = u.lookup l) :
    t.read p = u.read p := by
  unfold read
  rw [← locate_congr hwalk hend]
  cases h : t.locate p with
  | error f => rfl
  | ok l => simp only [hend l (walk_of_locate h)]

/-! ## Writing -/

/-- Where a text written to a path goes. -/
def place (t : FileTree) (p : Path) : Except Fault Location :=
  match t.locate p with
  | .error f => .error f
  | .ok l =>
    match t.lookup l with
    | some .directory => .error .isDirectory
    | _ => .ok l

theorem place_ok_iff {p : Path} {l : Location} :
    t.place p = .ok l ↔ t.locate p = .ok l ∧ t.lookup l ≠ some .directory := by
  unfold place
  cases t.locate p with
  | error f => simp
  | ok l' =>
    simp only
    split
    · rename_i h
      simp only [reduceCtorEq, Except.ok.injEq, false_iff, not_and]
      rintro rfl
      exact not_not_intro h
    · rename_i h
      simp only [Except.ok.injEq]
      constructor
      · rintro rfl
        exact ⟨rfl, h⟩
      · exact fun h => h.1

/-- A path that ends in a name leads into a directory, so a text is written wherever it can go. -/
theorem write_eq_place {p : Path} {cs : List Component} {n : List Char}
    (hp : p.components = cs ++ [.name n]) (text : String) :
    t.write p text = (t.place p).map fun l => t.insert l (.file text.toUTF8) := by
  unfold write place
  cases hl : t.locate p with
  | error f => rfl
  | ok l =>
    have hwalk := walk_of_locate hl
    rw [hp] at hwalk
    obtain ⟨d, -, hd, rfl⟩ := walk_concat_ok hwalk
    simp only [List.dropLast_concat, hd]
    cases t.lookup (d ++ [n]) with
    | none => rfl
    | some e => cases e <;> rfl

theorem place_congr {p : Path} (hwalk : t.walk [] p.components = u.walk [] p.components)
    (hend : ∀ l, t.walk [] p.components = .ok l → t.lookup l = u.lookup l) :
    t.place p = u.place p := by
  unfold place
  rw [← locate_congr hwalk hend]
  cases h : t.locate p with
  | error f => rfl
  | ok l => simp only [hend l (walk_of_locate h)]

end FileTree

end CustomElement.Build
