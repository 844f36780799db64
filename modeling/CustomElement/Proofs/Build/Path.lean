import CustomElement.Build.Path
import Mathlib.Data.List.TakeWhile

/-!
# The files and directories of paths

A path that has a file name leads to its directory and on to that name
(`components_of_fileName?`), and a name joined to a path is one more step (`components_join`). A
name with an extension put behind it is cut again into the two (`splitName_append`), and every name
with an extension is one of these (`eq_append_of_splitName`).
-/

namespace CustomElement.Build

/-- A name that a file can have. -/
def IsFileName (name : List Char) : Prop :=
  name ≠ [] ∧ name ≠ ['.'] ∧ name ≠ ['.', '.'] ∧ '/' ∉ name

instance (name : List Char) : Decidable (IsFileName name) :=
  inferInstanceAs (Decidable (_ ∧ _ ∧ _ ∧ _))

/-! ## Pieces -/

theorem pieces_ne_nil (s : List Char) : pieces s ≠ [] := by
  cases s with
  | nil => simp [pieces]
  | cons c s =>
    rw [pieces]
    split
    · simp
    · split <;> simp

theorem pieces_cons_of_ne {c : Char} (hc : c ≠ '/') {s p : List Char} {ps : List (List Char)}
    (h : pieces s = p :: ps) : pieces (c :: s) = (c :: p) :: ps := by
  rw [pieces, if_neg (by simpa using hc), h]

theorem pieces_append_slash (a b : List Char) :
    pieces (a ++ '/' :: b) = pieces a ++ pieces b := by
  induction a with
  | nil => rfl
  | cons c a ih =>
    by_cases hc : c = '/'
    · subst hc
      exact congrArg ([] :: ·) ih
    · obtain ⟨p, ps, hp⟩ := List.exists_cons_of_ne_nil (pieces_ne_nil a)
      rw [hp, List.cons_append] at ih
      rw [List.cons_append, pieces_cons_of_ne hc ih, pieces_cons_of_ne hc hp, List.cons_append]

theorem pieces_of_notMem {s : List Char} (h : '/' ∉ s) : pieces s = [s] := by
  induction s with
  | nil => rfl
  | cons c s ih =>
    simp only [List.mem_cons, not_or] at h
    exact pieces_cons_of_ne (Ne.symm h.1) (ih h.2)

theorem notMem_of_mem_pieces {s p : List Char} (h : p ∈ pieces s) : '/' ∉ p := by
  induction s generalizing p with
  | nil =>
    obtain rfl := List.mem_singleton.1 h
    exact List.not_mem_nil
  | cons c s ih =>
    by_cases hc : c = '/'
    · subst hc
      rcases List.mem_cons.1 h with rfl | h
      · exact List.not_mem_nil
      · exact ih h
    · obtain ⟨q, qs, hq⟩ := List.exists_cons_of_ne_nil (pieces_ne_nil s)
      rw [pieces_cons_of_ne hc hq] at h
      rcases List.mem_cons.1 h with rfl | h
      · have hslash : '/' ∉ q := ih (by rw [hq]; exact List.mem_cons_self)
        simp only [List.mem_cons, not_or]
        exact ⟨Ne.symm hc, hslash⟩
      · exact ih (by rw [hq]; exact List.mem_cons_of_mem q h)

theorem joinPieces_append {a b : List (List Char)} (ha : a ≠ []) (hb : b ≠ []) :
    joinPieces (a ++ b) = joinPieces a ++ '/' :: joinPieces b := by
  induction a with
  | nil => exact absurd rfl ha
  | cons p a ih =>
    cases a with
    | nil =>
      obtain ⟨q, b, rfl⟩ := List.exists_cons_of_ne_nil hb
      rfl
    | cons q a =>
      have h := ih (by simp)
      simp only [List.cons_append, joinPieces, List.append_assoc] at h ⊢
      rw [h]

theorem joinPieces_pieces (s : List Char) : joinPieces (pieces s) = s := by
  induction s with
  | nil => rfl
  | cons c s ih =>
    by_cases hc : c = '/'
    · subst hc
      have h := joinPieces_append (a := [[]]) (by simp) (pieces_ne_nil s)
      rw [ih] at h
      exact h
    · obtain ⟨p, ps, hp⟩ := List.exists_cons_of_ne_nil (pieces_ne_nil s)
      rw [pieces_cons_of_ne hc hp]
      rw [hp] at ih
      cases ps with
      | nil => exact congrArg (c :: ·) ih
      | cons q ps => exact congrArg (c :: ·) ih

theorem pieces_joinPieces {ps : List (List Char)} (hne : ps ≠ []) (h : ∀ p ∈ ps, '/' ∉ p) :
    pieces (joinPieces ps) = ps := by
  induction ps with
  | nil => exact absurd rfl hne
  | cons p ps ih =>
    have hp := pieces_of_notMem (h p List.mem_cons_self)
    cases ps with
    | nil => exact hp
    | cons q ps =>
      have hrest := ih (by simp) fun r hr => h r (List.mem_cons_of_mem p hr)
      rw [joinPieces, pieces_append_slash, hp, hrest]
      rfl

/-! ## Steps of a path -/

namespace Path

theorem componentOf?_of_isIdle {piece : List Char} (h : isIdle piece = true) :
    componentOf? piece = none :=
  if_pos h

theorem componentOf?_of_isFileName {name : List Char} (h : IsFileName name) :
    componentOf? name = some (.name name) := by
  obtain ⟨hnil, hdot, hdots, -⟩ := h
  simp [componentOf?, isIdle, hnil, hdot, hdots]

theorem filterMap_takeWhile_isIdle (ps : List (List Char)) :
    (ps.takeWhile isIdle).filterMap componentOf? = [] := by
  rw [List.filterMap_eq_nil_iff]
  intro p hp
  exact componentOf?_of_isIdle (List.mem_takeWhile_imp hp)

theorem anchored_append (p : Path) : p.anchored.1 ++ p.anchored.2 = p.text := by
  unfold anchored
  split <;> simp [*]

/-- What follows a slash does not change how a path starts. -/
theorem anchored_append_slash {u : List Char} (hu : u ≠ []) (v : List Char) :
    anchored ⟨u ++ '/' :: v⟩ = ((anchored ⟨u⟩).1, (anchored ⟨u⟩).2 ++ '/' :: v) := by
  obtain ⟨c, rest, rfl⟩ := List.exists_cons_of_ne_nil hu
  by_cases hslash : c = '/'
  · subst hslash
    rfl
  · by_cases hdot : c = '.'
    · subst hdot
      cases rest with
      | nil => rfl
      | cons d rest =>
        by_cases hd : d = '/'
        · subst hd
          rfl
        · simp [anchored, hd]
    · simp [anchored, hslash, hdot]

theorem components_append_slash {u : List Char} (hu : u ≠ []) (v : List Char) :
    components ⟨u ++ '/' :: v⟩ = components ⟨u⟩ ++ (pieces v).filterMap componentOf? := by
  rw [components, components, anchored_append_slash hu, pieces_append_slash, List.filterMap_append,
    List.append_assoc]

theorem components_of_isFileName {name : List Char} (h : IsFileName name) :
    components ⟨name⟩ = [.name name] := by
  have hslash := h.2.2.2
  have hanchored : anchored ⟨name⟩ = ([], name) := by
    have hdot := h.2.1
    unfold anchored
    split <;> simp_all
  rw [components, hanchored, pieces_of_notMem hslash, List.filterMap_cons,
    componentOf?_of_isFileName h]
  rfl

/-- A name joined to a path is one more step. -/
theorem components_join (p : Path) {name : List Char} (h : IsFileName name) :
    (p.join name).components = p.components ++ [.name name] := by
  have hname : (pieces name).filterMap componentOf? = [.name name] := by
    rw [pieces_of_notMem h.2.2.2, List.filterMap_cons, componentOf?_of_isFileName h]
    rfl
  obtain ⟨text⟩ := p
  unfold join
  rcases List.eq_nil_or_concat text with rfl | ⟨u, c, rfl⟩
  · exact components_of_isFileName h
  · simp only [List.concat_eq_append, List.getLast?_append, List.getLast?_singleton, Option.some_or]
    by_cases hc : c = '/'
    · subst hc
      simp only [beq_self_eq_true, if_true, List.append_assoc, List.cons_append, List.nil_append]
      cases u with
      | nil =>
        have hroot : components ⟨'/' :: name⟩ = .root :: (pieces name).filterMap componentOf? := rfl
        exact hroot.trans (congrArg (.root :: ·) hname)
      | cons d u =>
        rw [components_append_slash (by simp), components_append_slash (by simp), hname]
        exact congrArg (· ++ _) (List.append_nil _).symm
    · simp only [beq_iff_eq, hc, if_false]
      rw [components_append_slash (by simp), hname]

/-- Where a path has a file name, the pieces after its start are those of its directory, then that
name, with pieces around the name that do not count. -/
theorem pieces_of_fileName? {p : Path} {name : List Char} (h : p.fileName? = some name) :
    IsFileName name ∧ ∃ around, pieces p.anchored.2 =
        ((p.lastPieces.drop 1).dropWhile isIdle).reverse ++ around ∧
      around ≠ [] ∧ around.filterMap componentOf? = [.name name] := by
  unfold fileName? at h
  split at h
  · cases h
  · rename_i n others hlast
    split at h
    · cases h
    · rename_i hdots
      obtain rfl := Option.some.inj h
      rw [hlast, List.drop_one, List.tail_cons]
      have hbusy : isIdle n = false := by
        have := List.head?_dropWhile_not isIdle (pieces p.anchored.2).reverse
        rw [← lastPieces, hlast] at this
        exact this
      have hpieces : pieces p.anchored.2 = others.reverse ++
          n :: ((pieces p.anchored.2).reverse.takeWhile isIdle).reverse := by
        have hsplit := List.takeWhile_append_dropWhile (p := isIdle)
          (l := (pieces p.anchored.2).reverse)
        rw [← lastPieces, hlast] at hsplit
        have := congrArg List.reverse hsplit
        simpa using this.symm
      have hname : IsFileName n := by
        have hslash : '/' ∉ n := notMem_of_mem_pieces (by rw [hpieces]; simp)
        simp only [isIdle, Bool.or_eq_false_iff, beq_eq_false_iff_ne] at hbusy
        exact ⟨hbusy.1, hbusy.2, by simpa using hdots, hslash⟩
      have hothers : others.reverse =
          (others.dropWhile isIdle).reverse ++ (others.takeWhile isIdle).reverse := by
        rw [← List.reverse_append, List.takeWhile_append_dropWhile]
      refine ⟨hname, (others.takeWhile isIdle).reverse ++
        n :: ((pieces p.anchored.2).reverse.takeWhile isIdle).reverse, ?_, by simp, ?_⟩
      · rw [← List.append_assoc, ← hothers]
        exact hpieces
      · rw [List.filterMap_append, List.filterMap_cons, componentOf?_of_isFileName hname,
          List.filterMap_reverse, List.filterMap_reverse, filterMap_takeWhile_isIdle,
          filterMap_takeWhile_isIdle]
        rfl

theorem components_anchor (p : Path) :
    components ⟨p.anchored.1⟩ = anchorComponents p.anchored.1 := by
  unfold anchored
  split <;> rfl

theorem joinPieces_ne_nil {ps : List (List Char)} (hne : ps ≠ []) (hslash : ∀ p ∈ ps, '/' ∉ p)
    (hempty : ps ≠ [[]]) : joinPieces ps ≠ [] := by
  intro h
  have hps := pieces_joinPieces hne hslash
  rw [h] at hps
  exact hempty hps.symm

/-- A path with a file name leads to its directory, and from there to that name. -/
theorem components_of_fileName? {p : Path} {name : List Char} (h : p.fileName? = some name) :
    IsFileName name ∧ p.components = p.directory.components ++ [.name name] := by
  obtain ⟨hname, around, hpieces, hne, haround⟩ := pieces_of_fileName? h
  refine ⟨hname, ?_⟩
  have hslash : ∀ q ∈ pieces p.anchored.2, '/' ∉ q := fun q => notMem_of_mem_pieces
  rw [hpieces] at hslash
  have hlast := List.head?_dropWhile_not isIdle (p.lastPieces.drop 1)
  rw [directory]
  generalize ((p.lastPieces.drop 1).dropWhile isIdle) = inside at *
  cases hinside : inside with
  | nil =>
    subst hinside
    rw [components, hpieces, List.filterMap_append, haround, List.reverse_nil, joinPieces,
      List.append_nil, components_anchor]
    rfl
  | cons q qs =>
    have hback : inside.reverse ≠ [] := by simp [hinside]
    -- The directory's text is not empty: its last piece counts.
    have hjoin : joinPieces inside.reverse ≠ [] := by
      refine joinPieces_ne_nil hback (fun r hr => hslash r (List.mem_append_left _ hr)) ?_
      intro hempty
      obtain rfl : inside = [[]] := by simpa using congrArg List.reverse hempty
      have hidle : isIdle [] = false := hlast
      cases hidle
    have htext : p = ⟨(p.anchored.1 ++ joinPieces inside.reverse) ++ '/' :: joinPieces around⟩ := by
      rw [List.append_assoc, ← joinPieces_append hback hne, ← hpieces, joinPieces_pieces,
        anchored_append]
    have haroundSlash : ∀ q ∈ around, '/' ∉ q := fun q hq => hslash q (List.mem_append_right _ hq)
    rw [← hinside]
    conv => lhs; rw [htext]
    rw [components_append_slash (by simp [hjoin]), pieces_joinPieces hne haroundSlash, haround]

/-! ## Extensions -/

theorem splitName_append {stem extension : List Char} (hstem : stem ≠ [])
    (hdot : '.' ∉ extension) :
    splitName (stem ++ '.' :: extension) = (stem, some extension) := by
  have htail : (stem ++ '.' :: extension).reverse.takeWhile (· != '.') = extension.reverse := by
    have hall : ∀ c ∈ extension.reverse, (c != '.') = true := by
      intro c hc
      rw [List.mem_reverse] at hc
      simpa using fun h : c = '.' => hdot (h ▸ hc)
    rw [List.reverse_append, List.reverse_cons, List.append_assoc,
      List.takeWhile_append_of_pos hall]
    simp
  have hdrop : (stem ++ '.' :: extension).reverse.drop (extension.length + 1) = stem.reverse := by
    rw [List.reverse_append, List.reverse_cons, List.append_assoc, ← List.length_reverse,
      List.drop_append, List.drop_eq_nil_of_le (by omega)]
    simp
  have hlength : extension.length ≠ (stem ++ '.' :: extension).length := by
    rw [List.length_append, List.length_cons]
    omega
  simp only [splitName, htail, List.length_reverse, hdrop, List.reverse_reverse]
  rw [if_neg (by simpa [hstem] using hlength)]

theorem eq_append_of_splitName {name stem extension : List Char}
    (h : splitName name = (stem, some extension)) : name = stem ++ '.' :: extension := by
  simp only [splitName] at h
  split at h
  · cases h
  · rename_i hcut
    obtain ⟨rfl, hextension⟩ := Prod.mk.inj h
    obtain rfl := Option.some.inj hextension
    have hsplit := List.takeWhile_append_dropWhile (p := (· != '.')) (l := name.reverse)
    cases hdrop : name.reverse.dropWhile (· != '.') with
    | nil =>
      rw [hdrop, List.append_nil] at hsplit
      simp [hsplit] at hcut
    | cons c rest =>
      have hc : c = '.' := by
        have := List.head?_dropWhile_not (· != '.') name.reverse
        rw [hdrop] at this
        simpa using this
      subst hc
      rw [hdrop] at hsplit
      generalize name.reverse.takeWhile (· != '.') = tail at *
      rw [← hsplit, List.drop_append, List.drop_eq_nil_of_le (by omega), ← List.reverse_reverse name,
        ← hsplit]
      simp

theorem stem_ne_nil {name : List Char} (h : name ≠ []) : (splitName name).1 ≠ [] := by
  simp only [splitName]
  split
  · exact h
  · rename_i hcut
    simp only [Bool.or_eq_true, not_or] at hcut
    simpa using hcut.2

theorem mem_of_mem_stem {name : List Char} {c : Char} (h : c ∈ (splitName name).1) : c ∈ name := by
  simp only [splitName] at h
  split at h
  · exact h
  · rw [List.mem_reverse] at h
    exact List.mem_reverse.1 (List.mem_of_mem_drop h)

/-- The name of a file and an extension give the name of a file. -/
theorem isFileName_append {stem extension : List Char} (hstem : stem ≠ []) (hslash : '/' ∉ stem)
    (hextension : extension ≠ []) (hslash' : '/' ∉ extension) :
    IsFileName (stem ++ '.' :: extension) := by
  obtain ⟨a, stem, rfl⟩ := List.exists_cons_of_ne_nil hstem
  obtain ⟨b, extension, rfl⟩ := List.exists_cons_of_ne_nil hextension
  refine ⟨by simp, ?_, ?_, ?_⟩
  · cases stem <;> simp
  · cases stem <;> simp
  · simp_all

/-! ## Paths without detours -/

/-- A path that neither stays where it is nor goes up. -/
def Straight (p : Path) : Prop :=
  .current ∉ p.components ∧ .parent ∉ p.components

instance (p : Path) : Decidable p.Straight :=
  inferInstanceAs (Decidable (_ ∧ _))

theorem Straight.join {p : Path} (h : p.Straight) {name : List Char} (hname : IsFileName name) :
    (p.join name).Straight := by
  unfold Straight at *
  rw [components_join p hname]
  simpa using h

theorem Straight.directory {p : Path} (h : p.Straight) {name : List Char}
    (hname : p.fileName? = some name) : p.directory.Straight := by
  unfold Straight at *
  rw [(components_of_fileName? hname).2] at h
  simpa using h

end Path

end CustomElement.Build
