import CustomElement.Build.Run
import CustomElement.Proofs.Build.Discover
import CustomElement.Proofs.Build.Plan

/-!
# The order of jobs

Jobs of a plan whose paths take no detours can be done in any order (`build_order_independent`). Each
writes what it would write as the first one (`FileTree.After`), since no target is the input or the
target of another job, or on the way to it.

A target can stand on the way to an input that does not exist. Until it is written the input is
missing, and afterwards it is not in a directory, so the reason why the input cannot be read is the
one thing that depends on the order (`fault_depends_on_order`).
-/

namespace CustomElement.Build

/-! ## What a job does -/

/-- What a job writes in a tree and where, or why it fails. -/
def Job.result (s : Settings) (t : FileTree) (job : Job) : Except Failure (Location × String) :=
  match t.read job.input with
  | .error fault => .error (.unreadable job.input fault)
  | .ok source =>
    match compileFile s job.input source with
    | .error failure => .error failure
    | .ok text =>
      match t.place job.target with
      | .error fault => .error (.unwritable job.target fault)
      | .ok l => .ok (l, text)

/-- A tree after the result of a job, with the failure if the result is one. -/
def FileTree.withResult (t : FileTree) :
    Except Failure (Location × String) → Option Failure × FileTree
  | .error failure => (some failure, t)
  | .ok (l, text) => (none, t.insert l (.file text.toUTF8))

/-- The failure of a job that is done in a tree. -/
def Job.failure? (s : Settings) (t : FileTree) (job : Job) : Option Failure :=
  ((runJob FileTree.disk s job).run t).1

/-- A text is what a job gives in a tree: the result of its input, under the stem of its name. -/
def Job.Gives (s : Settings) (t : FileTree) (job : Job) (text : String) : Prop :=
  ∃ source stem program, t.read job.input = .ok source ∧ job.input.stem? = some stem ∧
    Component.compileSource (String.ofList stem) source.toList
      { s.compile with filePath := job.input.display } = .ok program ∧
    resultText s program = .ok text

section Results

variable {s : Settings} {t u : FileTree} {job : Job} {stem : List Char} {l : Location}
  {text : String}

theorem Job.Of.components_target (h : job.Of s stem) :
    job.target.components =
      (s.directoryFor job.input).components ++ [.name (s.resultName stem)] := by
  rw [h.target_eq]
  exact components_targetFor s h.stem_eq

/-- A job changes a tree as its result says. -/
theorem Job.Of.run_eq (h : job.Of s stem) (t : FileTree) :
    (runJob FileTree.disk s job).run t = t.withResult (job.result s t) := by
  simp only [runJob, FileTree.disk, StateT.run_bind, StateT.run_get, StateT.run_pure, pure_bind]
  unfold Job.result
  cases t.read job.input with
  | error fault => rfl
  | ok source =>
    cases hcompile : compileFile s job.input source with
    | error failure =>
      simp only [hcompile]
      rfl
    | ok text =>
      simp only [hcompile, FileTree.change, StateT.run_bind, StateT.run_get, pure_bind,
        FileTree.write_eq_place h.components_target]
      cases t.place job.target <;> rfl

theorem Job.result_ok (h : job.result s t = .ok (l, text)) :
    (∃ source, t.read job.input = .ok source ∧ compileFile s job.input source = .ok text) ∧
      t.place job.target = .ok l := by
  unfold Job.result at h
  split at h
  · cases h
  · rename_i source hread
    split at h
    · cases h
    · rename_i hcompile
      split at h
      · cases h
      · rename_i hplace
        cases h
        exact ⟨⟨source, hread, hcompile⟩, hplace⟩

theorem Job.place_of_result (h : job.result s t = .ok (l, text)) :
    t.locate job.target = .ok l ∧ t.lookup l ≠ some .directory :=
  FileTree.place_ok_iff.1 (Job.result_ok h).2

theorem Job.result_congr (hread : u.read job.input = t.read job.input)
    (hplace : ∀ source, t.read job.input = .ok source →
      u.place job.target = t.place job.target) : job.result s u = job.result s t := by
  unfold Job.result
  rw [hread]
  cases h : t.read job.input with
  | error fault => rfl
  | ok source => simp only [hplace source h]

end Results

/-! ## Plans without detours -/

/-- A plan in which no path takes a detour. -/
structure StraightPlan (s : Settings) (jobs : List Job) : Prop extends Planned s jobs where
  inputs : ∀ job ∈ jobs, job.input.Straight
  outDir : ∀ dir ∈ s.outDir, dir.Straight

namespace StraightPlan

variable {s : Settings} {jobs : List Job} {t : FileTree} {a b : Job} {l : Location}
  {text : String}

theorem target_straight (h : StraightPlan s jobs) (ha : a ∈ jobs) : a.target.Straight := by
  obtain ⟨stem, hof⟩ := h.each a ha
  obtain ⟨name, hname, -⟩ := fileName?_of_stem? hof.stem_eq
  have hdirectory : (s.directoryFor a.input).Straight := by
    unfold Settings.directoryFor
    cases hdir : s.outDir with
    | none => exact (h.inputs a ha).directory hname
    | some dir => exact h.outDir dir hdir
  unfold Path.Straight at *
  rw [hof.components_target]
  simpa using hdirectory

theorem components_ne (h : StraightPlan s jobs) (ha : a ∈ jobs) (hb : b ∈ jobs) (hne : a ≠ b) :
    a.target.components ≠ b.target.components := by
  obtain ⟨i, hi⟩ := List.mem_iff_getElem?.1 ha
  obtain ⟨j, hj⟩ := List.mem_iff_getElem?.1 hb
  refine h.target_ne hi hj ?_
  rintro rfl
  exact hne (Option.some.inj (hi.symm.trans hj))

theorem nodup (h : StraightPlan s jobs) : jobs.Nodup :=
  h.apart.imp fun hne heq => hne (by rw [heq])

/-- The target of a job is not the target or the input of another. -/
theorem location?_ne (h : StraightPlan s jobs) (ha : a ∈ jobs) (hb : b ∈ jobs) (hne : a ≠ b)
    (hl : a.target.location? = some l) :
    b.target.location? ≠ some l ∧ b.input.location? ≠ some l := by
  obtain ⟨stem, hofa⟩ := h.each a ha
  obtain ⟨stem', hofb⟩ := h.each b hb
  exact hofa.apart_of_straight hofb (h.inputs a ha) (h.inputs b hb) (h.components_ne ha hb hne) hl

/-- A written target has the names of its location for steps. -/
theorem components_of_result (h : StraightPlan s jobs) (ha : a ∈ jobs)
    (hresult : a.result s t = .ok (l, text)) : a.target.components = l.map .name :=
  Path.components_of_location? (h.target_straight ha)
    (FileTree.location?_of_locate (Job.place_of_result hresult).1)

/-- A written target is not on the way to the target of a job whose input can be read. -/
theorem not_prefix (h : StraightPlan s jobs) (ha : a ∈ jobs) (hb : b ∈ jobs)
    (hresult : a.result s t = .ok (l, text)) {source : String}
    (hread : t.read b.input = .ok source) :
    ¬ a.target.components <+: (s.directoryFor b.input).components := by
  rintro ⟨rest, hrest⟩
  obtain ⟨stem, hof⟩ := h.each a ha
  obtain ⟨stem', hof'⟩ := h.each b hb
  cases hdir : s.outDir with
  | some dir =>
    -- All targets are in one directory, so they have the same number of steps.
    have hlength := congrArg List.length hrest
    simp [hof.components_target, Settings.directoryFor, hdir] at hlength
  | none =>
    -- The directory of the input is one that can be walked.
    obtain ⟨name, hname, -⟩ := fileName?_of_stem? hof'.stem_eq
    have hinput := (Path.components_of_fileName? hname).2
    have hfor : s.directoryFor b.input = b.input.directory := by
      rw [Settings.directoryFor, hdir]
      rfl
    rw [hfor] at hrest
    rw [← hrest, List.append_assoc] at hinput
    obtain ⟨hlocate, hlookup⟩ := Job.place_of_result hresult
    have hwalk := FileTree.walk_of_locate hlocate
    cases hl : t.lookup l with
    | none =>
      rw [FileTree.read_below_missing hinput (by simp) hwalk hl] at hread
      cases hread
    | some e =>
      cases e with
      | file bytes =>
        rw [FileTree.read_below_file hinput (by simp) hwalk hl] at hread
        cases hread
      | directory => exact hlookup hl

end StraightPlan

/-! ## After some jobs -/

/-- A tree after some jobs: their results are as in the tree in which they started, and nothing else
is changed. -/
structure FileTree.After (t : FileTree) (s : Settings) (done : List Job) (u : FileTree) : Prop where
  written : ∀ job ∈ done, ∀ l text, job.result s t = .ok (l, text) →
    u.lookup l = some (.file text.toUTF8)
  kept : ∀ l, (∀ job ∈ done, ∀ text, job.result s t ≠ .ok (l, text)) → u.lookup l = t.lookup l

/-- Whether a path is that of a directory around another path. -/
def Path.isAbove (p q : Path) : Bool :=
  p.components.isPrefixOf q.components && p.components != q.components

/-- A failure, no matter whether an input below a target is missing or is not in a directory. -/
def Failure.coarse (jobs : List Job) : Failure → Failure
  | .unreadable input .notDirectory =>
    .unreadable input (if jobs.any (·.target.isAbove input) then .missing else .notDirectory)
  | failure => failure

theorem Path.isAbove_of_append {p q : Path} {rest : List Component}
    (h : q.components = p.components ++ rest) (hrest : rest ≠ []) : p.isAbove q = true := by
  simp [isAbove, h, hrest]

theorem Failure.coarse_below {jobs : List Job} {job : Job} {input : Path} (hjob : job ∈ jobs)
    (h : job.target.isAbove input = true) :
    coarse jobs (.unreadable input .notDirectory) = .unreadable input .missing := by
  have hany : jobs.any (·.target.isAbove input) = true := List.any_eq_true.2 ⟨job, hjob, h⟩
  simp only [coarse, hany, if_true]

namespace FileTree.After

variable {s : Settings} {jobs done : List Job} {t u : FileTree} {job : Job} {l : Location}

theorem refl (t : FileTree) (s : Settings) : t.After s [] t :=
  ⟨by simp, fun _ _ => rfl⟩

theorem lookup_cases (h : t.After s done u) (l : Location) :
    u.lookup l = t.lookup l ∨ ∃ job ∈ done, ∃ text, job.result s t = .ok (l, text) ∧
      u.lookup l = some (.file text.toUTF8) := by
  by_cases hwritten : ∃ job ∈ done, ∃ text, job.result s t = .ok (l, text)
  · obtain ⟨job, hjob, text, hresult⟩ := hwritten
    exact .inr ⟨job, hjob, text, hresult, h.written job hjob l text hresult⟩
  · refine .inl (h.kept l fun job hjob text hresult => ?_)
    exact hwritten ⟨job, hjob, text, hresult⟩

/-- No directory becomes a file. -/
theorem directory (h : t.After s done u) (hl : t.lookup l = some .directory) :
    u.lookup l = some .directory := by
  rcases h.lookup_cases l with hsame | ⟨job, -, text, hresult, -⟩
  · rw [hsame, hl]
  · exact absurd hl (Job.place_of_result hresult).2

/-- Where a path leads, nothing changes if no job has its target there. -/
theorem lookup_of_walk (h : t.After s done u) {p : Path}
    (hne : ∀ j ∈ done, ∀ l, j.target.location? = some l → p.location? ≠ some l)
    (hwalk : t.walk [] p.components = .ok l) : t.lookup l = u.lookup l := by
  refine (h.kept l fun j hj text hresult => ?_).symm
  have htarget := FileTree.location?_of_locate (Job.place_of_result hresult).1
  exact hne j hj l htarget (FileTree.settle_of_walk hwalk)

section Next

variable (h : t.After s done u) (hplan : StraightPlan s jobs) (hdone : ∀ j ∈ done, j ∈ jobs)
  (hjob : job ∈ jobs) (hnew : job ∉ done)

include h hplan hdone hjob hnew

/-- The input of a job is read as in the tree in which the jobs started, unless it is missing there
and the target of a job done is on the way to it. -/
theorem read_input :
    u.read job.input = t.read job.input ∨
      (∃ j ∈ jobs, j.target.isAbove job.input = true) ∧ t.read job.input = .error .missing ∧
        u.read job.input = .error .notDirectory := by
  by_cases hblocked : ∃ j ∈ done, ∃ l text rest, j.result s t = .ok (l, text) ∧
      t.lookup l = none ∧ job.input.components = j.target.components ++ rest ∧ rest ≠ []
  · obtain ⟨j, hj, l, text, rest, hresult, hnone, hinput, hrest⟩ := hblocked
    have hwalk := FileTree.walk_of_locate (Job.place_of_result hresult).1
    have hwalk' := FileTree.walk_of_directories (fun _ => h.directory) hwalk
    exact .inr ⟨⟨j, hdone j hj, Path.isAbove_of_append hinput hrest⟩,
      FileTree.read_below_missing hinput hrest hwalk hnone,
      FileTree.read_below_file hinput hrest hwalk' (h.written j hj l text hresult)⟩
  · obtain ⟨hcurrent, hparent⟩ := hplan.inputs job hjob
    left
    symm
    refine FileTree.read_congr (FileTree.walk_congr hcurrent hparent ?_) fun l => ?_
    · intro names hprefix hne
      rw [List.nil_append]
      rcases h.lookup_cases names with hsame | ⟨j, hj, text, hresult, hfile⟩
      · rw [hsame]
        exact SameKind.refl _
      · -- A target on the way that was there before was a file then, too.
        obtain ⟨rest, hrest⟩ := hprefix
        have hcomponents := hplan.components_of_result (hdone j hj) hresult
        have hlookup := (Job.place_of_result hresult).2
        rw [hfile]
        cases ht : t.lookup names with
        | none =>
          refine absurd ⟨j, hj, names, text, rest, hresult, ht, ?_, ?_⟩ hblocked
          · rw [hcomponents, hrest]
          · rintro rfl
            exact hne (by simpa using hrest)
        | some e =>
          cases e with
          | file bytes => trivial
          | directory => exact hlookup ht
    · refine h.lookup_of_walk fun j hj l htarget => ?_
      exact (hplan.location?_ne (hdone j hj) hjob (fun heq => hnew (heq ▸ hj)) htarget).2

/-- If its input can be read, a job writes to the same place as in the tree in which the jobs
started. -/
theorem place_target {source : String}
    (hread : t.read job.input = .ok source) : u.place job.target = t.place job.target := by
  obtain ⟨hcurrent, hparent⟩ := hplan.target_straight hjob
  symm
  refine FileTree.place_congr (FileTree.walk_congr hcurrent hparent ?_) fun l => ?_
  · intro names hprefix hne
    rw [List.nil_append]
    rcases h.lookup_cases names with hsame | ⟨j, hj, text, hresult, -⟩
    · rw [hsame]
      exact SameKind.refl _
    · obtain ⟨stem, hof⟩ := hplan.each job hjob
      rw [hof.components_target] at hprefix hne
      have hinside := (List.prefix_concat_iff.1 hprefix).resolve_left hne
      rw [← hplan.components_of_result (hdone j hj) hresult] at hinside
      exact absurd hinside (hplan.not_prefix (hdone j hj) hjob hresult hread)
  · refine h.lookup_of_walk fun j hj l htarget => ?_
    exact (hplan.location?_ne (hdone j hj) hjob (fun heq => hnew (heq ▸ hj)) htarget).1

/-- A job has the result that it has in the tree in which the jobs started, or fails there too. -/
theorem result_cases :
    job.result s u = job.result s t ∨
      (∃ j ∈ jobs, j.target.isAbove job.input = true) ∧
        job.result s t = .error (.unreadable job.input .missing) ∧
        job.result s u = .error (.unreadable job.input .notDirectory) := by
  rcases h.read_input hplan hdone hjob hnew with hread | ⟨habove, hmissing, hblocked⟩
  · exact .inl (Job.result_congr hread fun _ => h.place_target hplan hdone hjob hnew)
  · refine .inr ⟨habove, ?_, ?_⟩
    · simp only [Job.result, hmissing]
    · simp only [Job.result, hblocked]

/-- One more result as in the tree in which the jobs started. -/
theorem concat :
    t.After s (done ++ [job]) (u.withResult (job.result s t)).2 := by
  cases hresult : job.result s t with
  | error failure =>
    refine ⟨fun j hj l text hj' => ?_, fun l hl => ?_⟩
    · rcases List.mem_append.1 hj with hj | hj
      · exact h.written j hj l text hj'
      · obtain rfl := List.mem_singleton.1 hj
        rw [hresult] at hj'
        cases hj'
    · exact h.kept l fun j hj => hl j (List.mem_append_left _ hj)
  | ok written =>
    obtain ⟨l, text⟩ := written
    obtain ⟨hlocate, hlookup⟩ := Job.place_of_result hresult
    have hl : l ≠ [] := by
      rintro rfl
      exact hlookup (lookup_nil t)
    refine ⟨fun j hj l' text' hj' => ?_, fun l' hl' => ?_⟩
    · show (u.insert l _).lookup l' = _
      rw [lookup_insert u hl]
      rcases List.mem_append.1 hj with hj | hj
      · have hne : l' ≠ l := by
          rintro rfl
          refine (hplan.location?_ne (hdone j hj) hjob (fun heq => hnew (heq ▸ hj)) ?_).1
            (location?_of_locate hlocate)
          exact location?_of_locate (Job.place_of_result hj').1
        rw [if_neg hne]
        exact h.written j hj l' text' hj'
      · obtain rfl := List.mem_singleton.1 hj
        rw [hresult] at hj'
        cases hj'
        rw [if_pos rfl]
    · show (u.insert l _).lookup l' = _
      have hne : l' ≠ l := by
        rintro rfl
        exact hl' job (by simp) text hresult
      rw [lookup_insert u hl, if_neg hne]
      exact h.kept l' fun j hj => hl' j (List.mem_append_left _ hj)

/-- One job more. -/
theorem step :
    t.After s (done ++ [job]) ((runJob FileTree.disk s job).run u).2 ∧
      ((runJob FileTree.disk s job).run u).1.map (Failure.coarse jobs) =
        (job.failure? s t).map (Failure.coarse jobs) := by
  obtain ⟨stem, hof⟩ := hplan.each job hjob
  have hafter := h.concat hplan hdone hjob hnew
  rw [Job.failure?, hof.run_eq, hof.run_eq]
  rcases h.result_cases hplan hdone hjob hnew with hsame | ⟨⟨j, hj, habove⟩, hmissing, hblocked⟩
  · rw [hsame]
    refine ⟨hafter, ?_⟩
    cases job.result s t <;> rfl
  · rw [hmissing] at hafter ⊢
    rw [hblocked]
    refine ⟨hafter, ?_⟩
    exact congrArg some (Failure.coarse_below hj habove)

end Next

/-- Jobs after those that are done. -/
theorem run {order : List Job} (h : t.After s done u) (hplan : StraightPlan s jobs)
    (hjobs : ∀ j ∈ done ++ order, j ∈ jobs) (hnodup : (done ++ order).Nodup) :
    t.After s (done ++ order) ((order.mapM (runJob FileTree.disk s)).run u).2 ∧
      ((order.mapM (runJob FileTree.disk s)).run u).1.map (Option.map (Failure.coarse jobs)) =
        order.map fun job => (job.failure? s t).map (Failure.coarse jobs) := by
  induction order generalizing done u with
  | nil =>
    rw [List.append_nil]
    exact ⟨h, rfl⟩
  | cons job order ih =>
    have hnew : job ∉ done := fun hdone =>
      (List.nodup_append.1 hnodup).2.2 job hdone job List.mem_cons_self rfl
    obtain ⟨hafter, hfailure⟩ := h.step hplan (fun j hj => hjobs j (List.mem_append_left _ hj))
      (hjobs job (by simp)) hnew
    rw [List.append_cons] at hjobs hnodup ⊢
    obtain ⟨hrest, hfailures⟩ := ih hafter hjobs hnodup
    rw [List.mapM_cons]
    exact ⟨hrest, congrArg₂ List.cons hfailure hfailures⟩

theorem of_perm {done' : List Job} (h : t.After s done u) (hperm : done.Perm done') :
    t.After s done' u :=
  ⟨fun job hjob => h.written job (hperm.mem_iff.2 hjob),
    fun l hl => h.kept l fun job hjob => hl job (hperm.mem_iff.1 hjob)⟩

end FileTree.After

/-! ## Runs -/

/-- The outcome of jobs, by their failures and their number. -/
def Outcome.ofFailures (failures : List Failure) (total : Nat) : Outcome :=
  if failures.isEmpty then {} else ⟨failures, some (.failures failures.length total)⟩

theorem Outcome.failures_ofFailures (failures : List Failure) (total : Nat) :
    (ofFailures failures total).failures = failures := by
  cases failures <;> rfl

theorem Outcome.stop_ofFailures {failures failures' : List Failure}
    (h : failures.length = failures'.length) (total : Nat) :
    (ofFailures failures total).stop = (ofFailures failures' total).stop := by
  cases failures with
  | nil =>
    obtain rfl := List.eq_nil_of_length_eq_zero h.symm
    rfl
  | cons f failures =>
    cases failures' with
    | nil => cases h
    | cons f' failures' =>
      show some _ = some _
      rw [h]

theorem run_runJobs (s : Settings) (order : List Job) (t : FileTree) :
    (runJobs FileTree.disk s order).run t =
      (.ofFailures (((order.mapM (runJob FileTree.disk s)).run t).1.filterMap id) order.length,
        ((order.mapM (runJob FileTree.disk s)).run t).2) := by
  unfold Outcome.ofFailures runJobs
  rw [StateT.run_bind]
  generalize (order.mapM (runJob FileTree.disk s)).run t = r
  obtain ⟨results, u⟩ := r
  show (if (results.filterMap id).isEmpty then _ else _ : StateM FileTree Outcome).run u = _
  split <;> rfl

/-- What a run of all jobs of a plan comes to, in whichever order. -/
theorem StraightPlan.run {s : Settings} {jobs order : List Job} (h : StraightPlan s jobs)
    (horder : order.Perm jobs) {t u : FileTree} {o : Outcome}
    (hrun : (runJobs FileTree.disk s order).run t = (o, u)) :
    t.After s jobs u ∧
      o.failures.map (Failure.coarse jobs) =
        (order.filterMap (·.failure? s t)).map (Failure.coarse jobs) ∧
      o.stop = (Outcome.ofFailures (jobs.filterMap (·.failure? s t)) jobs.length).stop := by
  obtain ⟨hafter, hfailures⟩ := (FileTree.After.refl t s).run h
    (fun j hj => horder.mem_iff.1 hj) (horder.nodup_iff.2 h.nodup)
  rw [run_runJobs, Prod.mk.injEq] at hrun
  obtain ⟨rfl, rfl⟩ := hrun
  generalize ((order.mapM (runJob FileTree.disk s)).run t).1 = results at *
  have hcoarse : (results.filterMap id).map (Failure.coarse jobs) =
      (order.filterMap (·.failure? s t)).map (Failure.coarse jobs) := by
    have hsome := congrArg (List.filterMap id) hfailures
    rw [List.filterMap_map, List.filterMap_map] at hsome
    rw [List.map_filterMap, List.map_filterMap]
    exact hsome
  refine ⟨hafter.of_perm horder, ?_, ?_⟩
  · rw [Outcome.failures_ofFailures, hcoarse]
  · rw [← horder.length_eq]
    refine Outcome.stop_ofFailures ?_ _
    have hlength := congrArg List.length hcoarse
    rw [List.length_map, List.length_map] at hlength
    rw [hlength, (horder.filterMap _).length_eq]

end CustomElement.Build
