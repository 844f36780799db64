import CustomElement.Json.Fields

/-!
# Reading back what was written

`ReadsBack n numbers encode decode` says that `decode` gives back every value that `encode` writes
with a depth of at most `n`, provided that the numbers in the value are finite. It passes from values
to lists of values (`ReadsBack.list`) and to optional values (`ReadsBack.nullable`).
-/

namespace CustomElement

/-- Numbers that JSON can write. -/
def AllFinite (numbers : List Double) : Prop :=
  ∀ x ∈ numbers, x.isFinite = true

theorem allFinite_append {xs ys : List Double} :
    AllFinite (xs ++ ys) ↔ AllFinite xs ∧ AllFinite ys := by
  simp only [AllFinite, List.mem_append, or_imp, forall_and]

theorem AllFinite.of_mem_flatMap {α : Type} {numbers : α → List Double} {xs : List α}
    (h : AllFinite (xs.flatMap numbers)) {x : α} (hx : x ∈ xs) : AllFinite (numbers x) :=
  fun n hn => h n (List.mem_flatMap.2 ⟨x, hx, hn⟩)

/-! ## Recursion over lists -/

theorem eq_map_of_cons {α β : Type} {f : α → β} {g : List α → List β} (hnil : g [] = [])
    (hcons : ∀ x xs, g (x :: xs) = f x :: g xs) : ∀ xs, g xs = xs.map f
  | [] => hnil
  | x :: xs => by rw [hcons, eq_map_of_cons hnil hcons xs, List.map_cons]

theorem eq_flatMap_of_cons {α β : Type} {f : α → List β} {g : List α → List β} (hnil : g [] = [])
    (hcons : ∀ x xs, g (x :: xs) = f x ++ g xs) : ∀ xs, g xs = xs.flatMap f
  | [] => hnil
  | x :: xs => by rw [hcons, eq_flatMap_of_cons hnil hcons xs, List.flatMap_cons]

namespace Json

theorem depth_le_depthItems {item : Json} : ∀ {items : List Json}, item ∈ items →
    item.depth ≤ depthItems items
  | first :: rest, h => by
    simp only [depthItems]
    rcases List.mem_cons.1 h with rfl | h
    · exact Nat.le_max_left ..
    · exact Nat.le_trans (depth_le_depthItems h) (Nat.le_max_right ..)

theorem nullable_of_ne_null {α : Type} (decode : Json → Option α) {j : Json} (h : j ≠ .null) :
    nullable decode j = (decode j).map some := by
  unfold nullable
  split
  · exact absurd rfl h
  · rfl

/-- What `encode` writes with a depth of at most `n` and finite numbers, `decode` gives back. -/
def ReadsBack {α : Type} (n : Nat) (numbers : α → List Double) (encode : α → Json)
    (decode : Json → Option α) : Prop :=
  ∀ x, (encode x).depth ≤ n → AllFinite (numbers x) → decode (encode x) = some x

namespace ReadsBack

variable {α : Type} {n : Nat} {numbers : α → List Double} {encode : α → Json}
  {decode : Json → Option α}

theorem mapM_eq (h : ReadsBack n numbers encode decode) : ∀ (xs : List α),
    (∀ x ∈ xs, (encode x).depth ≤ n ∧ AllFinite (numbers x)) →
      (xs.map encode).mapM decode = some xs
  | [], _ => rfl
  | x :: xs, hxs => by
    obtain ⟨hd, hf⟩ := hxs x List.mem_cons_self
    have hrest := h.mapM_eq xs fun y hy => hxs y (List.mem_cons_of_mem x hy)
    rw [List.map_cons, List.mapM_cons, h x hd hf, hrest]
    rfl

/-- A list is written as an array, one deeper than its items. -/
theorem list (h : ReadsBack n numbers encode decode) {numbersOf : List α → List Double}
    {encodes : List α → List Json} (hnumbers : ∀ xs, numbersOf xs = xs.flatMap numbers)
    (hencodes : ∀ xs, encodes xs = xs.map encode) {xs : List α}
    (hd : (Json.array (encodes xs)).depth ≤ n + 1) (hf : AllFinite (numbersOf xs)) :
    Json.list decode (.array (encodes xs)) = some xs := by
  simp only [hencodes, hnumbers, depth] at hd hf ⊢
  refine h.mapM_eq xs fun x hx => ⟨?_, hf.of_mem_flatMap hx⟩
  have := depth_le_depthItems (List.mem_map_of_mem (f := encode) hx)
  omega

/-- An absent value is written as null, which must not stand for anything else. -/
theorem nullable (h : ReadsBack n numbers encode decode) {numbersOf : Option α → List Double}
    {encodes : Option α → Json} (hnumbers : ∀ x, numbersOf (some x) = numbers x)
    (hnone : encodes none = .null) (hsome : ∀ x, encodes (some x) = encode x)
    (hnull : ∀ x, encode x ≠ .null) : ReadsBack n numbersOf encodes (Json.nullable decode) := by
  rintro (_ | x) hd hf
  · rw [hnone]; rfl
  · rw [hsome] at hd ⊢
    rw [hnumbers] at hf
    rw [nullable_of_ne_null decode (hnull x), h x hd hf]
    rfl

theorem ofOption (h : ReadsBack n numbers encode decode) (hnull : ∀ x, encode x ≠ .null)
    {o : Option α} (hd : (Json.ofOption (o.map encode)).depth ≤ n)
    (hf : AllFinite (o.toList.flatMap numbers)) :
    Json.nullable decode (.ofOption (o.map encode)) = some o := by
  cases o with
  | none => rfl
  | some x =>
    rw [Option.map_some, Json.ofOption] at hd ⊢
    rw [nullable_of_ne_null decode (hnull x), h x hd (hf.of_mem_flatMap List.mem_cons_self)]
    rfl

end ReadsBack

end Json

end CustomElement
