import CustomElement.Proofs.Json.ReadBack
import Mathlib.Data.List.Forall2

/-!
# Keys that nothing reads

`Added` relates a value to one that has more keys in its objects, at any depth, each of them a key for a
position in a source. An object that spells one of the given words stays as it is where a word may stand:
in a field that holds a word, or in an array. Values with added keys have the same shape, and every other
key leads to values that are related again (`AddedFields.lookup_rel`).

Two readers agree if they read the same from related values (`Agrees`), up to a depth for either of them.
Agreement passes to the readers of fields, lists and optional values, so it can be followed along any
reader that is built from these. A word is read the same too (`agrees_word?`), from the places where it may
stand.
-/

namespace CustomElement.Json

/-- The keys that say where a node stands in its source. -/
def positionKeys : List String :=
  ["start", "end", "loc", "range"]

/-- The keys of fields that hold a word. -/
def wordKeys : List String :=
  ["operator", "kind", "sourceType"]

/-- Whether an object with these fields spells one of the words. -/
def spells (words : List String) : List (String × Json) → Bool
  | [(key, value)] => words.contains key && isUnit true value
  | _ => false

/-- The second list has more fields than the first, with keys for positions, and values that are related
to those of the first. -/
inductive AddedFields (R : String → Json → Json → Prop) :
    List (String × Json) → List (String × Json) → Prop where
  | nil : AddedFields R [] []
  | same {key : String} {value value' : Json} {fields fields' : List (String × Json)}
      (hvalue : R key value value') (h : AddedFields R fields fields') :
      AddedFields R ((key, value) :: fields) ((key, value') :: fields')
  | added {key : String} {value : Json} {fields fields' : List (String × Json)}
      (hkey : key ∈ positionKeys) (h : AddedFields R fields fields') :
      AddedFields R fields ((key, value) :: fields')

/-- The second value has more keys for positions in its objects. The flag says whether a word may stand in
this place; there, objects that spell a word stay as they are. -/
inductive Added (words : List String) : Bool → Json → Json → Prop where
  | same (place : Bool) (j : Json) : Added words place j j
  | array {place : Bool} {items items' : List Json} (h : List.Forall₂ (Added words true) items items') :
      Added words place (.array items) (.array items')
  | object {place : Bool} {fields fields' : List (String × Json)}
      (hword : place = true → spells words fields = false)
      (h : AddedFields (fun key => Added words (wordKeys.contains key)) fields fields') :
      Added words place (.object fields) (.object fields')

namespace AddedFields

variable {R : String → Json → Json → Prop} {fields fields' : List (String × Json)}

theorem refl (hR : ∀ key value, R key value value) : ∀ fields, AddedFields R fields fields
  | [] => .nil
  | (key, value) :: rest => .same (hR key value) (refl hR rest)

/-- Keys for positions may be added in front. -/
theorem append {more : List (String × Json)} (hmore : ∀ field ∈ more, field.1 ∈ positionKeys)
    (h : AddedFields R fields fields') : AddedFields R fields (more ++ fields') := by
  induction more with
  | nil => exact h
  | cons field more ih =>
    exact .added (hmore field List.mem_cons_self) (ih fun field hfield => hmore field (.tail _ hfield))

/-- A key that is not for positions leads to related values, or to none in either list. -/
theorem lookup_rel (h : AddedFields R fields fields') {key : String} (hkey : key ∉ positionKeys) :
    Option.Rel (R key) (fields.lookup key) (fields'.lookup key) := by
  induction h with
  | nil => exact .none
  | @same k value value' fields fields' hvalue h ih =>
    rw [List.lookup_cons, List.lookup_cons]
    cases hk : key == k with
    | true =>
      obtain rfl := beq_iff_eq.1 hk
      exact .some hvalue
    | false => exact ih
  | @added k value fields fields' hk h ih =>
    have hne : (key == k) = false := beq_false_of_ne fun heq => hkey (heq ▸ hk)
    rw [List.lookup_cons, hne]
    exact ih

end AddedFields

theorem depth_le_of_lookup {key : String} {value : Json} {fields : List (String × Json)}
    (h : fields.lookup key = some value) : value.depth ≤ depthFields fields := by
  induction fields with
  | nil => cases h
  | cons field rest ih =>
    rw [depthFields, depthField]
    rw [List.lookup_cons] at h
    cases hk : key == field.1 with
    | true =>
      rw [hk] at h
      cases h
      exact Nat.le_max_left ..
    | false =>
      rw [hk] at h
      exact Nat.le_trans (ih h) (Nat.le_max_right ..)

section Reading

variable {words : List String} {n n' : Nat} {place : Bool} {j j' : Json}

/-- What can be added where a word may stand can be added in any place. -/
theorem Added.anywhere (h : Added words true j j') (place : Bool) : Added words place j j' := by
  cases h with
  | same => exact .same place j
  | array h => exact .array h
  | object hword h => exact .object (fun _ => hword rfl) h

theorem isUnit_kept {kept : Bool} (h : isUnit kept j = true) : isUnit true j = true := by
  cases j with
  | null => rfl
  | object fields =>
    cases fields with
    | nil => rfl
    | cons => cases h
  | _ => cases h

theorem Added.isUnit_of_isUnit (h : Added words place j j') (hunit : isUnit true j' = true) :
    isUnit true j = true := by
  cases h with
  | same => exact hunit
  | array => cases hunit
  | @object _ fields fields' _ h =>
    cases h with
    | nil => rfl
    | same => cases hunit
    | added => cases hunit

/-- Added keys do not make an object spell a word. -/
theorem AddedFields.not_spells {fields fields' : List (String × Json)}
    (h : AddedFields (fun key => Added words (wordKeys.contains key)) fields fields')
    (hkeys : ∀ word ∈ words, word ∉ positionKeys) (hword : spells words fields = false) :
    spells words fields' = false := by
  rw [← Bool.not_eq_true] at hword ⊢
  intro hspells
  cases h with
  | nil => cases hspells
  | @same key value value' fields fields' hvalue h =>
    cases h with
    | nil =>
      rw [spells, Bool.and_eq_true] at hspells hword
      exact hword ⟨hspells.1, hvalue.isUnit_of_isUnit hspells.2⟩
    | same => cases hspells
    | added => cases hspells
  | @added key value fields fields' hkey h =>
    cases fields' with
    | nil =>
      rw [spells, Bool.and_eq_true, List.contains_iff_mem] at hspells
      exact hkeys key hspells.1 hkey
    | cons => cases hspells

/-- The second value is the first one with added keys, and neither is deeper than given. -/
structure Alike (words : List String) (n n' : Nat) (place : Bool) (j j' : Json) : Prop where
  added : Added words place j j'
  depth_le : j.depth ≤ n
  depth_le' : j'.depth ≤ n'

theorem Added.alike (h : Added words place j j') : Alike words j.depth j'.depth place j j' :=
  ⟨h, Nat.le_refl _, Nat.le_refl _⟩

theorem Alike.anywhere (h : Alike words n n' true j j') (place : Bool) : Alike words n n' place j j' :=
  ⟨h.added.anywhere place, h.depth_le, h.depth_le'⟩

theorem Alike.succ (h : Alike words n n' place j j') : Alike words (n + 1) (n' + 1) place j j' :=
  ⟨h.added, Nat.le_succ_of_le h.depth_le, Nat.le_succ_of_le h.depth_le'⟩

/-- Fields that lead to values that are alike. -/
inductive Fields.Alike (words : List String) (n n' : Nat) : Fields → Fields → Prop where
  | named {fields fields' : List (String × Json)}
      (h : ∀ key, key ∉ positionKeys → Option.Rel (Json.Alike words n n' (wordKeys.contains key))
        (fields.lookup key) (fields'.lookup key)) :
      Fields.Alike words n n' (.named fields) (.named fields')
  | listed {items items' : List Json} (h : List.Forall₂ (Json.Alike words n n' true) items items') :
      Fields.Alike words n n' (.listed items) (.listed items')

theorem Fields.alike_named {fields fields' : List (String × Json)}
    (h : AddedFields (fun key => Added words (wordKeys.contains key)) fields fields')
    (hd : depthFields fields ≤ n) (hd' : depthFields fields' ≤ n') :
    Fields.Alike words n n' (.named fields) (.named fields') := by
  refine .named fun key hkey => ?_
  have hrel := h.lookup_rel hkey
  have hle : ∀ value, fields.lookup key = some value → value.depth ≤ n :=
    fun _ hvalue => Nat.le_trans (depth_le_of_lookup hvalue) hd
  have hle' : ∀ value, fields'.lookup key = some value → value.depth ≤ n' :=
    fun _ hvalue => Nat.le_trans (depth_le_of_lookup hvalue) hd'
  generalize fields.lookup key = first, fields'.lookup key = second at hrel hle hle' ⊢
  cases hrel with
  | none => exact .none
  | some hadded => exact .some ⟨hadded, hle _ rfl, hle' _ rfl⟩

theorem Fields.alike_listed {items items' : List Json} (h : List.Forall₂ (Added words true) items items')
    (hd : depthItems items ≤ n) (hd' : depthItems items' ≤ n') :
    Fields.Alike words n n' (.listed items) (.listed items') := by
  refine .listed ?_
  induction h with
  | nil => exact .nil
  | cons hitem _ ih =>
    rw [depthItems] at hd hd'
    exact .cons ⟨hitem, by omega, by omega⟩ (ih (by omega) (by omega))

/-- Added keys keep the shape of a value. -/
theorem Added.shape (h : Added words place j j') :
    (∃ items items', j = .array items ∧ j' = .array items' ∧
      List.Forall₂ (Added words true) items items') ∨
    (∃ fields fields', j = .object fields ∧ j' = .object fields' ∧
      AddedFields (fun key => Added words (wordKeys.contains key)) fields fields') ∨
    (j' = j ∧ (∀ items, j ≠ .array items) ∧ ∀ fields, j ≠ .object fields) := by
  cases h with
  | array h => exact .inl ⟨_, _, rfl, rfl, h⟩
  | object _ h => exact .inr (.inl ⟨_, _, rfl, rfl, h⟩)
  | same =>
    cases j with
    | array items => exact .inl ⟨_, _, rfl, rfl, List.forall₂_same.2 fun item _ => .same true item⟩
    | object fields => exact .inr (.inl ⟨_, _, rfl, rfl, .refl (fun _ value => .same _ value) fields⟩)
    | _ => exact .inr (.inr ⟨rfl, by rintro _ ⟨⟩, by rintro _ ⟨⟩⟩)

/-- Structures that are alike have fields that are alike and less deep. -/
theorem Alike.fields?_rel (h : Alike words (n + 1) (n' + 1) place j j') (size : Nat) :
    Option.Rel (Fields.Alike words n n') (j.fields? size) (j'.fields? size) := by
  obtain ⟨hadded, hd, hd'⟩ := h
  rcases hadded.shape with ⟨items, items', rfl, rfl, hitems⟩ | ⟨fields, fields', rfl, rfl, hfields⟩ |
    ⟨rfl, harray, hobject⟩
  · rw [depth] at hd hd'
    rw [fields?, fields?, hitems.length_eq]
    split
    · exact .some (Fields.alike_listed hitems (by omega) (by omega))
    · exact .none
  · rw [depth] at hd hd'
    exact .some (Fields.alike_named hfields (by omega) (by omega))
  · cases j' with
    | array items => exact absurd rfl (harray items)
    | object fields => exact absurd rfl (hobject fields)
    | _ => exact .none

/-- The two readers read the same from values that are alike. The flag says whether a word may stand in
their place. -/
def Agrees {α : Type} (words : List String) (n n' : Nat) (place : Bool) (d d' : Json → Option α) : Prop :=
  ∀ ⦃j j' : Json⦄, Alike words n n' place j j' → d j = d' j'

theorem depth_pos (j : Json) : 0 < j.depth := by
  cases j <;> simp only [depth] <;> omega

theorem agrees_zero_left {α : Type} {d d' : Json → Option α} : Agrees words 0 n' place d d' :=
  fun j _ h => absurd h.depth_le (Nat.not_le.2 j.depth_pos)

theorem agrees_zero_right {α : Type} {d d' : Json → Option α} : Agrees words n 0 place d d' :=
  fun _ j' h => absurd h.depth_le' (Nat.not_le.2 j'.depth_pos)

/-- A reader that reads neither arrays nor objects reads the same from values that are alike. -/
theorem agrees_leaf {α : Type} {d : Json → Option α} (harray : ∀ items, d (.array items) = none)
    (hobject : ∀ fields, d (.object fields) = none) : Agrees words n n' place d d := by
  intro j j' h
  rcases h.added.shape with ⟨items, items', rfl, rfl, -⟩ | ⟨fields, fields', rfl, rfl, -⟩ | ⟨rfl, -⟩
  · rw [harray, harray]
  · rw [hobject, hobject]
  · rfl

theorem Agrees.nullable {α : Type} {d d' : Json → Option α} (h : Agrees words n n' place d d') :
    Agrees words n n' place (Json.nullable d) (Json.nullable d') := by
  intro j j' halike
  have hd := h halike
  rcases halike.added.shape with ⟨items, items', rfl, rfl, -⟩ | ⟨fields, fields', rfl, rfl, -⟩ | ⟨rfl, -⟩
  · rw [nullable_of_ne_null d (by rintro ⟨⟩), nullable_of_ne_null d' (by rintro ⟨⟩), hd]
  · rw [nullable_of_ne_null d (by rintro ⟨⟩), nullable_of_ne_null d' (by rintro ⟨⟩), hd]
  · by_cases hnull : j' = .null
    · rw [hnull]
      rfl
    · rw [nullable_of_ne_null d hnull, nullable_of_ne_null d' hnull, hd]

theorem Agrees.mapM_eq {α : Type} {d d' : Json → Option α} (h : Agrees words n n' true d d')
    {items items' : List Json} (hitems : List.Forall₂ (Alike words n n' true) items items') :
    items.mapM d = items'.mapM d' := by
  induction hitems with
  | nil => rfl
  | cons hitem _ ih => rw [List.mapM_cons, List.mapM_cons, h hitem, ih]

theorem Agrees.list {α : Type} {d d' : Json → Option α} (h : Agrees words n n' true d d') :
    Agrees words n n' place (Json.list d) (Json.list d') := by
  intro j j' halike
  obtain ⟨hadded, hle, hle'⟩ := halike
  rcases hadded.shape with ⟨items, items', rfl, rfl, hitems⟩ | ⟨fields, fields', rfl, rfl, -⟩ |
    ⟨rfl, harray, -⟩
  · rw [depth] at hle hle'
    have hdepth : depthItems items ≤ n := by omega
    have hdepth' : depthItems items' ≤ n' := by omega
    cases Fields.alike_listed hitems hdepth hdepth' with
    | listed halike => exact h.mapM_eq halike
  · rfl
  · cases j' with
    | array items => exact absurd rfl (harray items)
    | _ => rfl

/-- Related values lead to one result if what follows does not tell them apart. -/
theorem bind_eq_of_rel {α β γ : Type} {R : α → β → Prop} {a : Option α} {b : Option β}
    {f : α → Option γ} {g : β → Option γ} (h : Option.Rel R a b) (hfg : ∀ x y, R x y → f x = g y) :
    a.bind f = b.bind g := by
  cases h with
  | none => rfl
  | some hxy => exact hfg _ _ hxy

theorem tagged?_object (kept : Bool) (names : List String) (fields : List (String × Json)) :
    (object fields).tagged? kept names =
      ((fields.lookup "type").bind (choice? kept names)).map fun name => (name, .named fields) := by
  rw [tagged?]
  cases fields.lookup "type" with
  | none => rfl
  | some value => cases h : choice? kept names value <;> simp [h]

/-- Nodes that are alike are of one kind, with fields that are alike, or neither is of any kind. -/
theorem Alike.tagged?_rel (h : Alike words (n + 1) (n' + 1) place j j') (kept : Bool)
    (names : List String) :
    Option.Rel (fun node node' => node.1 = node'.1 ∧ Fields.Alike words n n' node.2 node'.2)
      (j.tagged? kept names) (j'.tagged? kept names) := by
  have hchoice {place : Bool} : Agrees words n n' place (choice? kept names) (choice? kept names) :=
    agrees_leaf (fun _ => rfl) fun _ => rfl
  obtain ⟨hadded, hd, hd'⟩ := h
  rcases hadded.shape with ⟨items, items', rfl, rfl, hitems⟩ | ⟨fields, fields', rfl, rfl, hfields⟩ |
    ⟨rfl, harray, hobject⟩
  · rw [depth] at hd hd'
    have hdepth : depthItems items ≤ n := by omega
    have hdepth' : depthItems items' ≤ n' := by omega
    cases Fields.alike_listed hitems hdepth hdepth' with
    | listed halike =>
      cases halike with
      | nil => exact .none
      | cons hfirst hrest =>
        rw [tagged?, tagged?, hchoice hfirst]
        cases choice? kept names _ with
        | none => exact .none
        | some kind => exact .some ⟨rfl, .listed hrest⟩
  · rw [depth] at hd hd'
    have hdepth : depthFields fields ≤ n := by omega
    have hdepth' : depthFields fields' ≤ n' := by omega
    cases Fields.alike_named hfields hdepth hdepth' with
    | named hlookup =>
      have hkind : (fields.lookup "type").bind (choice? kept names) =
          (fields'.lookup "type").bind (choice? kept names) :=
        bind_eq_of_rel (hlookup "type" (by decide)) fun _ _ hvalue => hchoice hvalue
      rw [tagged?_object, tagged?_object, hkind]
      cases (fields'.lookup "type").bind (choice? kept names) with
      | none => exact .none
      | some kind => exact .some ⟨rfl, .named hlookup⟩
  · cases j' with
    | array items => exact absurd rfl (harray items)
    | object fields => exact absurd rfl (hobject fields)
    | _ => exact .none

/-- Structures are read the same if their fields are. -/
theorem Alike.fields?_bind_eq (h : Alike words n n' place j j') {α : Type} {size : Nat}
    {k k' : Fields → Option α} (hk : ∀ f f', Fields.Alike words n n' f f' → k f = k' f') :
    (j.fields? size).bind k = (j'.fields? size).bind k' :=
  bind_eq_of_rel (h.succ.fields?_rel size) hk

/-- Nodes are read the same if those of each kind are. -/
theorem Alike.tagged?_bind_eq (h : Alike words (n + 1) (n' + 1) place j j') {α : Type} {kept : Bool}
    {names : List String} {k k' : String × Fields → Option α}
    (hk : ∀ kind f f', Fields.Alike words n n' f f' → k (kind, f) = k' (kind, f')) :
    (j.tagged? kept names).bind k = (j'.tagged? kept names).bind k' := by
  refine bind_eq_of_rel (h.tagged?_rel kept names) ?_
  rintro ⟨kind, f⟩ ⟨_, f'⟩ ⟨rfl, hf⟩
  exact hk kind f f' hf

section Words

variable {α : Type} {all : List α} {spell : α → String}

/-- An object that spells none of the words is none of them. -/
theorem word?_of_not_spells (hall : ∀ a ∈ all, spell a ∈ words) (kept : Bool)
    {fields : List (String × Json)} (h : spells words fields = false) :
    word? kept all spell (.object fields) = none := by
  rcases fields with _ | ⟨⟨key, value⟩, _ | ⟨field, rest⟩⟩
  · rfl
  · rw [word?]
    split
    next hunit =>
      rw [List.find?_eq_none]
      intro a ha heq
      obtain rfl := beq_iff_eq.1 heq
      have hspells : spells words [(spell a, value)] = true := by
        rw [spells, List.contains_iff_mem.2 (hall a ha), isUnit_kept hunit]
        rfl
      exact absurd (hspells.symm.trans h) Bool.noConfusion
    next => rfl
  · rfl

/-- Words are read the same where a word may stand. -/
theorem agrees_word? (hall : ∀ a ∈ all, spell a ∈ words) (hkeys : ∀ word ∈ words, word ∉ positionKeys)
    (kept : Bool) : Agrees words n n' true (word? kept all spell) (word? kept all spell) := by
  intro j j' halike
  cases halike.added with
  | same => rfl
  | array => rfl
  | object hword hfields =>
    rw [word?_of_not_spells hall kept (hword rfl),
      word?_of_not_spells hall kept (hfields.not_spells hkeys (hword rfl))]

end Words

namespace Fields.Alike

variable {f f' : Fields} {α : Type} {d d' : Json → Option α}

theorem fits_eq (h : Fields.Alike words n n' f f') (size : Nat) : f.fits size = f'.fits size := by
  cases h with
  | named => rfl
  | listed h => rw [fits, fits, h.length_eq]

/-- A field that is not for positions holds values that are alike, or is missing twice. -/
theorem get?_rel (h : Fields.Alike words n n' f f') (index : Nat) {key : String}
    (hkey : key ∉ positionKeys) :
    Option.Rel (Json.Alike words n n' (wordKeys.contains key)) (f.get? index key) (f'.get? index key) := by
  cases h with
  | named h => exact h key hkey
  | listed h =>
    rw [get?, get?]
    induction h generalizing index with
    | nil => exact .none
    | cons hitem _ ih =>
      cases index with
      | zero => exact .some (hitem.anywhere _)
      | succ index => exact ih index

theorem required_eq (h : Fields.Alike words n n' f f') (index : Nat) (key : String)
    (hd : Agrees words n n' (wordKeys.contains key) d d') (hkey : key ∉ positionKeys) :
    f.required index key d = f'.required index key d' :=
  bind_eq_of_rel (h.get?_rel index hkey) hd

theorem required_fields?_rel (h : Fields.Alike words n n' f f') (index : Nat) {key : String} (size : Nat)
    (hkey : key ∉ positionKeys) :
    Option.Rel (Fields.Alike words n n') (f.required index key (fields? size))
      (f'.required index key (fields? size)) := by
  have hrel := h.get?_rel index hkey
  rw [required, required]
  generalize f.get? index key = a, f'.get? index key = b at hrel ⊢
  cases hrel with
  | none => exact .none
  | some hvalue => exact hvalue.succ.fields?_rel size

theorem withDefault_eq (h : Fields.Alike words n n' f f') (index : Nat) (key : String) (fallback : α)
    (hd : Agrees words n n' (wordKeys.contains key) d d') (hkey : key ∉ positionKeys) :
    f.withDefault index key fallback d = f'.withDefault index key fallback d' := by
  have hrel := h.get?_rel index hkey
  rw [withDefault, withDefault]
  generalize f.get? index key = a, f'.get? index key = b at hrel ⊢
  cases hrel with
  | none => rfl
  | some hvalue => exact hd hvalue

theorem optional_eq (h : Fields.Alike words n n' f f') (index : Nat) (key : String)
    (hd : Agrees words n n' (wordKeys.contains key) d d') (hkey : key ∉ positionKeys) :
    f.optional index key d = f'.optional index key d' := by
  have hnull := hd.nullable
  cases h with
  | named hlookup => exact (Alike.named hlookup).withDefault_eq index key none hnull hkey
  | listed hitems => exact (Alike.listed hitems).required_eq index key hnull hkey

end Fields.Alike

end Reading

end CustomElement.Json
