import CustomElement.Proofs.Tree.Rounds
import CustomElement.Tree.DecodeProgram

/-!
# Programs survive JSON

Every kind of node below a program is given back when it is read from its JSON form, provided that
its numbers are finite; others are written as null. Expressions and statements come from
`readers_faithful`, markup is read in rounds of its own (`childReader_readsBack`), and
`Program.decode_encode_of_finite` puts the parts together. Two places hold one of several types
without naming which: an entry of a program and a default export. There the kinds of one type are
apart from those of the other.
-/

namespace CustomElement.Tree

open Json (Fields ReadsBack depth depthItems depthFields depthField)

theorem Expr.decode_encode (kept : Bool) {e : Expr} (hf : AllFinite e.numbers) :
    Expr.decode kept e.encode = some e :=
  (readers_faithful _).expr kept e (Nat.le_refl _) hf

theorem Stmt.decode_encode (kept : Bool) {s : Stmt} (hf : AllFinite s.numbers) :
    Stmt.decode kept s.encode = some s :=
  (readers_faithful _).stmt kept s (Nat.le_refl _) hf

theorem Literal.readsBack (n : Nat) : ReadsBack n Literal.numbers Literal.encode Literal.decode :=
  fun _ _ hf => Literal.ofFields_fields hf (.string "Literal")

/-! ## Clauses of a module -/

theorem ExportName.readsBack (kept : Bool) (n : Nat) :
    ReadsBack n ExportName.numbers ExportName.encode (ExportName.decode kept) := by
  intro x _ hf
  cases x with
  | identifier => rfl
  | literal l =>
    show (Literal.ofFields (.named (("type", .string "Literal") :: l.fields))).map
      ExportName.literal = _
    rw [Literal.ofFields_fields hf]
    rfl

theorem ImportClause.readsBack (kept : Bool) (n : Nat) :
    ReadsBack n ImportClause.numbers ImportClause.encode (ImportClause.decode kept) := by
  intro c _ hf
  cases c with
  | default | «namespace» => rfl
  | named imported binding =>
    show (do some (ImportClause.named (← ExportName.decode true imported.encode) binding)) = _
    rw [ExportName.readsBack true _ _ (Nat.le_refl _) hf]
    rfl

theorem Import.ofFields_fields (kept : Bool) (kind : Json) {i : Import} (hf : AllFinite i.numbers) :
    Import.ofFields kept (.named (("type", kind) :: i.fields)) = some i := by
  obtain ⟨clauses, source⟩ := i
  obtain ⟨hclauses, hsource⟩ := allFinite_append.1 hf
  have hlist := (ImportClause.readsBack kept _).list (fun _ => rfl) (fun _ => rfl) (Nat.le_succ _)
    hclauses
  show (do
    some (Import.mk (← Json.list (ImportClause.decode kept)
      (.array (clauses.map ImportClause.encode))) (← Literal.decode source.encode))) = _
  rw [hlist, Literal.readsBack _ source (Nat.le_refl _) hsource]
  rfl

theorem ExportClause.readsBack (kept : Bool) (n : Nat) :
    ReadsBack n ExportClause.numbers ExportClause.encode (ExportClause.decode kept) := by
  intro c _ hf
  cases c with
  | named binding exported =>
    obtain ⟨hbinding, hexported⟩ := allFinite_append.1 hf
    show (do
      some (ExportClause.named (← ExportName.decode true binding.encode)
        (← ExportName.decode true exported.encode))) = _
    rw [ExportName.readsBack true _ _ (Nat.le_refl _) hbinding,
      ExportName.readsBack true _ _ (Nat.le_refl _) hexported]
    rfl
  | «namespace» exported =>
    show (ExportName.decode true exported.encode).map ExportClause.namespace = _
    rw [ExportName.readsBack true _ _ (Nat.le_refl _) hf]
    rfl
  | default exported =>
    show (ExportName.decode true exported.encode).map ExportClause.default = _
    rw [ExportName.readsBack true _ _ (Nat.le_refl _) hf]
    rfl

/-- Fields of a node are less deep than the node. -/
theorem depthFields_le_node (kind : String) (fields : List (String × Json)) :
    depthFields fields ≤ (node kind fields).depth := by
  rw [depth_node]
  omega

theorem Declaration.readsBack (kept : Bool) (n : Nat) :
    ReadsBack n Declaration.numbers Declaration.encode (Declaration.decode kept) := by
  intro d _ hf
  have hr := readers_faithful d.encode.depth
  cases d with
  | function f =>
    have hd := depthFields_le_node "FunctionDeclaration" f.fields
    show ((readers (Declaration.function f).encode.depth).funcOfFields true
      (.named (("type", .string "FunctionDeclaration") :: f.fields))).map Declaration.function = _
    rw [hr.funcOfFields_fields true _ hd hf]
    rfl
  | classDef c =>
    have hd := depthFields_le_node "ClassDeclaration" c.fields
    show ((readers (Declaration.classDef c).encode.depth).classOfFields true
      (.named (("type", .string "ClassDeclaration") :: c.fields))).map Declaration.classDef = _
    rw [hr.classOfFields_fields true _ hd hf]
    rfl
  | _ kind ds =>
    -- Declarations of variables.
    have hd := depthFields_le_node "VariableDeclaration"
      [("kind", .string kind.keyword), ("declarations", .array (encodeDeclarators ds))]
    rw [depthFields_cons, depthFields_cons] at hd
    show ((readers (Declaration.variables kind ds).encode.depth).variablesOfFields true
      (.named [("type", .string "VariableDeclaration"), ("kind", .string kind.keyword),
        ("declarations", .array (encodeDeclarators ds))])).map
      (fun v => Declaration.variables v.1 v.2) = _
    rw [hr.variablesOfFields_fields true _ kind (Nat.le_trans (by omega) hd) hf]
    rfl

theorem NamedExport.ofFields_fields (kept : Bool) (kind : Json) {e : NamedExport}
    (hf : AllFinite e.numbers) :
    NamedExport.ofFields kept (.named (("type", kind) :: e.fields)) = some e := by
  obtain ⟨declaration, clauses, source⟩ := e
  obtain ⟨hf, hsource⟩ := allFinite_append.1 hf
  obtain ⟨hdeclaration, hclauses⟩ := allFinite_append.1 hf
  have hdeclaration := (Declaration.readsBack kept _).ofOption (fun d => by cases d <;> exact nofun)
    (Nat.le_refl _) hdeclaration
  have hlist := (ExportClause.readsBack kept _).list (fun _ => rfl) (fun _ => rfl) (Nat.le_succ _)
    hclauses
  have hsource := (Literal.readsBack _).ofOption (fun _ => nofun) (Nat.le_refl _) hsource
  show (do
    some (NamedExport.mk
      (← Json.nullable (Declaration.decode kept) (.ofOption (declaration.map Declaration.encode)))
      (← Json.list (ExportClause.decode kept) (.array (clauses.map ExportClause.encode)))
      (← Json.nullable Literal.decode (.ofOption (source.map Literal.encode))))) = _
  rw [hdeclaration, hlist, hsource]
  rfl

theorem DefaultExport.decode_of_function {j : Json} {fields : Fields} {f : Func}
    (htag : j.tagged? true defaultExportKinds = some ("FunctionDeclaration", fields))
    (hf : (readers j.depth).funcOfFields true fields = some f) :
    DefaultExport.decode j = some (.function f) := by
  simp [DefaultExport.decode, htag, hf]

theorem DefaultExport.decode_of_class {j : Json} {fields : Fields} {c : ClassDef}
    (htag : j.tagged? true defaultExportKinds = some ("ClassDeclaration", fields))
    (hc : (readers j.depth).classOfFields true fields = some c) :
    DefaultExport.decode j = some (.classDef c) := by
  simp [DefaultExport.decode, htag, hc]

/-- The kinds of the declarations in a default export are no kinds of expressions. -/
theorem DefaultExport.decode_encode {e : DefaultExport} (hf : AllFinite e.numbers) :
    DefaultExport.decode e.encode = some e := by
  have hr := readers_faithful e.encode.depth
  cases e with
  | function f =>
    exact DefaultExport.decode_of_function rfl (hr.funcOfFields_fields true _
      (depthFields_le_node "FunctionDeclaration" f.fields) hf)
  | classDef c =>
    exact DefaultExport.decode_of_class rfl (hr.classOfFields_fields true _
      (depthFields_le_node "ClassDeclaration" c.fields) hf)
  | expression e =>
    have hexpr := Expr.decode_encode true hf
    obtain ⟨kind, hkind, fields, he⟩ := e.encode_eq_node
    have hapart : ∀ kind ∈ Readers.exprKinds, kind ∉ defaultExportKinds := by decide
    unfold DefaultExport.decode
    rw [DefaultExport.encode, he, tagged?_node_eq_none (hapart kind hkind), ← he, hexpr]
    rfl

/-! ## Markup -/

theorem bindingOfFields_fields (kept : Bool) (kind : Json) {e : Expr} (hf : AllFinite e.numbers) :
    bindingOfFields kept (.named [("type", kind), ("expression", e.encode)]) = some e :=
  Expr.decode_encode kept hf

theorem AttributePiece.readsBack (kept : Bool) (n : Nat) :
    ReadsBack n AttributePiece.numbers AttributePiece.encode (AttributePiece.decode kept) := by
  intro x _ hf
  cases x with
  | literal l =>
    show (Literal.ofFields (.named (("type", .string "Literal") :: l.fields))).map
      AttributePiece.literal = _
    rw [Literal.ofFields_fields hf]
    rfl
  | binding e =>
    show (bindingOfFields true (.named [("type", .string "DataBinding"),
      ("expression", e.encode)])).map AttributePiece.binding = _
    rw [bindingOfFields_fields true _ hf]
    rfl

theorem Attribute.readsBack (kept : Bool) (n : Nat) :
    ReadsBack n Attribute.numbers Attribute.encode (Attribute.decode kept) := by
  rintro ⟨name, value⟩ _ hf
  have hlist := (AttributePiece.readsBack kept _).list (fun _ => rfl) (fun _ => rfl)
    (Nat.le_succ _) hf
  show (do
    some (Attribute.mk name (← Json.list (AttributePiece.decode kept)
      (.array (value.map AttributePiece.encode))))) = _
  rw [hlist]
  rfl

theorem Element.ofFields_fields {child : Bool → Json → Option Child} {n : Nat} (kept : Bool)
    (hchild : ReadsBack n Child.numbers Child.encode (child kept)) (kind : Json) {e : Element}
    (hd : depthFields e.fields ≤ n) (hf : AllFinite e.numbers) :
    Element.ofFields child kept (.named (("type", kind) :: e.fields)) = some e := by
  obtain ⟨tag, attributes, children⟩ := e
  simp only [Element.fields, depthFields_cons] at hd
  obtain ⟨hattributes, hchildren⟩ := allFinite_append.1 hf
  have hattributes := (Attribute.readsBack kept _).list (fun _ => rfl) (fun _ => rfl)
    (Nat.le_succ _) hattributes
  have hchildren : Json.list (child kept) (.array (encodeChildren children)) = some children :=
    hchild.list (eq_flatMap_of_cons rfl fun _ _ => rfl) (eq_map_of_cons rfl fun _ _ => rfl)
      (by omega) hchildren
  show (do
    some (Element.mk tag (← Json.list (Attribute.decode kept)
      (.array (attributes.map Attribute.encode)))
      (← Json.list (child kept) (.array (encodeChildren children))))) = _
  rw [hattributes, hchildren]
  rfl

theorem childReader_readsBack (kept : Bool) (n : Nat) :
    ReadsBack n Child.numbers Child.encode (childReader n kept) := by
  induction n generalizing kept with
  | zero =>
    intro c hd
    have hpos : ¬ c.encode.depth ≤ 0 := by cases c <;> simp [Child.encode, bindingNode,
      Literal.encode, depth_node]
    exact absurd hd hpos
  | succ n ih =>
    intro c hd hf
    cases c with
    | literal l =>
      show (Literal.ofFields (.named (("type", .string "Literal") :: l.fields))).map
        Child.literal = _
      rw [Literal.ofFields_fields hf]
      rfl
    | binding e =>
      show (bindingOfFields true (.named [("type", .string "DataBinding"),
        ("expression", e.encode)])).map Child.binding = _
      rw [bindingOfFields_fields true _ hf]
      rfl
    | element e =>
      show (Element.ofFields (childReader n) true
        (.named (("type", .string "Element") :: e.fields))).map Child.element = _
      rw [Element.ofFields_fields true (ih true) _ (depthFields_le hd) hf]
      rfl

/-! ## Programs -/

theorem Item.decode_of_ofFields {j : Json} {kind : String} {fields : Fields} {item : Item}
    (htag : j.tagged? true itemKinds = some (kind, fields))
    (hitem : Item.ofFields j kind fields = some item) : Item.decode j = some item := by
  simp [Item.decode, htag, hitem]

/-- The kinds of the entries that are no statements are no kinds of statements. -/
theorem Item.readsBack (n : Nat) : ReadsBack n Item.numbers Item.encode Item.decode := by
  intro item _ hf
  cases item with
  | «import» i =>
    refine Item.decode_of_ofFields rfl ?_
    show (Import.ofFields true (.named (("type", .string "ImportDeclaration") :: i.fields))).map
      Item.import = _
    rw [Import.ofFields_fields true _ hf]
    rfl
  | exportNamed e =>
    refine Item.decode_of_ofFields rfl ?_
    show (NamedExport.ofFields true (.named (("type", .string "ExportNamedDeclaration") ::
      e.fields))).map Item.exportNamed = _
    rw [NamedExport.ofFields_fields true _ hf]
    rfl
  | exportDefault e =>
    refine Item.decode_of_ofFields rfl ?_
    show (DefaultExport.decode e.encode).map Item.exportDefault = _
    rw [DefaultExport.decode_encode hf]
    rfl
  | exportAll source exported =>
    obtain ⟨hsource, hexported⟩ := allFinite_append.1 hf
    have hexported := (ExportName.readsBack true _).ofOption
      (fun x => by cases x <;> exact nofun) (Nat.le_refl _) hexported
    refine Item.decode_of_ofFields rfl ?_
    show (do
      some (Item.exportAll (← Literal.decode source.encode)
        (← Json.nullable (ExportName.decode true)
          (.ofOption (exported.map ExportName.encode))))) = _
    rw [Literal.readsBack _ source (Nat.le_refl _) hsource, hexported]
    rfl
  | element e =>
    have helement := Element.ofFields_fields true
      (childReader_readsBack true (Item.element e).encode.depth) (.string "Element")
      (depthFields_le_node "Element" e.fields) hf
    refine Item.decode_of_ofFields rfl ?_
    show (Element.ofFields _ true (.named (("type", .string "Element") :: e.fields))).map
      Item.element = _
    rw [helement]
    rfl
  | statement s =>
    have hstmt := Stmt.decode_encode true hf
    obtain ⟨kind, hkind, fields, hs⟩ := s.encode_eq_node
    have hapart : ∀ kind ∈ Readers.stmtKinds, kind ∉ itemKinds := by decide
    unfold Item.decode
    rw [Item.encode, hs, tagged?_node_eq_none (hapart kind hkind), ← hs, hstmt]
    rfl

/-- A program whose numbers are finite is given back when it is read from its JSON form. -/
theorem Program.decode_encode_of_finite (p : Program) (hf : ∀ x ∈ p.numbers, x.isFinite = true) :
    Program.decode p.encode = some p := by
  obtain ⟨sourceType, body⟩ := p
  have hbody := (Item.readsBack _).list (fun _ => rfl) (fun _ => rfl) (Nat.le_succ _) hf
  cases sourceType
  all_goals
    show (do some (Program.mk _ (← Json.list Item.decode (.array (body.map Item.encode))))) = _
    rw [hbody]
    rfl

/-- A program with the number one half in an expression, a pattern, a statement and the markup. -/
def halves : Program :=
  let half : Expr := .literal ⟨.number ⟨false, ⟨1022, by decide⟩, ⟨0, by decide⟩⟩, none, none⟩
  ⟨.module, [
    .exportNamed ⟨some (.variables .let
      [⟨.array [none, some (.withDefault (.identifier "a") half)], some .thisRef⟩]), [], none⟩,
    .exportDefault (.expression (.arrow [] half true false)),
    .statement (.for (some half) none none .empty),
    .element ⟨"p", [⟨"title", [.binding half]⟩], [.element ⟨"b", [], [.binding half]⟩]⟩]⟩

theorem halves_decode_encode :
    (∀ x ∈ halves.numbers, x.isFinite = true) ∧ halves.numbers.length = 5 ∧
      Program.decode halves.encode = some halves := by
  have hf : ∀ x ∈ halves.numbers, x.isFinite = true := by decide
  exact ⟨hf, rfl, Program.decode_encode_of_finite halves hf⟩

end CustomElement.Tree
