import CustomElement.Tree.DecodeProgram
import CustomElement.Proofs.Json.Additions

/-!
# Source positions in trees

A tree is read the same whether or not its nodes say where they stand in their source. Expressions,
patterns and statements are read in rounds, and added keys may make a value deeper, so the readers of two
rounds are compared, each on values that its round reaches (`readers_agree`).

An object may also stand for a word, with that word as its only key. Such an object is not read any more
once it has a second key, so these are left as they are.
-/

namespace CustomElement.Tree

open Json (Fields Agrees agrees_leaf agrees_word? agrees_zero_left agrees_zero_right bind_eq_of_rel
  wordKeys)

/-- The words that an object can spell: operators, and the words for kinds. -/
def spelledWords : List String :=
  UnaryOp.all.map UnaryOp.symbol ++ UpdateOp.all.map UpdateOp.symbol ++
    BinaryOp.all.map BinaryOp.symbol ++ LogicalOp.all.map LogicalOp.symbol ++
    AssignOp.all.map AssignOp.symbol ++ ["var", "let", "const"] ++ ["init", "get", "set"] ++
    ["constructor", "method"] ++ ["script", "module"]

/-! ## Parts without other nodes -/

section Parts

variable {n n' : Nat} {place : Bool} {f f' : Fields}

theorem agrees_text? : Agrees spelledWords n n' place Json.text? Json.text? :=
  agrees_leaf (fun _ => rfl) fun _ => rfl

theorem agrees_bool? : Agrees spelledWords n n' place Json.bool? Json.bool? :=
  agrees_leaf (fun _ => rfl) fun _ => rfl

theorem LiteralValue.decode_agrees :
    Agrees spelledWords n n' place LiteralValue.decode LiteralValue.decode :=
  agrees_leaf (fun _ => rfl) fun _ => rfl

theorem Regex.decode_agrees : Agrees spelledWords n n' place Regex.decode Regex.decode :=
  fun _ _ halike => halike.fields?_bind_eq fun f f' hf => by
    simp (disch := decide) only [hf.required_eq _ _ agrees_text?]

theorem Literal.ofFields_eq (hf : f.Alike spelledWords n n' f') :
    Literal.ofFields f = Literal.ofFields f' := by
  simp (disch := decide) only [Literal.ofFields, hf.fits_eq,
    hf.required_eq _ _ LiteralValue.decode_agrees, hf.withDefault_eq _ _ _ Regex.decode_agrees.nullable,
    hf.withDefault_eq _ _ _ agrees_text?.nullable]

theorem Literal.decode_agrees : Agrees spelledWords n n' place Literal.decode Literal.decode :=
  fun _ _ halike => halike.fields?_bind_eq fun _ _ => Literal.ofFields_eq

theorem nameOfFields_eq (hf : f.Alike spelledWords n n' f') : nameOfFields f = nameOfFields f' := by
  simp (disch := decide) only [nameOfFields, hf.fits_eq, hf.required_eq _ _ agrees_text?]

theorem decodeName_agrees : Agrees spelledWords n n' place decodeName decodeName :=
  fun _ _ halike => halike.fields?_bind_eq fun _ _ => nameOfFields_eq

theorem TemplateElement.decode_agrees :
    Agrees spelledWords n n' place TemplateElement.decode TemplateElement.decode :=
  fun _ _ halike => halike.fields?_bind_eq fun f f' hf => by
    rw [hf.required_eq 0 "tail" agrees_bool? (by decide)]
    refine Option.bind_congr fun tail _ => ?_
    refine bind_eq_of_rel (hf.required_fields?_rel 1 2 (by decide)) fun g g' hg => ?_
    simp (disch := decide) only [hg.required_eq _ _ agrees_text?, hg.optional_eq _ _ agrees_text?]

theorem flagOf_eq (hf : f.Alike spelledWords n n' f') (index : Nat) (key : String)
    (hkey : key ∉ Json.positionKeys) : flagOf f index key = flagOf f' index key :=
  hf.withDefault_eq index key false agrees_bool? hkey

/-- A word is read the same from a field that holds one. -/
theorem required_word_eq {α : Type} {all : List α} {spell : α → String}
    (hf : f.Alike spelledWords n n' f') (index : Nat) (key : String) (kept : Bool)
    (hkey : wordKeys.contains key = true ∧ key ∉ Json.positionKeys)
    (hall : ∀ a ∈ all, spell a ∈ spelledWords) :
    f.required index key (Json.word? kept all spell) = f'.required index key (Json.word? kept all spell) :=
  hf.required_eq index key (hkey.1 ▸ agrees_word? hall (by decide) kept) hkey.2

end Parts

/-! ## Expressions, patterns and statements -/

namespace Readers

/-- The readers read the same from nodes that are alike and not too deep for either. -/
structure Agree (n n' : Nat) (r r' : Readers) : Prop where
  expr {place : Bool} (kept : Bool) : Agrees spelledWords n n' place (r.expr kept) (r'.expr kept)
  pattern {place : Bool} (kept : Bool) : Agrees spelledWords n n' place (r.pattern kept) (r'.pattern kept)
  stmt {place : Bool} (kept : Bool) : Agrees spelledWords n n' place (r.stmt kept) (r'.stmt kept)

namespace Agree

variable {n n' : Nat} {place : Bool} {f f' : Fields} {r r' : Readers}

theorem block (h : Agree n n' r r') (kept : Bool) :
    Agrees spelledWords n n' place (r.block kept) (r'.block kept) :=
  fun _ _ halike => halike.fields?_bind_eq fun _ _ hf => hf.required_eq _ _ (h.stmt kept).list (by decide)

theorem funcOfFields_eq (h : Agree n n' r r') (kept : Bool) (hf : f.Alike spelledWords n n' f') :
    r.funcOfFields kept f = r'.funcOfFields kept f' := by
  simp (disch := decide) only [funcOfFields, hf.fits_eq, flagOf_eq hf,
    hf.withDefault_eq _ _ _ decodeName_agrees.nullable, hf.required_eq _ _ (h.pattern kept).list,
    hf.required_eq _ _ (h.block kept)]

theorem func (h : Agree n n' r r') (kept : Bool) :
    Agrees spelledWords n n' place (r.func kept) (r'.func kept) :=
  fun _ _ halike => halike.fields?_bind_eq fun _ _ => h.funcOfFields_eq kept

theorem methodOfFields_eq (h : Agree n n' r r') (kept : Bool) (hf : f.Alike spelledWords n n' f') :
    r.methodOfFields kept f = r'.methodOfFields kept f' := by
  simp (disch := decide) only [methodOfFields, hf.fits_eq, flagOf_eq hf, MethodKind.decode,
    hf.required_eq _ _ (h.expr kept), hf.required_eq _ _ (h.func kept), required_word_eq hf]

theorem classMember (h : Agree n n' r r') (kept : Bool) :
    Agrees spelledWords n n' place (r.classMember kept) (r'.classMember kept) :=
  fun _ _ halike => halike.succ.tagged?_bind_eq fun kind f f' hf => by
    simp (disch := decide) only [hf.fits_eq, flagOf_eq hf, h.methodOfFields_eq true hf,
      hf.required_eq _ _ (h.expr true), hf.optional_eq _ _ (h.expr true),
      hf.required_eq _ _ (h.stmt true).list]

theorem classBody (h : Agree n n' r r') (kept : Bool) :
    Agrees spelledWords n n' place (r.classBody kept) (r'.classBody kept) :=
  fun _ _ halike => halike.fields?_bind_eq fun _ _ hf =>
    hf.required_eq _ _ (h.classMember kept).list (by decide)

theorem classOfFields_eq (h : Agree n n' r r') (kept : Bool) (hf : f.Alike spelledWords n n' f') :
    r.classOfFields kept f = r'.classOfFields kept f' := by
  simp (disch := decide) only [classOfFields, hf.fits_eq,
    hf.withDefault_eq _ _ _ decodeName_agrees.nullable, hf.optional_eq _ _ (h.expr kept),
    hf.required_eq _ _ (h.classBody kept)]

theorem declarator (h : Agree n n' r r') (kept : Bool) :
    Agrees spelledWords n n' place (r.declarator kept) (r'.declarator kept) :=
  fun _ _ halike => halike.fields?_bind_eq fun f f' hf => by
    simp (disch := decide) only [hf.required_eq _ _ (h.pattern kept), hf.optional_eq _ _ (h.expr kept)]

theorem variablesOfFields_eq (h : Agree n n' r r') (kept : Bool) (hf : f.Alike spelledWords n n' f') :
    r.variablesOfFields kept f = r'.variablesOfFields kept f' := by
  simp (disch := decide) only [variablesOfFields, hf.fits_eq, VariableKind.decode, required_word_eq hf,
    hf.required_eq _ _ (h.declarator kept).list]

theorem templateOfFields_eq (h : Agree n n' r r') (kept : Bool) (hf : f.Alike spelledWords n n' f') :
    r.templateOfFields kept f = r'.templateOfFields kept f' := by
  simp (disch := decide) only [templateOfFields, hf.fits_eq,
    hf.required_eq _ _ TemplateElement.decode_agrees.list, hf.required_eq _ _ (h.expr kept).list]

theorem template (h : Agree n n' r r') (kept : Bool) :
    Agrees spelledWords n n' place (r.template kept) (r'.template kept) :=
  fun _ _ halike => halike.fields?_bind_eq fun _ _ => h.templateOfFields_eq kept

theorem objectMember (h : Agree n n' r r') (kept : Bool) :
    Agrees spelledWords n n' place (r.objectMember kept) (r'.objectMember kept) :=
  fun _ _ halike => halike.succ.tagged?_bind_eq fun kind f f' hf => by
    simp (disch := decide) only [hf.fits_eq, flagOf_eq hf, PropertyKind.decode, required_word_eq hf,
      hf.required_eq _ _ (h.expr true)]

theorem patternMember (h : Agree n n' r r') (kept : Bool) :
    Agrees spelledWords n n' place (r.patternMember kept) (r'.patternMember kept) :=
  fun _ _ halike => halike.succ.tagged?_bind_eq fun kind f f' hf => by
    simp (disch := decide) only [hf.fits_eq, flagOf_eq hf, hf.required_eq _ _ (h.expr true),
      hf.required_eq _ _ (h.pattern true)]

theorem memberOfFields_eq (h : Agree n n' r r') (hf : f.Alike spelledWords n n' f') :
    r.memberOfFields f = r'.memberOfFields f' := by
  simp (disch := decide) only [memberOfFields, hf.fits_eq, flagOf_eq hf, hf.required_eq _ _ (h.expr true)]

theorem arrowBody (h : Agree n n' r r') : Agrees spelledWords n n' place r.arrowBody r'.arrowBody := by
  intro j j' halike
  rw [Readers.arrowBody, Readers.arrowBody, h.expr true halike]
  dsimp only
  congr 1
  -- no block is read from either, or the same one
  exact halike.succ.tagged?_bind_eq fun kind f f' hf => by
    simp (disch := decide) only [hf.fits_eq, hf.required_eq _ _ (h.stmt true).list]

theorem exprOfFields_eq (h : Agree n n' r r') (kind : String) (hf : f.Alike spelledWords n n' f') :
    r.exprOfFields kind f = r'.exprOfFields kind f' := by
  -- whatever the kind is, its fields are read by readers that agree
  unfold exprOfFields
  simp (disch := decide) only [hf.fits_eq, flagOf_eq hf, nameOfFields_eq hf,
    Literal.ofFields_eq hf, h.funcOfFields_eq true hf, h.classOfFields_eq true hf,
    h.templateOfFields_eq true hf, h.memberOfFields_eq hf, operatorOf, required_word_eq hf,
    hf.required_eq _ _ agrees_bool?, hf.withDefault_eq _ _ _ agrees_bool?,
    hf.required_eq _ _ decodeName_agrees, hf.required_eq _ _ (h.expr true),
    hf.optional_eq _ _ (h.expr true), hf.required_eq _ _ (h.expr true).list,
    hf.required_eq _ _ (h.expr true).nullable.list, hf.required_eq _ _ (h.pattern true),
    hf.required_eq _ _ (h.pattern true).list, hf.required_eq _ _ (h.objectMember true).list,
    hf.required_eq _ _ h.arrowBody, hf.required_eq _ _ (h.template true)]

theorem nextPattern (h : Agree n n' r r') (kept : Bool) :
    Agrees spelledWords (n + 1) (n' + 1) place (r.nextPattern kept) (r'.nextPattern kept) :=
  fun _ _ halike => halike.tagged?_bind_eq fun kind f f' hf => by
    simp (disch := decide) only [hf.fits_eq, nameOfFields_eq hf, h.memberOfFields_eq hf,
      hf.required_eq _ _ (h.patternMember true).list, hf.required_eq _ _ (h.pattern true).nullable.list,
      hf.required_eq _ _ (h.pattern true), hf.required_eq _ _ (h.expr true)]

theorem switchCase (h : Agree n n' r r') (kept : Bool) :
    Agrees spelledWords n n' place (r.switchCase kept) (r'.switchCase kept) :=
  fun _ _ halike => halike.fields?_bind_eq fun f f' hf => by
    simp (disch := decide) only [hf.optional_eq _ _ (h.expr kept), hf.required_eq _ _ (h.stmt kept).list]

theorem catchClause (h : Agree n n' r r') (kept : Bool) :
    Agrees spelledWords n n' place (r.catchClause kept) (r'.catchClause kept) :=
  fun _ _ halike => halike.fields?_bind_eq fun f f' hf => by
    simp (disch := decide) only [hf.optional_eq _ _ (h.pattern kept), hf.required_eq _ _ (h.block kept)]

theorem variablesOr (h : Agree n n' r r') {α : Type} {other other' : Json → Option α}
    (hother : Agrees spelledWords n n' place other other') :
    Agrees spelledWords n n' place (r.variablesOr other) (r'.variablesOr other') := by
  intro j j' halike
  rw [Readers.variablesOr, Readers.variablesOr, hother halike]
  dsimp only
  congr 1
  exact halike.succ.tagged?_bind_eq fun _ _ _ => h.variablesOfFields_eq true

theorem forEachOfFields_eq (h : Agree n n' r r') (loop : LoopKind) (hf : f.Alike spelledWords n n' f') :
    r.forEachOfFields loop f = r'.forEachOfFields loop f' := by
  have hleft {place : Bool} : Agrees spelledWords n n' place r.forLeft r'.forLeft :=
    h.variablesOr (h.pattern true)
  simp (disch := decide) only [forEachOfFields, hf.fits_eq, flagOf_eq hf, hf.required_eq _ _ hleft,
    hf.required_eq _ _ (h.expr true), hf.required_eq _ _ (h.stmt true)]

theorem stmtOfFields_eq (h : Agree n n' r r') (kind : String) (hf : f.Alike spelledWords n n' f') :
    r.stmtOfFields kind f = r'.stmtOfFields kind f' := by
  have hinit {place : Bool} : Agrees spelledWords n n' place r.forInit r'.forInit :=
    h.variablesOr (h.expr true)
  unfold stmtOfFields
  simp (disch := decide) only [hf.fits_eq, h.funcOfFields_eq true hf,
    h.classOfFields_eq true hf, h.variablesOfFields_eq true hf, h.forEachOfFields_eq _ hf,
    hf.withDefault_eq _ _ _ agrees_text?.nullable, hf.withDefault_eq _ _ _ decodeName_agrees.nullable,
    hf.withDefault_eq _ _ _ (h.block true).nullable, hf.required_eq _ _ decodeName_agrees,
    hf.required_eq _ _ (h.expr true), hf.optional_eq _ _ (h.expr true), hf.required_eq _ _ (h.stmt true),
    hf.optional_eq _ _ (h.stmt true), hf.required_eq _ _ (h.stmt true).list,
    hf.required_eq _ _ (h.block true), hf.required_eq _ _ (h.switchCase true).list,
    hf.optional_eq _ _ (h.catchClause true), hf.optional_eq _ _ hinit]

/-- The readers of the next round read the same one level deeper. -/
theorem next (h : Agree n n' r r') : Agree (n + 1) (n' + 1) r.next r'.next where
  expr _ := fun _ _ halike => halike.tagged?_bind_eq fun kind _ _ => h.exprOfFields_eq kind
  pattern kept := h.nextPattern kept
  stmt _ := fun _ _ halike => halike.tagged?_bind_eq fun kind _ _ => h.stmtOfFields_eq kind

end Agree

end Readers

/-- Readers of any two rounds read the same from nodes that both rounds reach. Nothing is reached in round
zero, since every value has a depth. -/
theorem readers_agree : ∀ n n' : Nat, (readers n).Agree n n' (readers n')
  | 0, _ => ⟨fun _ => agrees_zero_left, fun _ => agrees_zero_left, fun _ => agrees_zero_left⟩
  | _ + 1, 0 => ⟨fun _ => agrees_zero_right, fun _ => agrees_zero_right, fun _ => agrees_zero_right⟩
  | n + 1, n' + 1 => (readers_agree n n').next

/-! ## Programs -/

section Programs

variable {n n' : Nat} {place : Bool} {f f' : Fields}

theorem Expr.decode_agrees (kept : Bool) :
    Agrees spelledWords n n' place (Expr.decode kept) (Expr.decode kept) :=
  fun _ _ halike => (readers_agree _ _).expr kept halike.added.alike

theorem Stmt.decode_agrees (kept : Bool) :
    Agrees spelledWords n n' place (Stmt.decode kept) (Stmt.decode kept) :=
  fun _ _ halike => (readers_agree _ _).stmt kept halike.added.alike

theorem ExportName.decode_agrees (kept : Bool) :
    Agrees spelledWords n n' place (ExportName.decode kept) (ExportName.decode kept) :=
  fun _ _ halike => halike.succ.tagged?_bind_eq fun kind f f' hf => by
    simp only [nameOfFields_eq hf, Literal.ofFields_eq hf]

theorem ImportClause.decode_agrees (kept : Bool) :
    Agrees spelledWords n n' place (ImportClause.decode kept) (ImportClause.decode kept) :=
  fun _ _ halike => halike.succ.tagged?_bind_eq fun kind f f' hf => by
    simp (disch := decide) only [hf.fits_eq, hf.required_eq _ _ (ExportName.decode_agrees true),
      hf.required_eq _ _ decodeName_agrees]

theorem Import.ofFields_eq (kept : Bool) (hf : f.Alike spelledWords n n' f') :
    Import.ofFields kept f = Import.ofFields kept f' := by
  simp (disch := decide) only [Import.ofFields, hf.fits_eq,
    hf.withDefault_eq _ _ _ (ImportClause.decode_agrees kept).list,
    hf.required_eq _ _ Literal.decode_agrees]

theorem ExportClause.decode_agrees (kept : Bool) :
    Agrees spelledWords n n' place (ExportClause.decode kept) (ExportClause.decode kept) :=
  fun _ _ halike => halike.succ.tagged?_bind_eq fun kind f f' hf => by
    simp (disch := decide) only [hf.fits_eq, hf.required_eq _ _ (ExportName.decode_agrees true)]

theorem Declaration.decode_agrees (kept : Bool) :
    Agrees spelledWords n n' place (Declaration.decode kept) (Declaration.decode kept) :=
  fun j j' halike => halike.added.alike.succ.tagged?_bind_eq fun kind f f' hf => by
    have hr := readers_agree j.depth j'.depth
    simp only [hr.variablesOfFields_eq true hf, hr.funcOfFields_eq true hf, hr.classOfFields_eq true hf]

theorem NamedExport.ofFields_eq (kept : Bool) (hf : f.Alike spelledWords n n' f') :
    NamedExport.ofFields kept f = NamedExport.ofFields kept f' := by
  simp (disch := decide) only [NamedExport.ofFields, hf.fits_eq,
    hf.optional_eq _ _ (Declaration.decode_agrees kept),
    hf.withDefault_eq _ _ _ (ExportClause.decode_agrees kept).list,
    hf.withDefault_eq _ _ _ Literal.decode_agrees.nullable]

theorem DefaultExport.decode_agrees :
    Agrees spelledWords n n' place DefaultExport.decode DefaultExport.decode := by
  intro j j' halike
  have hr := readers_agree j.depth j'.depth
  rw [DefaultExport.decode, DefaultExport.decode, Expr.decode_agrees true halike]
  dsimp only
  congr 1
  exact halike.added.alike.succ.tagged?_bind_eq fun kind f f' hf => by
    simp only [hr.funcOfFields_eq true hf, hr.classOfFields_eq true hf]

theorem bindingOfFields_eq (kept : Bool) (hf : f.Alike spelledWords n n' f') :
    bindingOfFields kept f = bindingOfFields kept f' := by
  simp (disch := decide) only [bindingOfFields, hf.fits_eq, hf.required_eq _ _ (Expr.decode_agrees kept)]

theorem AttributePiece.decode_agrees (kept : Bool) :
    Agrees spelledWords n n' place (AttributePiece.decode kept) (AttributePiece.decode kept) :=
  fun _ _ halike => halike.succ.tagged?_bind_eq fun kind f f' hf => by
    simp only [Literal.ofFields_eq hf, bindingOfFields_eq true hf]

theorem Attribute.decode_agrees (kept : Bool) :
    Agrees spelledWords n n' place (Attribute.decode kept) (Attribute.decode kept) :=
  fun _ _ halike => halike.fields?_bind_eq fun f f' hf => by
    simp (disch := decide) only [hf.required_eq _ _ agrees_text?,
      hf.withDefault_eq _ _ _ (AttributePiece.decode_agrees kept).list]

theorem Element.ofFields_eq {child child' : Bool → Json → Option Child} (kept : Bool)
    (hchild : Agrees spelledWords n n' true (child kept) (child' kept))
    (hf : f.Alike spelledWords n n' f') :
    Element.ofFields child kept f = Element.ofFields child' kept f' := by
  simp (disch := decide) only [Element.ofFields, hf.fits_eq, hf.required_eq _ _ agrees_text?,
    hf.withDefault_eq _ _ _ (Attribute.decode_agrees kept).list, hf.withDefault_eq _ _ _ hchild.list]

/-- Children are read the same in any two rounds that reach them. -/
theorem childReader_agrees : ∀ (n n' : Nat) (kept : Bool),
    Agrees spelledWords n n' true (childReader n kept) (childReader n' kept)
  | 0, _, _ => agrees_zero_left
  | _ + 1, 0, _ => agrees_zero_right
  | n + 1, n' + 1, _ => fun _ _ halike => halike.tagged?_bind_eq fun kind f f' hf => by
    simp only [Literal.ofFields_eq hf, bindingOfFields_eq true hf,
      Element.ofFields_eq true (childReader_agrees n n' true) hf]

theorem Item.ofFields_eq {j j' : Json} (kind : String) (hf : f.Alike spelledWords j.depth j'.depth f') :
    Item.ofFields j kind f = Item.ofFields j' kind f' := by
  simp (disch := decide) only [Item.ofFields, hf.fits_eq, Import.ofFields_eq true hf,
    NamedExport.ofFields_eq true hf, hf.required_eq _ _ DefaultExport.decode_agrees,
    hf.required_eq _ _ Literal.decode_agrees, hf.optional_eq _ _ (ExportName.decode_agrees true),
    Element.ofFields_eq true (childReader_agrees j.depth j'.depth true) hf]

theorem Item.decode_agrees : Agrees spelledWords n n' place Item.decode Item.decode := by
  intro j j' halike
  rw [Item.decode, Item.decode, Stmt.decode_agrees true halike]
  dsimp only
  congr 1
  exact halike.added.alike.succ.tagged?_bind_eq fun kind _ _ => Item.ofFields_eq kind

end Programs

/-- Keys for positions do not matter, wherever they are added: the same program is read, or none is read
either way. -/
theorem Program.decode_eq_of_added {j j' : Json} (h : Json.Added spelledWords false j j') :
    Program.decode j' = Program.decode j := by
  refine Eq.symm (h.alike.fields?_bind_eq fun f f' hf => ?_)
  have hword : Agrees spelledWords j.depth j'.depth true
      (Json.word? false [.script, .module] SourceType.word)
      (Json.word? false [.script, .module] SourceType.word) := agrees_word? (by decide) (by decide) false
  rw [hf.withDefault_eq 0 "sourceType" _ hword (by decide),
    hf.required_eq 1 "body" Item.decode_agrees.list (by decide)]

/-- A program that negates `a`, with the operator spelled as an object. The given keys come first in the
program, the statement, the expression and the name. -/
def negation (program statement expression name : List (String × Json)) : Json :=
  .object (program ++ [("type", .string "Program"), ("sourceType", .string "module"),
    ("body", .array [.object (statement ++ [("type", .string "ExpressionStatement"),
      ("expression", .object (expression ++ [("type", .string "UnaryExpression"),
        ("operator", .object [("-", .object [])]),
        ("argument", .object (name ++ [("type", .string "Identifier"), ("name", .string "a")]))]))])])])

theorem negation_added {program statement expression name : List (String × Json)}
    (hprogram : ∀ field ∈ program, field.1 ∈ Json.positionKeys)
    (hstatement : ∀ field ∈ statement, field.1 ∈ Json.positionKeys)
    (hexpression : ∀ field ∈ expression, field.1 ∈ Json.positionKeys)
    (hname : ∀ field ∈ name, field.1 ∈ Json.positionKeys) :
    Json.Added spelledWords false (negation [] [] [] []) (negation program statement expression name) := by
  refine .object (fun _ => rfl) (.append hprogram
    (.same (.same _ _) (.same (.same _ _) (.same (.array (.cons ?_ .nil)) .nil))))
  refine .object (fun _ => rfl) (.append hstatement (.same (.same _ _) (.same ?_ .nil)))
  refine .object (fun _ => rfl) (.append hexpression
    (.same (.same _ _) (.same (.same _ _) (.same ?_ .nil))))
  exact .object (fun _ => rfl) (.append hname (.same (.same _ _) (.same (.same _ _) .nil)))

/-- Keys for the place of a node: its range, and an object with more objects in it. -/
def spanKeys (start stop : Nat) : List (String × Json) :=
  [("start", .natural start), ("end", .natural stop), ("range", .array [.natural start, .natural stop]),
    ("loc", .object [("start", .object [("line", .natural 1)]), ("end", .object [("line", .natural 1)])])]

theorem negation_decode_eq :
    Program.decode (negation (spanKeys 0 2) (spanKeys 0 2) (spanKeys 0 2) (spanKeys 1 2)) =
      some ⟨.module, [.statement (.expression (.unary .minus true (.identifier "a")) none)]⟩ := by
  have hspan (start stop : Nat) : ∀ field ∈ spanKeys start stop, field.1 ∈ Json.positionKeys := by
    simp [spanKeys, Json.positionKeys]
  rw [Program.decode_eq_of_added (negation_added (hspan 0 2) (hspan 0 2) (hspan 0 2) (hspan 1 2))]
  rfl

/-- A program without entries, whose source type is spelled as an object that also has the given keys. -/
def spelledModule (more : List (String × Json)) : Json :=
  .object [("type", .string "Program"), ("sourceType", .object (("module", .null) :: more)),
    ("body", .array [])]

/-- An object that spells a word has to stay as it is: with a key for a position it is no word. -/
theorem spelledModule_decode_ne :
    Json.Added [] false (spelledModule []) (spelledModule [("start", .natural 0)]) ∧
      Program.decode (spelledModule []) = some ⟨.module, []⟩ ∧
      Program.decode (spelledModule [("start", .natural 0)]) = none := by
  refine ⟨?_, rfl, rfl⟩
  have hword : Json.Added [] true (.object [("module", .null)])
      (.object [("module", .null), ("start", .natural 0)]) :=
    .object (fun _ => rfl) (.same (.same _ _) (.added (by decide) .nil))
  exact .object (fun _ => rfl) (.same (.same _ _) (.same hword (.same (.same _ _) .nil)))

end CustomElement.Tree
