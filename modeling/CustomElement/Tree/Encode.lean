import CustomElement.Json.Basic
import CustomElement.Tree.Basic

/-!
# Trees as JSON

Every node is an object whose first field, `type`, names its kind; the other fields follow in a
fixed order. Absent parts are null, apart from a few fields that are left out.
-/

namespace CustomElement.Tree

/-- A node of the given kind. -/
def node (kind : String) (fields : List (String × Json)) : Json :=
  .object (("type", .string kind) :: fields)

/-- A field that is left out when its value is absent. -/
def optionalField (key : String) : Option Json → List (String × Json)
  | some value => [(key, value)]
  | none => []

/-- A field that is left out when it is false. -/
def flagField (key : String) (flag : Bool) : List (String × Json) :=
  if flag then [(key, .bool true)] else []

/-- An identifier node. -/
def identifierNode (name : String) : Json :=
  node "Identifier" [("name", .string name)]

/-- An identifier node, or null. -/
def optionalIdentifier (name : Option String) : Json :=
  .ofOption (name.map identifierNode)

namespace VariableKind

/-- The keyword. -/
def keyword : VariableKind → String
  | var => "var"
  | .let => "let"
  | const => "const"

end VariableKind

namespace PropertyKind

/-- The word for the kind. -/
def word : PropertyKind → String
  | init => "init"
  | get => "get"
  | set => "set"

end PropertyKind

namespace MethodKind

/-- The word for the kind. -/
def word : MethodKind → String
  | constructor => "constructor"
  | method => "method"
  | get => "get"
  | set => "set"

end MethodKind

namespace LoopKind

/-- The name of the loop's node. -/
def nodeName : LoopKind → String
  | keys => "ForInStatement"
  | values => "ForOfStatement"

end LoopKind

/-- The value of a literal. -/
def LiteralValue.encode : LiteralValue → Json
  | .null => .null
  | .boolean b => .bool b
  | .number x => .ofDouble x
  | .string s => .string s

/-- The fields of a regular expression. -/
def Regex.encode (r : Regex) : Json :=
  .object [("pattern", .string r.pattern), ("flags", .string r.flags)]

/-- The fields of a literal. -/
def Literal.fields (l : Literal) : List (String × Json) :=
  ("value", l.value.encode) ::
    (optionalField "regex" (l.regex.map Regex.encode) ++
      optionalField "bigint" (l.bigint.map Json.string))

/-- A literal node. -/
def Literal.encode (l : Literal) : Json :=
  node "Literal" l.fields

/-- A stretch of template text. -/
def TemplateElement.encode (t : TemplateElement) : Json :=
  node "TemplateElement" [
    ("tail", .bool t.tail),
    ("value", .object [
      ("raw", .string t.raw),
      ("cooked", .ofOption (t.cooked.map Json.string))])]

/-- The fields of a template literal whose expressions are already encoded. -/
def templateFields (quasis : List TemplateElement) (expressions : List Json) :
    List (String × Json) :=
  [("quasis", .array (quasis.map TemplateElement.encode)), ("expressions", .array expressions)]

/-- A block node around encoded statements. -/
def blockNode (body : List Json) : Json :=
  node "BlockStatement" [("body", .array body)]

/-- A variable declaration around encoded declarators. -/
def variablesNode (kind : VariableKind) (declarations : List Json) : Json :=
  node "VariableDeclaration" [
    ("kind", .string kind.keyword), ("declarations", .array declarations)]

/-- The fields of a member access around encoded parts. -/
def memberNode (object property : Json) (computed optional : Bool) : Json :=
  node "MemberExpression" [
    ("object", object), ("property", property), ("computed", .bool computed),
    ("optional", .bool optional)]

/-- The fields of a `try` around encoded parts. -/
def tryNode (block handler finalizer : Json) : Json :=
  node "TryStatement" [("block", block), ("handler", handler), ("finalizer", finalizer)]

/-- A `catch` clause around encoded parts. -/
def catchNode (param body : Json) : Json :=
  node "CatchClause" [("param", param), ("body", body)]

mutual
/-- An expression node. -/
def Expr.encode : Expr → Json
  | .identifier name => identifierNode name
  | .privateName name => node "PrivateIdentifier" [("name", .string name)]
  | .literal l => l.encode
  | .thisRef => node "ThisExpression" []
  | .superRef => node "Super" []
  | .array elements => node "ArrayExpression" [("elements", .array (encodeElements elements))]
  | .object members => node "ObjectExpression" [("properties", .array (encodeMembers members))]
  | .function f => node "FunctionExpression" f.fields
  | .arrow params body concise async =>
    node "ArrowFunctionExpression" [
      ("params", .array (encodePatterns params)), ("body", body.encode),
      ("expression", .bool concise), ("async", .bool async)]
  | .arrowBlock params body concise async =>
    node "ArrowFunctionExpression" [
      ("params", .array (encodePatterns params)), ("body", blockNode (encodeStmts body)),
      ("expression", .bool concise), ("async", .bool async)]
  | .classDef c => node "ClassExpression" c.fields
  | .template quasis expressions =>
    node "TemplateLiteral" (templateFields quasis (encodeExprs expressions))
  | .tagged tag quasis expressions =>
    node "TaggedTemplateExpression" [
      ("tag", tag.encode),
      ("quasi", node "TemplateLiteral" (templateFields quasis (encodeExprs expressions)))]
  | .unary op before argument =>
    node "UnaryExpression" [
      ("operator", .string op.symbol), ("prefix", .bool before), ("argument", argument.encode)]
  | .update op before argument =>
    node "UpdateExpression" [
      ("operator", .string op.symbol), ("prefix", .bool before), ("argument", argument.encode)]
  | .binary op left right =>
    node "BinaryExpression" [
      ("operator", .string op.symbol), ("left", left.encode), ("right", right.encode)]
  | .logical op left right =>
    node "LogicalExpression" [
      ("operator", .string op.symbol), ("left", left.encode), ("right", right.encode)]
  | .assign op left right =>
    node "AssignmentExpression" [
      ("operator", .string op.symbol), ("left", left.encode), ("right", right.encode)]
  | .conditional test consequent alternate =>
    node "ConditionalExpression" [
      ("test", test.encode), ("consequent", consequent.encode), ("alternate", alternate.encode)]
  | .member object property computed optional =>
    memberNode object.encode property.encode computed optional
  | .call callee arguments optional =>
    node "CallExpression" [
      ("callee", callee.encode), ("arguments", .array (encodeExprs arguments)),
      ("optional", .bool optional)]
  | .new callee arguments =>
    node "NewExpression" [
      ("callee", callee.encode), ("arguments", .array (encodeExprs arguments))]
  | .sequence expressions =>
    node "SequenceExpression" [("expressions", .array (encodeExprs expressions))]
  | .spread argument => node "SpreadElement" [("argument", argument.encode)]
  | .await argument => node "AwaitExpression" [("argument", argument.encode)]
  | .yield argument delegate =>
    node "YieldExpression" [("argument", encodeOption argument), ("delegate", .bool delegate)]
  | .chain expression => node "ChainExpression" [("expression", expression.encode)]
  | .importCall source => node "ImportExpression" [("source", source.encode)]
  | .metaProperty object property =>
    node "MetaProperty" [("meta", identifierNode object), ("property", identifierNode property)]

/-- An expression node, or null. -/
def encodeOption : Option Expr → Json
  | none => .null
  | some e => e.encode

/-- Expression nodes. -/
def encodeExprs : List Expr → List Json
  | [] => []
  | e :: rest => e.encode :: encodeExprs rest

/-- Array elements; a hole is null. -/
def encodeElements : List (Option Expr) → List Json
  | [] => []
  | e :: rest => encodeOption e :: encodeElements rest

/-- A pattern node. -/
def Pattern.encode : Pattern → Json
  | .identifier name => identifierNode name
  | .object members => node "ObjectPattern" [("properties", .array (encodePatternMembers members))]
  | .array elements => node "ArrayPattern" [("elements", .array (encodePatternElements elements))]
  | .rest argument => node "RestElement" [("argument", argument.encode)]
  | .withDefault left right =>
    node "AssignmentPattern" [("left", left.encode), ("right", right.encode)]
  | .member object property computed optional =>
    memberNode object.encode property.encode computed optional

/-- Pattern nodes. -/
def encodePatterns : List Pattern → List Json
  | [] => []
  | p :: rest => p.encode :: encodePatterns rest

/-- A pattern node, or null. -/
def encodeOptionPattern : Option Pattern → Json
  | none => .null
  | some p => p.encode

/-- Elements of an array pattern; a hole is null. -/
def encodePatternElements : List (Option Pattern) → List Json
  | [] => []
  | p :: rest => encodeOptionPattern p :: encodePatternElements rest

/-- The fields of a function. -/
def Func.fields : Func → List (String × Json)
  | ⟨name, params, body, generator, async⟩ => [
    ("id", optionalIdentifier name), ("params", .array (encodePatterns params)),
    ("body", blockNode (encodeStmts body)), ("generator", .bool generator), ("async", .bool async)]

/-- The fields of a class. -/
def ClassDef.fields : ClassDef → List (String × Json)
  | ⟨name, superclass, members⟩ => [
    ("id", optionalIdentifier name), ("superClass", encodeOption superclass),
    ("body", node "ClassBody" [("body", .array (encodeClassMembers members))])]

/-- A member of a class body. -/
def ClassMember.encode : ClassMember → Json
  | .method key value kind computed isStatic =>
    node "MethodDefinition" [
      ("key", key.encode), ("value", node "FunctionExpression" value.fields),
      ("kind", .string kind.word), ("computed", .bool computed), ("static", .bool isStatic)]
  | .field key value computed isStatic =>
    node "PropertyDefinition" [
      ("key", key.encode), ("value", encodeOption value), ("computed", .bool computed),
      ("static", .bool isStatic)]
  | .staticBlock body => node "StaticBlock" [("body", .array (encodeStmts body))]

/-- Members of a class body. -/
def encodeClassMembers : List ClassMember → List Json
  | [] => []
  | m :: rest => m.encode :: encodeClassMembers rest

/-- A member of an object literal. -/
def ObjectMember.encode : ObjectMember → Json
  | .property key value kind method computed shorthand =>
    node "Property" [
      ("key", key.encode), ("value", value.encode), ("kind", .string kind.word),
      ("method", .bool method), ("computed", .bool computed), ("shorthand", .bool shorthand)]
  | .spread argument => node "SpreadElement" [("argument", argument.encode)]

/-- Members of an object literal. -/
def encodeMembers : List ObjectMember → List Json
  | [] => []
  | m :: rest => m.encode :: encodeMembers rest

/-- A member of an object pattern. -/
def PatternMember.encode : PatternMember → Json
  | .property key value computed shorthand =>
    node "Property" [
      ("key", key.encode), ("value", value.encode), ("computed", .bool computed),
      ("shorthand", .bool shorthand)]
  | .rest argument => node "RestElement" [("argument", argument.encode)]

/-- Members of an object pattern. -/
def encodePatternMembers : List PatternMember → List Json
  | [] => []
  | m :: rest => m.encode :: encodePatternMembers rest

/-- A statement node. -/
def Stmt.encode : Stmt → Json
  | .expression expression directive =>
    node "ExpressionStatement"
      (("expression", expression.encode) :: optionalField "directive" (directive.map Json.string))
  | .block body => blockNode (encodeStmts body)
  | .empty => node "EmptyStatement" []
  | .debugger => node "DebuggerStatement" []
  | .return argument => node "ReturnStatement" [("argument", encodeOption argument)]
  | .labeled label body =>
    node "LabeledStatement" [("label", identifierNode label), ("body", body.encode)]
  | .break label => node "BreakStatement" [("label", optionalIdentifier label)]
  | .continue label => node "ContinueStatement" [("label", optionalIdentifier label)]
  | .if test consequent =>
    node "IfStatement" [
      ("test", test.encode), ("consequent", consequent.encode), ("alternate", .null)]
  | .ifElse test consequent alternate =>
    node "IfStatement" [
      ("test", test.encode), ("consequent", consequent.encode), ("alternate", alternate.encode)]
  | .switch discriminant cases =>
    node "SwitchStatement" [
      ("discriminant", discriminant.encode), ("cases", .array (encodeCases cases))]
  | .throw argument => node "ThrowStatement" [("argument", argument.encode)]
  | .try block => tryNode (blockNode (encodeStmts block)) .null .null
  | .tryCatch block param handler =>
    tryNode (blockNode (encodeStmts block))
      (catchNode (encodeOptionPattern param) (blockNode (encodeStmts handler))) .null
  | .tryFinally block finalizer =>
    tryNode (blockNode (encodeStmts block)) .null (blockNode (encodeStmts finalizer))
  | .tryCatchFinally block param handler finalizer =>
    tryNode (blockNode (encodeStmts block))
      (catchNode (encodeOptionPattern param) (blockNode (encodeStmts handler)))
      (blockNode (encodeStmts finalizer))
  | .while test body => node "WhileStatement" [("test", test.encode), ("body", body.encode)]
  | .doWhile test body => node "DoWhileStatement" [("test", test.encode), ("body", body.encode)]
  | .for init test update body =>
    node "ForStatement" [
      ("init", encodeOption init), ("test", encodeOption test), ("update", encodeOption update),
      ("body", body.encode)]
  | .forVariables kind declarations test update body =>
    node "ForStatement" [
      ("init", variablesNode kind (encodeDeclarators declarations)), ("test", encodeOption test),
      ("update", encodeOption update), ("body", body.encode)]
  | .forEach loop left right body await =>
    node loop.nodeName
      ([("left", left.encode), ("right", right.encode), ("body", body.encode)] ++
        flagField "await" await)
  | .forEachVariable loop kind declarations right body await =>
    node loop.nodeName
      ([("left", variablesNode kind (encodeDeclarators declarations)), ("right", right.encode),
        ("body", body.encode)] ++ flagField "await" await)
  | .variables kind declarations => variablesNode kind (encodeDeclarators declarations)
  | .function f => node "FunctionDeclaration" f.fields
  | .classDef c => node "ClassDeclaration" c.fields

/-- Statement nodes. -/
def encodeStmts : List Stmt → List Json
  | [] => []
  | s :: rest => s.encode :: encodeStmts rest

/-- A case of a `switch`. -/
def SwitchCase.encode : SwitchCase → Json
  | ⟨test, consequent⟩ =>
    node "SwitchCase" [
      ("test", encodeOption test), ("consequent", .array (encodeStmts consequent))]

/-- Cases of a `switch`. -/
def encodeCases : List SwitchCase → List Json
  | [] => []
  | c :: rest => c.encode :: encodeCases rest

/-- A variable of a declaration. -/
def Declarator.encode : Declarator → Json
  | ⟨target, init⟩ =>
    node "VariableDeclarator" [("id", target.encode), ("init", encodeOption init)]

/-- Variables of a declaration. -/
def encodeDeclarators : List Declarator → List Json
  | [] => []
  | d :: rest => d.encode :: encodeDeclarators rest
end

/-- A name in an import or export clause. -/
def ExportName.encode : ExportName → Json
  | .identifier name => identifierNode name
  | .literal value => value.encode

/-- An imported name. -/
def ImportClause.encode : ImportClause → Json
  | .named imported binding =>
    node "ImportSpecifier" [("imported", imported.encode), ("local", identifierNode binding)]
  | .default binding => node "ImportDefaultSpecifier" [("local", identifierNode binding)]
  | .namespace binding => node "ImportNamespaceSpecifier" [("local", identifierNode binding)]

/-- The fields of an import. -/
def Import.fields (i : Import) : List (String × Json) :=
  [("specifiers", .array (i.clauses.map ImportClause.encode)), ("source", i.source.encode)]

/-- An exported name. -/
def ExportClause.encode : ExportClause → Json
  | .named binding exported =>
    node "ExportSpecifier" [("local", binding.encode), ("exported", exported.encode)]
  | .namespace exported => node "ExportNamespaceSpecifier" [("exported", exported.encode)]
  | .default exported => node "ExportDefaultSpecifier" [("exported", exported.encode)]

/-- An exported declaration. -/
def Declaration.encode : Declaration → Json
  | .variables kind declarations => variablesNode kind (encodeDeclarators declarations)
  | .function f => node "FunctionDeclaration" f.fields
  | .classDef c => node "ClassDeclaration" c.fields

/-- The fields of a named export. -/
def NamedExport.fields (e : NamedExport) : List (String × Json) :=
  [("declaration", .ofOption (e.declaration.map Declaration.encode)),
    ("specifiers", .array (e.clauses.map ExportClause.encode)),
    ("source", .ofOption (e.source.map Literal.encode))]

/-- What a default export exports. -/
def DefaultExport.encode : DefaultExport → Json
  | .function f => node "FunctionDeclaration" f.fields
  | .classDef c => node "ClassDeclaration" c.fields
  | .expression e => e.encode

/-- A binding in the markup. -/
def bindingNode (expression : Json) : Json :=
  node "DataBinding" [("expression", expression)]

/-- A piece of an attribute's value. -/
def AttributePiece.encode : AttributePiece → Json
  | .literal value => value.encode
  | .binding expression => bindingNode expression.encode

/-- An attribute. -/
def Attribute.encode (a : Attribute) : Json :=
  node "Attribute" [
    ("name", .string a.name), ("value", .array (a.value.map AttributePiece.encode))]

mutual
/-- The fields of an element. -/
def Element.fields : Element → List (String × Json)
  | ⟨tag, attributes, children⟩ => [
    ("tag", .string tag), ("attributes", .array (attributes.map Attribute.encode)),
    ("children", .array (encodeChildren children))]

/-- A child of an element. -/
def Child.encode : Child → Json
  | .literal value => value.encode
  | .binding expression => bindingNode expression.encode
  | .element e => node "Element" e.fields

/-- Children of an element. -/
def encodeChildren : List Child → List Json
  | [] => []
  | c :: rest => c.encode :: encodeChildren rest
end

/-- An element node. -/
def Element.encode (e : Element) : Json :=
  node "Element" e.fields

/-- An entry of a program's body. -/
def Item.encode : Item → Json
  | .import i => node "ImportDeclaration" i.fields
  | .exportNamed e => node "ExportNamedDeclaration" e.fields
  | .exportDefault e => node "ExportDefaultDeclaration" [("declaration", e.encode)]
  | .exportAll source exported =>
    node "ExportAllDeclaration" [
      ("source", source.encode), ("exported", .ofOption (exported.map ExportName.encode))]
  | .element e => e.encode
  | .statement s => s.encode

/-- The word for a source type. -/
def SourceType.word : SourceType → String
  | script => "script"
  | module => "module"

/-- A program node. -/
def Program.encode (p : Program) : Json :=
  node "Program" [
    ("sourceType", .string p.sourceType.word), ("body", .array (p.body.map Item.encode))]

end CustomElement.Tree
