import CustomElement.Diagnostic.Basic
import CustomElement.Json.Fields

/-!
# Diagnostics as JSON
-/

namespace CustomElement.Diagnostic

/-- A kind as JSON. -/
def Kind.encode (k : Kind) : Json :=
  .string k.name

/-- A kind from JSON. -/
def Kind.decode : Json → Option Kind :=
  Json.word? false Kind.all Kind.name

/-- A report as JSON. -/
def encode (d : Diagnostic) : Json :=
  .object [
    ("code", .string d.code), ("kind", d.kind.encode), ("message", .string d.message),
    ("guarantee", .string d.guarantee), ("file", .string d.file),
    ("context", .ofOption (d.context.map .string)),
    ("hints", .array (d.hints.map .string))]

/-- A report from JSON. -/
def decode (j : Json) : Option Diagnostic := do
  let f ← j.fields? 7
  some {
    code := ← f.required 0 "code" Json.text?
    kind := ← f.required 1 "kind" Kind.decode
    message := ← f.required 2 "message" Json.text?
    guarantee := ← f.required 3 "guarantee" Json.text?
    file := ← f.required 4 "file" Json.text?
    context := ← f.optional 5 "context" Json.text?
    hints := ← f.required 6 "hints" (Json.list Json.text?) }

end CustomElement.Diagnostic
