import CustomElement.Component.Compile
import CustomElement.Component.Regions
import CustomElement.Template.Parse

/-!
# Components from text

The program of a component's text: the items of its script, then the elements of its template.
-/

namespace CustomElement.Component

/-- The program of a component's text. The script is read before the template. -/
def parse (source : List Char) : Except Diagnostic Tree.Program := do
  let regions := Regions.ofSource source
  let items ← Script.parseModule regions.script
  let elements ← Template.parse regions.template
  return ⟨.module, items ++ elements.map .element⟩

/-- Compiles the text of a component. Every report names the file of the options. -/
def compileSource (name : String) (source : List Char) (o : Options) :
    Except Diagnostic Tree.Program := do
  let p ← inFile o.filePath (parse source)
  compileProgram name p o

end CustomElement.Component
