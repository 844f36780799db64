import CustomElement.Component.Parse
import CustomElement.Proofs.Component.Stages

/-!
# Where reports come from

A component goes through five stages: its script is read, then its template, its items are sorted
into parts, the exports give the props, and the props the module. `FirstFault` says which stage fails
first and what it reports when it is run by itself. `reports_attributed` says that a compilation
reports just that, under the path of the options, and that a report on the syntax of the script or of
the template comes from the reader of that region.

Every report is made from its kind (`Genuine`), and no stage knows the path of the component.
-/

namespace CustomElement

open CustomElement.Tree

namespace Diagnostic

/-- A report that has the code and the guarantee of its kind, and no path yet. -/
structure Genuine (d : Diagnostic) : Prop where
  code : d.code = d.kind.code
  guarantee : d.guarantee = d.kind.guarantee
  file : d.file = ""

theorem Genuine.ofKind (kind : Kind) (message : String) : (ofKind kind message).Genuine :=
  ⟨rfl, rfl, rfl⟩

theorem Genuine.withContext {d : Diagnostic} (h : d.Genuine) (context : String) :
    (d.withContext context).Genuine :=
  ⟨h.code, h.guarantee, h.file⟩

theorem Genuine.withHint {d : Diagnostic} (h : d.Genuine) (hint : String) :
    (d.withHint hint).Genuine :=
  ⟨h.code, h.guarantee, h.file⟩

theorem Genuine.withFile_eq {d : Diagnostic} (h : d.Genuine) (file : String) :
    d.withFile file = { d with file := file } := by
  unfold Diagnostic.withFile
  rw [h.file]
  rfl

end Diagnostic

open Diagnostic

/-! ## Scripts and templates -/

namespace Script

theorem Unsupported.genuine_diagnostic (u : Unsupported) : u.diagnostic.Genuine :=
  (Genuine.ofKind _ _).withContext _

/-- What is not supported is reported as such. -/
theorem reported_error {α : Type} {l : Lowered α} {d : Diagnostic} (h : reported l = .error d) :
    d.Genuine ∧ d.kind = .unsupportedSyntax := by
  obtain ⟨u, -, rfl⟩ := Component.error_of_mapError h
  exact ⟨u.genuine_diagnostic, rfl⟩

/-- A script is refused because it is not well formed, or has a construct without a tree. -/
theorem parseModule_error {text : List Char} {d : Diagnostic} (h : parseModule text = .error d) :
    d.Genuine ∧ (d.kind = .scriptSyntax ∨ d.kind = .unsupportedSyntax) := by
  unfold parseModule at h
  dsimp only at h
  split at h
  · obtain ⟨hgenuine, hkind⟩ := reported_error h
    exact ⟨hgenuine, .inr hkind⟩
  · cases h
    exact ⟨Genuine.ofKind _ _, .inl rfl⟩

theorem parseExpression_error {text : List Char} {d : Diagnostic}
    (h : parseExpression text = .error d) :
    d.Genuine ∧ (d.kind = .scriptSyntax ∨ d.kind = .unsupportedSyntax) := by
  unfold parseExpression at h
  split at h
  · split at h
    · obtain ⟨hgenuine, hkind⟩ := reported_error h
      exact ⟨hgenuine, .inr hkind⟩
    · cases h
      exact ⟨(Genuine.ofKind _ _).withContext _, .inl rfl⟩
  · cases h
    exact ⟨Genuine.ofKind _ _, .inl rfl⟩

end Script

namespace Template

theorem genuine_invalidBinding (source : List Char) (cause : Diagnostic) :
    (invalidBinding source cause).Genuine :=
  ⟨rfl, rfl, rfl⟩

/-- The report on a binding is never one on the syntax of the script. -/
theorem parseBinding_error {source : List Char} {d : Diagnostic}
    (h : parseBinding source = .error d) :
    d.Genuine ∧ (d.kind = .templateSyntax ∨ d.kind = .unsupportedSyntax) := by
  unfold parseBinding at h
  split at h
  · cases h
  · rename_i cause hcause
    obtain ⟨hgenuine, hkind⟩ := Script.parseExpression_error hcause
    split at h
    · cases h
      exact ⟨genuine_invalidBinding _ _, .inl rfl⟩
    · rename_i hscript
      cases h
      exact ⟨hgenuine, .inr (hkind.resolve_left fun hk => hscript (by rw [hk]; rfl))⟩

theorem parse_error {text : List Char} {d : Diagnostic} (h : parse text = .error d) :
    d.Genuine ∧ (d.kind = .templateSyntax ∨ d.kind = .unsupportedSyntax) := by
  unfold parse at h
  split at h
  · cases h
  split at h
  · cases h
    exact ⟨(Genuine.ofKind _ _).withContext _, .inl rfl⟩
  dsimp only at h
  split at h
  · cases h
  · rename_i hbindings
    cases h
    obtain ⟨source, -, hsource⟩ := Component.error_of_mapM hbindings
    exact parseBinding_error hsource

end Template

/-! ## Stages of a compilation -/

namespace Component

/-- A report on something else than the syntax of a region. -/
structure Shallow (d : Diagnostic) : Prop where
  genuine : d.Genuine
  script : d.kind ≠ .scriptSyntax
  template : d.kind ≠ .templateSyntax

theorem RefusedExport.shallow_diagnostic (r : RefusedExport) : Shallow r.diagnostic := by
  cases r <;> exact ⟨⟨rfl, rfl, rfl⟩, nofun, nofun⟩

theorem PropertyFault.shallow_diagnostic (f : PropertyFault) : Shallow f.diagnostic := by
  cases f <;> exact ⟨⟨rfl, rfl, rfl⟩, nofun, nofun⟩

theorem NameFault.shallow_diagnostic (f : NameFault) : Shallow f.diagnostic := by
  cases f <;> exact ⟨⟨rfl, rfl, rfl⟩, nofun, nofun⟩

/-- The program of the items of a script and the elements of a template. -/
def programOf (items : List Item) (elements : List Element) : Program :=
  ⟨.module, items ++ elements.map .element⟩

/-- The first stage that fails for a component, run by itself on what the stages before it give,
reports `d`. -/
inductive FirstFault (name : String) (source : List Char) (o : Options) : Diagnostic → Prop
  | script {d : Diagnostic}
      (hscript : Script.parseModule (Regions.ofSource source).script = .error d) :
      FirstFault name source o d
  | template {items : List Item} {d : Diagnostic}
      (hscript : Script.parseModule (Regions.ofSource source).script = .ok items)
      (htemplate : Template.parse (Regions.ofSource source).template = .error d) :
      FirstFault name source o d
  | parts {items : List Item} {elements : List Element} {r : RefusedExport}
      (hscript : Script.parseModule (Regions.ofSource source).script = .ok items)
      (htemplate : Template.parse (Regions.ofSource source).template = .ok elements)
      (hparts : Parts.ofProgram (programOf items elements) = .error r) :
      FirstFault name source o r.diagnostic
  | props {items : List Item} {elements : List Element} {parts : Parts} {f : PropertyFault}
      (hscript : Script.parseModule (Regions.ofSource source).script = .ok items)
      (htemplate : Template.parse (Regions.ofSource source).template = .ok elements)
      (hparts : Parts.ofProgram (programOf items elements) = .ok parts)
      (hprops : propertiesOfExports parts.exports = .error f) :
      FirstFault name source o f.diagnostic
  | synthesis {items : List Item} {elements : List Element} {parts : Parts}
      {props : List Property} {f : NameFault}
      (hscript : Script.parseModule (Regions.ofSource source).script = .ok items)
      (htemplate : Template.parse (Regions.ofSource source).template = .ok elements)
      (hparts : Parts.ofProgram (programOf items elements) = .ok parts)
      (hprops : propertiesOfExports parts.exports = .ok props)
      (hsynthesis : synthesize name props parts.imports o = .error f) :
      FirstFault name source o f.diagnostic

variable {name : String} {source : List Char} {o : Options} {d : Diagnostic}

theorem FirstFault.genuine (h : FirstFault name source o d) : d.Genuine := by
  cases h with
  | script hscript => exact (Script.parseModule_error hscript).1
  | template _ htemplate => exact (Template.parse_error htemplate).1
  | parts => exact (RefusedExport.shallow_diagnostic _).genuine
  | props => exact (PropertyFault.shallow_diagnostic _).genuine
  | synthesis => exact (NameFault.shallow_diagnostic _).genuine

/-- Only the reader of the script finds its syntax wrong. -/
theorem FirstFault.script_of_kind (h : FirstFault name source o d) (hkind : d.kind = .scriptSyntax) :
    Script.parseModule (Regions.ofSource source).script = .error d := by
  cases h with
  | script hscript => exact hscript
  | template _ htemplate =>
    obtain ⟨-, htemplateKind | hunsupported⟩ := Template.parse_error htemplate
    · rw [htemplateKind] at hkind
      cases hkind
    · rw [hunsupported] at hkind
      cases hkind
  | parts => exact absurd hkind (RefusedExport.shallow_diagnostic _).script
  | props => exact absurd hkind (PropertyFault.shallow_diagnostic _).script
  | synthesis => exact absurd hkind (NameFault.shallow_diagnostic _).script

/-- Only the reader of the template finds its syntax wrong, once the script has been read. -/
theorem FirstFault.template_of_kind (h : FirstFault name source o d)
    (hkind : d.kind = .templateSyntax) :
    (∃ items, Script.parseModule (Regions.ofSource source).script = .ok items) ∧
      Template.parse (Regions.ofSource source).template = .error d := by
  cases h with
  | script hscript =>
    obtain ⟨-, hscriptKind | hunsupported⟩ := Script.parseModule_error hscript
    · rw [hscriptKind] at hkind
      cases hkind
    · rw [hunsupported] at hkind
      cases hkind
  | template hscript htemplate => exact ⟨⟨_, hscript⟩, htemplate⟩
  | parts => exact absurd hkind (RefusedExport.shallow_diagnostic _).template
  | props => exact absurd hkind (PropertyFault.shallow_diagnostic _).template
  | synthesis => exact absurd hkind (NameFault.shallow_diagnostic _).template

/-- A compilation that fails reports its first fault, with the path of the options. -/
theorem compileSource_error (h : compileSource name source o = .error d) :
    ∃ fault, FirstFault name source o fault ∧ d = fault.withFile o.filePath := by
  rcases error_of_bind h with h | ⟨p, hparse, h⟩
  · obtain ⟨fault, hfault, rfl⟩ := error_of_mapError h
    refine ⟨fault, ?_, rfl⟩
    rcases error_of_bind hfault with hscript | ⟨items, hscript, h⟩
    · exact .script hscript
    rcases error_of_bind h with htemplate | ⟨elements, -, h⟩
    · exact .template hscript htemplate
    · cases h
  · obtain ⟨items, hscript, hparse⟩ := ok_of_bind (ok_of_mapError hparse)
    obtain ⟨elements, htemplate, hparse⟩ := ok_of_bind hparse
    obtain rfl : programOf items elements = p := Except.ok.inj hparse
    obtain ⟨fault, hfault, rfl⟩ := error_of_mapError h
    refine ⟨fault, ?_, rfl⟩
    rcases error_of_bind hfault with h | ⟨parts, hparts, h⟩
    · obtain ⟨r, hparts, rfl⟩ := error_of_mapError h
      exact .parts hscript htemplate hparts
    replace hparts := ok_of_mapError hparts
    rcases error_of_bind h with h | ⟨props, hprops, h⟩
    · obtain ⟨f, hprops, rfl⟩ := error_of_mapError h
      exact .props hscript htemplate hparts hprops
    · obtain ⟨f, hsynthesis, rfl⟩ := error_of_mapError h
      exact .synthesis hscript htemplate hparts (ok_of_mapError hprops) hsynthesis

/-- What a failed compilation reports. The report names the file of the options and has the code and
the guarantee of its kind; without the file it is what the first failing stage reports by itself. A
report on the syntax of the script comes from the script region, and one on the syntax of the template
from the template region behind a script that can be read. Reading a template never finds fault with
the syntax of a script. -/
theorem reports_attributed (name : String) (source : List Char) (o : Options) :
    (∀ d, compileSource name source o = .error d →
      d.file = o.filePath ∧ d.code = d.kind.code ∧ d.guarantee = d.kind.guarantee ∧
      FirstFault name source o { d with file := "" } ∧
      (d.kind = .scriptSyntax →
        ∃ fault, Script.parseModule (Regions.ofSource source).script = .error fault) ∧
      (d.kind = .templateSyntax →
        (∃ items, Script.parseModule (Regions.ofSource source).script = .ok items) ∧
        ∃ fault, Template.parse (Regions.ofSource source).template = .error fault)) ∧
    ∀ text d, Template.parse text = .error d → d.kind ≠ .scriptSyntax := by
  constructor
  · intro d h
    obtain ⟨fault, hfault, rfl⟩ := compileSource_error h
    have hgenuine := hfault.genuine
    have hclear : { fault with file := "" } = fault := by
      rw [← hgenuine.file]
    rw [hgenuine.withFile_eq]
    refine ⟨rfl, hgenuine.code, hgenuine.guarantee, ?_, ?_, ?_⟩
    · rw [hclear]
      exact hfault
    · intro hkind
      exact ⟨fault, hfault.script_of_kind hkind⟩
    · intro hkind
      obtain ⟨hscript, htemplate⟩ := hfault.template_of_kind hkind
      exact ⟨hscript, fault, htemplate⟩
  · intro text d h hkind
    rcases (Template.parse_error h).2 with htemplate | hunsupported
    · rw [htemplate] at hkind
      cases hkind
    · rw [hunsupported] at hkind
      cases hkind

/-- A component whose template uses a word that is reserved. -/
def reservedTemplate : List Char :=
  "<p>__LAZY_BINDING_</p>".toList

theorem reservedTemplate_attributed :
    (∃ d, compileSource "x-a" reservedTemplate { filePath := "a.lazy" } = .error d ∧
      d.file = "a.lazy" ∧ d.kind = .templateSyntax ∧
      FirstFault "x-a" reservedTemplate { filePath := "a.lazy" } { d with file := "" } ∧
      ∃ fault, Template.parse (Regions.ofSource reservedTemplate).template = .error fault) ∧
    ∃ d, Template.parse reservedTemplate = .error d ∧ d.kind ≠ .scriptSyntax := by
  have h : compileSource "x-a" reservedTemplate { filePath := "a.lazy" } =
      .error { Template.reservedWord with file := "a.lazy" } := rfl
  have hreports := reports_attributed "x-a" reservedTemplate { filePath := "a.lazy" }
  obtain ⟨hfile, -, -, hfault, -, htemplate⟩ := hreports.1 _ h
  exact ⟨⟨_, h, hfile, rfl, hfault, (htemplate rfl).2⟩,
    Template.reservedWord, rfl, hreports.2 reservedTemplate _ rfl⟩

end Component

end CustomElement
