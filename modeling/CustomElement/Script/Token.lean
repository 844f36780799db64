import CustomElement.Number.Double

/-!
# Tokens

The tokens of scripts. A word is any identifier or keyword; which words are keywords depends on where
they stand. A `>` is always a token by itself, because it may close a list of type arguments; longer
operators that start with it are joined where an operator is expected. In the same way a `/` becomes
a regular expression, and a `}` the next piece of a template, where these are expected.
-/

namespace CustomElement.Script

/-- A token. -/
inductive Token where
  /-- An identifier or keyword, and whether it is spelled with escapes. -/
  | word (name : String) (escaped : Bool)
  /-- A name after `#`. -/
  | privateName (name : String)
  /-- A punctuator. -/
  | punct (symbol : String)
  | number (value : Double)
  /-- A big integer by its decimal digits. -/
  | bigint (digits : String)
  /-- A string: its value, and the text between its quotes. -/
  | string (value raw : String)
  /-- A piece of a template, up to the closing backquote or the next substitution. The value is
  missing if an escape is malformed. -/
  | template (raw : String) (cooked : Option String) (tail : Bool)
  /-- The end of the text. -/
  | eof
  /-- Text that is no token. -/
  | invalid
deriving DecidableEq, Repr

end CustomElement.Script
