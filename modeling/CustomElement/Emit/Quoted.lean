/-!
# String literals

A string is written between quotes. The quote itself, the backslash, line terminators and control
characters are escaped, so the literal stays on one line and ends at its closing quote.
-/

namespace CustomElement.Emit

/-- A character inside a string literal. -/
def escapeChar (quote c : Char) : List Char :=
  if c == '\\' then ['\\', '\\']
  else if c == '\n' then ['\\', 'n']
  else if c == '\r' then ['\\', 'r']
  else if c == '\t' then ['\\', 't']
  else if c.toNat == 0x2028 then ['\\', 'u', '2', '0', '2', '8']
  else if c.toNat == 0x2029 then ['\\', 'u', '2', '0', '2', '9']
  else if c == quote then ['\\', c]
  else if c.toNat < 0x20 then
    ['\\', 'x', Nat.digitChar (c.toNat / 16), Nat.digitChar (c.toNat % 16)]
  else [c]

/-- A string literal with the given quote. -/
def quoted (quote : Char) (value : List Char) : List Char :=
  quote :: (value.flatMap (escapeChar quote) ++ [quote])

end CustomElement.Emit
