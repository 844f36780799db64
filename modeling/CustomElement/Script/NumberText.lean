import CustomElement.Script.Token
import CustomElement.Text.CharClass

/-!
# Numbers

Number literals. Digits may be separated by single underscores. A literal may not run into a letter or
digit, apart from an exponent directly after a leading zero.
-/

namespace CustomElement.Script

open CustomElement.Text

/-- A token and the text after it. -/
abbrev Scanned := Option (Token × List Char)

/-- The digits that follow on a digit, without separators; none if a separator stands alone. -/
def moreDigits (isDigit : Char → Bool) : List Char → Option (List Char × List Char)
  | [] => some ([], [])
  | '_' :: c :: rest =>
    if isDigit c then (moreDigits isDigit rest).map fun (digits, after) => (c :: digits, after)
    else none
  | ['_'] => none
  | c :: rest =>
    if isDigit c then (moreDigits isDigit rest).map fun (digits, after) => (c :: digits, after)
    else some ([], c :: rest)

/-- One digit or more. -/
def someDigits (isDigit : Char → Bool) : List Char → Option (List Char × List Char)
  | [] => none
  | c :: rest =>
    if isDigit c then (moreDigits isDigit rest).map fun (digits, after) => (c :: digits, after)
    else none

/-- A number that does not run into a letter or digit. -/
def checked (token : Token) : List Char → Scanned
  | [] => some (token, [])
  | c :: rest => if isAsciiDigit c || isIdentifierStart c then none else some (token, c :: rest)

/-- The value of digits in a base that is a power of two. Up to 64 bits the value is rounded once;
beyond, after every digit. -/
def radixValue (base limit : Nat) (digits : List Char) : Double :=
  if digits.length ≤ limit then .ofNat (digits.foldl (fun n c => base * n + hexValue c) 0)
  else
    digits.foldl (fun x c =>
      if x.isFinite then
        .ofRatio false (x.ratio.1 * base + hexValue c * x.ratio.2) x.ratio.2
      else x) (.zero false)

/-- A literal in another base, after its two characters in front. -/
def radixNumber (base limit : Nat) (isDigit : Char → Bool) (text : List Char) : Scanned := do
  let (digits, after) ← someDigits isDigit text
  match after with
  | 'n' :: rest =>
    let value := digits.foldl (fun n c => base * n + hexValue c) 0
    checked (.bigint (toString value)) rest
  | _ => checked (.number (radixValue base limit digits)) after

/-- The signed exponent after the letter `e`. -/
def exponentDigits : List Char → Option (Int × List Char)
  | '-' :: rest => do
    let (digits, after) ← someDigits isAsciiDigit rest
    some (-(decimalNumber digits : Int), after)
  | '+' :: rest => do
    let (digits, after) ← someDigits isAsciiDigit rest
    some (decimalNumber digits, after)
  | text => do
    let (digits, after) ← someDigits isAsciiDigit text
    some (decimalNumber digits, after)

/-- An exponent, if there is one. -/
def optionalExponent : List Char → Option (Int × List Char)
  | 'e' :: rest => exponentDigits rest
  | 'E' :: rest => exponentDigits rest
  | text => some (0, text)

/-- The number of whole and fractional digits and an exponent. -/
def decimalToken (whole fraction : List Char) (exponent : Int) : Token :=
  .number (.ofDecimal (decimalNumber (whole ++ fraction)) (exponent - fraction.length))

/-- The rest of a number after its decimal point. -/
def afterPoint (whole text : List Char) : Scanned := do
  let (fraction, after) ←
    if (text.headD ' ' |> isAsciiDigit) then someDigits isAsciiDigit text else some ([], text)
  let (exponent, rest) ← optionalExponent after
  checked (decimalToken whole fraction exponent) rest

/-- A decimal number by its first digit and the text after it. -/
def decimalLiteral (first : Char) (text : List Char) : Scanned := do
  let (digits, after) ← moreDigits isAsciiDigit text
  let whole := first :: digits
  match after with
  | '.' :: rest => afterPoint whole rest
  | 'n' :: rest => checked (.bigint (toString (decimalNumber whole))) rest
  | _ =>
    let (exponent, rest) ← optionalExponent after
    checked (decimalToken whole [] exponent) rest

/-- A number with a leading zero and more digits: octal, or decimal if an eight or nine occurs. -/
def leadingZero (text : List Char) : Scanned :=
  let digits := text.takeWhile isAsciiDigit
  let after := text.dropWhile isAsciiDigit
  if digits.all fun c => c ≤ '7' then checked (.number (radixValue 8 21 digits)) after
  else
    match after with
    | '.' :: rest => afterPoint digits rest
    | 'e' :: rest => do
      let (exponent, rest) ← exponentDigits rest
      some (decimalToken digits [] exponent, rest)
    | _ => checked (decimalToken digits [] 0) after

/-- A number that starts with a zero, by the text after it. -/
def zeroLiteral (text : List Char) : Scanned :=
  match text with
  | [] => some (.number (.zero false), [])
  | c :: rest =>
    if c == 'x' || c == 'X' then radixNumber 16 16 isHexDigit rest
    else if c == 'o' || c == 'O' then radixNumber 8 21 (fun c => '0' ≤ c && c ≤ '7') rest
    else if c == 'b' || c == 'B' then radixNumber 2 64 (fun c => c == '0' || c == '1') rest
    else if c == 'e' || c == 'E' then do
      let (exponent, rest) ← exponentDigits rest
      some (decimalToken ['0'] [] exponent, rest)
    else if c == '.' then afterPoint ['0'] rest
    else if c == 'n' then checked (.bigint "0") rest
    else if isAsciiDigit c then leadingZero text
    else checked (.number (.zero false)) text

/-- A number at the start of a text, whose first character is a digit. -/
def readNumber (text : List Char) : Scanned :=
  match text with
  | '0' :: rest => zeroLiteral rest
  | c :: rest => decimalLiteral c rest
  | [] => none

/-- A number that starts with its decimal point, by the text after it. -/
def pointNumber (text : List Char) : Scanned := do
  let (fraction, after) ← someDigits isAsciiDigit text
  let (exponent, rest) ← optionalExponent after
  checked (decimalToken [] fraction exponent) rest

end CustomElement.Script
