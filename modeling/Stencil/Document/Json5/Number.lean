import Stencil.Document.Fault
import Stencil.Document.Numeral
import Stencil.Value
import Stencil.Width

/-!
# Numbers in JSON5 documents

A number is decimal, with digits on at least one side of a point, or hexadecimal without a sign, or
an infinity or NaN without a plus. Whole numbers fit in 64 bits with a sign, and in 32 bits if they
are hexadecimal. A decimal number with a point or an exponent is a double and has to be finite.
-/

namespace Stencil.Document.Json5

/-- Reads decimal digits. -/
def readDigits (cs : List Char) : List Char × List Char :=
  (cs.takeWhile Char.isDigit, cs.dropWhile Char.isDigit)

/-- Reads the digits in front of a point: a zero, or digits that do not start with one. -/
def readWhole (cs : List Char) : List Char × List Char :=
  match cs with
  | '0' :: rest => (['0'], rest)
  | cs => readDigits cs

/-- Reads an exponent; what is not written to its end is left behind. -/
def readExponent (cs : List Char) : List Char × List Char :=
  match cs with
  | [] => ([], [])
  | mark :: rest =>
    let (sign, digits) := rest.span fun c => c == '+' || c == '-'
    let (digits, behind) := readDigits digits
    if (mark = 'e' || mark = 'E') && sign.length ≤ 1 && !digits.isEmpty then
      (mark :: sign ++ digits, behind)
    else ([], cs)

/-- Reads a numeral without its sign; it is empty if there is none. -/
def readNumeral (cs : List Char) : List Char × List Char :=
  let hexadecimal (x : Char) (rest : List Char) : Option (List Char × List Char) :=
    let isHex (c : Char) : Bool := (Numeral.digitValue? 16 c).isSome
    let digits := rest.takeWhile isHex
    if (x = 'x' || x = 'X') && !digits.isEmpty then
      some ('0' :: x :: digits, rest.dropWhile isHex)
    else none
  let decimal : List Char × List Char :=
    let (whole, rest) := readWhole cs
    let (fraction, rest) :=
      match rest with
      | '.' :: digits =>
        let (digits, behind) := readDigits digits
        if whole.isEmpty && digits.isEmpty then ([], rest) else ('.' :: digits, behind)
      | rest => ([], rest)
    if whole.isEmpty && fraction.isEmpty then ([], cs)
    else
      let (exponent, rest) := readExponent rest
      (whole ++ fraction ++ exponent, rest)
  let word (word : String) : Option (List Char × List Char) :=
    if word.toList.isPrefixOf cs then some (word.toList, cs.drop word.length) else none
  match cs with
  | '0' :: x :: rest => (hexadecimal x rest).getD decimal
  | cs => (word "Infinity" <|> word "NaN").getD (if cs.isEmpty then ([], []) else decimal)

/-- The value of a numeral. -/
def number? (sign numeral : List Char) : Option Number :=
  let negative := sign = ['-']
  if numeral = "Infinity".toList then
    if sign = ['+'] then none else some (.float (if negative then -1.0 / 0.0 else 1.0 / 0.0))
  else if numeral = "NaN".toList then
    if sign = ['+'] then none else some (.float (0.0 / 0.0))
  else
    match numeral with
    | '0' :: x :: digits =>
      if x = 'x' || x = 'X' then
        if sign.isEmpty then
          ((Numeral.ofDigits? 16 digits).filter (fitsUnsigned 32 ·)).map fun n => .int n
        else none
      else decimal? sign numeral
    | numeral => decimal? sign numeral
where
  /-- The value of a decimal numeral. -/
  decimal? (sign numeral : List Char) : Option Number :=
    if numeral.any fun c => c == '.' || c == 'e' || c == 'E' then
      ((Numeral.real? (sign ++ numeral)).filter Float.isFinite).map .float
    else ((Numeral.whole? 10 (sign ++ numeral)).filter (fitsSigned 64)).map .int

/-- Reads a number. -/
def readNumber (cs : List Char) : Reading (Number × List Char) :=
  let (sign, body) :=
    match cs with
    | '+' :: body => (['+'], body)
    | '-' :: body => (['-'], body)
    | body => ([], body)
  let (numeral, rest) := readNumeral body
  if numeral.isEmpty then fault "expected a value" cs
  else
    match number? sign numeral with
    | some n => .ok (n, rest)
    | none => fault "number out of range" cs

end Stencil.Document.Json5
