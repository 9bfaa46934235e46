import Stencil.Document.Fault

/-!
# Dates and times in TOML documents

A moment is a date, a time, or both, the latter possibly with an offset from universal time. Its
parts are checked against the calendar and written in one canonical form.
-/

namespace Stencil.Document.Toml

/-- A run of exactly `count` digits as a number. -/
def fixedNumber? (count : Nat) (cs : List Char) : Option (Nat × List Char) :=
  let front := cs.take count
  if front.length = count && front.all Char.isDigit then
    some (Nat.ofDigitChars 10 front 0, cs.drop count)
  else none

/-- A number with at least two digits. -/
def twoDigits (n : Nat) : List Char :=
  if n < 10 then '0' :: Nat.toDigits 10 n else Nat.toDigits 10 n

/-- The number of days of a month. -/
def daysInMonth (year month : Nat) : Nat :=
  if month = 2 then
    if (year % 4 = 0 && year % 100 != 0) || year % 400 = 0 then 29 else 28
  else if month = 4 || month = 6 || month = 9 || month = 11 then 30
  else 31

/-- Reads a date and gives its canonical form. -/
def readDate? (cs : List Char) : Option (List Char × List Char) := do
  let (year, rest) ← fixedNumber? 4 cs
  let '-' :: rest := rest | none
  let (month, rest) ← fixedNumber? 2 rest
  let '-' :: rest := rest | none
  let (day, rest) ← fixedNumber? 2 rest
  if 1 ≤ month && month ≤ 12 && 1 ≤ day && day ≤ daysInMonth year month then
    some (cs.take 10, rest)
  else none

/-- Reads the fraction of a second: nine digits are kept, and trailing zeros are dropped. -/
def readFraction? (cs : List Char) : Option (List Char × List Char) :=
  match cs with
  | '.' :: rest =>
    let digits := rest.takeWhile Char.isDigit
    if digits.isEmpty then none
    else
      let kept := ((digits.take 9).reverse.dropWhile (· == '0')).reverse
      some (if kept.isEmpty then [] else '.' :: kept, rest.dropWhile Char.isDigit)
  | cs => some ([], cs)

/-- Reads a time and gives its canonical form. -/
def readTime? (cs : List Char) : Option (List Char × List Char) := do
  let (hour, rest) ← fixedNumber? 2 cs
  let ':' :: rest := rest | none
  let (minute, rest) ← fixedNumber? 2 rest
  let ':' :: rest := rest | none
  let (second, rest) ← fixedNumber? 2 rest
  let (fraction, rest) ← readFraction? rest
  if hour ≤ 23 && minute ≤ 59 && second ≤ 60 then
    some (twoDigits hour ++ ':' :: twoDigits minute ++ ':' :: twoDigits second ++ fraction, rest)
  else none

/-- Reads an offset from universal time, if there is one, and gives its canonical form. No offset at
all is a positive one. -/
def readOffset? (cs : List Char) : Option (List Char × List Char) :=
  match cs with
  | [] => some ([], [])
  | c :: rest =>
    if c = 'Z' || c = 'z' then some (['Z'], rest)
    else if c = '+' || c = '-' then do
      let (hour, rest) ← fixedNumber? 2 rest
      let ':' :: rest := rest | none
      let (minute, rest) ← fixedNumber? 2 rest
      let sign := if hour = 0 && minute = 0 then '+' else c
      if hour ≤ 23 && minute ≤ 59 then
        some (sign :: twoDigits hour ++ ':' :: twoDigits minute, rest)
      else none
    else some ([], cs)

/-- Reads a moment; `none` if there is none at the front. -/
def readMoment? (cs : List Char) : Option (List Char × List Char) :=
  match readDate? cs with
  | none => readTime? cs
  | some (date, rest) =>
    match rest with
    | c :: time =>
      if c = 'T' || c = 't' || (c = ' ' && (readTime? time).isSome) then do
        let (time, rest) ← readTime? time
        let (offset, rest) ← readOffset? rest
        some (date ++ 'T' :: time ++ offset, rest)
      else some (date, rest)
    | [] => some (date, rest)

end Stencil.Document.Toml
