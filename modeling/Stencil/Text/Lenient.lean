/-!
# Reading bytes that may be no text

Bytes that are not UTF-8 can still be read: every run of bytes that starts a character and cannot
be finished, and every byte that cannot start one, becomes the replacement character. The byte at
which a character breaks off is read again as the start of the next.
-/

namespace Stencil.Text

/-- What is known in the middle of a character: its leading bits, and what may come next. -/
structure Unfinished where
  /-- The bits read so far. -/
  bits : Nat
  /-- The number of bytes to come. -/
  owed : Nat
  /-- The least byte that may come next. -/
  low : Nat := 0x80
  /-- The greatest byte that may come next. -/
  high : Nat := 0xBF

namespace Unfinished

/-- What the first byte of a character of several bytes tells. The bounds on the second byte leave
out what has a shorter form, the surrogates, and all beyond the last code point. -/
def ofLead? (b : Nat) : Option Unfinished :=
  if 0xC2 ≤ b && b ≤ 0xDF then some { bits := b - 0xC0, owed := 1 }
  else if b = 0xE0 then some { bits := 0, owed := 2, low := 0xA0 }
  else if b = 0xED then some { bits := 0xD, owed := 2, high := 0x9F }
  else if 0xE1 ≤ b && b ≤ 0xEF then some { bits := b - 0xE0, owed := 2 }
  else if b = 0xF0 then some { bits := 0, owed := 3, low := 0x90 }
  else if 0xF1 ≤ b && b ≤ 0xF3 then some { bits := b - 0xF0, owed := 3 }
  else if b = 0xF4 then some { bits := 4, owed := 3, high := 0x8F }
  else none

/-- Whether a byte may come next. -/
def admits (u : Unfinished) (b : Nat) : Bool :=
  u.low ≤ b && b ≤ u.high

/-- Adds a byte. -/
def push (u : Unfinished) (b : Nat) : Unfinished :=
  { bits := u.bits * 64 + b % 64, owed := u.owed - 1 }

end Unfinished

/-- The replacement character. -/
def replacement : Char := Char.ofNat 0xFFFD

/-- The characters that bytes encode, the first of them perhaps in the middle of a character. -/
def decodeFrom (unfinished : Option Unfinished) : List UInt8 → List Char
  | [] => if unfinished.isSome then [replacement] else []
  | byte :: rest =>
    let b := byte.toNat
    match unfinished.filter (·.admits b) with
    | some u =>
      if u.owed = 1 then Char.ofNat (u.push b).bits :: decodeFrom none rest
      else decodeFrom (some (u.push b)) rest
    | none =>
      let broken := if unfinished.isSome then [replacement] else []
      if b < 0x80 then broken ++ Char.ofNat b :: decodeFrom none rest
      else
        match Unfinished.ofLead? b with
        | some u => broken ++ decodeFrom (some u) rest
        | none => broken ++ replacement :: decodeFrom none rest

/-- The characters that bytes encode. -/
def decodeLenient (bytes : List UInt8) : List Char :=
  decodeFrom none bytes

end Stencil.Text
