/-!
# Marks and emphasis on a terminal

Messages carry a mark; titles and names are emphasised. With colors this is done by escape
sequences. A text that contains the sequence for the end of an emphasis would end the emphasis
around it, so the emphasis is opened again behind every such sequence.
-/

namespace Stencil

/-- What a terminal can show. -/
structure Terminal where
  /-- Whether it has colors. -/
  colors : Bool
  deriving DecidableEq, Repr

namespace Terminal

/-- A terminal without colors. -/
def plain : Terminal := ⟨false⟩

/-- The sequence that ends an emphasis. -/
def reset : List Char := ['\x1b', '[', '0', 'm']

/-- Puts `opening` behind every end of an emphasis. -/
def reopen (opening : List Char) : List Char → List Char
  | '\x1b' :: '[' :: '0' :: 'm' :: rest => reset ++ opening ++ reopen opening rest
  | c :: rest => c :: reopen opening rest
  | [] => []

/-- A text emphasised with the style of a code. -/
def styled (code text : String) : String :=
  let opening := '\x1b' :: '[' :: code.toList ++ ['m']
  String.ofList (opening ++ reopen opening text.toList ++ reset)

/-- A text that is emphasised if there are colors. -/
def emphasis (t : Terminal) (code text : String) : String :=
  if t.colors then styled code text else text

/-- An error message. -/
def failure (t : Terminal) (text : String) : String :=
  t.emphasis "1;31" "✗" ++ " " ++ text

/-- A warning. -/
def warning (t : Terminal) (text : String) : String :=
  t.emphasis "33" "⚠" ++ " " ++ text

/-- A title. -/
def heading (t : Terminal) (title : String) : String :=
  t.emphasis "1" title

/-- A name with its value. -/
def entry (t : Terminal) (name value : String) : String :=
  "  " ++ t.emphasis "1" name ++ ": " ++ value

end Terminal

end Stencil
