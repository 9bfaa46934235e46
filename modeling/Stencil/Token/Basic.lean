/-!
# Tokens

A token asks for the part with a certain key, passed through the filters of certain letters. An
occurrence is a token at its place in a template, given by byte offsets in UTF-8.
-/

namespace Stencil

/-- A request for a part, as it is written in a template. -/
structure Token where
  /-- The whole text of the token, brackets included. -/
  text : String
  /-- The key of the part. -/
  key : String
  /-- The filter letters; `none` if the token has no separator. -/
  filters : Option String
  deriving DecidableEq, Repr

/-- A token at its place in a template. -/
structure Occurrence where
  /-- The token that stands there. -/
  token : Token
  /-- The byte offset of its first character. -/
  start : Nat
  /-- The byte offset behind its last character. -/
  stop : Nat
  deriving DecidableEq, Repr

/-- The number of bytes that characters take up in UTF-8. -/
def byteLength : List Char → Nat
  | [] => 0
  | c :: cs => c.utf8Size + byteLength cs

@[simp] theorem byteLength_nil : byteLength [] = 0 := rfl

@[simp] theorem byteLength_cons (c : Char) (cs : List Char) :
    byteLength (c :: cs) = c.utf8Size + byteLength cs := rfl

@[simp] theorem byteLength_append (s t : List Char) :
    byteLength (s ++ t) = byteLength s + byteLength t := by
  induction s with
  | nil => simp
  | cons c s ih => simp [ih, Nat.add_assoc]

/-- A piece of a template: a character that is copied, or a token that is filled in. -/
inductive Segment where
  /-- A character outside all tokens. -/
  | literal (c : Char)
  /-- A token. -/
  | token (t : Token)
  deriving DecidableEq, Repr

namespace Segment

/-- The characters that the segment takes up in the template. -/
def chars : Segment → List Char
  | literal c => [c]
  | token t => t.text.toList

/-- The tokens among the segments, in order. -/
def tokens : List Segment → List Token
  | [] => []
  | literal _ :: rest => tokens rest
  | token t :: rest => t :: tokens rest

/-- The tokens among the segments with their places, for segments that begin at byte `offset`. -/
def occurrences (offset : Nat) : List Segment → List Occurrence
  | [] => []
  | literal c :: rest => occurrences (offset + c.utf8Size) rest
  | token t :: rest =>
    let stop := offset + byteLength t.text.toList
    ⟨t, offset, stop⟩ :: occurrences stop rest

@[simp] theorem tokens_append (s t : List Segment) : tokens (s ++ t) = tokens s ++ tokens t := by
  induction s with
  | nil => rfl
  | cons segment rest ih => cases segment <;> simp [tokens, ih]

/-- The occurrences are the tokens, with places added. -/
theorem map_token_occurrences (offset : Nat) (segments : List Segment) :
    (occurrences offset segments).map (·.token) = tokens segments := by
  induction segments generalizing offset with
  | nil => rfl
  | cons segment rest ih => cases segment <;> simp [occurrences, tokens, ih]

end Segment

end Stencil
