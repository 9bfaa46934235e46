import Mathlib.Data.String.Basic
import Stencil.Proofs.Token.Grammar

/-!
# Texts in place of tokens

There are two ways to put texts in place of the tokens of a template. `Segment.substitute` goes
along the segments and needs no offsets. `splice` goes along the occurrences: it copies the bytes
from the stop of one occurrence to the start of the next, and in between it puts the texts.

They agree on the occurrences of a template (`Pattern.splice_occurrences`). The reason is that the
bytes that are copied are the literals between two tokens, so the proof carries along what has been
walked over since the last token. Two consequences: with the own text of each token, the template
comes out as it was, and whatever is put in for a token, the gaps are those of the template.
-/

namespace Stencil

/-! ### Along the segments -/

namespace Segment

/-- The text of segments, with texts in place of the tokens, in turn. When the texts have run out,
tokens stay as they are written. -/
def substitute : List Segment → List String → List Char
  | [], _ => []
  | literal c :: rest, texts => c :: substitute rest texts
  | token _ :: rest, text :: texts => text.toList ++ substitute rest texts
  | token t :: rest, [] => t.text.toList ++ substitute rest []

/-- Without texts, the segments are written as they are. -/
theorem substitute_nil (segments : List Segment) :
    substitute segments [] = segments.flatMap chars := by
  induction segments with
  | nil => rfl
  | cons segment rest ih =>
    cases segment with
    | literal c => rw [substitute, ih, List.flatMap_cons]; rfl
    | token t => rw [substitute, ih, List.flatMap_cons]; rfl

/-- With its own text for each token, the segments are written as they are. -/
theorem substitute_own_texts (segments : List Segment) :
    substitute segments ((tokens segments).map (·.text)) = segments.flatMap chars := by
  induction segments with
  | nil => rfl
  | cons segment rest ih =>
    cases segment with
    | literal c => rw [tokens, substitute, ih, List.flatMap_cons]; rfl
    | token t => rw [tokens, List.map_cons, substitute, ih, List.flatMap_cons]; rfl

end Segment

/-! ### Along the occurrences -/

/-- The text between two byte offsets. -/
def slice (text : String) (start stop : Nat) : String :=
  String.Pos.Raw.extract text ⟨start⟩ ⟨stop⟩

/-- **Splicing.** The template from byte `last` on, with texts in place of its occurrences, in turn:
the gap up to the next occurrence, then its text, and so on, and the last gap in the end. -/
def splice (template : String) : Nat → List Occurrence → List String → String
  | last, o :: os, text :: texts =>
    slice template last o.start ++ text ++ splice template o.stop os texts
  | last, _, _ => slice template last template.utf8ByteSize

theorem utf8Len_eq (cs : List Char) : String.utf8Len cs = byteLength cs := by
  rw [← String.utf8ByteSize_ofList, utf8ByteSize_ofList]

/-- What stands between two texts is the slice between their bytes. -/
theorem slice_append (before inside behind : List Char) :
    slice (String.ofList (before ++ inside ++ behind)) (byteLength before)
      (byteLength before + byteLength inside) = String.ofList inside := by
  -- both ends lie between characters, so the bytes in between are those of `inside`
  have hextract := String.extract_of_valid before inside behind
  rwa [utf8Len_eq, utf8Len_eq] at hextract

/-- Splicing at the end of a template copies what is left. -/
theorem slice_to_end (before behind : List Char) :
    slice (String.ofList (before ++ behind)) (byteLength before)
      (String.ofList (before ++ behind)).utf8ByteSize = String.ofList behind := by
  rw [utf8ByteSize_ofList, byteLength_append]
  have hslice := slice_append before behind []
  rwa [List.append_nil] at hslice

/-- Splicing along the occurrences is substituting along the segments. In front, `before` ends with
the last token, and `gap` has been walked over since. -/
theorem splice_segments (before gap : List Char) (segments : List Segment) (texts : List String) :
    splice (String.ofList (before ++ (gap ++ segments.flatMap Segment.chars))) (byteLength before)
        (Segment.occurrences (byteLength before + byteLength gap) segments) texts
      = String.ofList (gap ++ Segment.substitute segments texts) := by
  induction segments generalizing before gap texts with
  | nil =>
    rw [Segment.occurrences, splice, slice_to_end]
    · rfl
    · intro o os text texts hos
      cases hos
  | cons segment rest ih =>
    cases segment with
    | literal c =>
      -- the character joins the gap
      have hgap := ih before (gap ++ [c]) texts
      rw [byteLength_append, ← Nat.add_assoc, List.append_assoc, List.append_assoc] at hgap
      exact hgap
    | token t =>
      cases texts with
      | nil =>
        rw [splice, slice_to_end, Segment.substitute_nil]
        intro o os text texts _ htexts
        cases htexts
      | cons text texts =>
        -- the gap and the token are walked over, and a new gap begins behind them
        have htail := ih (before ++ gap ++ t.text.toList) [] texts
        rw [byteLength_append, byteLength_append, byteLength_nil, Nat.add_zero, List.nil_append,
          List.nil_append] at htail
        have hgap := slice_append before gap (t.text.toList ++ rest.flatMap Segment.chars)
        have hsame : before ++ (gap ++ (Segment.token t :: rest).flatMap Segment.chars)
            = before ++ gap ++ t.text.toList ++ rest.flatMap Segment.chars := by
          simp [Segment.chars]
        rw [Segment.occurrences, splice, hsame, htail, List.append_assoc, hgap, Segment.substitute,
          String.ofList_append, String.ofList_append, String.ofList_toList, String.append_assoc]

/-- What is worked out for the occurrences of a template is worked out for its tokens. -/
theorem Pattern.map_occurrences {α : Type} (p : Pattern) (template : String) (f : Token → α) :
    (p.occurrences template).map (fun o => f o.token)
      = (Segment.tokens (p.segments template.toList)).map f := by
  rw [← Segment.map_token_occurrences 0, List.map_map]
  rfl

/-- **Splicing the occurrences of a template** puts texts in place of its tokens. -/
theorem Pattern.splice_occurrences (p : Pattern) (template : String) (texts : List String) :
    splice template 0 (p.occurrences template) texts
      = String.ofList (Segment.substitute (p.segments template.toList) texts) := by
  have hsplice := splice_segments [] [] (p.segments template.toList) texts
  rw [p.flatMap_chars_segments] at hsplice
  simpa [Pattern.occurrences] using hsplice

/-- **The template is its gaps and its tokens.** -/
theorem Pattern.splice_own_texts (p : Pattern) (template : String) :
    splice template 0 (p.occurrences template)
      ((p.occurrences template).map (·.token.text)) = template := by
  rw [p.map_occurrences template (·.text), p.splice_occurrences, Segment.substitute_own_texts,
    p.flatMap_chars_segments, String.ofList_toList]

end Stencil
