import Stencil.Proofs.Engine.Settled
import Stencil.Proofs.Token.Printing

/-!
# Runs without tables

While both tables are off, every run searches its template, and what it answers is a matter of the
template, the parts and the filters alone. Three results say how the answer is put together.

* `Engine.run_splices_once`: the answer is the template with a text in place of each occurrence, and
  the gaps between the occurrences are copied. Both are read off the template before anything is
  put in, so what is put in is never searched.
* `Engine.run_of_split_template`: a template may be split wherever no token stands across the cut,
  and its parts may be run one by one.
* `Engine.run_of_printed_template`: a template that is put together from pieces is scanned into its
  tokens, and is answered with its literals and with what its tokens resolve to. The filters need
  not be pure here: they are called for the tokens in turn, and may answer by what they remember.

With pure filters the answers are settled (`Settled.result_run`), and a run expands its template.
What is left is about expansions only: they are lists of texts in place of the tokens
(`Segment.expand_eq_ok_iff`), and they may be split (`Segment.expand_append`).
-/

namespace Stencil

variable {σ : Type}

namespace Engine

/-! ### Engines whose tables are off -/

/-- Both tables are off, so nothing is looked up and nothing is stored. What they hold from before
does not matter. -/
structure Unmemoized (e : Engine σ) : Prop where
  /-- Whole templates are not kept. -/
  templates : e.templates.enabled = false
  /-- Single tokens are not kept. -/
  tokens : e.tokens.enabled = false

namespace Unmemoized

variable {e : Engine σ}

theorem get_templates (h : e.Unmemoized) (template : String) :
    (e.templates.get template).1 = none := by
  rw [Memo.get_of_disabled h.templates]

theorem searching (h : e.Unmemoized) (template : String) : (e.searching template).Unmemoized where
  templates := by rw [← h.templates]; exact Memo.enabled_get ..
  tokens := h.tokens

/-- Engines without tables answer alike to tokens, if they have the same parts and filters. -/
theorem answers_resolve {e' : Engine σ} (h : e.Unmemoized) (h' : e'.Unmemoized)
    (hparts : e'.parts = e.parts) (hfilters : e'.filters = e.filters) (ts : List Token)
    (memory : σ) :
    e'.answers (ts.map .resolve) memory = e.answers (ts.map .resolve) memory := by
  induction ts generalizing memory with
  | nil => rfl
  | cons t ts ih =>
    -- without tables, a token is answered with its replacement, and the engine stays as it is
    have hstep : ∀ e : Engine σ, e.Unmemoized →
        e.answers (.resolve t :: ts.map .resolve) memory
          = (replacement e.parts e.filters t memory).1.map some
            :: e.answers (ts.map .resolve) (replacement e.parts e.filters t memory).2 := by
      intro e h
      rw [answers, perform, resolve_of_disabled h.tokens]
      rfl
    rw [List.map_cons, hstep e h, hstep e' h', hparts, hfilters, ih]

end Unmemoized

/-! ### One pass of splicing -/

/-- A run with settled answers, which does not find its template, is spliced from texts for its
occurrences. -/
theorem Settled.run_eq_splice {e : Engine σ} {p : Pattern} {value : Token → Except Error String}
    (h : e.Settled p value) (hp : e.pattern = .ok p) {template : String}
    (hmissing : (e.templates.get template).1 = none) {texts : List String}
    (htexts : (p.occurrences template).map (fun o => value o.token) = texts.map .ok) (memory : σ) :
    (e.run template memory).result = .ok (splice template 0 (p.occurrences template) texts) := by
  rw [p.map_occurrences template value] at htexts
  rw [h.result_run hp hmissing, Segment.expand_eq_ok_iff.2 ⟨texts, htexts, rfl⟩,
    p.splice_occurrences]
  rfl

/-- **A run is one pass of splicing.** Take an engine with its tables off and with pure filters, and
the occurrences that it lists for a template.

* The template is its gaps with the text of each occurrence in between.
* The run succeeds exactly when every occurrence resolves.
* Then it gives the same gaps, with what each occurrence resolves to in between.
* An occurrence resolves to itself if there is no part for its key, and else to the text of the
  part, which is passed through the filters first if there is a separator.
* So a template none of whose keys has a part is given back as it is.

Occurrences and gaps are those of the template: what is put in is not searched, even if there are
tokens in it, or if it makes a token together with what stands around it. -/
theorem run_splices_once {e : Engine σ} (hconfig : e.config.Valid) (haccepted : e.Accepted)
    (hoff : e.Unmemoized) (hpure : e.filters.Pure) (template : String) (memory memory' : σ) :
    ∃ os, e.occurrences template = .ok os ∧
      splice template 0 os (os.map (·.token.text)) = template ∧
      ((∃ text, (e.run template memory).result = .ok text) ↔
        ∀ o ∈ os, ∃ text, (e.resolve o.token memory').result = .ok text) ∧
      (∀ texts : List String,
        os.map (fun o => (e.resolve o.token memory').result) = texts.map .ok →
          (e.run template memory).result = .ok (splice template 0 os texts)) ∧
      (∀ o ∈ os, (e.resolve o.token memory').result =
        match e.parts.find? o.token.key, o.token.filters with
        | none, _ => .ok o.token.text
        | some v, none => .ok v.text
        | some v, some letters =>
          (e.filters.apply letters.toList v memory').1.map Value.text) ∧
      ((∀ o ∈ os, e.parts.find? o.token.key = none) →
        (e.run template memory).result = .ok template) := by
  obtain ⟨p, hpattern⟩ : ∃ p, e.pattern = .ok p := ⟨_, pattern_of_accepted hconfig haccepted⟩
  have hsettled := settled_of_pure hpure p memory'
  have hmissing := hoff.get_templates template
  -- while the tables are off, an occurrence resolves to its replacement
  have hanswer : ∀ t : Token, (e.resolve t memory').result =
      match e.parts.find? t.key, t.filters with
      | none, _ => .ok t.text
      | some v, none => .ok v.text
      | some v, some letters =>
        (e.filters.apply letters.toList v memory').1.map Value.text := by
    intro t
    rw [resolve_of_disabled hoff.tokens, replacement]
    cases e.parts.find? t.key with
    | none => rfl
    | some v => cases t.filters <;> rfl
  refine ⟨p.occurrences template, ?_, p.splice_own_texts template, ?_, ?_,
    fun o _ => hanswer o.token, ?_⟩
  · rw [occurrences, hpattern]
    rfl
  · rw [← exists_results_iff]
    -- texts for all occurrences are at hand exactly if each of them has one
    constructor
    · -- an expansion that succeeds has a text for each token
      rintro ⟨text, htext⟩
      rw [hsettled.result_run hpattern hmissing] at htext
      cases hexpand : Segment.expand (fun t => (e.resolve t memory').result)
          (p.segments template.toList) with
      | error err => rw [hexpand] at htext; cases htext
      | ok cs =>
        obtain ⟨texts, htexts, -⟩ := Segment.expand_eq_ok_iff.1 hexpand
        refine ⟨texts, ?_⟩
        rw [← htexts, p.map_occurrences template fun t => (e.resolve t memory').result]
    · rintro ⟨texts, htexts⟩
      exact ⟨_, hsettled.run_eq_splice hpattern hmissing htexts memory⟩
  · intro texts htexts
    exact hsettled.run_eq_splice hpattern hmissing htexts memory
  · intro hnone
    -- every occurrence resolves to its own text
    have hown : (p.occurrences template).map (fun o => (e.resolve o.token memory').result)
        = ((p.occurrences template).map (·.token.text)).map .ok := by
      rw [List.map_map]
      refine List.map_congr_left fun o ho => ?_
      rw [hanswer, hnone o ho]
      rfl
    rw [hsettled.run_eq_splice hpattern hmissing hown memory, p.splice_own_texts]

/-- An engine without tables. What it puts in for `<a>` is the end of another token. -/
def withTokenEnd : Engine Unit :=
  ⟨.unlimited, ⟨"<", ">", "-", false⟩, Dictionary.ofList [('t', Builtin.trim.filter)],
    Dictionary.ofList [("a", .string "b>"), ("b", .string " x ")], .empty false, .empty false, 0⟩

/-- What is put in completes a token with what stands in front of it, and is left alone. Behind it
one token is filtered, and another one has no part. -/
theorem run_splices_once_of_completed_token :
    (withTokenEnd.run "é<<a>, <b-t> <z>" ()).result = .ok "é<b>, x <z>" := by
  have hvalid : withTokenEnd.config.Valid := ⟨by decide, by decide, by decide⟩
  have hpure : withTokenEnd.filters.Pure := FilterSet.pure_singleton 't' .trim
  obtain ⟨os, hos, -, -, hsplice, -, -⟩ :=
    run_splices_once hvalid rfl ⟨rfl, rfl⟩ hpure "é<<a>, <b-t> <z>" () ()
  have hlisted : withTokenEnd.occurrences "é<<a>, <b-t> <z>"
      = .ok [⟨⟨"<a>", "a", none⟩, 3, 6⟩, ⟨⟨"<b-t>", "b", some "t"⟩, 8, 13⟩,
          ⟨⟨"<z>", "z", none⟩, 14, 17⟩] := by
    with_unfolding_all rfl
  obtain rfl := Except.ok.inj (hos.symm.trans hlisted)
  exact hsplice ["b>", "x", "<z>"] (by with_unfolding_all rfl)

/-! ### Splitting a template -/

/-- Where the segments of a template are those of two parts, with text to be copied in between, the
parts may be run one by one. -/
theorem Settled.run_append {e : Engine σ} {p : Pattern} {value : Token → Except Error String}
    (h : e.Settled p value) (hp : e.pattern = .ok p) (hoff : e.Unmemoized)
    {whole left right : String} {middle : List Char}
    (hsegments : p.segments whole.toList
      = p.segments left.toList ++ (middle.map .literal ++ p.segments right.toList))
    (memory memory₁ memory₂ : σ) :
    (e.run whole memory).result = do
      let first ← (e.run left memory₁).result
      let second ← (e.run right memory₂).result
      return first ++ String.ofList middle ++ second := by
  -- all three runs are expansions, and that of the whole is put together from those of the parts
  rw [h.result_run hp (hoff.get_templates whole), h.result_run hp (hoff.get_templates left),
    h.result_run hp (hoff.get_templates right), hsegments, Segment.expand_append,
    Segment.expand_literals_append]
  cases Segment.expand value (p.segments left.toList) with
  -- if the first part fails, the second one is not asked on either side
  | error err => rfl
  | ok first =>
    cases Segment.expand value (p.segments right.toList) with
    | error err => rfl
    | ok second =>
      change Except.ok (String.ofList (first ++ (middle ++ second)))
        = .ok (String.ofList first ++ String.ofList middle ++ String.ofList second)
      rw [String.ofList_append, String.ofList_append, String.append_assoc]

/-- **A template may be split outside its tokens.** Let no occurrence stand across the cut. Then the
occurrences of the whole are those of the two parts, and the run of the whole is the run of the one
part and then of the other: if both succeed, one text behind the other, and else the error of the
first part that fails.

A character outside the grammar stands in no occurrence, so a template may always be split around
it. -/
theorem run_of_split_template {compiler : ExpressionCompiler} {config : Config}
    (hconfig : config.Valid) {letters : List Char} (haccepts : compiler.Accepts config letters) :
    ∃ p, Pattern.build compiler config letters = .ok p ∧
      (∀ left right : String,
        (∀ o ∈ p.occurrences (left ++ right), ¬ o.Straddles left.utf8ByteSize) →
          p.occurrences (left ++ right)
            = p.occurrences left ++ (p.occurrences right).map (·.shift left.utf8ByteSize) ∧
          ∀ e : Engine σ, e.pattern = .ok p → e.Unmemoized → e.filters.Pure →
            ∀ memory memory₁ memory₂,
              (e.run (left ++ right) memory).result = do
                let first ← (e.run left memory₁).result
                let second ← (e.run right memory₂).result
                return first ++ second) ∧
      (∀ (left right : String) (c : Char), config.Foreign letters c →
        (∀ o ∈ p.occurrences (left ++ c.toString ++ right), c ∉ o.token.text.toList) ∧
          ∀ e : Engine σ, e.pattern = .ok p → e.Unmemoized → e.filters.Pure →
            ∀ memory memory₁ memory₂,
              (e.run (left ++ c.toString ++ right) memory).result = do
                let first ← (e.run left memory₁).result
                let second ← (e.run right memory₂).result
                return first ++ c.toString ++ second) := by
  obtain ⟨p, hp⟩ : ∃ p, Pattern.build compiler config letters = .ok p :=
    ⟨_, Pattern.build_of_accepts hconfig haccepts⟩
  have hdescribes := Pattern.describes_of_build hp
  refine ⟨p, hp, fun left right hout => ⟨Pattern.occurrences_append hout, ?_⟩,
    fun left right c hforeign => ⟨fun o ho => hdescribes.not_mem_text hforeign ho, ?_⟩⟩
  · intro e hpattern hoff hpure memory memory₁ memory₂
    -- the two parts stand side by side, with nothing in between
    have hsegments : p.segments (left ++ right).toList
        = p.segments left.toList ++ (([] : List Char).map .literal ++ p.segments right.toList) := by
      rw [String.toList_append]
      refine Pattern.segments_append fun o ho => ?_
      rw [byteLength_toList]
      exact hout o (by rwa [Pattern.occurrences, String.toList_append])
    have hrun := (settled_of_pure hpure p memory).run_append hpattern hoff hsegments
      memory memory₁ memory₂
    simpa only [String.ofList_nil, String.append_empty] using hrun
  · intro e hpattern hoff hpure memory memory₁ memory₂
    have htext : (left ++ c.toString ++ right).toList = left.toList ++ c :: right.toList := by
      simp
    have hsegments : p.segments (left ++ c.toString ++ right).toList
        = p.segments left.toList ++ ([c].map .literal ++ p.segments right.toList) := by
      rw [htext]
      refine Pattern.segments_append_cons fun t ht => ?_
      -- the tokens of a template are the tokens of its occurrences
      rw [← htext, ← Segment.map_token_occurrences 0] at ht
      obtain ⟨o, ho, rfl⟩ := List.mem_map.1 ht
      exact hdescribes.not_mem_text hforeign ho
    have hrun := (settled_of_pure hpure p memory).run_append hpattern hoff hsegments
      memory memory₁ memory₂
    have hc : String.ofList [c] = c.toString := rfl
    -- here the text in between is the one character
    rwa [hc] at hrun

/-- An engine without tables, whose closing bracket and separator are a character of keys. -/
def withSharedLetter : Engine Unit :=
  ⟨.unlimited, ⟨"<", "a", "a", false⟩, Dictionary.ofList [('!', Builtin.trim.filter)],
    Dictionary.ofList [("ba", .string "1"), ("c", .string "2")], .empty false, .empty false, 0⟩

/-- The first token could go on with filters behind the cut. It does not, because of the question
mark, which is outside the grammar: so the template may be split in front of it, and around it. -/
theorem run_of_split_template_at_foreign_character :
    ∃ p, Pattern.build .unlimited ⟨"<", "a", "a", false⟩ ['!'] = .ok p ∧
      p.occurrences "é<baa?<ca"
        = [⟨⟨"<baa", "ba", none⟩, 2, 6⟩, ⟨⟨"<ca", "c", none⟩, 7, 10⟩] ∧
      (withSharedLetter.run ("é<baa" ++ "?<ca") ()).result = .ok "é1?2" ∧
      (withSharedLetter.run ("é<baa" ++ '?'.toString ++ "<ca") ()).result = .ok "é1?2" := by
  have hvalid : Config.Valid ⟨"<", "a", "a", false⟩ := ⟨by decide, by decide, by decide⟩
  have hforeign : Config.Foreign ⟨"<", "a", "a", false⟩ ['!'] '?' :=
    ⟨by decide, by decide, by decide, by decide, by decide⟩
  have hpure : withSharedLetter.filters.Pure := FilterSet.pure_singleton '!' .trim
  obtain ⟨p, hp, hsplit, haround⟩ := run_of_split_template (σ := Unit) hvalid
    (ExpressionCompiler.accepts_unlimited _ ['!'])
  have hfound : p.occurrences ("é<baa" ++ "?<ca")
      = [⟨⟨"<baa", "ba", none⟩, 2, 6⟩, ⟨⟨"<ca", "c", none⟩, 7, 10⟩] := by
    obtain ⟨-, -, rfl⟩ := Pattern.build_eq_ok_iff.1 hp
    decide +kernel
  have hout : ∀ o ∈ p.occurrences ("é<baa" ++ "?<ca"),
      ¬ o.Straddles ("é<baa" : String).utf8ByteSize := by
    rw [hfound]
    decide +kernel
  have hpattern : withSharedLetter.pattern = .ok p := hp
  have hleft : (withSharedLetter.run "é<baa" ()).result = .ok "é1" := by with_unfolding_all rfl
  have hright : (withSharedLetter.run "<ca" ()).result = .ok "2" := by with_unfolding_all rfl
  have hright' : (withSharedLetter.run "?<ca" ()).result = .ok "?2" := by with_unfolding_all rfl
  refine ⟨p, hp, hfound, ?_, ?_⟩
  · rw [(hsplit _ _ hout).2 _ hpattern ⟨rfl, rfl⟩ hpure () () (), hleft, hright']
    rfl
  · rw [(haround _ _ '?' hforeign).2 _ hpattern ⟨rfl, rfl⟩ hpure () () (), hleft, hright]
    rfl

/-! ### Printing a template -/

/-- If the tokens among segments, resolved in turn, are answered with texts, then filling the
segments in puts these texts in place of the tokens. -/
theorem fill_of_answers {e : Engine σ} {segments : List Segment} {texts : List String} {memory : σ}
    (h : e.answers ((Segment.tokens segments).map .resolve) memory
      = texts.map fun text => .ok (some text)) :
    (e.fill segments memory).result = .ok (Segment.substitute segments texts) := by
  induction segments generalizing e texts memory with
  | nil => rfl
  | cons segment rest ih =>
    cases segment with
    | literal c =>
      -- a literal is no token, so all the answers are those of the rest
      have hrest := ih h
      rw [fill_literal, Outcome.result_map, hrest]
      rfl
    | token t =>
      rw [Segment.tokens, List.map_cons, answers, perform] at h
      cases texts with
      | nil => cases h
      | cons text texts =>
        -- the first answer is this token's, the others are given by the engine behind it
        obtain ⟨hanswer, htail⟩ := List.cons.inj h
        rcases hresolve : e.resolve t memory with ⟨result, e₁, memory₁⟩
        rw [hresolve] at hanswer htail
        cases result with
        -- the answers are texts, so no token fails
        | error err => cases hanswer
        | ok text' =>
          obtain rfl : text' = text := Option.some.inj (Except.ok.inj hanswer)
          have hrest : (e₁.fill rest memory₁).result = .ok (Segment.substitute rest texts) :=
            ih htail
          rw [fill_token_of_ok hresolve, Outcome.result_map, hrest]
          rfl

/-- **A printed template is read back.** For clear delimiters and any sequence of pieces, the
scanner finds the tokens of the sequence in the printed text, with their keys and filters and in
their places, and nothing else. If these tokens, resolved in turn by an engine without tables, are
answered with texts, then a run of the printed text gives the literals as they are and these texts
in place of the tokens. -/
theorem run_of_printed_template {compiler : ExpressionCompiler} {config : Config}
    (hconfig : config.Valid) {letters : List Char} (haccepts : compiler.Accepts config letters)
    (hclear : config.Clear letters) (pieces : List (Piece config letters)) :
    ∃ p, Pattern.build compiler config letters = .ok p ∧
      p.occurrences (Piece.print pieces) = Piece.occurrences 0 pieces ∧
      ∀ (e : Engine σ) (memory : σ) (texts : List String), e.pattern = .ok p → e.Unmemoized →
        e.answers ((Piece.tokens pieces).map .resolve) memory
            = texts.map (fun text => .ok (some text)) →
          (e.run (Piece.print pieces) memory).result = .ok (Piece.substitute pieces texts) := by
  obtain ⟨p, hp⟩ : ∃ p, Pattern.build compiler config letters = .ok p :=
    ⟨_, Pattern.build_of_accepts hconfig haccepts⟩
  have hdescribes := Pattern.describes_of_build hp
  have hclear' := hdescribes.clear hconfig hclear
  -- `hclear'` says of the pattern what `hclear` says of its delimiters
  refine ⟨p, hp, Pattern.occurrences_print hdescribes hclear' pieces, ?_⟩
  intro e memory texts hpattern hoff hanswers
  have hsegments := Piece.segments_print hdescribes hclear' pieces
  -- the search begins with a lookup and a count, which the answers do not depend on
  have hsearching := hoff.answers_resolve (hoff.searching (Piece.print pieces)) rfl rfl
    (Piece.tokens pieces) memory
  have hfill :
      ((e.searching (Piece.print pieces)).fill (pieces.flatMap Piece.segments) memory).result
        = .ok (Segment.substitute (pieces.flatMap Piece.segments) texts) := by
    refine fill_of_answers ?_
    rw [Piece.tokens_segments, hsearching, hanswers]
  rw [result_run_of_missing hpattern (hoff.get_templates _), hsegments, hfill,
    Piece.substitute_segments]
  exact congrArg Except.ok String.ofList_toList

/-- An engine without tables and with long delimiters. -/
def withLongDelimiters : Engine Nat :=
  ⟨.unlimited, ⟨"[[", "]]", "|", false⟩,
    Dictionary.ofList
      [('n', ⟨"numbering", fun _ calls => (.ok (.number (.int calls)), calls + 1)⟩)],
    Dictionary.ofList [("a", .null)], .empty false, .empty false, 0⟩

/-- Tokens next to each other and next to stray delimiters. The filter answers with the number of
calls before. -/
def strayDelimiters : List (Piece ⟨"[[", "]]", "|", false⟩ ['n']) :=
  [.literal "a]]|é" (by simp), .token "a" (some "n") (by decide) (by decide),
    .token "z" none (by decide) (by decide), .token "a" (some "nQ") (by decide) (by decide),
    .literal "]]" (by simp)]

theorem run_of_printed_template_with_stray_delimiters :
    ∃ p, Pattern.build .unlimited ⟨"[[", "]]", "|", false⟩ ['n'] = .ok p ∧
      (p.occurrences (Piece.print strayDelimiters)).map (·.start) = [6, 13, 18] ∧
      (withLongDelimiters.run (Piece.print strayDelimiters) 7).result
        = .ok "a]]|é7[[z]]8]]" := by
  have hvalid : Config.Valid ⟨"[[", "]]", "|", false⟩ :=
    ⟨by decide, by decide, by decide⟩
  have hclear : Config.Clear ⟨"[[", "]]", "|", false⟩ ['n'] := by decide
  obtain ⟨p, hp, hfound, hrun⟩ := run_of_printed_template (σ := Nat) hvalid
    (ExpressionCompiler.accepts_unlimited _ ['n']) hclear strayDelimiters
  have hanswers : withLongDelimiters.answers ((Piece.tokens strayDelimiters).map .resolve) 7
      = ["7", "[[z]]", "8"].map fun text => .ok (some text) := by
    with_unfolding_all rfl
  refine ⟨p, hp, ?_, ?_⟩
  · rw [hfound]
    decide +kernel
  · exact hrun withLongDelimiters 7 _ hp ⟨rfl, rfl⟩ hanswers

end Engine

end Stencil
