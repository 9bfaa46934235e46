import Stencil.Proofs.Token.Grammar

/-!
# Scanning a template

`Pattern.segments` walks through a template and reads a token wherever one can be read. This file
turns what is known about a single reading (`Pattern.read?_eq_some_iff` and
`Pattern.read?_eq_none_iff`) into statements about the whole walk.

* `Pattern.exists_read?_of_mem_occurrences`: every occurrence is a reading at its own place.
* `Segment.pairwise_occurrences`: the spans lie one behind the other. This holds of any list of
  segments, since places are counted along the list.
* `Pattern.exists_occurrence_of_begins`: wherever the template begins with a cut, the place lies
  inside an occurrence. So outside the occurrences there is no token at all.
* `scan_leftmost_greedy` puts these together in the terms of the grammar.

The last part is about the text of a token. A reading is a best cut, a best cut stays best when what
follows is taken away, and best cuts are unique, so tokens with one text are one token, wherever
they were read (`Pattern.Reads.eq_of_text_eq`).
-/

namespace Stencil

/-! ### Places of segments -/

namespace Segment

theorem le_start_of_mem_occurrences {offset : Nat} {segments : List Segment} {o : Occurrence}
    (h : o ∈ occurrences offset segments) : offset ≤ o.start := by
  induction segments generalizing offset with
  | nil => simp [occurrences] at h
  | cons segment rest ih =>
    cases segment with
    | literal c => exact Nat.le_trans (Nat.le_add_right _ _) (ih h)
    | token t =>
      rcases List.mem_cons.1 h with rfl | h
      · exact Nat.le_refl _
      · exact Nat.le_trans (Nat.le_add_right _ _) (ih h)

/-- The spans of tokens lie one behind the other. -/
theorem pairwise_occurrences (offset : Nat) (segments : List Segment) :
    (occurrences offset segments).Pairwise fun o o' => o.stop ≤ o'.start := by
  induction segments generalizing offset with
  | nil => exact List.Pairwise.nil
  | cons segment rest ih =>
    cases segment with
    | literal c => exact ih _
    | token t => exact List.pairwise_cons.2 ⟨fun o ho => le_start_of_mem_occurrences ho, ih _⟩

end Segment

namespace Pattern

variable {p : Pattern}

/-! ### What is emitted -/

/-- Every occurrence is a reading at its own place: behind as many bytes as its start says, the
token is read, and its span is as long as its text. -/
theorem exists_read?_of_mem_occurrences {cs : List Char} {offset : Nat} {o : Occurrence}
    (h : o ∈ Segment.occurrences offset (p.segments cs)) :
    ∃ before after rest, cs = before ++ after ∧ o.start = offset + byteLength before ∧
      p.read? after = some (o.token, rest) ∧
      o.stop = o.start + byteLength o.token.text.toList := by
  -- the walk is followed: what it takes at the front is put before the place
  induction cs using Pattern.segments.induct p generalizing offset with
  | case1 => simp [Segment.occurrences] at h
  | case2 c cs t rest hread ih =>
    rw [p.segments_of_some hread] at h
    rcases List.mem_cons.1 h with rfl | h
    · exact ⟨[], c :: cs, rest, rfl, rfl, hread, rfl⟩
    · obtain ⟨before, after, rest', rfl, hstart, hread', hstop⟩ := ih h
      refine ⟨t.text.toList ++ before, after, rest', ?_, ?_, hread', hstop⟩
      · rw [(p.read?_sound hread).1, List.append_assoc]
      · rw [hstart, byteLength_append, Nat.add_assoc]
  | case3 c cs hread ih =>
    rw [p.segments_of_none hread] at h
    obtain ⟨before, after, rest, rfl, hstart, hread', hstop⟩ := ih h
    refine ⟨c :: before, after, rest, rfl, ?_, hread', hstop⟩
    rw [hstart, byteLength_cons, Nat.add_assoc]

/-! ### What is passed over -/

/-- **Nothing is passed over.** Where the template begins with a cut, an occurrence covers the
place. -/
theorem exists_occurrence_of_begins (before : List Char) {after : List Char} {cut : Cut}
    (h : p.Begins cut after) (offset : Nat) :
    ∃ o ∈ Segment.occurrences offset (p.segments (before ++ after)),
      o.start ≤ offset + byteLength before ∧ offset + byteLength before < o.stop := by
  generalize hcs : before ++ after = cs
  induction cs using Pattern.segments.induct p generalizing before offset with
  | case1 =>
    obtain ⟨-, rfl⟩ := List.append_eq_nil_iff.1 hcs
    exact absurd rfl h.ne_nil
  | case2 c cs t rest hread ih =>
    rw [p.segments_of_some hread]
    -- behind the token the walk goes on, and the place is looked for there
    have hbehind : ∀ behind, before = t.text.toList ++ behind → behind ++ after = rest →
        ∃ o ∈ Segment.occurrences offset (.token t :: p.segments rest),
          o.start ≤ offset + byteLength before ∧ offset + byteLength before < o.stop := by
      rintro behind rfl hrest
      obtain ⟨o, ho, hstart, hstop⟩ := ih behind (offset + byteLength t.text.toList) hrest
      refine ⟨o, List.mem_cons_of_mem _ ho, ?_, ?_⟩ <;>
      · rw [byteLength_append]
        omega
    have hsame := hcs.trans (p.read?_sound hread).1
    rcases List.append_eq_append_iff.1 hsame with ⟨inside, htext, hafter⟩ | ⟨behind, hfront, hrest⟩
    · by_cases hinside : inside = []
      · subst hinside
        exact hbehind [] (by rw [htext, List.append_nil, List.append_nil]) hafter
      · -- the place lies before the end of the token
        have hpos := byteLength_pos hinside
        refine ⟨⟨t, offset, _⟩, List.mem_cons_self .., Nat.le_add_right _ _, ?_⟩
        change offset + byteLength before < offset + byteLength t.text.toList
        rw [htext, byteLength_append]
        omega
    · exact hbehind behind hfront hrest.symm
  | case3 c cs hread ih =>
    rw [p.segments_of_none hread]
    cases before with
    | nil =>
      obtain rfl : after = c :: cs := hcs
      exact absurd h (read?_eq_none_iff.1 hread cut)
    | cons d before =>
      -- one character is copied, and the place comes nearer by its bytes
      obtain ⟨rfl, hrest⟩ := List.cons.inj hcs
      obtain ⟨o, ho, hstart, hstop⟩ := ih before (offset + d.utf8Size) hrest
      refine ⟨o, ho, ?_, ?_⟩ <;>
      · rw [byteLength_cons]
        omega

/-! ### Tokens and their text -/

/-- The token is read off some text. -/
def Reads (p : Pattern) (t : Token) : Prop :=
  ∃ cs rest, p.read? cs = some (t, rest)

theorem reads_of_mem_tokens {cs : List Char} {t : Token}
    (h : t ∈ Segment.tokens (p.segments cs)) : p.Reads t := by
  -- the tokens are those of the occurrences, wherever these are counted from
  rw [← Segment.map_token_occurrences 0] at h
  obtain ⟨o, ho, rfl⟩ := List.mem_map.1 h
  obtain ⟨-, after, rest, -, -, hread, -⟩ := exists_read?_of_mem_occurrences ho
  exact ⟨after, rest, hread⟩

theorem reads_of_mem_occurrences {template : String} {o : Occurrence}
    (h : o ∈ p.occurrences template) : p.Reads o.token := by
  obtain ⟨-, after, rest, -, -, hread, -⟩ := exists_read?_of_mem_occurrences h
  exact ⟨after, rest, hread⟩

/-- **The text says it all.** Tokens that are read and have the same text are the same. -/
theorem Reads.eq_of_text_eq {t t' : Token} (h : p.Reads t) (h' : p.Reads t')
    (htext : t.text = t'.text) : t = t' := by
  obtain ⟨cs, rest, hread⟩ := h
  obtain ⟨cs', rest', hread'⟩ := h'
  -- both are read from their own text, and this is one text
  have hown := read?_text hread
  rw [htext, read?_text hread'] at hown
  exact (Prod.mk.inj (Option.some.inj hown)).1.symm

/-- The text of a token is a template with this one token and nothing else. -/
theorem Reads.segments_text {t : Token} (h : p.Reads t) :
    p.segments t.text.toList = [.token t] := by
  obtain ⟨cs, rest, hread⟩ := h
  rw [p.segments_of_some (read?_text hread), segments_nil]

end Pattern

/-! ### The scanner and the grammar -/

/-- What is promised of an occurrence: it is a token where it stands, its text is the token as it is
written, and its span holds exactly this text. -/
structure Occurrence.Sound (config : Config) (letters : List Char) (template : String)
    (o : Occurrence) : Prop where
  /-- The key and the filters are those of a token at the start. -/
  tokenAt : TokenAt config letters template o.start o.token.key o.token.filters
  /-- The text is the token as it is written. -/
  text_eq : o.token.text = config.written o.token.key o.token.filters
  /-- The text is what the template holds from the start to the stop, and both lie between
  characters. -/
  slice : ∃ before after, template = before ++ o.token.text ++ after ∧
    before.utf8ByteSize = o.start ∧ (before ++ o.token.text).utf8ByteSize = o.stop
  /-- The span is not empty. -/
  start_lt_stop : o.start < o.stop

/-- The cut that a token was made from can be seen from its key and its filters. -/
theorem cutOf_token {p : Pattern} (cut : Cut) :
    Pattern.cutOf (p.token cut.key cut.filters).key (p.token cut.key cut.filters).filters
      = cut := by
  obtain ⟨key, filters⟩ := cut
  cases filters <;> simp [Pattern.cutOf, Pattern.token]

/-- A token that is read is the best cut of the text it is read from. -/
theorem Pattern.best_of_read {p : Pattern} {cs rest : List Char} {t : Token}
    (h : p.read? cs = some (t, rest)) : p.Best (cutOf t.key t.filters) cs := by
  obtain ⟨cut, hbest, rfl, -⟩ := read?_eq_some_iff.1 h
  rwa [cutOf_token]

/-- The text of a token that is read is the token as its cut is written. -/
theorem Pattern.text_toList_of_read {p : Pattern} {cs rest : List Char} {t : Token}
    (h : p.read? cs = some (t, rest)) :
    t.text.toList = p.written t.key.toList (t.filters.map String.toList) := by
  obtain ⟨cut, -, rfl, -⟩ := read?_eq_some_iff.1 h
  -- the cut can be read off the token, so it may be put for its key and its filters
  have hcut := cutOf_token (p := p) cut
  rw [token_text_toList]
  exact (congrArg (fun c : Cut => p.written c.key c.filters) hcut).symm

/-- Every occurrence keeps its promises. -/
theorem Pattern.Describes.sound {p : Pattern} {config : Config} {letters : List Char}
    (h : p.Describes config letters) {template : String} {o : Occurrence}
    (ho : o ∈ p.occurrences template) : o.Sound config letters template := by
  obtain ⟨before, after, rest, htemplate, hstart, hread, hstop⟩ :=
    Pattern.exists_read?_of_mem_occurrences ho
  rw [Nat.zero_add] at hstart
  obtain ⟨hafter, hne⟩ := p.read?_sound hread
  refine ⟨?_, ?_, ?_, ?_⟩
  · exact h.tokenAt_iff.2 ⟨before, after, htemplate, hstart.symm, (best_of_read hread).begins⟩
  · rw [← String.toList_inj, text_toList_of_read hread, h.written_toList]
  · refine ⟨String.ofList before, String.ofList rest, ?_, ?_, ?_⟩
    · rw [← String.toList_inj, htemplate, hafter, String.toList_append, String.toList_append,
        String.toList_ofList, String.toList_ofList, List.append_assoc]
    · rw [utf8ByteSize_ofList, hstart]
    · rw [String.utf8ByteSize_append, utf8ByteSize_ofList, hstop, hstart, byteLength_toList]
  · have := byteLength_pos hne
    omega

/-- **The scanner finds exactly the tokens of the grammar, leftmost and greedy.** For delimiters
that are not empty and any letters, a pattern is built if the compiler accepts them, and on every
template:

* every occurrence is a token at its place, with its own text as its span;
* the spans lie one behind the other;
* every token of the template begins inside an occurrence, so none begins in a gap;
* among the tokens that begin where an occurrence begins, the occurrence has the longest key, and
  among those with this key the most filter letters. -/
theorem scan_leftmost_greedy {compiler : ExpressionCompiler} {config : Config}
    (hconfig : config.Valid) {letters : List Char} (haccepts : compiler.Accepts config letters)
    (template : String) :
    ∃ p, Pattern.build compiler config letters = .ok p ∧
      (∀ o ∈ p.occurrences template, o.Sound config letters template) ∧
      (p.occurrences template).Pairwise (fun o o' => o.stop ≤ o'.start) ∧
      (∀ offset key filters, TokenAt config letters template offset key filters →
        ∃ o ∈ p.occurrences template, o.start ≤ offset ∧ offset < o.stop) ∧
      (∀ o ∈ p.occurrences template, ∀ key filters,
        TokenAt config letters template o.start key filters →
          (Pattern.cutOf key filters).Le (Pattern.cutOf o.token.key o.token.filters)) := by
  have hp := Pattern.build_of_accepts hconfig haccepts
  have hdescribes := Pattern.describes_of_build hp
  refine ⟨_, hp, fun o ho => hdescribes.sound ho, Segment.pairwise_occurrences _ _, ?_, ?_⟩
  · intro offset key filters htoken
    -- a token of the grammar is a cut, and every cut is covered
    obtain ⟨before, after, htemplate, rfl, hbegins⟩ := hdescribes.tokenAt_iff.1 htoken
    have hcovered := Pattern.exists_occurrence_of_begins before hbegins 0
    rwa [← htemplate, Nat.zero_add] at hcovered
  · intro o ho key filters htoken
    obtain ⟨before, after, rest, htemplate, hstart, hread, -⟩ :=
      Pattern.exists_read?_of_mem_occurrences ho
    obtain ⟨before', after', htemplate', hstart', hbegins⟩ := hdescribes.tokenAt_iff.1 htoken
    -- both tokens begin behind the same bytes, hence before the same text
    obtain ⟨-, rfl⟩ := append_inj_of_byteLength (htemplate.symm.trans htemplate')
      (by rw [hstart', hstart, Nat.zero_add])
    exact (Pattern.best_of_read hread).le _ hbegins

/-- The separator and the closing bracket are a key character. So the text can be cut in two ways,
and the longer key wins, although its filters are shorter. -/
theorem scan_leftmost_greedy_of_two_cuts :
    ∃ p, Pattern.build .standard ⟨"<", "a", "a", true⟩ ['!'] = .ok p ∧
      p.occurrences "é<baa!a" = [⟨⟨"<baa!a", "ba", some "!"⟩, 2, 8⟩] ∧
      (Pattern.cutOf "b" (some "a!")).Le (Pattern.cutOf "ba" (some "!")) := by
  have hvalid : Config.Valid ⟨"<", "a", "a", true⟩ := ⟨by decide, by decide, by decide⟩
  have htoken : TokenAt ⟨"<", "a", "a", true⟩ ['!'] "é<baa!a" 2 "b" (some "a!") := by
    refine ⟨by decide, fun f hf => ?_, "é", "", by decide, by decide⟩
    obtain rfl := Option.some.inj hf
    decide
  have haccepts : ExpressionCompiler.standard.Accepts ⟨"<", "a", "a", true⟩ ['!'] := by
    decide +kernel
  obtain ⟨p, hp, -, -, -, hgreedy⟩ := scan_leftmost_greedy hvalid haccepts "é<baa!a"
  have hfound : p.occurrences "é<baa!a" = [⟨⟨"<baa!a", "ba", some "!"⟩, 2, 8⟩] := by
    obtain ⟨-, -, rfl⟩ := Pattern.build_eq_ok_iff.1 hp
    decide +kernel
  have hmem : ⟨⟨"<baa!a", "ba", some "!"⟩, 2, 8⟩ ∈ p.occurrences "é<baa!a" := by
    rw [hfound]
    exact List.mem_singleton_self _
  exact ⟨p, hp, hfound, hgreedy _ hmem "b" (some "a!") htoken⟩

/-- **The text of a token determines the token, whatever stands around it.** Occurrences with one
text, in whatever templates, have one key and the same filters. The text alone, read as a template,
holds the token and nothing else. -/
theorem token_determined_by_text {compiler : ExpressionCompiler} {config : Config}
    (hconfig : config.Valid) {letters : List Char} (haccepts : compiler.Accepts config letters) :
    ∃ p, Pattern.build compiler config letters = .ok p ∧
      (∀ template template' o o', o ∈ p.occurrences template → o' ∈ p.occurrences template' →
        o.token.text = o'.token.text →
          o.token.key = o'.token.key ∧ o.token.filters = o'.token.filters) ∧
      (∀ template, ∀ o ∈ p.occurrences template,
        p.occurrences o.token.text = [⟨o.token, 0, o.token.text.utf8ByteSize⟩]) := by
  refine ⟨_, Pattern.build_of_accepts hconfig haccepts, ?_, ?_⟩
  · intro template template' o o' ho ho' htext
    have hreads := Pattern.reads_of_mem_occurrences ho
    rw [hreads.eq_of_text_eq (Pattern.reads_of_mem_occurrences ho') htext]
    exact ⟨rfl, rfl⟩
  · intro template o ho
    rw [Pattern.occurrences, (Pattern.reads_of_mem_occurrences ho).segments_text,
      ← byteLength_toList]
    simp [Segment.occurrences]

/-- The key runs on into the closing bracket. The token is the same between other characters and
alone. -/
theorem token_determined_by_text_of_shared_letter :
    ∃ p, Pattern.build .standard ⟨"<", "a", "a", true⟩ [] = .ok p ∧
      p.occurrences "é<baaXab" = [⟨⟨"<baaXa", "baaX", none⟩, 2, 8⟩] ∧
      p.occurrences "<baaXa" = [⟨⟨"<baaXa", "baaX", none⟩, 0, 6⟩] := by
  have hvalid : Config.Valid ⟨"<", "a", "a", true⟩ := ⟨by decide, by decide, by decide⟩
  have haccepts : ExpressionCompiler.standard.Accepts ⟨"<", "a", "a", true⟩ [] := by
    decide +kernel
  obtain ⟨p, hp, -, halone⟩ := token_determined_by_text hvalid haccepts
  have hfound : p.occurrences "é<baaXab" = [⟨⟨"<baaXa", "baaX", none⟩, 2, 8⟩] := by
    obtain ⟨-, -, rfl⟩ := Pattern.build_eq_ok_iff.1 hp
    decide +kernel
  have hmem : ⟨⟨"<baaXa", "baaX", none⟩, 2, 8⟩ ∈ p.occurrences "é<baaXab" := by
    rw [hfound]
    exact List.mem_singleton_self _
  exact ⟨p, hp, hfound, halone "é<baaXab" _ hmem⟩

end Stencil
