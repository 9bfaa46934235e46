import Stencil.Proofs.Token.Expression
import Stencil.Proofs.Token.Scanning

/-!
# Patterns that agree on a text

Letters that do not stand in a template cannot matter to its tokens, since letters are only looked
up as they are met. Patterns `AgreeOn` some characters if they have the same delimiters and accept
the same letters among these characters. If they agree on a text, then they agree on everything that
stands at its end, and this is all that the reader is ever left with. So they read the same token
off its front (`Pattern.AgreeOn.read?_eq`), and they cut it into the same segments
(`Pattern.AgreeOn.segments_eq`).

ASCII letters are accepted anyhow. Hence binding or unbinding them makes no other pattern at all
(`Pattern.build_congr`).
-/

namespace Stencil

/-- A run is the same if its characters are judged alike, and so is everything behind it. -/
theorem longestRun_congr {α : Type} {q q' : Char → Bool} {next next' : List Char → Option α}
    {cs : List Char} (hq : ∀ c ∈ cs, q c = q' c)
    (hnext : ∀ behind, behind <:+ cs → next behind = next' behind) :
    longestRun q next cs = longestRun q' next' cs := by
  induction cs with
  | nil => rfl
  | cons c cs ih =>
    obtain ⟨hc, hcs⟩ := List.forall_mem_cons.1 hq
    have hbehind : ∀ behind, behind <:+ cs → next behind = next' behind := fun behind hsuffix =>
      hnext behind (hsuffix.trans (List.suffix_cons c cs))
    rw [longestRun, longestRun, hc, ih hcs hbehind, hbehind cs List.suffix_rfl]

namespace Pattern

/-- **Patterns agree on some characters.** They write tokens alike, and accept the same letters
among these characters. -/
structure AgreeOn (p p' : Pattern) (cs : List Char) : Prop where
  /-- They open tokens alike. -/
  opening : p.opening = p'.opening
  /-- They close tokens alike. -/
  closing : p.closing = p'.closing
  /-- They separate keys and filters alike. -/
  separator : p.separator = p'.separator
  /-- They accept the same letters. -/
  isLetter : ∀ c ∈ cs, p.isLetter c = p'.isLetter c

namespace AgreeOn

variable {p p' : Pattern} {cs : List Char}

theorem of_suffix (h : p.AgreeOn p' cs) {behind : List Char} (hsuffix : behind <:+ cs) :
    p.AgreeOn p' behind :=
  ⟨h.opening, h.closing, h.separator, fun c hc => h.isLetter c (hsuffix.mem hc)⟩

/-- A token is written with the delimiters alone. -/
theorem token_eq (h : p.AgreeOn p' cs) (key : List Char) (filters : Option (List Char)) :
    p.token key filters = p'.token key filters := by
  simp only [token, written, h.opening, h.closing, h.separator]

theorem readFilters?_eq (h : p.AgreeOn p' cs) : p.readFilters? cs = p'.readFilters? cs := by
  rw [readFilters?, readFilters?, h.closing]
  exact longestRun_congr h.isLetter fun _ _ => rfl

/-- What is left behind some text at the front is at the end. -/
theorem bind_dropFront?_congr {α : Type} {front cs : List Char} {f g : List Char → Option α}
    (h : ∀ behind, behind <:+ cs → f behind = g behind) :
    (dropFront? front cs).bind f = (dropFront? front cs).bind g := by
  refine Option.bind_congr fun behind hbehind => h behind ?_
  rw [dropFront?_eq_some_iff] at hbehind
  exact ⟨front, hbehind.symm⟩

theorem readEnd?_eq (h : p.AgreeOn p' cs) : p.readEnd? cs = p'.readEnd? cs := by
  have hfilters : (dropFront? p.separator cs).bind p.readFilters?
      = (dropFront? p'.separator cs).bind p'.readFilters? := by
    rw [← h.separator]
    exact bind_dropFront?_congr fun behind hsuffix => (h.of_suffix hsuffix).readFilters?_eq
  rw [readEnd?, readEnd?, hfilters, h.closing]

/-- **One token.** Patterns that agree on a text read the same token off its front. -/
theorem read?_eq (h : p.AgreeOn p' cs) : p.read? cs = p'.read? cs := by
  have hcut : (dropFront? p.opening cs).bind (longestRun isKeyChar p.readEnd?)
      = (dropFront? p'.opening cs).bind (longestRun isKeyChar p'.readEnd?) := by
    rw [← h.opening]
    -- the run of the key asks for no filter letters, so only its ends have to agree
    refine bind_dropFront?_congr fun behind hsuffix => longestRun_congr (fun _ _ => rfl) ?_
    exact fun behind' hsuffix' => (h.of_suffix (hsuffix'.trans hsuffix)).readEnd?_eq
  rw [read?, read?, hcut]
  split
  · rw [h.token_eq]
  · rfl

/-- **All tokens.** Patterns that agree on a text cut it into the same segments. -/
theorem segments_eq (h : p.AgreeOn p' cs) : p.segments cs = p'.segments cs := by
  -- what is left behind a token, or behind a copied character, is at the end of the text
  induction cs using Pattern.segments.induct p with
  | case1 => rw [segments_nil, segments_nil]
  | case2 c cs t rest hread ih =>
    have hread' : p'.read? (c :: cs) = some (t, rest) := h.read?_eq ▸ hread
    have hsuffix : rest <:+ c :: cs := ⟨t.text.toList, (p.read?_sound hread).1.symm⟩
    rw [p.segments_of_some hread, p'.segments_of_some hread', ih (h.of_suffix hsuffix)]
  | case3 c cs hread ih =>
    have hread' : p'.read? (c :: cs) = none := h.read?_eq ▸ hread
    rw [p.segments_of_none hread, p'.segments_of_none hread',
      ih (h.of_suffix (List.suffix_cons c cs))]

theorem occurrences_eq {template : String} (h : p.AgreeOn p' template.toList) :
    p.occurrences template = p'.occurrences template := by
  rw [occurrences, occurrences, h.segments_eq]

end AgreeOn

/-! ### Patterns of configurations -/

/-- Patterns agree on a text if their configurations have the same delimiters, and if the filter
letters in the text are the same. -/
theorem agreeOn_ofConfig {config config' : Config} {letters letters' : List Char}
    (hsame : config.SameDelimiters config') {cs : List Char}
    (hletters : ∀ c ∈ cs, FilterLetter letters c ↔ FilterLetter letters' c) :
    (ofConfig config letters).AgreeOn (ofConfig config' letters') cs := by
  have hdescribes := describes_ofConfig config letters
  have hdescribes' := describes_ofConfig config' letters'
  refine ⟨?_, ?_, ?_, fun c hc => ?_⟩
  · rw [hdescribes.opening, hdescribes'.opening, hsame.opening]
  · rw [hdescribes.closing, hdescribes'.closing, hsame.closing]
  · rw [hdescribes.separator, hdescribes'.separator, hsame.separator]
  · rw [Bool.eq_iff_iff, hdescribes.isLetter_iff, hdescribes'.isLetter_iff, hletters c hc]

/-- A pattern is made from the filter letters, whichever of them are bound. Since the expression is
made from the pattern, the compiler is asked about the same one. -/
theorem build_congr (compiler : ExpressionCompiler) (config : Config) {letters letters' : List Char}
    (h : ∀ c, FilterLetter letters c ↔ FilterLetter letters' c) :
    build compiler config letters = build compiler config letters' := by
  have hsame : ofConfig config letters = ofConfig config letters' :=
    ofConfig_eq_iff.2 ⟨rfl, rfl, rfl, h⟩
  rw [build, build, ExpressionCompiler.complaintOf?, ExpressionCompiler.complaintOf?, hsame]

end Pattern

end Stencil
