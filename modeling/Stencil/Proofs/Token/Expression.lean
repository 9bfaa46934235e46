import Stencil.Proofs.Token.Grammar
import Stencil.Token.Expression

/-!
# Reading a pattern back from its expression

The regular expression of a pattern consists of four escaped texts, which are the delimiters and the
accepted letters, with fixed syntax between them. This file says that nothing is lost on the way:
`Pattern.ofExpression?` reads the four texts back, whatever they are made of, so the expression
determines the pattern (`Pattern.ofExpression?_expression`).

The reason is that an escaped text ends where it seems to end. A sign in it has a backslash in
front, and every piece of fixed syntax begins with a sign that has none. So `readEscaped`, which
stops at the first such sign, stops at the end of the text and not before (`readEscaped_escape`).

Patterns of two configurations are the same exactly if the delimiters are, and if the same letters
are accepted (`Pattern.ofConfig_eq_iff`). It does not matter in which order the letters were given, nor
how often: they are sorted and merged, and a dictionary is determined by its lookups.
-/

namespace Stencil

/-! ### Escaped texts -/

/-- Reads an escaped text, up to the first sign that has no backslash in front of it. -/
def readEscaped : List Char → List Char × List Char
  | [] => ([], [])
  | '\\' :: c :: rest => (readEscaped rest).map (c :: ·) id
  | c :: rest =>
    if expressionSigns.contains c then ([], c :: rest) else (readEscaped rest).map (c :: ·) id

theorem readEscaped_backslash (c : Char) (rest : List Char) :
    readEscaped ('\\' :: c :: rest) = (readEscaped rest).map (c :: ·) id := rfl

/-- A sign without a backslash ends the text. -/
theorem readEscaped_sign {c : Char} (hsign : c ∈ expressionSigns) (hc : c ≠ '\\')
    (rest : List Char) : readEscaped (c :: rest) = ([], c :: rest) := by
  rw [readEscaped, if_pos (List.contains_iff_mem.2 hsign)]
  rintro d rest' rfl
  exact absurd rfl hc

/-- Every other character stands for itself. -/
theorem readEscaped_plain {c : Char} (hplain : c ∉ expressionSigns) (rest : List Char) :
    readEscaped (c :: rest) = (readEscaped rest).map (c :: ·) id := by
  rw [readEscaped, if_neg (mt List.contains_iff_mem.1 hplain)]
  rintro d rest' rfl
  exact absurd (by decide) hplain

/-- **An escaped text is read back** if nothing stands behind it, or a sign without a backslash. -/
theorem readEscaped_escape (cs : List Char) {rest : List Char}
    (hrest : ∀ c ∈ rest.head?, c ∈ expressionSigns ∧ c ≠ '\\') :
    readEscaped (escape cs ++ rest) = (cs, rest) := by
  induction cs with
  | nil =>
    cases rest with
    | nil => rfl
    | cons c rest =>
      obtain ⟨hsign, hc⟩ := hrest c rfl
      exact readEscaped_sign hsign hc rest
  | cons c cs ih =>
    rw [escape, List.flatMap_cons, List.append_assoc, ← escape, escapeChar]
    -- a sign was given a backslash, which is taken off; any other character was written as it is
    by_cases hsign : c ∈ expressionSigns
    · rw [if_pos (List.contains_iff_mem.2 hsign)]
      change readEscaped ('\\' :: c :: (escape cs ++ rest)) = _
      rw [readEscaped_backslash, ih]
      rfl
    · rw [if_neg (mt List.contains_iff_mem.1 hsign)]
      change readEscaped (c :: (escape cs ++ rest)) = _
      rw [readEscaped_plain hsign, ih]
      rfl

/-- Fixed syntax that begins with a sign ends the escaped text in front of it, and can be taken off
then. -/
theorem dropFront?_readEscaped (cs front : List Char)
    (hfront : ∃ c, front.head? = some c ∧ c ∈ expressionSigns ∧ c ≠ '\\') (rest : List Char) :
    (readEscaped (escape cs ++ (front ++ rest))).1 = cs ∧
      dropFront? front (readEscaped (escape cs ++ (front ++ rest))).2 = some rest := by
  obtain ⟨sign, hsign, hends⟩ := hfront
  have hread : readEscaped (escape cs ++ (front ++ rest)) = (cs, front ++ rest) := by
    refine readEscaped_escape cs fun c hc => ?_
    rw [List.head?_append, hsign] at hc
    obtain rfl := Option.some.inj hc
    exact hends
  rw [hread]
  exact ⟨rfl, dropFront?_eq_some_iff.2 rfl⟩

/-! ### Sorted letters -/

namespace Pattern

/-- Sorted letters are a matter of membership alone. -/
theorem sortedLetters_eq_iff {letters letters' : List Char} :
    sortedLetters letters = sortedLetters letters' ↔ ∀ c, c ∈ letters ↔ c ∈ letters' := by
  constructor
  · intro h c
    rw [← mem_sortedLetters_iff, h, mem_sortedLetters_iff]
  · intro h
    unfold sortedLetters
    refine congrArg Dictionary.keys (Dictionary.ext_find? fun c => ?_)
    -- all values are the same, so a lookup only says whether the letter is there
    have hfound : ∀ letters : List Char,
        (Dictionary.ofList (letters.map fun c => (c, ()))).find? c
          = if c ∈ letters then some () else none := by
      intro letters
      have hkeys : c ∈ sortedLetters letters ↔ c ∈ letters := mem_sortedLetters_iff
      rw [sortedLetters, Dictionary.mem_keys_iff] at hkeys
      split
      case isTrue hmem =>
        obtain ⟨⟨⟩, hfind⟩ := Option.isSome_iff_exists.1 (hkeys.2 hmem)
        exact hfind
      case isFalse hmem => exact Option.not_isSome_iff_eq_none.1 (mt hkeys.1 hmem)
    rw [hfound, hfound]
    simp only [h]

/-- **When two patterns are the same.** They have the same delimiters, and accept the same letters
in filters. -/
theorem ofConfig_eq_iff {config config' : Config} {letters letters' : List Char} :
    ofConfig config letters = ofConfig config' letters' ↔
      config.opening = config'.opening ∧ config.separator = config'.separator ∧
        config.closing = config'.closing ∧
        ∀ c, FilterLetter letters c ↔ FilterLetter letters' c := by
  have hletters : ∀ {letters : List Char} {c : Char},
      c ∈ letters ++ asciiLetters ↔ FilterLetter letters c := by
    intro letters c
    rw [List.mem_append, mem_asciiLetters_iff, FilterLetter, or_comm]
  -- field by field; the separator and the closing bracket stand the other way round in a pattern
  rw [ofConfig, ofConfig, Pattern.mk.injEq, String.toList_inj, String.toList_inj,
    String.toList_inj, sortedLetters_eq_iff]
  simp only [hletters]
  exact and_congr_right fun _ => and_left_comm

/-! ### Expressions -/

/-- Reads a pattern back from its expression: four escaped texts, with fixed syntax in between. -/
def ofExpression? (text : String) : Option Pattern := do
  let (opening, rest) := readEscaped text.toList
  let (separator, rest) := readEscaped (← dropFront? (keyGroup ++ "(?:".toList) rest)
  let (letters, rest) := readEscaped (← dropFront? "(?P<filters>[".toList rest)
  let (closing, rest) := readEscaped (← dropFront? "]+))?".toList rest)
  if rest.isEmpty then some ⟨opening, closing, separator, letters⟩ else none

/-- **A pattern is read back from its expression.** -/
theorem ofExpression?_expression (p : Pattern) : ofExpression? p.expression = some p := by
  have hchars : p.expression.toList = escape p.opening ++ (keyGroup ++ "(?:".toList ++
      (escape p.separator ++ ("(?P<filters>[".toList ++ (escape p.letters ++ ("]+))?".toList ++
        escape p.closing))))) := by
    rw [expression, String.toList_ofList, expressionChars]
    simp only [List.append_assoc]
  -- each piece of fixed syntax begins with a sign that no escaped text leaves bare
  have hopening := dropFront?_readEscaped p.opening (keyGroup ++ "(?:".toList)
    ⟨'(', rfl, by decide, by decide⟩
  have hseparator := dropFront?_readEscaped p.separator "(?P<filters>[".toList
    ⟨'(', rfl, by decide, by decide⟩
  have hletters := dropFront?_readEscaped p.letters "]+))?".toList
    ⟨']', rfl, by decide, by decide⟩
  have hclosing : readEscaped (escape p.closing) = (p.closing, []) := by
    -- nothing stands behind the closing bracket
    rw [← List.append_nil (escape p.closing)]
    exact readEscaped_escape p.closing fun c hc => by cases hc
  simp only [ofExpression?, hchars, (hopening _).1, (hopening _).2, (hseparator _).1,
    (hseparator _).2, (hletters _).1, (hletters _).2, hclosing, Option.bind_eq_bind,
    Option.bind_some, List.isEmpty_nil, if_true]

theorem expression_inj {p p' : Pattern} : p.expression = p'.expression ↔ p = p' := by
  constructor
  · intro h
    exact Option.some.inj
      ((ofExpression?_expression p).symm.trans (h ▸ ofExpression?_expression p'))
  · rintro rfl
    rfl

end Pattern

/-- **The expression is an unambiguous code.** For good delimiters and any letters that are accepted
by a compiler, two patterns have one expression exactly if the opening brackets are the same, the
separators are, the closing brackets are, and the same letters are accepted, the ASCII letters
included. All of these can be read back from the expression, whatever characters they are made
of. -/
theorem expression_determines_pattern {compiler : ExpressionCompiler} {config config' : Config}
    (hconfig : config.Valid) (hconfig' : config'.Valid) {letters letters' : List Char}
    (haccepts : compiler.Accepts config letters) (haccepts' : compiler.Accepts config' letters') :
    ∃ p p', Pattern.build compiler config letters = .ok p ∧
      Pattern.build compiler config' letters' = .ok p' ∧
      (p.expression = p'.expression ↔
        config.opening = config'.opening ∧ config.separator = config'.separator ∧
          config.closing = config'.closing ∧
          ∀ c, FilterLetter letters c ↔ FilterLetter letters' c) ∧
      Pattern.ofExpression? p.expression = some p ∧ p.Describes config letters := by
  refine ⟨_, _, Pattern.build_of_accepts hconfig haccepts,
    Pattern.build_of_accepts hconfig' haccepts', ?_, Pattern.ofExpression?_expression _,
    Pattern.describes_ofConfig config letters⟩
  rw [Pattern.expression_inj]
  exact Pattern.ofConfig_eq_iff

/-- Delimiters and letters that are themselves syntax of expressions: the fixed piece in front of
the separator, the one in front of the closing bracket, a backslash, and signs of character classes.
The order of the letters does not matter. A second backslash in the separator does. -/
theorem expression_determines_pattern_of_syntax :
    ∃ p p' other,
      Pattern.build .standard ⟨"(?P<key>[A-Za-z0-9_]+)(?:", "]+))?", "\\", true⟩ ['^', ']', '^']
        = .ok p ∧
      Pattern.build .standard ⟨"(?P<key>[A-Za-z0-9_]+)(?:", "]+))?", "\\", false⟩ [']', '^']
        = .ok p' ∧
      Pattern.build .standard ⟨"(?P<key>[A-Za-z0-9_]+)(?:", "]+))?", "\\\\", true⟩ [']', '^']
        = .ok other ∧
      p.expression = p'.expression ∧ p.expression ≠ other.expression ∧
      Pattern.ofExpression? p.expression = some p ∧ p.separator = ['\\'] := by
  have hvalid : ∀ memoize,
      Config.Valid ⟨"(?P<key>[A-Za-z0-9_]+)(?:", "]+))?", "\\", memoize⟩ := by
    rintro (_ | _) <;> exact ⟨by decide, by decide, by decide⟩
  have hother : Config.Valid ⟨"(?P<key>[A-Za-z0-9_]+)(?:", "]+))?", "\\\\", true⟩ :=
    ⟨by decide, by decide, by decide⟩
  have hletters : ∀ c, FilterLetter ['^', ']', '^'] c ↔ FilterLetter [']', '^'] c := by
    intro c
    simp only [FilterLetter, List.mem_cons, List.not_mem_nil, or_false]
    grind
  -- none of the three expressions is anywhere near the limit
  have haccepts : ExpressionCompiler.standard.Accepts
      ⟨"(?P<key>[A-Za-z0-9_]+)(?:", "]+))?", "\\", true⟩ ['^', ']', '^'] := by decide +kernel
  have haccepts' : ExpressionCompiler.standard.Accepts
      ⟨"(?P<key>[A-Za-z0-9_]+)(?:", "]+))?", "\\", false⟩ [']', '^'] := by decide +kernel
  have haccepts'' : ExpressionCompiler.standard.Accepts
      ⟨"(?P<key>[A-Za-z0-9_]+)(?:", "]+))?", "\\\\", true⟩ [']', '^'] := by decide +kernel
  obtain ⟨p, p', hp, hp', hsame, hread, hdescribes⟩ :=
    expression_determines_pattern (hvalid true) (hvalid false) haccepts haccepts'
  obtain ⟨_, other, hp₁, hp'', hdiffers, -, -⟩ :=
    expression_determines_pattern (hvalid true) hother haccepts haccepts''
  obtain rfl := Except.ok.inj (hp.symm.trans hp₁)
  refine ⟨p, p', other, hp, hp', hp'', hsame.2 ⟨rfl, rfl, rfl, hletters⟩, ?_, hread,
    hdescribes.separator⟩
  exact fun h => absurd (hdiffers.1 h).2.1 (by decide)

end Stencil
