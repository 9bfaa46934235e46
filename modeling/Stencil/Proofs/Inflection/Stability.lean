import Stencil.Proofs.Inflection.Noun

/-!
# Inflecting twice

Whether inflecting a text twice is the same as inflecting it once depends on how the text ends, and
the tables of rules can be searched for this.

* `restFrom` goes through the clauses and asks for each one whether all clauses leave alone what it
  gives. It uses that the clauses in front of it did not fit, and that the text is of none of some
  `restless` shapes (`inflectFirst_inflectFirst`).
* Each restless shape is certain to be changed by the rules, and then again (`Shape.movesTwice`,
  `Shape.inflect_inflect_ne`), so that no shape stands in the list for nothing.

A table for which both are found `RestsBut` the shapes. The nouns that are looked up do not disturb
this (`inflect_inflect_iff`), with one exception: the singular may be an irregular plural, if the
text is this plural with an `s` behind it (`singularize_append_s`).
-/

namespace Stencil.Inflection

/-! ### Rules that rest -/

/-- The endings that a text does not have, if it is of none of some shapes and does not end in any
of `never`. -/
def ruledOut (restless : List Shape) (never : List String) : List String :=
  (restless.filter fun shape => shape.never.all never.contains).map (·.ending) ++ never

/-- Whether all `clauses` leave alone what the clauses of a list give, for the texts that are of
none of some shapes. A clause is used where the ones in front of it do not fit, so that their
endings go to `never`. -/
def restFrom (clauses : List Clause) (restless : List Shape) (never : List String) :
    List Clause → Bool
  | [] => true
  | clause :: rest =>
    let out := ruledOut restless never
    (out.any (fun ending => ending.toList.isSuffixOf clause.text.toList) ||
      ((Shape.mk clause.text out).after clause).rests clauses clause.replacement) &&
    restFrom clauses restless (if clause.isExact then clause.text :: never else never) rest

section Rest

variable {clauses : List Clause} {restless : List Shape} {never : List String} {cs out : List Char}

theorem not_endsIn_of_mem_ruledOut (hrestless : ∀ shape ∈ restless, ¬ shape.Fits cs)
    (hnever : ∀ ending ∈ never, ¬ EndsIn ending cs) :
    ∀ ending ∈ ruledOut restless never, ¬ EndsIn ending cs := by
  intro ending hmem hcs
  rcases List.mem_append.1 hmem with hmem | hmem
  · obtain ⟨shape, hshape, rfl⟩ := List.mem_map.1 hmem
    obtain ⟨hshape, hknown⟩ := List.mem_filter.1 hshape
    -- the text ends in nothing that this shape leaves out, so it is its ending that is missing
    have hknown : ∀ e ∈ shape.never, e ∈ never := by simpa using hknown
    exact hrestless shape hshape ⟨hcs, fun e he => hnever e (hknown e he)⟩
  · exact hnever ending hmem hcs

/-- The clause that is used gives a text of a shape that rests. -/
theorem exists_shape_of_restFrom {rest : List Clause}
    (h : restFrom clauses restless never rest = true)
    (hrestless : ∀ shape ∈ restless, ¬ shape.Fits cs)
    (hnever : ∀ ending ∈ never, ¬ EndsIn ending cs)
    (hout : rest.findSome? (·.inflect? cs) = some out) :
    ∃ clause ∈ rest, clause.inflect? cs = some out ∧ ∃ shape : Shape,
      shape.ending = clause.text ∧ shape.Fits cs ∧
        (shape.after clause).rests clauses clause.replacement = true := by
  -- induction on the clauses that are left; the text ends in none of `never` throughout
  induction rest generalizing never with
  | nil => cases hout
  | cons clause rest ih =>
    -- what is ruled out at this clause holds because no clause before it fitted
    rw [restFrom, Bool.and_eq_true, Bool.or_eq_true, List.any_eq_true] at h
    obtain ⟨hclause, hrest⟩ := h
    have hruledOut := not_endsIn_of_mem_ruledOut hrestless hnever
    rw [List.findSome?_cons] at hout
    cases hfits : clause.inflect? cs with
    | some out' =>
      rw [hfits] at hout
      obtain rfl : out' = out := Option.some.inj hout
      have htext := Clause.endsIn_text hfits
      rcases hclause with ⟨ending, hmem, hsuffix⟩ | hrests
      · exact absurd (htext.of_suffix (List.isSuffixOf_iff_suffix.1 hsuffix))
          (hruledOut ending hmem)
      · exact ⟨clause, List.mem_cons_self, hfits, ⟨clause.text, ruledOut restless never⟩, rfl,
          ⟨htext, hruledOut⟩, hrests⟩
    | none =>
      -- an exact clause that does not fit rules out its own text from now on
      rw [hfits] at hout
      have hmore : ∀ ending ∈ if clause.isExact then clause.text :: never else never,
          ¬ EndsIn ending cs := by
        split_ifs with hexact
        · refine List.forall_mem_cons.2 ⟨fun htext => ?_, hnever⟩
          obtain ⟨out', hout'⟩ := Clause.exists_inflect? hexact htext
          rw [hfits] at hout'
          cases hout'
        · exact hnever
      obtain ⟨used, hmem, hused⟩ := ih hrest hmore hout
      exact ⟨used, List.mem_cons_of_mem _ hmem, hused⟩

/-- **Rules that rest.** If the table says so, then using the clauses twice is using them once. -/
theorem inflectFirst_inflectFirst (h : restFrom clauses restless [] clauses = true)
    (hlower : ∀ clause ∈ clauses, clause.isLower = true)
    (hrestless : ∀ shape ∈ restless, ¬ shape.Fits cs) :
    Clause.inflectFirst clauses (Clause.inflectFirst clauses cs)
      = Clause.inflectFirst clauses cs := by
  cases hfirst : clauses.findSome? (·.inflect? cs) with
  | none =>
    have hsame : Clause.inflectFirst clauses cs = cs := by rw [Clause.inflectFirst, hfirst]; rfl
    rw [hsame, hsame]
  | some out =>
    have hout : Clause.inflectFirst clauses cs = out := by rw [Clause.inflectFirst, hfirst]; rfl
    obtain ⟨clause, hmem, hfits, shape, hshape, hcs, hrests⟩ :=
      exists_shape_of_restFrom h hrestless (by simp) hfirst
    -- the known ending is the whole text of the clause, so its own ending is a part of it
    have hsuffix : clause.ending.toList <:+ shape.ending.toList := by
      rw [hshape]
      exact clause.ending_suffix_text
    obtain ⟨stem, tail, -, -, -, hstem⟩ := Clause.inflect?_eq_some_iff.1 hfits
    rw [hout]
    have hafter := Shape.fits_after hcs hfits (hlower clause hmem) hsuffix
    exact Shape.inflectFirst_of_rests hafter hrests (hstem ▸ List.suffix_append _ _)

end Rest

/-! ### Shapes that move -/

namespace Shape

/-- The shape that texts of this shape take on if they are certain to be changed. -/
def moved? (shape : Shape) (clauses : List Clause) : Option Shape :=
  match shape.first? clauses with
  | none => none
  | some clause =>
    if shape.forces clause && clause.isLower && clause.replacement != clause.ending then
      some (shape.after clause)
    else none

variable {shape shape' : Shape} {clauses : List Clause} {cs : List Char}

theorem fits_of_moved? (h : shape.moved? clauses = some shape') (hcs : shape.Fits cs) :
    shape'.Fits (Clause.inflectFirst clauses cs) ∧ Clause.inflectFirst clauses cs ≠ cs := by
  unfold moved? at h
  split at h
  · cases h
  · rename_i clause hfirst
    split_ifs at h with hmoves
    obtain rfl := Option.some.inj h
    simp only [Bool.and_eq_true, bne_iff_ne] at hmoves
    obtain ⟨⟨hforces, hlower⟩, hchanges⟩ := hmoves
    -- the first clause that may fit is certain to, and it puts another ending there
    have hout := inflectFirst_of_first? hcs hfirst hforces
    rw [forces, Bool.and_eq_true, List.isSuffixOf_iff_suffix] at hforces
    exact ⟨fits_after hcs hout hlower (clause.ending_suffix_text.trans hforces.2),
      Clause.ne_of_inflect? hout hlower hchanges⟩

/-- Whether texts of this shape are left to the rules, whatever else they look like. -/
def isForeign (shape : Shape) (pairs : List (String × String)) : Bool :=
  shape.ending != "" && (nouns pairs).all fun word => !nested word shape.ending

/-- Whether texts of this shape are changed by the rules, and then changed again. -/
def movesTwice (shape : Shape) (pairs : List (String × String)) (clauses : List Clause) : Bool :=
  shape.isForeign pairs && (shape.moved? clauses).any fun next =>
    next.isForeign pairs && (next.moved? clauses).isSome

variable {pairs : List (String × String)} {rules : List Rule}

theorem inflect_of_isForeign (hpairs : Pairing pairs) (h : shape.isForeign pairs = true)
    (hcs : shape.Fits cs) : inflect pairs rules cs = Rule.inflectFirst rules cs := by
  simp only [isForeign, Bool.and_eq_true, bne_iff_ne, List.all_eq_true, Bool.not_eq_true'] at h
  obtain ⟨hending, hforeign⟩ := h
  refine inflect_of_not_endsIn hpairs ?_ fun w hw => hcs.1.not_of_not_nested (hforeign w hw)
  rintro rfl
  exact hending (String.toList_inj.1 (List.suffix_nil.1 hcs.1))

/-- Texts of such a shape are not left as they are when they are inflected again. -/
theorem inflect_inflect_ne (hpairs : Pairing pairs)
    (h : shape.movesTwice pairs (rules.flatMap Rule.clauses) = true) (hcs : shape.Fits cs) :
    inflect pairs rules (inflect pairs rules cs) ≠ inflect pairs rules cs := by
  simp only [movesTwice, Bool.and_eq_true, Option.any_eq_true] at h
  obtain ⟨hforeign, next, hmoved, hforeign', hagain⟩ := h
  -- the rules give a text of the shape `next`, and this one they change again
  obtain ⟨last, hagain⟩ := Option.isSome_iff_exists.1 hagain
  obtain ⟨hnext, -⟩ := fits_of_moved? hmoved hcs
  rw [← Rule.inflectFirst_eq] at hnext
  rw [inflect_of_isForeign hpairs hforeign hcs, inflect_of_isForeign hpairs hforeign' hnext,
    Rule.inflectFirst_eq rules (Rule.inflectFirst rules cs)]
  exact (fits_of_moved? hagain hnext).2

end Shape

/-! ### Words and rules -/

section Words

variable {pairs : List (String × String)} {rules : List Rule} {word : String}
  {cs stem shown : List Char}

/-- A text that ends in a word of some pairs is changed. -/
theorem inflect_ne_of_lastWord? (hpairs : Pairing pairs)
    (h : lastWord? (pairs.map (·.1)) cs = some (word, stem, shown)) :
    inflect pairs rules cs ≠ cs := fun hsame =>
  not_fixed_of_lastWord? hpairs h (hsame ▸ fixed_inflect_of_lastWord? hpairs rules h)

/-- A table of rules, with the shapes of the texts for which it matters whether it is used once or
twice. -/
structure RestsBut (pairs : List (String × String)) (rules : List Rule) (restless : List Shape) :
    Prop where
  /-- The rules write in lower case. -/
  lower : ∀ clause ∈ rules.flatMap Rule.clauses, clause.isLower = true
  /-- All other texts are left alone the second time. -/
  rests : restFrom (rules.flatMap Rule.clauses) restless [] (rules.flatMap Rule.clauses) = true
  /-- These texts are changed twice. -/
  moves : ∀ shape ∈ restless, shape.movesTwice pairs (rules.flatMap Rule.clauses) = true

variable {restless : List Shape}

/-- Inflecting twice is inflecting once for all texts but the restless ones, as long as the rules
give no word that is looked up. -/
theorem inflect_inflect_iff (hpairs : Pairing pairs) (hrules : RestsBut pairs rules restless)
    (hwords : Rule.inflectFirst rules cs = cs ∨
      lastWord? (pairs.map (·.1)) (Rule.inflectFirst rules cs) = none) :
    inflect pairs rules (inflect pairs rules cs) = inflect pairs rules cs ↔
      ∀ shape ∈ restless, ¬ shape.Fits cs := by
  -- a text of a restless shape is changed the second time
  refine ⟨fun hsame shape hshape hcs =>
    Shape.inflect_inflect_ne hpairs (hrules.moves shape hshape) hcs hsame, fun hrestless => ?_⟩
  -- from here on the text is of no restless shape: it is fixed, ends in a noun, or is left to rules
  by_cases hfixed : Fixed pairs cs
  · rw [inflect_of_fixed hfixed, inflect_of_fixed hfixed]
  rcases hlast : lastWord? (pairs.map (·.1)) cs with _ | ⟨word, stem, shown⟩
  · have hinflect : inflect pairs rules cs = Rule.inflectFirst rules cs :=
      inflect_of_lastWord?_eq_none hfixed hlast
    rw [hinflect]
    -- what the rules give may be fixed, but it is not exchanged
    rcases hwords with hsame | hwords
    · rw [hsame, hinflect, hsame]
    · by_cases hfixed' : Fixed pairs (Rule.inflectFirst rules cs)
      · exact inflect_of_fixed hfixed'
      · rw [inflect_of_lastWord?_eq_none hfixed' hwords, Rule.inflectFirst_eq, Rule.inflectFirst_eq]
        exact inflectFirst_inflectFirst hrules.rests hrules.lower hrestless
  · exact inflect_of_fixed (fixed_inflect_of_lastWord? hpairs rules hlast)

/-- A clause whose result ends in no word gives no word. -/
theorem lastWord?_of_inflect? {words : List String} {clause : Clause} {out : List Char}
    (hplain : ∀ w ∈ words, isPlain w = true) (h : clause.inflect? cs = some out)
    (hlower : clause.isLower = true) (hnot : ∀ w ∈ words, nested w clause.result = false) :
    lastWord? words out = none :=
  lastWord?_eq_none hplain fun w hw =>
    (Clause.endsIn_result h hlower).not_of_not_nested (hnot w hw)

end Words

/-! ### The plural and the singular -/

/-- Shapes of texts whose plural has another plural. -/
def restlessPlural : List Shape :=
  ["tum", "ium", "octopus", "virus", "si", "bu", "campu", "alia", "statu", "octopu", "viru", "axi",
    "testi"].map fun ending => ⟨ending, []⟩

/-- Shapes of texts whose singular has another singular. -/
def restlessSingular : List Shape :=
  ["octopi", "viri", "octopuses", "viruses", "crises", "axes", "testes", "analyses", "bases",
    "diagnoses", "parentheses", "prognoses", "synopses", "octopis", "viris", "tas"].map
      (fun ending => ⟨ending, []⟩)
    ++ [⟨"theses", ["parentheses"]⟩, ⟨"ias", ["alias"]⟩]

theorem restsBut_plural : RestsBut irregular pluralRules restlessPlural where
  lower := isLower_pluralRules
  rests := by decide +kernel
  moves := by decide +kernel

theorem restsBut_singular :
    RestsBut (irregular.map Prod.swap) singularRules restlessSingular where
  lower := isLower_singularRules
  rests := by decide +kernel
  moves := by decide +kernel

/-- The rules for the plural give no irregular singular. -/
theorem lastWord?_pluralRules (cs : List Char) :
    Rule.inflectFirst pluralRules cs = cs ∨
      lastWord? (irregular.map (·.1)) (Rule.inflectFirst pluralRules cs) = none := by
  -- no clause of the table gives a text that could end in a singular
  have hnot : ∀ clause ∈ pluralRules.flatMap Rule.clauses, ∀ w ∈ irregular.map (·.1),
      nested w clause.result = false := by decide +kernel
  rw [Rule.inflectFirst_eq]
  refine (Clause.inflectFirst_cases _ cs).imp id fun ⟨clause, hmem, hout⟩ => ?_
  exact lastWord?_of_inflect? (by decide +kernel) hout (isLower_pluralRules clause hmem)
    (hnot clause hmem)

/-- The rules for the singular give an irregular plural only if this plural had an `s` behind it. -/
theorem lastWord?_singularRules {cs : List Char}
    (h : ∀ stem c, cs = stem ++ [c] → foldCase c = 's' →
      lastWord? (irregular.map (·.2)) stem = none) :
    Rule.inflectFirst singularRules cs = cs ∨
      lastWord? (irregular.map (·.2)) (Rule.inflectFirst singularRules cs) = none := by
  -- only a clause that takes off an `s` and puts nothing back may uncover a plural
  have hnot : ∀ clause ∈ singularRules.flatMap Rule.clauses,
      (clause.ending = "s" ∧ clause.replacement = "") ∨
        ∀ w ∈ irregular.map (·.2), nested w clause.result = false := by decide +kernel
  rw [Rule.inflectFirst_eq]
  refine (Clause.inflectFirst_cases _ cs).imp id fun ⟨clause, hmem, hout⟩ => ?_
  rcases hnot clause hmem with ⟨hending, hreplacement⟩ | hnot
  · obtain ⟨stem, tail, hcs, htail, -, hstem⟩ := Clause.inflect?_eq_some_iff.1 hout
    rw [hending] at htail
    obtain ⟨c, rfl, hc⟩ := List.map_eq_singleton_iff.1 htail
    rw [hstem, hreplacement]
    simpa using h stem c hcs hc
  · exact lastWord?_of_inflect? (by decide +kernel) hout (isLower_singularRules clause hmem) hnot

/-- A plural with an `s` behind it loses this `s`, and then it is a plural that is looked up. -/
theorem singularize_append_s {stem : List Char} {c : Char} (hc : foldCase c = 's')
    (h : endsInWord (irregular.map (·.2)) stem = true) : singularize (stem ++ [c]) = stem := by
  -- for each plural, the rules take the `s` off and no noun gets in the way
  have htable : ∀ word ∈ irregular.map (·.2),
      (Shape.mk (word ++ "s") []).isForeign (irregular.map Prod.swap) = true ∧
      ((Shape.mk (word ++ "s") []).first? (singularRules.flatMap Rule.clauses)).any (fun clause =>
        (Shape.mk (word ++ "s") []).forces clause && clause.ending == "s" &&
          clause.replacement == "") = true := by decide +kernel
  obtain ⟨word, hmem, hword⟩ := List.any_eq_true.1 h
  obtain ⟨cut, hcut⟩ := Option.isSome_iff_exists.1 hword
  have hplain : ∀ w ∈ irregular.map (·.2), isPlain w = true := by decide +kernel
  have hcs : (Shape.mk (word ++ "s") []).Fits (stem ++ [c]) :=
    ⟨(endsIn_append_iff (by simp [hc])).2 (endsIn_of_cutWord? (hplain word hmem) hcut), by simp⟩
  obtain ⟨hforeign, hclause⟩ := htable word hmem
  obtain ⟨clause, hfirst, hclause⟩ := (Option.any_eq_true _ _).1 hclause
  simp only [Bool.and_eq_true, beq_iff_eq] at hclause
  obtain ⟨⟨hforces, hending⟩, hreplacement⟩ := hclause
  obtain ⟨stem', tail, hcut, htail, -, hout⟩ :=
    Clause.inflect?_eq_some_iff.1 (Shape.inflectFirst_of_first? hcs hfirst hforces)
  rw [hending] at htail
  obtain ⟨last, rfl, -⟩ := List.map_eq_singleton_iff.1 htail
  obtain ⟨rfl, -⟩ := List.append_inj' hcut rfl
  rw [singularize_eq, Shape.inflect_of_isForeign pairing_swapped hforeign hcs, Rule.inflectFirst_eq,
    hout, hreplacement]
  simp

/-- **Inflecting twice.** The plural of the plural is the plural, unless the text ends in one of a
few ways. The singular of the singular is the singular, unless the text ends in one of a few ways or
in an irregular plural with an `s` behind it. -/
theorem inflecting_twice_iff (cs : List Char) :
    (pluralize (pluralize cs) = pluralize cs ↔ ∀ shape ∈ restlessPlural, ¬ shape.Fits cs) ∧
    (singularize (singularize cs) = singularize cs ↔
      (∀ shape ∈ restlessSingular, ¬ shape.Fits cs) ∧
        ∀ stem c, cs = stem ++ [c] → foldCase c = 's' →
          endsInWord (irregular.map (·.2)) stem = false) := by
  -- both directions are one statement about pairs and rules, read with their own tables
  rw [pluralize_eq, pluralize_eq, singularize_eq, singularize_eq]
  refine ⟨inflect_inflect_iff pairing_irregular restsBut_plural (lastWord?_pluralRules cs), ?_⟩
  by_cases hbehind : ∀ stem c, cs = stem ++ [c] → foldCase c = 's' →
      endsInWord (irregular.map (·.2)) stem = false
  · have hwords := lastWord?_singularRules fun stem c hcs hc => by
      have hnone := hbehind stem c hcs hc
      rwa [endsInWord_eq, Option.isSome_eq_false_iff, Option.isNone_iff_eq_none] at hnone
    rw [← map_fst_swap] at hwords
    exact (inflect_inflect_iff pairing_swapped restsBut_singular hwords).trans
      ⟨fun h => ⟨h, hbehind⟩, fun h => h.1⟩
  · -- the `s` behind an irregular plural goes first, and then the plural is looked up
    refine iff_of_false (fun hsame => ?_) fun h => hbehind h.2
    push Not at hbehind
    obtain ⟨stem, c, rfl, hc, hnoun⟩ := hbehind
    have hnoun : endsInWord (irregular.map (·.2)) stem = true := by simpa using hnoun
    simp only [← singularize_eq] at hsame
    rw [singularize_append_s hc hnoun, singularize_eq] at hsame
    rw [endsInWord_eq, ← map_fst_swap, Option.isSome_iff_exists] at hnoun
    obtain ⟨⟨word, cut⟩, hword⟩ := hnoun
    exact inflect_ne_of_lastWord? pairing_swapped hword hsame

/-- The plural of `datum` is `data`, and the plural of `data` is not. The singular of `analyses` is
`analysis`, and its singular is not. -/
theorem inflecting_twice_differs :
    pluralize (pluralize "datum".toList) ≠ pluralize "datum".toList ∧
    singularize (singularize "analyses".toList) ≠ singularize "analyses".toList := by
  decide +kernel

end Stencil.Inflection
