import Mathlib.Data.List.ProdSigma
import Stencil.Proofs.Inflection.Noun

/-!
# Irregular nouns in context

A text may end in an irregular noun behind anything else, and the noun may be written in lower case,
with a capital first letter, or in capitals. Then the other form of the noun takes its place in the
same style, and the way back gives the text again.

This is proved once for pairs of words that may be exchanged (`inflect_round_trip`), and the two
directions are the irregular nouns and the same pairs with their sides swapped. The partner is found
again where it was put (`inflect_of_lastWord?`), so it is fixed in one direction and looked up in
the other one.
-/

namespace Stencil.Inflection

section RoundTrip

variable {pairs : List (String × String)} {word : String} {cs stem : List Char} {style : Style}

/-- A word that is looked up is a partner in the other direction, and stays as it is there. -/
theorem fixed_swap_of_lastWord? (h : (lastWord? (pairs.map (·.1)) cs).isSome = true) :
    Fixed (pairs.map Prod.swap) cs := by
  refine .inr (.inr ?_)
  rw [List.map_map]
  exact h

/-- **There and back.** A word that is looked up is replaced by its partner in its own style. The
new text is not changed any more, and the pairs in the other direction give the old text. -/
theorem inflect_round_trip (hpairs : Pairing pairs) (hback : Pairing (pairs.map Prod.swap))
    (rules back : List Rule)
    (h : lastWord? (pairs.map (·.1)) cs = some (word, stem, style.write word)) :
    ∃ partner, (word, partner) ∈ pairs ∧ cs = stem ++ style.write word ∧
      inflect pairs rules cs = stem ++ style.write partner ∧
      inflect pairs rules (inflect pairs rules cs) = inflect pairs rules cs ∧
      inflect (pairs.map Prod.swap) back (inflect pairs rules cs) = cs ∧
      inflect (pairs.map Prod.swap) back cs = cs := by
  obtain ⟨partner, hmem, hcs, hinflect, hpartner⟩ := inflect_of_lastWord? hpairs rules h
  obtain ⟨hword, hplain⟩ := hpairs.plain _ hmem
  rw [Style.ofShown_write hword] at hinflect hpartner
  -- in the other direction, the partner is the word that is looked up
  have hfound : lastWord? ((pairs.map Prod.swap).map (·.1)) (inflect pairs rules cs)
      = some (partner, stem, style.write partner) := by
    rw [map_fst_swap]
    exact hpartner
  -- what it is exchanged for is the old word, since no other one has this partner
  obtain ⟨word', hmem', -, hinflect', -⟩ := inflect_of_lastWord? hback back hfound
  rw [Style.ofShown_write hplain] at hinflect'
  have hsame : word' = word :=
    hpairs.unique _ ((List.mem_map_swap _ _ _).1 hmem') _ hmem rfl
  exact ⟨partner, hmem, hcs, hinflect, inflect_of_fixed (fixed_inflect_of_lastWord? hpairs rules h),
    by rw [hinflect', hsame, hcs], inflect_of_fixed (fixed_swap_of_lastWord? (by rw [h]; rfl))⟩

end RoundTrip

/-- **Irregular nouns survive the round trip.** If a text ends in the singular of an irregular noun,
written in one of the three styles, then only this word is changed: its plural in the same style is
put in its place. This plural is left as it is, its singular is the old text, and so is the singular
of the old text. The same holds with singular and plural in each other's place. -/
theorem irregular_nouns_survive_round_trip {cs stem : List Char} {word : String} {style : Style} :
    (lastWord? (irregular.map (·.1)) cs = some (word, stem, style.write word) →
      ∃ plural, (word, plural) ∈ irregular ∧ cs = stem ++ style.write word ∧
        pluralize cs = stem ++ style.write plural ∧ pluralize (pluralize cs) = pluralize cs ∧
        singularize (pluralize cs) = cs ∧ singularize cs = cs) ∧
    (lastWord? (irregular.map (·.2)) cs = some (word, stem, style.write word) →
      ∃ singular, (singular, word) ∈ irregular ∧ cs = stem ++ style.write word ∧
        singularize cs = stem ++ style.write singular ∧
        singularize (singularize cs) = singularize cs ∧
        pluralize (singularize cs) = cs ∧ pluralize cs = cs) := by
  simp only [pluralize_eq, singularize_eq]
  constructor
  · exact inflect_round_trip pairing_irregular pairing_swapped pluralRules singularRules
  · intro h
    -- the other direction is the same statement about the swapped pairs
    have hback : (irregular.map Prod.swap).map Prod.swap = irregular := by simp
    obtain ⟨singular, hmem, hresult⟩ := inflect_round_trip pairing_swapped
      (hback.symm ▸ pairing_irregular) singularRules pluralRules (by rwa [map_fst_swap])
    rw [hback] at hresult
    exact ⟨singular, (List.mem_map_swap _ _ _).1 hmem, hresult⟩

/-- Behind letters that would make another noun of it, and in capitals. -/
theorem irregular_nouns_survive_round_trip_inside_names :
    (lastWord? (irregular.map (·.1)) "xwoMan".toList
        = some ("man", "xwo".toList, Style.capital.write "man") ∧
      singularize (pluralize "xwoMan".toList) = "xwoMan".toList) ∧
    lastWord? (irregular.map (·.2)) "SEAMEN".toList
        = some ("men", "SEA".toList, Style.upper.write "men") ∧
      pluralize (singularize "SEAMEN".toList) = "SEAMEN".toList := by
  have hman : lastWord? (irregular.map (·.1)) "xwoMan".toList
      = some ("man", "xwo".toList, Style.capital.write "man") := by decide +kernel
  have hmen : lastWord? (irregular.map (·.2)) "SEAMEN".toList
      = some ("men", "SEA".toList, Style.upper.write "men") := by decide +kernel
  obtain ⟨_, -, -, -, -, hback, -⟩ := irregular_nouns_survive_round_trip.1 hman
  obtain ⟨_, -, -, -, -, hback', -⟩ := irregular_nouns_survive_round_trip.2 hmen
  exact ⟨⟨hman, hback⟩, hmen, hback'⟩

end Stencil.Inflection
