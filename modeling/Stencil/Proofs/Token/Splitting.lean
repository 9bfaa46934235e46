import Stencil.Proofs.Token.Scanning

/-!
# Splitting a template

A template may be cut in two wherever no token stands across the cut: the tokens of the whole are
those of the two parts, in their places (`Pattern.occurrences_append`).

Cutting takes candidates away, and it changes what the search for the longest key and the most
filters gets to see. That neither matters is a fact about single readings. A text that begins with
no cut has no front that begins with one (`Pattern.read?_eq_none_of_front`), and a token is read
in the same way when some of the text behind it is taken away (`Pattern.read?_front`). So if the
segments of a template are split anywhere, each part is the segments of its own text
(`Pattern.segments_parts`). What is left is to find the cut among the segments
(`Segment.exists_boundary`).

A character that has no part in the grammar stands in no token. It is a cut of its own, whatever is
on either side of it (`Pattern.segments_append_cons`).
-/

namespace Stencil

namespace Occurrence

/-- The occurrence in a text that has more bytes in front. -/
def shift (bytes : Nat) (o : Occurrence) : Occurrence :=
  { o with start := bytes + o.start, stop := bytes + o.stop }

/-- The byte offset lies inside the occurrence, and neither at its start nor at its stop. -/
def Straddles (o : Occurrence) (offset : Nat) : Prop :=
  o.start < offset ∧ offset < o.stop

instance (o : Occurrence) (offset : Nat) : Decidable (o.Straddles offset) :=
  inferInstanceAs (Decidable (_ ∧ _))

end Occurrence

/-! ### Finding a cut among segments -/

namespace Segment

theorem occurrences_append (offset : Nat) (front back : List Segment) :
    occurrences offset (front ++ back)
      = occurrences offset front
        ++ occurrences (offset + byteLength (front.flatMap chars)) back := by
  induction front generalizing offset with
  | nil => rfl
  | cons segment rest ih =>
    cases segment with
    | literal c =>
      rw [List.cons_append, occurrences, ih, occurrences, List.flatMap_cons, byteLength_append,
        Nat.add_assoc]
      rfl
    | token t =>
      rw [List.cons_append, occurrences, ih, occurrences, List.flatMap_cons, byteLength_append,
        Nat.add_assoc, List.cons_append]
      rfl

/-- Counting from further behind shifts the occurrences. -/
theorem occurrences_add (bytes offset : Nat) (segments : List Segment) :
    occurrences (bytes + offset) segments = (occurrences offset segments).map (·.shift bytes) := by
  induction segments generalizing offset with
  | nil => rfl
  | cons segment rest ih =>
    cases segment with
    | literal c => rw [occurrences, Nat.add_assoc, ih, occurrences]
    | token t =>
      rw [occurrences, occurrences, List.map_cons, ← ih, Nat.add_assoc]
      rfl

/-- Where no token stands across a cut of the text, the segments can be cut as well. -/
theorem exists_boundary {segments : List Segment} {left right : List Char} {offset : Nat}
    (htext : segments.flatMap chars = left ++ right)
    (h : ∀ o ∈ occurrences offset segments, ¬ o.Straddles (offset + byteLength left)) :
    ∃ front back, segments = front ++ back ∧ front.flatMap chars = left := by
  induction segments generalizing left offset with
  | nil =>
    obtain ⟨rfl, rfl⟩ := List.append_eq_nil_iff.1 htext.symm
    exact ⟨[], [], rfl, rfl⟩
  | cons segment rest ih =>
    by_cases hleft : left = []
    · exact ⟨[], segment :: rest, rfl, hleft.symm⟩
    rw [List.flatMap_cons] at htext
    -- once the first segment is known to end before the cut, the others are cut
    have hinside : ∀ behind, left = segment.chars ++ behind →
        (∀ o ∈ occurrences (offset + byteLength segment.chars) rest,
          o ∈ occurrences offset (segment :: rest)) →
        ∃ front back, segment :: rest = front ++ back ∧ front.flatMap chars = left := by
      rintro behind rfl hlater
      rw [List.append_assoc] at htext
      obtain ⟨front, back, rfl, rfl⟩ := ih (List.append_cancel_left htext) fun o ho => by
        have hout := h o (hlater o ho)
        rwa [byteLength_append, ← Nat.add_assoc] at hout
      exact ⟨segment :: front, back, rfl, List.flatMap_cons ..⟩
    cases segment with
    | literal c =>
      obtain ⟨d, behind, rfl⟩ := List.exists_cons_of_ne_nil hleft
      obtain ⟨rfl, -⟩ := List.cons.inj htext
      exact hinside behind rfl fun o ho => ho
    | token t =>
      have hlater : ∀ o ∈ occurrences (offset + byteLength t.text.toList) rest,
          o ∈ occurrences offset (.token t :: rest) := fun o ho => List.mem_cons_of_mem _ ho
      change t.text.toList ++ rest.flatMap chars = left ++ right at htext
      rcases List.append_eq_append_iff.1 htext with ⟨behind, hbehind, -⟩ | ⟨beyond, hbeyond, -⟩
      · exact hinside behind hbehind hlater
      · -- the cut lies in the token, hence at its end, since it does not straddle the cut
        have hout := h ⟨t, offset, offset + byteLength t.text.toList⟩ (List.mem_cons_self ..)
        have hpos := byteLength_pos hleft
        by_cases hnil : beyond = []
        · refine hinside [] ?_ hlater
          change left = t.text.toList ++ []
          rw [hbeyond, hnil, List.append_nil, List.append_nil]
        · refine absurd ⟨?_, ?_⟩ hout
          · change offset < offset + byteLength left
            omega
          · change offset + byteLength left < offset + byteLength t.text.toList
            have hbeyond' := byteLength_pos hnil
            rw [hbeyond, byteLength_append]
            omega

/-- A character that stands in no token is a segment of its own. -/
theorem exists_boundary_of_not_mem {segments : List Segment} {left right : List Char} {c : Char}
    (htext : segments.flatMap chars = left ++ c :: right)
    (h : ∀ t ∈ tokens segments, c ∉ t.text.toList) :
    ∃ front back, segments = front ++ .literal c :: back ∧ front.flatMap chars = left := by
  induction segments generalizing left with
  | nil => exact absurd htext.symm (by simp)
  | cons segment rest ih =>
    rw [List.flatMap_cons] at htext
    cases segment with
    | literal d =>
      cases left with
      | nil =>
        obtain ⟨rfl, -⟩ := List.cons.inj htext
        exact ⟨[], rest, rfl, rfl⟩
      | cons d' left =>
        obtain ⟨rfl, hrest⟩ := List.cons.inj htext
        obtain ⟨front, back, rfl, rfl⟩ := ih hrest h
        exact ⟨.literal d :: front, back, rfl, rfl⟩
    | token t =>
      change t.text.toList ++ rest.flatMap chars = left ++ c :: right at htext
      have hrest : ∀ t' ∈ tokens rest, c ∉ t'.text.toList := fun t' ht' =>
        h t' (List.mem_cons_of_mem t ht')
      -- the character stands behind the token, since it does not stand in it
      obtain ⟨behind, rfl, hbehind⟩ :
          ∃ behind, left = t.text.toList ++ behind ∧
            rest.flatMap chars = behind ++ c :: right := by
        rcases List.append_eq_append_iff.1 htext with
          ⟨behind, hleft, hrest'⟩ | ⟨beyond, hbeyond, hright⟩
        · exact ⟨behind, hleft, hrest'⟩
        · cases beyond with
          | nil => exact ⟨[], by rw [hbeyond, List.append_nil, List.append_nil], hright.symm⟩
          | cons d beyond =>
            obtain ⟨rfl, -⟩ := List.cons.inj hright
            exact absurd (hbeyond ▸ List.mem_append_right left (List.mem_cons_self ..))
              (h t (List.mem_cons_self ..))
      obtain ⟨front, back, rfl, rfl⟩ := ih hbehind hrest
      exact ⟨.token t :: front, back, rfl, rfl⟩

end Segment

/-! ### The parts of a template -/

namespace Pattern

variable {p : Pattern}

/-- Where no token is read, none is read when text behind is taken away. -/
theorem read?_eq_none_of_front {cs front : List Char} (h : p.read? cs = none)
    (hfront : front <+: cs) : p.read? front = none :=
  read?_eq_none_iff.2 fun cut hbegins =>
    read?_eq_none_iff.1 h cut ⟨hbegins.accepts, hbegins.front.trans hfront⟩

/-- A token is read in the same way when text behind it is taken away. -/
theorem read?_front {cs rest front : List Char} {t : Token} (h : p.read? cs = some (t, rest))
    (hfront : front <+: rest) : p.read? (t.text.toList ++ front) = some (t, front) := by
  obtain ⟨cut, hbest, rfl, rfl⟩ := read?_eq_some_iff.1 h
  rw [token_text_toList]
  refine read?_eq_some_iff.2 ⟨cut, hbest.of_prefix ?_ (List.prefix_append _ _), rfl, rfl⟩
  exact (List.prefix_append_right_inj _).2 hfront

/-- A template whose first segment is a copied character begins with this character, and with no
token. -/
theorem segments_eq_literal_cons {cs : List Char} {c : Char} {rest : List Segment}
    (h : p.segments cs = .literal c :: rest) :
    ∃ tail, cs = c :: tail ∧ p.read? cs = none ∧ p.segments tail = rest := by
  cases cs with
  | nil => rw [segments_nil] at h; cases h
  | cons d tail =>
    cases hread : p.read? (d :: tail) with
    | none =>
      rw [p.segments_of_none hread] at h
      obtain ⟨hc, hrest⟩ := List.cons.inj h
      obtain rfl := Segment.literal.inj hc
      exact ⟨tail, rfl, rfl, hrest⟩
    | some read =>
      obtain ⟨t, after⟩ := read
      rw [p.segments_of_some hread] at h
      cases (List.cons.inj h).1

/-- A template whose first segment is a token begins with this token. -/
theorem segments_eq_token_cons {cs : List Char} {t : Token} {rest : List Segment}
    (h : p.segments cs = .token t :: rest) :
    ∃ after, p.read? cs = some (t, after) ∧ p.segments after = rest := by
  cases cs with
  | nil => rw [segments_nil] at h; cases h
  | cons d tail =>
    cases hread : p.read? (d :: tail) with
    | none =>
      rw [p.segments_of_none hread] at h
      cases (List.cons.inj h).1
    | some read =>
      obtain ⟨t', after⟩ := read
      rw [p.segments_of_some hread] at h
      obtain ⟨ht, hrest⟩ := List.cons.inj h
      obtain rfl := Segment.token.inj ht
      exact ⟨after, rfl, hrest⟩

/-- The text of split segments is the text of the one part and of the other. -/
theorem eq_append_of_segments {cs : List Char} {front back : List Segment}
    (h : p.segments cs = front ++ back) :
    cs = front.flatMap Segment.chars ++ back.flatMap Segment.chars := by
  rw [← List.flatMap_append, ← h, flatMap_chars_segments]

/-- **The parts stand for themselves.** If the segments of a template are split anywhere, both parts
are the segments of their own text. -/
theorem segments_parts {cs : List Char} {front back : List Segment}
    (h : p.segments cs = front ++ back) :
    p.segments (front.flatMap Segment.chars) = front ∧
      p.segments (back.flatMap Segment.chars) = back := by
  induction front generalizing cs with
  | nil =>
    refine ⟨segments_nil p, ?_⟩
    have hback : p.segments cs = back := h
    rw [← hback, flatMap_chars_segments]
  | cons segment front ih =>
    cases segment with
    | literal c =>
      obtain ⟨tail, rfl, hread, htail⟩ := segments_eq_literal_cons h
      obtain ⟨hfront, hback⟩ := ih htail
      refine ⟨?_, hback⟩
      -- with less text behind it, the character still begins no token
      have hprefix : c :: front.flatMap Segment.chars <+: c :: tail := by
        rw [eq_append_of_segments htail, List.prefix_cons_inj]
        exact List.prefix_append _ _
      exact (p.segments_of_none (read?_eq_none_of_front hread hprefix)).trans (by rw [hfront])
    | token t =>
      obtain ⟨after, hread, hafter⟩ := segments_eq_token_cons h
      obtain ⟨hfront, hback⟩ := ih hafter
      refine ⟨?_, hback⟩
      -- with less text behind it, the same token is read
      have hprefix : front.flatMap Segment.chars <+: after := by
        rw [eq_append_of_segments hafter]
        exact List.prefix_append _ _
      exact (p.segments_of_some (read?_front hread hprefix)).trans (by rw [hfront])

/-- **Splitting outside tokens.** Where no token stands across the cut, a template has the segments
of its two parts. -/
theorem segments_append {left right : List Char}
    (h : ∀ o ∈ Segment.occurrences 0 (p.segments (left ++ right)),
      ¬ o.Straddles (byteLength left)) :
    p.segments (left ++ right) = p.segments left ++ p.segments right := by
  have hout : ∀ o ∈ Segment.occurrences 0 (p.segments (left ++ right)),
      ¬ o.Straddles (0 + byteLength left) := by rwa [Nat.zero_add]
  obtain ⟨front, back, hsegments, hleft⟩ :=
    Segment.exists_boundary (p.flatMap_chars_segments (left ++ right)) hout
  have hright : back.flatMap Segment.chars = right := by
    have htext := eq_append_of_segments hsegments
    rw [hleft] at htext
    exact (List.append_cancel_left htext).symm
  obtain ⟨hfront, hback⟩ := segments_parts hsegments
  rw [hleft] at hfront
  rw [hright] at hback
  rw [hsegments, hfront, hback]

/-- A character that stands in no token of a template splits it. -/
theorem segments_append_cons {left right : List Char} {c : Char}
    (h : ∀ t ∈ Segment.tokens (p.segments (left ++ c :: right)), c ∉ t.text.toList) :
    p.segments (left ++ c :: right) = p.segments left ++ .literal c :: p.segments right := by
  obtain ⟨front, back, hsegments, hleft⟩ :=
    Segment.exists_boundary_of_not_mem (p.flatMap_chars_segments (left ++ c :: right)) h
  have hright : back.flatMap Segment.chars = right := by
    have htext := eq_append_of_segments hsegments
    rw [hleft, List.flatMap_cons] at htext
    exact (List.cons.inj (List.append_cancel_left htext)).2.symm
  obtain ⟨hfront, hback⟩ := segments_parts hsegments
  rw [hleft] at hfront
  -- behind the cut the character is the first segment, and its own part again
  have hbehind : p.segments ((Segment.literal c :: back).flatMap Segment.chars)
      = [.literal c] ++ back := hback
  obtain ⟨-, hback'⟩ := segments_parts hbehind
  rw [hright] at hback'
  rw [hsegments, hfront, hback']

/-- **Splitting outside tokens**, with places. -/
theorem occurrences_append {left right : String}
    (h : ∀ o ∈ p.occurrences (left ++ right), ¬ o.Straddles left.utf8ByteSize) :
    p.occurrences (left ++ right)
      = p.occurrences left ++ (p.occurrences right).map (·.shift left.utf8ByteSize) := by
  unfold occurrences at h ⊢
  rw [String.toList_append] at h ⊢
  rw [← byteLength_toList] at h ⊢
  rw [segments_append h, Segment.occurrences_append, flatMap_chars_segments, Nat.zero_add,
    ← Segment.occurrences_add, Nat.add_zero]

end Pattern

/-! ### Characters outside the grammar -/

/-- The character has no part in tokens: it is in no delimiter, and it may stand neither in a key
nor among filter letters. -/
structure Config.Foreign (config : Config) (letters : List Char) (c : Char) : Prop where
  /-- It is not in the opening bracket. -/
  opening : c ∉ config.opening.toList
  /-- It is not in the closing bracket. -/
  closing : c ∉ config.closing.toList
  /-- It is not in the separator. -/
  separator : c ∉ config.separator.toList
  /-- It is not a character of keys. -/
  key : ¬ KeyLetter c
  /-- It is not a filter letter. -/
  filter : ¬ FilterLetter letters c

/-- A foreign character is not in the text of a token. -/
theorem Config.Foreign.not_mem_written {config : Config} {letters : List Char} {c : Char}
    (h : config.Foreign letters c) {key : String} {filters : Option String}
    (hkey : Word KeyLetter key) (hfilters : ∀ f ∈ filters, Word (FilterLetter letters) f) :
    c ∉ (config.written key filters).toList := by
  have hkey' : c ∉ key.toList := fun hc => h.key (hkey.all c hc)
  cases filters with
  | none => simp [written, String.toList_append, h.opening, h.closing, hkey']
  | some f =>
    have hf : c ∉ f.toList := fun hc => h.filter ((hfilters f rfl).all c hc)
    simp [written, String.toList_append, h.opening, h.closing, h.separator, hkey', hf]

/-- A foreign character is in no occurrence. -/
theorem Pattern.Describes.not_mem_text {p : Pattern} {config : Config} {letters : List Char}
    (hp : p.Describes config letters) {c : Char} (h : config.Foreign letters c)
    {template : String} {o : Occurrence} (ho : o ∈ p.occurrences template) :
    c ∉ o.token.text.toList := by
  have hsound := hp.sound ho
  rw [hsound.text_eq]
  exact h.not_mem_written hsound.tokenAt.key_word hsound.tokenAt.filters_word

end Stencil
