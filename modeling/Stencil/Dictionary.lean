/-!
# Finite maps kept in key order

A `Dictionary κ ν` lists its entries by strictly increasing key, so the listing is canonical: two
dictionaries with the same lookups are equal (`Dictionary.ext_find?`). Parts, memo tables and filter
bindings are all dictionaries, and the order of the listing is the order in which bindings are
shown.

Every operation is described by what it does to a lookup (`find?_insert`, `find?_erase`) and to the
number of entries (`size_insert`). The operations act on bare lists of entries first
(`insertKey`, `findKey?`, `eraseKey`), because the fields of a data value are such lists too.
-/

namespace Stencil

variable {κ ν : Type} [Ord κ]

/-! ### Lists of entries -/

/-- The value stored under `k`. -/
def findKey? (k : κ) : List (κ × ν) → Option ν
  | [] => none
  | (k', v) :: rest =>
    match compare k k' with
    | .lt => none
    | .eq => some v
    | .gt => findKey? k rest

/-- Stores `v` under `k` at its place in key order, replacing what was stored there. -/
def insertKey (k : κ) (v : ν) : List (κ × ν) → List (κ × ν)
  | [] => [(k, v)]
  | (k', v') :: rest =>
    match compare k k' with
    | .lt => (k, v) :: (k', v') :: rest
    | .eq => (k, v) :: rest
    | .gt => (k', v') :: insertKey k v rest

/-- Drops the entry stored under `k`. -/
def eraseKey (k : κ) : List (κ × ν) → List (κ × ν)
  | [] => []
  | (k', v') :: rest =>
    match compare k k' with
    | .lt => (k', v') :: rest
    | .eq => rest
    | .gt => (k', v') :: eraseKey k rest

/-- The entries lie in strictly increasing key order. -/
abbrev InKeyOrder (entries : List (κ × ν)) : Prop :=
  entries.Pairwise fun a b => compare a.1 b.1 = .lt

theorem mem_insertKey {k : κ} {v : ν} {entries : List (κ × ν)} {e : κ × ν}
    (h : e ∈ insertKey k v entries) : e = (k, v) ∨ e ∈ entries := by
  induction entries with
  | nil => simpa [insertKey] using h
  | cons head rest ih =>
    unfold insertKey at h
    split at h <;> simp only [List.mem_cons] at h ⊢ <;> grind

theorem mem_of_mem_eraseKey {k : κ} {entries : List (κ × ν)} {e : κ × ν}
    (h : e ∈ eraseKey k entries) : e ∈ entries := by
  induction entries with
  | nil => simp [eraseKey] at h
  | cons head rest ih =>
    unfold eraseKey at h
    split at h <;> simp only [List.mem_cons] at h ⊢ <;> grind

/-- A key below every key of the list is not in it. -/
theorem findKey?_eq_none_of_lt {k : κ} {entries : List (κ × ν)}
    (h : ∀ e ∈ entries, compare k e.1 = .lt) : findKey? k entries = none := by
  cases entries with
  | nil => rfl
  | cons head rest => simp [findKey?, h head (by simp)]

theorem length_insertKey {entries : List (κ × ν)} (k : κ) (v : ν) :
    (insertKey k v entries).length
      = if (findKey? k entries).isSome then entries.length else entries.length + 1 := by
  induction entries with
  | nil => simp [insertKey, findKey?]
  | cons head rest ih =>
    unfold insertKey findKey?
    split
    · simp
    · simp
    · rw [List.length_cons, ih]
      split <;> simp

section Lawful

variable [Std.TransOrd κ] [Std.LawfulEqOrd κ]

theorem inKeyOrder_insertKey {entries : List (κ × ν)} (k : κ) (v : ν)
    (h : InKeyOrder entries) : InKeyOrder (insertKey k v entries) := by
  induction entries with
  | nil => simp [insertKey]
  | cons head rest ih =>
    obtain ⟨hhead, hrest⟩ := List.pairwise_cons.1 h
    unfold insertKey
    split
    case h_1 hlt =>
      -- the new entry stands first; its key lies below that of the head, hence below all others
      refine List.pairwise_cons.2 ⟨?_, h⟩
      intro e he
      rcases List.mem_cons.1 he with rfl | he
      · exact hlt
      · exact Std.TransCmp.lt_trans hlt (hhead e he)
    case h_2 heq =>
      -- the key is there already, and the order is one of keys only
      obtain rfl := Std.LawfulEqCmp.eq_of_compare heq
      exact List.pairwise_cons.2 ⟨hhead, hrest⟩
    case h_3 hgt =>
      -- the entry goes in behind the head, and its key lies above that of the head
      refine List.pairwise_cons.2 ⟨?_, ih hrest⟩
      intro e he
      rcases mem_insertKey he with rfl | he
      · exact Std.OrientedCmp.lt_of_gt hgt
      · exact hhead e he

omit [Std.TransOrd κ] [Std.LawfulEqOrd κ] in
theorem inKeyOrder_eraseKey {entries : List (κ × ν)} (k : κ)
    (h : InKeyOrder entries) : InKeyOrder (eraseKey k entries) := by
  induction entries with
  | nil => simp [eraseKey]
  | cons head rest ih =>
    obtain ⟨hhead, hrest⟩ := List.pairwise_cons.1 h
    unfold eraseKey
    split
    · exact h
    · exact hrest
    · exact List.pairwise_cons.2 ⟨fun e he => hhead e (mem_of_mem_eraseKey he), ih hrest⟩

theorem findKey?_insertKey {entries : List (κ × ν)} (k k' : κ) (v : ν)
    (h : InKeyOrder entries) :
    findKey? k' (insertKey k v entries)
      = if compare k' k = .eq then some v else findKey? k' entries := by
  induction entries with
  | nil => cases hc : compare k' k <;> simp [insertKey, findKey?, hc]
  | cons head rest ih =>
    obtain ⟨hhead, hrest⟩ := List.pairwise_cons.1 h
    obtain ⟨k₀, v₀⟩ := head
    unfold insertKey
    split
    case h_1 hlt =>
      -- `k` now stands first, so a key below it is found neither before nor after
      cases hc : compare k' k with
      | lt => simp [findKey?, hc, Std.TransCmp.lt_trans hc hlt]
      | eq => simp [findKey?, hc]
      | gt => simp [findKey?, hc]
    case h_2 heq =>
      obtain rfl := Std.LawfulEqCmp.eq_of_compare heq
      cases hc : compare k' k <;> simp [findKey?, hc]
    case h_3 hgt =>
      -- the head stays in front: it decides for keys up to its own, and the rest for those above
      cases hc : compare k' k₀ with
      | lt =>
        have : compare k' k = .lt := Std.TransCmp.lt_trans hc (Std.OrientedCmp.lt_of_gt hgt)
        simp [findKey?, hc, this]
      | eq =>
        obtain rfl := Std.LawfulEqCmp.eq_of_compare hc
        have : compare k' k = .lt := Std.OrientedCmp.lt_of_gt hgt
        simp [findKey?, this]
      | gt => simp [findKey?, hc, ih hrest]

theorem findKey?_eraseKey {entries : List (κ × ν)} (k k' : κ) (h : InKeyOrder entries) :
    findKey? k' (eraseKey k entries)
      = if compare k' k = .eq then none else findKey? k' entries := by
  induction entries with
  | nil => simp [eraseKey, findKey?]
  | cons head rest ih =>
    obtain ⟨hhead, hrest⟩ := List.pairwise_cons.1 h
    obtain ⟨k₀, v₀⟩ := head
    unfold eraseKey
    split
    case h_1 hlt =>
      -- `k` lies below every key, so there was nothing to erase
      by_cases hc : compare k' k = .eq
      · obtain rfl := Std.LawfulEqCmp.eq_of_compare hc
        simp [findKey?, hlt]
      · simp [hc]
    case h_2 heq =>
      -- the head is gone; a key that is not above it was found there or nowhere
      obtain rfl := Std.LawfulEqCmp.eq_of_compare heq
      cases hc : compare k' k with
      | lt =>
        have : findKey? k' rest = none :=
          findKey?_eq_none_of_lt fun e he => Std.TransCmp.lt_trans hc (hhead e he)
        simp [findKey?, hc, this]
      | eq =>
        obtain rfl := Std.LawfulEqCmp.eq_of_compare hc
        have : findKey? k' rest = none := findKey?_eq_none_of_lt hhead
        simp [this]
      | gt => simp [findKey?, hc]
    case h_3 hgt =>
      -- the head stays, and decides for keys up to its own
      cases hc : compare k' k₀ with
      | lt =>
        have : compare k' k = .lt := Std.TransCmp.lt_trans hc (Std.OrientedCmp.lt_of_gt hgt)
        simp [findKey?, hc, this]
      | eq =>
        obtain rfl := Std.LawfulEqCmp.eq_of_compare hc
        have : compare k' k = .lt := Std.OrientedCmp.lt_of_gt hgt
        simp [findKey?, this]
      | gt => simp [findKey?, hc, ih hrest]

/-- Two sorted lists of entries that answer every lookup alike are equal. -/
theorem entries_ext {l₁ l₂ : List (κ × ν)} (h₁ : InKeyOrder l₁) (h₂ : InKeyOrder l₂)
    (h : ∀ k, findKey? k l₁ = findKey? k l₂) : l₁ = l₂ := by
  induction l₁ generalizing l₂ with
  | nil =>
    cases l₂ with
    | nil => rfl
    | cons b rest₂ => simpa [findKey?] using h b.1
  | cons a rest₁ ih =>
    cases l₂ with
    | nil => simpa [findKey?] using h a.1
    | cons b rest₂ =>
      obtain ⟨ha, hr₁⟩ := List.pairwise_cons.1 h₁
      obtain ⟨hb, hr₂⟩ := List.pairwise_cons.1 h₂
      -- each head is found in its own list, hence in the other, and neither can lie below the
      -- other
      have hab : compare a.1 b.1 = .eq := by
        cases hc : compare a.1 b.1 with
        | eq => rfl
        | lt => simpa [findKey?, hc] using h a.1
        | gt => simpa [findKey?, Std.OrientedCmp.lt_of_gt hc] using h b.1
      have hkey : a.1 = b.1 := Std.LawfulEqCmp.eq_of_compare hab
      have hval : a.2 = b.2 := by simpa [findKey?, hkey] using h a.1
      -- above the common head both lookups go on behind it, and up to it nothing is left to find
      have htail : ∀ k, findKey? k rest₁ = findKey? k rest₂ := by
        intro k
        cases hc : compare k a.1 with
        | lt =>
          rw [findKey?_eq_none_of_lt fun e he => Std.TransCmp.lt_trans hc (ha e he),
            findKey?_eq_none_of_lt fun e he => Std.TransCmp.lt_trans (hkey ▸ hc) (hb e he)]
        | eq =>
          obtain rfl := Std.LawfulEqCmp.eq_of_compare hc
          rw [findKey?_eq_none_of_lt ha, findKey?_eq_none_of_lt fun e he => hkey ▸ hb e he]
        | gt => simpa [findKey?, hc, ← hkey] using h k
      rw [ih hr₁ hr₂ htail, Prod.ext hkey hval]

end Lawful

/-! ### Dictionaries -/

/-- A finite map whose entries are listed by strictly increasing key. -/
structure Dictionary (κ ν : Type) [Ord κ] where
  /-- The entries, in key order. -/
  entries : List (κ × ν) := []
  /-- No key is listed twice, and the listing is sorted. -/
  inKeyOrder : InKeyOrder entries := by exact List.Pairwise.nil

namespace Dictionary

instance : EmptyCollection (Dictionary κ ν) := ⟨{}⟩

instance : Inhabited (Dictionary κ ν) := ⟨∅⟩

/-- The value stored under `k`. -/
def find? (d : Dictionary κ ν) (k : κ) : Option ν :=
  findKey? k d.entries

/-- Whether a value is stored under `k`. -/
def contains (d : Dictionary κ ν) (k : κ) : Bool :=
  (d.find? k).isSome

/-- The keys, in order. -/
def keys (d : Dictionary κ ν) : List κ :=
  d.entries.map (·.1)

/-- The number of entries. -/
def size (d : Dictionary κ ν) : Nat :=
  d.entries.length

/-- Whether nothing is stored. -/
def isEmpty (d : Dictionary κ ν) : Bool :=
  d.entries.isEmpty

/-- Drops the entry stored under `k`. -/
def erase (d : Dictionary κ ν) (k : κ) : Dictionary κ ν :=
  ⟨eraseKey k d.entries, inKeyOrder_eraseKey k d.inKeyOrder⟩

variable [Std.TransOrd κ] [Std.LawfulEqOrd κ]

/-- Stores `v` under `k`, replacing what was stored there. -/
def insert (d : Dictionary κ ν) (k : κ) (v : ν) : Dictionary κ ν :=
  ⟨insertKey k v d.entries, inKeyOrder_insertKey k v d.inKeyOrder⟩

/-- Stores entries in turn; of two entries with one key the later one stays. -/
def insertAll (d : Dictionary κ ν) (entries : List (κ × ν)) : Dictionary κ ν :=
  entries.foldl (fun d e => d.insert e.1 e.2) d

/-- The dictionary of a list of entries; of two entries with one key the later one stays. -/
def ofList (entries : List (κ × ν)) : Dictionary κ ν :=
  insertAll ∅ entries

omit [Std.TransOrd κ] [Std.LawfulEqOrd κ] in
@[simp] theorem find?_empty (k : κ) : (∅ : Dictionary κ ν).find? k = none := rfl

theorem find?_insert [DecidableEq κ] (d : Dictionary κ ν) (k k' : κ) (v : ν) :
    (d.insert k v).find? k' = if k' = k then some v else d.find? k' := by
  rw [find?, insert, findKey?_insertKey k k' v d.inKeyOrder]
  simp [find?, Std.LawfulEqCmp.compare_eq_iff_eq]

@[simp] theorem find?_insert_self (d : Dictionary κ ν) (k : κ) (v : ν) :
    (d.insert k v).find? k = some v := by
  rw [find?, insert, findKey?_insertKey k k v d.inKeyOrder]
  simp

theorem find?_erase [DecidableEq κ] (d : Dictionary κ ν) (k k' : κ) :
    (d.erase k).find? k' = if k' = k then none else d.find? k' := by
  rw [find?, erase, findKey?_eraseKey k k' d.inKeyOrder]
  simp [find?, Std.LawfulEqCmp.compare_eq_iff_eq]

theorem size_insert (d : Dictionary κ ν) (k : κ) (v : ν) :
    (d.insert k v).size = if d.contains k then d.size else d.size + 1 :=
  length_insertKey k v

/-- **Canonical form.** A dictionary is determined by its lookups. -/
theorem ext_find? {d₁ d₂ : Dictionary κ ν} (h : ∀ k, d₁.find? k = d₂.find? k) : d₁ = d₂ := by
  obtain ⟨l₁, h₁⟩ := d₁
  obtain ⟨l₂, h₂⟩ := d₂
  obtain rfl : l₁ = l₂ := entries_ext h₁ h₂ h
  rfl

end Dictionary

end Stencil
