import Mathlib.Data.List.Dedup
import Stencil.Dictionary
import Stencil.Proofs.Traversal

/-!
# The keys of a dictionary

A dictionary lists a key exactly when a lookup finds something under it, so what is known about
lookups carries over to the listing: the keys of `Dictionary.ofList` are the keys of the list, and
storing what a dictionary lists is asking that dictionary first
(`Dictionary.find?_insertAll_entries`). Since no key is listed twice, there are as many entries as
different keys (`Dictionary.size_eq_length_dedup`).

Of the entries that are stored in turn, the last one with a key stays
(`Dictionary.find?_insertAll_of_last`). Where these entries are read from some items before, it is
the last item that speaks of the key (`Dictionary.find?_insertAll_of_last_read`).

`Dictionary.mapWithKey` changes the values and keeps the keys.
-/

namespace Stencil

variable {κ ν : Type} [Ord κ] [Std.TransOrd κ] [Std.LawfulEqOrd κ]

/-- In a sorted list of entries, a lookup finds something under exactly the keys that are
listed. -/
theorem isSome_findKey?_iff {k : κ} {entries : List (κ × ν)} (h : InKeyOrder entries) :
    (findKey? k entries).isSome ↔ k ∈ entries.map (·.1) := by
  induction entries with
  | nil => simp [findKey?]
  | cons head rest ih =>
    obtain ⟨hhead, hrest⟩ := List.pairwise_cons.1 h
    obtain ⟨k₀, v₀⟩ := head
    rw [List.map_cons, List.mem_cons, findKey?]
    cases hc : compare k k₀ with
    | lt =>
      -- everything that is listed lies above `k₀`, hence above `k`
      have hlt : ∀ e ∈ rest, compare k e.1 = .lt := fun e he =>
        Std.TransCmp.lt_trans hc (hhead e he)
      have hne : k ≠ k₀ := fun heq => by simp [heq] at hc
      have hnone := (not_congr (ih hrest)).1 (by simp [findKey?_eq_none_of_lt hlt])
      simp [hne, hnone]
    | eq => simp [Std.LawfulEqCmp.eq_of_compare hc]
    | gt =>
      -- the head is passed, so the key is sought in the rest
      have hne : k ≠ k₀ := fun heq => by simp [heq] at hc
      simp [hne, ih hrest]

namespace Dictionary

theorem mem_keys_iff {d : Dictionary κ ν} {k : κ} : k ∈ d.keys ↔ (d.find? k).isSome :=
  (isSome_findKey?_iff d.inKeyOrder).symm

omit [Std.TransOrd κ] in
/-- No key is listed twice. -/
theorem nodup_keys (d : Dictionary κ ν) : d.keys.Nodup :=
  List.pairwise_map.2 (d.inKeyOrder.imp fun hlt heq => by simp [heq] at hlt)

variable [DecidableEq κ]

omit [Std.TransOrd κ] in
/-- There is one entry for each different key. -/
theorem size_eq_length_dedup {d : Dictionary κ ν} {ks : List κ} (h : ∀ k, k ∈ d.keys ↔ k ∈ ks) :
    d.size = ks.dedup.length := by
  have hsame : d.keys.Perm ks.dedup := by
    -- neither list repeats a key, so it is enough that they have the same members
    refine (List.perm_ext_iff_of_nodup d.nodup_keys (List.nodup_dedup ks)).2 fun k => ?_
    rw [h, List.mem_dedup]
  rw [← hsame.length_eq, keys, List.length_map, size]

theorem mem_keys_insert {d : Dictionary κ ν} {k k' : κ} {v : ν} :
    k' ∈ (d.insert k v).keys ↔ k' = k ∨ k' ∈ d.keys := by
  rw [mem_keys_iff, mem_keys_iff, find?_insert]
  split <;> simp_all

theorem mem_keys_erase {d : Dictionary κ ν} {k k' : κ} :
    k' ∈ (d.erase k).keys ↔ k' ≠ k ∧ k' ∈ d.keys := by
  rw [mem_keys_iff, mem_keys_iff, find?_erase]
  split <;> simp_all

theorem mem_keys_insertAll {d : Dictionary κ ν} {entries : List (κ × ν)} {k : κ} :
    k ∈ (d.insertAll entries).keys ↔ k ∈ d.keys ∨ k ∈ entries.map (·.1) := by
  induction entries generalizing d with
  | nil => simp [insertAll]
  | cons e entries ih =>
    have hstep : d.insertAll (e :: entries) = (d.insert e.1 e.2).insertAll entries := rfl
    rw [hstep, ih, mem_keys_insert, List.map_cons, List.mem_cons, or_assoc, or_left_comm]

/-- What is true of all that a dictionary holds stays true if it is true of what is stored. -/
theorem forall_find?_insert {P : κ → ν → Prop} {d : Dictionary κ ν} {k : κ} {v : ν}
    (h : ∀ k' v', d.find? k' = some v' → P k' v') (hnew : P k v) :
    ∀ k' v', (d.insert k v).find? k' = some v' → P k' v' := by
  intro k' v' hfind
  rw [find?_insert] at hfind
  split at hfind
  case isTrue hkey =>
    obtain rfl := Option.some.inj hfind
    exact hkey ▸ hnew
  case isFalse => exact h k' v' hfind

/-- It stays true if something is dropped. -/
theorem forall_find?_erase {P : κ → ν → Prop} {d : Dictionary κ ν} {k : κ}
    (h : ∀ k' v', d.find? k' = some v' → P k' v') :
    ∀ k' v', (d.erase k).find? k' = some v' → P k' v' := by
  intro k' v' hfind
  rw [find?_erase] at hfind
  split at hfind
  case isTrue => cases hfind
  case isFalse => exact h k' v' hfind

/-- Storing everything that another dictionary lists: what it holds counts. -/
theorem find?_insertAll_entries (d d' : Dictionary κ ν) (k : κ) :
    (d.insertAll d'.entries).find? k = (d'.find? k).or (d.find? k) := by
  obtain ⟨entries, hsorted⟩ := d'
  change (d.insertAll entries).find? k = (findKey? k entries).or (d.find? k)
  -- an entry that was stored is not overwritten later, as the keys behind it are larger
  induction entries generalizing d with
  | nil => rfl
  | cons e entries ih =>
    obtain ⟨hbelow, hrest⟩ := List.pairwise_cons.1 hsorted
    have hstep : d.insertAll (e :: entries) = (d.insert e.1 e.2).insertAll entries := rfl
    rw [hstep, ih _ hrest, find?_insert, findKey?]
    cases hc : compare k e.1 with
    | lt =>
      -- no key that is listed lies this low
      have hne : k ≠ e.1 := fun heq => by simp [heq] at hc
      have hnone : findKey? k entries = none :=
        findKey?_eq_none_of_lt fun e' he' => Std.TransCmp.lt_trans hc (hbelow e' he')
      simp [hne, hnone]
    | eq =>
      obtain rfl := Std.LawfulEqCmp.eq_of_compare hc
      -- the entry with this key has just been stored, and none behind it has the key again
      simp [findKey?_eq_none_of_lt hbelow]
    | gt =>
      have hne : k ≠ e.1 := fun heq => by simp [heq] at hc
      simp [hne]

/-- Storing entries that have other keys. -/
theorem find?_insertAll_of_ne {d : Dictionary κ ν} {entries : List (κ × ν)} {k : κ}
    (h : ∀ e ∈ entries, e.1 ≠ k) : (d.insertAll entries).find? k = d.find? k := by
  induction entries generalizing d with
  | nil => rfl
  | cons e entries ih =>
    obtain ⟨hfirst, hrest⟩ := List.forall_mem_cons.1 h
    have hstep : d.insertAll (e :: entries) = (d.insert e.1 e.2).insertAll entries := rfl
    rw [hstep, ih hrest, find?_insert, if_neg (Ne.symm hfirst)]

/-- Of the entries with one key, the last one stays. -/
theorem find?_insertAll_of_last (d : Dictionary κ ν) (before : List (κ × ν)) {behind : List (κ × ν)}
    {k : κ} (v : ν) (hlast : ∀ e ∈ behind, e.1 ≠ k) :
    (d.insertAll (before ++ (k, v) :: behind)).find? k = some v := by
  have hsplit : d.insertAll (before ++ (k, v) :: behind)
      = ((d.insertAll before).insert k v).insertAll behind := by
    simp only [insertAll, List.foldl_append, List.foldl_cons]
  rw [hsplit, find?_insertAll_of_ne hlast, find?_insert_self]

section Reading

variable {α β ε : Type} {read : α → Except ε β} {entry : β → κ × ν} {readings : List β}

/-- Items that do not speak of a key leave it as it is. -/
theorem find?_insertAll_of_ne_read {d : Dictionary κ ν} {items : List α} {k : κ}
    (h : items.mapM read = .ok readings)
    (hne : ∀ item ∈ items, ∀ b, read item = .ok b → (entry b).1 ≠ k) :
    (d.insertAll (readings.map entry)).find? k = d.find? k :=
  find?_insertAll_of_ne (fst_ne_of_mapM_eq_ok h hne)

/-- The last item that speaks of a key counts. -/
theorem find?_insertAll_of_last_read (d : Dictionary κ ν) {before behind : List α} {item : α}
    {b : β} (h : (before ++ item :: behind).mapM read = .ok readings) (hitem : read item = .ok b)
    (hlast : ∀ other ∈ behind, ∀ b', read other = .ok b' → (entry b').1 ≠ (entry b).1) :
    (d.insertAll (readings.map entry)).find? (entry b).1 = some (entry b).2 := by
  -- the reading of the item stands between those of the items before and behind
  obtain ⟨front, b', back, rfl, -, hread, hback⟩ := of_mapM_append_cons_eq_ok h
  obtain rfl := Except.ok.inj (hitem.symm.trans hread)
  rw [List.map_append, List.map_cons]
  exact find?_insertAll_of_last d _ _ (fst_ne_of_mapM_eq_ok hback hlast)

end Reading

/-- A dictionary made from a list has the keys of the list. -/
theorem mem_keys_ofList {entries : List (κ × ν)} {k : κ} :
    k ∈ (ofList entries).keys ↔ k ∈ entries.map (·.1) := by
  rw [ofList, mem_keys_insertAll, mem_keys_iff, find?_empty]
  simp

/-! ### Changing the values -/

section Values

omit [Std.TransOrd κ] [DecidableEq κ]

variable {μ : Type} (f : κ → ν → μ)

omit [Std.LawfulEqOrd κ] in
theorem inKeyOrder_map {entries : List (κ × ν)} (h : InKeyOrder entries) :
    InKeyOrder (entries.map fun e => (e.1, f e.1 e.2)) :=
  List.pairwise_map.2 h

/-- The dictionary with each value replaced by a function of its key and itself. -/
def mapWithKey (d : Dictionary κ ν) : Dictionary κ μ :=
  ⟨d.entries.map fun e => (e.1, f e.1 e.2), inKeyOrder_map f d.inKeyOrder⟩

omit [Std.LawfulEqOrd κ] in
@[simp] theorem keys_mapWithKey (d : Dictionary κ ν) : (d.mapWithKey f).keys = d.keys := by
  rw [keys, mapWithKey, List.map_map]
  rfl

theorem findKey?_map (k : κ) (entries : List (κ × ν)) :
    findKey? k (entries.map fun e => (e.1, f e.1 e.2)) = (findKey? k entries).map (f k) := by
  induction entries with
  | nil => rfl
  | cons head rest ih =>
    rw [List.map_cons, findKey?, findKey?]
    cases hc : compare k head.1 with
    | lt => rfl
    | eq =>
      obtain rfl := Std.LawfulEqCmp.eq_of_compare hc
      rfl
    | gt => exact ih

@[simp] theorem find?_mapWithKey (d : Dictionary κ ν) (k : κ) :
    (d.mapWithKey f).find? k = (d.find? k).map (f k) :=
  findKey?_map f k d.entries

end Values

end Dictionary

end Stencil
