import Stencil.Memo

/-!
# What a table keeps

`Memo.Within` says that everything one table holds is held by another, under the same key and with
the same text. Nothing else is compared: the counters and the switch may differ.

A lookup keeps all entries. A store may overwrite one, so it keeps them only if the key is new, or
if the table is switched off and the store does nothing (`Memo.within_insert`). A lookup that finds
nothing says just that (`Memo.get_eq_none_iff`), which is why a store behind such a lookup is safe.
-/

namespace Stencil

namespace Memo

variable {m : Memo} {key text : String}

/-- Everything that the first table holds is held by the second. -/
def Within (m m' : Memo) : Prop :=
  ∀ key text, m.entries.find? key = some text → m'.entries.find? key = some text

theorem Within.refl (m : Memo) : m.Within m := fun _ _ h => h

theorem Within.trans {m m' m'' : Memo} (h : m.Within m') (h' : m'.Within m'') : m.Within m'' :=
  fun key text hfind => h' key text (h key text hfind)

/-- What the larger table does not hold, the smaller one does not hold. -/
theorem Within.find?_eq_none {m m' : Memo} (h : m.Within m')
    (hnone : m'.entries.find? key = none) : m.entries.find? key = none := by
  cases hfind : m.entries.find? key with
  | none => rfl
  | some text => rw [h key text hfind] at hnone; cases hnone

theorem within_of_entries_eq {m m' : Memo} (h : m'.entries = m.entries) : m.Within m' :=
  fun key text hfind => by rw [h, hfind]

/-! ### Lookups -/

/-- A lookup finds what the table holds, while it is in use. -/
theorem get_eq_some_iff :
    (m.get key).1 = some text ↔ m.enabled = true ∧ m.entries.find? key = some text := by
  unfold get
  -- whether anything is found is asked only while the table is in use
  split
  case isTrue henabled =>
    split
    case h_1 hfind => simp [henabled, hfind]
    case h_2 hfind => simp [hfind]
  case isFalse hdisabled => simp [hdisabled]

/-- A lookup finds nothing if the table holds nothing under the key, or is not in use. -/
theorem get_eq_none_iff :
    (m.get key).1 = none ↔ (m.enabled = true → m.entries.find? key = none) := by
  unfold get
  split
  case isTrue henabled =>
    split
    case h_1 hfind => simp [henabled, hfind]
    case h_2 hfind => simp [hfind]
  case isFalse hdisabled => simp [hdisabled]

/-- A lookup of something stored counts one hit, and does nothing else. -/
theorem get_of_stored (henabled : m.enabled = true) (hfind : m.entries.find? key = some text) :
    m.get key = (some text, { m with hits := m.hits + 1 }) := by
  simp [get, henabled, hfind]

theorem within_get (m : Memo) (key : String) : m.Within (m.get key).2 :=
  within_of_entries_eq (m.entries_get key)

/-! ### Stores -/

/-- A store is found again, while the table is in use. -/
theorem find?_insert (henabled : m.enabled = true) (key key' text : String) :
    (m.insert key text).entries.find? key'
      = if key' = key then some text else m.entries.find? key' := by
  rw [insert, if_pos henabled]
  exact Dictionary.find?_insert m.entries key key' text

/-- What a table holds after a store was stored now, or was held before. -/
theorem eq_or_find?_of_insert {key' text' : String}
    (h : (m.insert key text).entries.find? key' = some text') :
    (key' = key ∧ text' = text) ∨ m.entries.find? key' = some text' := by
  cases henabled : m.enabled with
  -- a table that is not in use stores nothing
  | false =>
    rw [insert_of_disabled henabled] at h
    exact Or.inr h
  | true =>
    rw [find?_insert henabled] at h
    split at h
    case isTrue hkey => exact Or.inl ⟨hkey, (Option.some.inj h).symm⟩
    case isFalse => exact Or.inr h

/-- A store under a new key keeps everything, and so does a store while the table is not in use. -/
theorem within_insert (h : m.enabled = true → m.entries.find? key = none) (text : String) :
    m.Within (m.insert key text) := by
  intro key' text' hfind
  cases henabled : m.enabled with
  | false => rwa [insert_of_disabled henabled]
  | true =>
    -- nothing was held under the new key, so the key that is held is another one
    have hne : key' ≠ key := by
      rintro rfl
      rw [h henabled] at hfind
      cases hfind
    rw [find?_insert henabled, if_neg hne, hfind]

/-- A store behind a lookup that found nothing keeps everything. -/
theorem within_insert_get (h : (m.get key).1 = none) (text : String) :
    m.Within ((m.get key).2.insert key text) := by
  refine (m.within_get key).trans (within_insert ?_ text)
  -- behind the lookup the table holds what it held before, so the key is still new
  rw [enabled_get, entries_get]
  exact get_eq_none_iff.1 h

/-! ### Answers -/

variable {ε : Type}

/-- The table behind an answer: a text is stored, an error is not. -/
def keep (m : Memo) (key : String) : Except ε String → Memo
  | .ok text => m.insert key text
  | .error _ => m

@[simp] theorem misses_keep (m : Memo) (key : String) (answer : Except ε String) :
    (m.keep key answer).misses = m.misses := by
  cases answer with
  | ok text =>
    rw [keep, insert]
    split <;> rfl
  | error err => rfl

/-- A disabled table does not change with an answer. -/
theorem keep_of_disabled (h : m.enabled = false) (key : String) (answer : Except ε String) :
    m.keep key answer = m := by
  cases answer with
  | ok text => exact insert_of_disabled h key text
  | error err => rfl

end Memo

end Stencil
