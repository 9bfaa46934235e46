import Stencil.Dictionary

/-!
# Tables of results

A `Memo` keeps texts under texts and counts its lookups. Nothing is ever dropped from it. While it
is disabled, lookups find nothing, nothing is stored and nothing is counted, and what was stored
before is kept.
-/

namespace Stencil

/-- What a table has counted. -/
structure MemoStats where
  /-- Lookups that found something. -/
  hits : Nat := 0
  /-- Lookups that found nothing. -/
  misses : Nat := 0
  /-- Stored entries. -/
  entries : Nat := 0
  deriving DecidableEq, Repr

namespace MemoStats

/-- A count as a double. Counts fit in 64 bits. -/
def toFloat (count : Nat) : Float :=
  count.toUInt64.toFloat

/-- The lookups that found something, in percent; zero if there were no lookups. -/
def hitRate (stats : MemoStats) : Float :=
  let total := stats.hits + stats.misses
  if total = 0 then 0 else toFloat stats.hits / toFloat total * 100

/-- The lookups that found nothing, in percent; zero if there were no lookups. -/
def missRate (stats : MemoStats) : Float :=
  if stats.hits + stats.misses = 0 then 0 else 100 - stats.hitRate

end MemoStats

/-- A table of results that can be switched off. -/
structure Memo where
  /-- The stored results. -/
  entries : Dictionary String String := ∅
  /-- Whether the table is in use. -/
  enabled : Bool := true
  /-- Lookups that found something. -/
  hits : Nat := 0
  /-- Lookups that found nothing. -/
  misses : Nat := 0

namespace Memo

/-- A table without entries. -/
def empty (enabled : Bool) : Memo :=
  { enabled }

/-- Looks a key up and counts the lookup. -/
def get (m : Memo) (key : String) : Option String × Memo :=
  if m.enabled then
    match m.entries.find? key with
    | some text => (some text, { m with hits := m.hits + 1 })
    | none => (none, { m with misses := m.misses + 1 })
  else (none, m)

/-- Stores a result, unless the table is disabled. -/
def insert (m : Memo) (key text : String) : Memo :=
  if m.enabled then { m with entries := m.entries.insert key text } else m

/-- Switches the table on or off. -/
def setEnabled (m : Memo) (enabled : Bool) : Memo :=
  { m with enabled }

/-- Whether something is stored under a key, even while the table is disabled. -/
def contains (m : Memo) (key : String) : Bool :=
  m.entries.contains key

/-- The number of stored entries. -/
def size (m : Memo) : Nat :=
  m.entries.size

/-- Whether nothing is stored. -/
def isEmpty (m : Memo) : Bool :=
  m.entries.isEmpty

/-- What the table has counted. -/
def stats (m : Memo) : MemoStats :=
  ⟨m.hits, m.misses, m.entries.size⟩

@[simp] theorem entries_get (m : Memo) (key : String) : (m.get key).2.entries = m.entries := by
  unfold get
  split <;> try rfl
  split <;> rfl

@[simp] theorem enabled_get (m : Memo) (key : String) : (m.get key).2.enabled = m.enabled := by
  unfold get
  split <;> try rfl
  split <;> rfl

@[simp] theorem enabled_insert (m : Memo) (key text : String) :
    (m.insert key text).enabled = m.enabled := by
  unfold insert
  split <;> rfl

/-- A disabled table does nothing on a lookup. -/
theorem get_of_disabled {m : Memo} (h : m.enabled = false) (key : String) :
    m.get key = (none, m) := by
  simp [get, h]

/-- A disabled table does nothing on a store. -/
theorem insert_of_disabled {m : Memo} (h : m.enabled = false) (key text : String) :
    m.insert key text = m := by
  simp [insert, h]

end Memo

end Stencil
