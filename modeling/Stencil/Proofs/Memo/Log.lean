import Stencil.Proofs.Dictionary
import Stencil.Proofs.Memo
import Stencil.Proofs.Traversal

/-!
# The log of a table

A table is asked to look keys up, to store texts, and to be switched on or off, in any order. A log
has one line for each of these requests: what was asked, whether the table was in use then, and what
was found. This file says that the log tells everything about the table behind it
(`Memo.log_tells_table`): what is found, what is held, how many entries there are, and what was
counted.

Each part of a table has one equation about a single request (`Memo.enabled_perform`,
`Memo.find?_perform`, `Memo.counts_perform`), and one about a whole log that follows from it by
induction on the requests. A store is never undone, only covered by a later one under the same key,
so what is held is what the log has stored last (`Memo.find?_after`). The number of entries needs no
induction of its own, because the keys of the table are known by then.
-/

namespace Stencil

namespace Memo

/-- What can be asked of a table. -/
inductive Request where
  /-- To look a key up. -/
  | get (key : String)
  /-- To store a text under a key. -/
  | insert (key text : String)
  /-- To be switched on or off. -/
  | setEnabled (enabled : Bool)
  deriving DecidableEq, Repr

namespace Request

/-- How the table is switched, by a request that does this. -/
def switch? : Request → Option Bool
  | setEnabled enabled => some enabled
  | get _ | insert _ _ => none

/-- Whether the request is a lookup. -/
def isGet : Request → Bool
  | get _ => true
  | insert _ _ | setEnabled _ => false

end Request

/-- One line of a log. -/
structure LogLine where
  /-- What was asked. -/
  request : Request
  /-- Whether the table was in use then. -/
  enabled : Bool
  /-- What was found, if the request is a lookup. -/
  found : Option String
  deriving DecidableEq, Repr

namespace LogLine

/-- The key and the text that were stored. Nothing is stored while the table is off. -/
def stored? : LogLine → Option (String × String)
  | ⟨.insert key text, true, _⟩ => some (key, text)
  | _ => none

/-- The text that was stored under a given key. -/
def storedUnder? (key : String) (line : LogLine) : Option String :=
  line.stored?.bind fun entry => if entry.1 = key then some entry.2 else none

/-- A lookup that found something while the table was in use. -/
def isHit : LogLine → Bool
  | ⟨.get _, true, some _⟩ => true
  | _ => false

/-- A lookup that found nothing while the table was in use. -/
def isMiss : LogLine → Bool
  | ⟨.get _, true, none⟩ => true
  | _ => false

theorem storedUnder?_eq_some_iff {line : LogLine} {key text : String} :
    line.storedUnder? key = some text ↔ line.stored? = some (key, text) := by
  unfold storedUnder?
  cases line.stored? with
  | none => simp
  | some entry =>
    obtain ⟨key', text'⟩ := entry
    by_cases h : key' = key <;> simp [h]

end LogLine

variable {m : Memo}

/-- The table behind a request. -/
def perform (m : Memo) : Request → Memo
  | .get key => (m.get key).2
  | .insert key text => m.insert key text
  | .setEnabled enabled => m.setEnabled enabled

/-- The line that a request leaves in the log. -/
def line (m : Memo) : Request → LogLine
  | .get key => ⟨.get key, m.enabled, (m.get key).1⟩
  | .insert key text => ⟨.insert key text, m.enabled, none⟩
  | .setEnabled enabled => ⟨.setEnabled enabled, m.enabled, none⟩

/-- The table behind some requests, in order. -/
def after (m : Memo) (requests : List Request) : Memo :=
  requests.foldl perform m

/-- The log of some requests, in order. -/
def log (m : Memo) : List Request → List LogLine
  | [] => []
  | r :: rs => m.line r :: (m.perform r).log rs

/-! ### One request -/

theorem enabled_perform (m : Memo) (r : Request) :
    (m.perform r).enabled = r.switch?.getD m.enabled := by
  cases r with
  | get key => exact m.enabled_get key
  | insert key text => exact m.enabled_insert key text
  | setEnabled enabled => rfl

/-- Of a table that is off, a request changes at most the switch. -/
theorem perform_of_disabled (h : m.enabled = false) (r : Request) :
    m.perform r = m.setEnabled (r.switch?.getD false) := by
  have hsame : m.setEnabled false = m := by
    rw [← h]
    rfl
  cases r with
  | get key => exact (congrArg Prod.snd (get_of_disabled h key)).trans hsame.symm
  | insert key text => exact (insert_of_disabled h key text).trans hsame.symm
  | setEnabled enabled => rfl

/-- A table holds what the request has just stored, and what it held before. -/
theorem find?_perform (m : Memo) (r : Request) (key : String) :
    (m.perform r).entries.find? key = ((m.line r).storedUnder? key).or (m.entries.find? key) := by
  cases r with
  | get key' =>
    -- a lookup leaves the entries alone
    rw [perform, entries_get]
    rfl
  | setEnabled enabled => rfl
  | insert key' text =>
    cases h : m.enabled with
    | false =>
      -- the table drops the store, and its line does not count as one
      rw [perform, insert_of_disabled h, line, h]
      rfl
    | true =>
      -- the store covers what was held under its own key
      rw [perform, find?_insert h, line, h]
      change _ = (if key' = key then some text else none).or _
      by_cases hkey : key = key'
      · rw [if_pos hkey, if_pos hkey.symm, Option.some_or]
      · rw [if_neg hkey, if_neg (Ne.symm hkey), Option.none_or]

/-- A request adds one to the hits or to the misses if its line is one, and to nothing otherwise. -/
theorem counts_perform (m : Memo) (r : Request) :
    (m.perform r).hits = m.hits + (if (m.line r).isHit then 1 else 0) ∧
      (m.perform r).misses = m.misses + if (m.line r).isMiss then 1 else 0 := by
  cases r with
  | setEnabled enabled => exact ⟨rfl, rfl⟩
  | insert key text =>
    -- stored or dropped, nothing is counted
    rw [perform, insert]
    split <;> exact ⟨rfl, rfl⟩
  | get key =>
    cases h : m.enabled with
    | false =>
      -- nothing is counted, and the line is neither a hit nor a miss
      rw [perform, line, get_of_disabled h, h]
      exact ⟨rfl, rfl⟩
    | true =>
      -- in use, the line says what the lookup has found, and the counters go by the same
      rw [perform, line, get, if_pos h, h]
      cases m.entries.find? key <;> exact ⟨rfl, rfl⟩

/-- A hit or a miss is a lookup, and no line is both. -/
theorem isHit_add_isMiss_le (m : Memo) (r : Request) :
    (if (m.line r).isHit then 1 else 0) + (if (m.line r).isMiss then 1 else 0)
      ≤ if r.isGet then 1 else 0 := by
  cases r with
  | setEnabled enabled => exact Nat.le_refl 0
  | insert key text => exact Nat.le_refl 0
  | get key =>
    rw [line]
    -- the line shows no more of the table than its switch and what was found
    generalize m.enabled = enabled, (m.get key).1 = found
    cases enabled <;> cases found <;> simp [LogLine.isHit, LogLine.isMiss, Request.isGet]

/-! ### Requests in turn -/

/-- The switch stands as it was set last. -/
theorem enabled_after (m : Memo) (requests : List Request) :
    (m.after requests).enabled = (lastSaid? Request.switch? requests).getD m.enabled :=
  foldl_eq_lastSaid? Memo.enabled enabled_perform m requests

/-- **What is held is what was stored last.** -/
theorem find?_after (m : Memo) (requests : List Request) (key : String) :
    (m.after requests).entries.find? key
      = (lastSaid? (LogLine.storedUnder? key) (m.log requests)).or (m.entries.find? key) := by
  induction requests generalizing m with
  | nil => rfl
  | cons r rs ih =>
    -- a later store covers this one, so what comes behind the first request is asked first
    change ((m.perform r).after rs).entries.find? key = _
    rw [ih, find?_perform, log, lastSaid?_cons, Option.or_assoc]

/-- **What is counted are the hits and misses of the log.** -/
theorem counts_after (m : Memo) (requests : List Request) :
    (m.after requests).hits = m.hits + (m.log requests).countP LogLine.isHit ∧
      (m.after requests).misses = m.misses + (m.log requests).countP LogLine.isMiss := by
  induction requests generalizing m with
  | nil => exact ⟨rfl, rfl⟩
  | cons r rs ih =>
    obtain ⟨hhits, hmisses⟩ := ih (m.perform r)
    obtain ⟨hhit, hmiss⟩ := m.counts_perform r
    change ((m.perform r).after rs).hits = _ ∧ ((m.perform r).after rs).misses = _
    rw [log, List.countP_cons, List.countP_cons]
    omega

/-- There are no more hits and misses than lookups. -/
theorem countP_isHit_add_countP_isMiss_le (m : Memo) (requests : List Request) :
    (m.log requests).countP LogLine.isHit + (m.log requests).countP LogLine.isMiss
      ≤ requests.countP Request.isGet := by
  induction requests generalizing m with
  | nil => exact Nat.le_refl 0
  | cons r rs ih =>
    have hrest := ih (m.perform r)
    have hline := m.isHit_add_isMiss_le r
    rw [log, List.countP_cons, List.countP_cons, List.countP_cons]
    -- the line of the first request counts for at most one lookup, and the rest by induction
    omega

/-- A table that was empty holds the keys of the stores in its log. -/
theorem isSome_find?_after_iff (created : Bool) (requests : List Request) (key : String) :
    (((empty created).after requests).entries.find? key).isSome ↔
      ∃ text, (key, text) ∈ ((empty created).log requests).filterMap LogLine.stored? := by
  have hempty : (empty created).entries.find? key = none := Dictionary.find?_empty key
  rw [find?_after, hempty, Option.or_none, isSome_lastSaid?_iff]
  simp only [LogLine.storedUnder?_eq_some_iff, List.mem_filterMap]
  -- the last word exists as soon as some line speaks of the key
  constructor
  · rintro ⟨line, hline, text, hstored⟩
    exact ⟨text, line, hline, hstored⟩
  · rintro ⟨text, line, hline, hstored⟩
    exact ⟨line, hline, text, hstored⟩

/-- **The log tells everything about the table.** Take a table that was created in use or not, and
any requests made of it in turn.

* It is in use as it was switched last, or else as it was created.
* A lookup finds exactly what was stored last under its key while the table was in use, and only if
  the table is in use now.
* Something is stored under a key exactly if a store under it was asked for while the table was in
  use, whether it is in use now or not.
* There are as many entries as different keys in these stores. The hits are the lookups that found
  something while the table was in use, and the misses are those that found nothing then.
* So the two counters stay below the number of lookups.
* A request that is made while the table is off changes neither entries nor counters. -/
theorem log_tells_table (created : Bool) (requests : List Request) :
    let m := (empty created).after requests
    let log := (empty created).log requests
    let stores := log.filterMap LogLine.stored?
    m.enabled = (lastSaid? Request.switch? requests).getD created ∧
    (∀ key text, (m.get key).1 = some text ↔
      m.enabled = true ∧ lastSaid? (LogLine.storedUnder? key) log = some text) ∧
    (∀ key, m.contains key = true ↔ ∃ text, (key, text) ∈ stores) ∧
    m.size = (stores.map Prod.fst).dedup.length ∧
    m.stats = ⟨log.countP LogLine.isHit, log.countP LogLine.isMiss, m.size⟩ ∧
    m.hits + m.misses ≤ requests.countP Request.isGet ∧
    (m.enabled = false → ∀ r,
      (m.perform r).entries = m.entries ∧ (m.perform r).stats = m.stats) := by
  intro m log stores
  have hheld : ∀ key, m.entries.find? key = lastSaid? (LogLine.storedUnder? key) log := by
    intro key
    have hempty : (empty created).entries.find? key = none := Dictionary.find?_empty key
    change ((empty created).after requests).entries.find? key = _
    rw [find?_after, hempty, Option.or_none]
  have hkeys : ∀ key, (m.entries.find? key).isSome ↔ ∃ text, (key, text) ∈ stores :=
    isSome_find?_after_iff created requests
  -- a table that was just created has counted nothing
  have hcounts : m.hits = log.countP LogLine.isHit ∧ m.misses = log.countP LogLine.isMiss := by
    obtain ⟨hhits, hmisses⟩ := (empty created).counts_after requests
    exact ⟨hhits.trans (Nat.zero_add _), hmisses.trans (Nat.zero_add _)⟩
  refine ⟨enabled_after _ requests, fun key text => ?_, hkeys, ?_, ?_, ?_, fun hoff r => ?_⟩
  -- nothing is held that was not stored, so the lookup is read off the log
  · rw [get_eq_some_iff, hheld]
  · -- the keys of the table are those of the stores, and none is listed twice
    refine Dictionary.size_eq_length_dedup fun key => ?_
    rw [Dictionary.mem_keys_iff, hkeys, List.mem_map]
    constructor
    · rintro ⟨text, hmem⟩
      exact ⟨(key, text), hmem, rfl⟩
    · rintro ⟨⟨key', text⟩, hmem, rfl⟩
      exact ⟨text, hmem⟩
  · change MemoStats.mk m.hits m.misses m.size = _
    rw [hcounts.1, hcounts.2]
  · rw [hcounts.1, hcounts.2]
    exact (empty created).countP_isHit_add_countP_isMiss_le requests
  · -- while the table is off, only the switch may move
    rw [perform_of_disabled hoff]
    exact ⟨rfl, rfl⟩

/-- Stores while the table is off, and stores under a key that is held already. -/
def switchedRequests : List Request :=
  [.insert "a" "0", .setEnabled true, .get "a", .insert "a" "1", .insert "b" "2", .get "a",
    .setEnabled false, .insert "a" "3", .insert "c" "4", .get "a", .setEnabled true, .get "a",
    .insert "a" "5", .get "a", .get "c", .setEnabled false]

/-- Of six stores three are made while the table is in use, and of six lookups five. -/
theorem log_tells_table_of_switched_requests :
    ((empty false).after switchedRequests).enabled = false ∧
      ((empty false).after switchedRequests).contains "b" = true ∧
      ((empty false).after switchedRequests).contains "c" = false ∧
      ((empty false).after switchedRequests).stats = ⟨3, 2, 2⟩ ∧
      (((empty false).after switchedRequests).perform (.insert "c" "6")).stats = ⟨3, 2, 2⟩ ∧
      (((empty false).after (switchedRequests ++ [.setEnabled true])).get "a").1 = some "5" := by
  obtain ⟨henabled, -, hcontains, hsize, hstats, -, hoff⟩ :=
    log_tells_table false switchedRequests
  obtain ⟨henabled', hget, -⟩ := log_tells_table false (switchedRequests ++ [.setEnabled true])
  have hstores : ((empty false).log switchedRequests).filterMap LogLine.stored?
      = [("a", "1"), ("b", "2"), ("a", "5")] := by
    with_unfolding_all rfl
  have hstats' : ((empty false).after switchedRequests).stats = ⟨3, 2, 2⟩ := by
    rw [hstats, hsize, hstores]
    with_unfolding_all rfl
  refine ⟨henabled, (hcontains "b").2 ?_, ?_, hstats', ?_, (hget "a" "5").2 ⟨henabled', ?_⟩⟩
  · rw [hstores]
    exact ⟨"2", by simp⟩
  · rw [← Bool.not_eq_true, hcontains, hstores]
    simp
  · rw [(hoff henabled _).2, hstats']
  · with_unfolding_all rfl

end Memo

end Stencil
