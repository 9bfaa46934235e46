/-!
# Working through lists

Some steps may fail, and the first one that does ends the work. `mapM` collects the results of a
list: it succeeds exactly when every item has a result (`mapM_eq_ok_iff`), and otherwise it fails as
the first item without a result does (`mapM_eq_error_iff`). `foldlM` carries a state along, and
keeps what every step keeps (`foldlM_keeps`). If the steps fail only in reading their items, then
all items may as well be read first (`foldlM_read`).

Where each item of a list may change something, the last one that does decides: `lastSaid?` is what
that item says, and `foldl_eq_lastSaid?` is the run lemma. `exists_last` finds the last item with a
property.
-/

namespace Stencil

variable {α β ε : Type}

/-- Two steps succeed exactly when the one does, and then the other. -/
theorem bind_eq_ok_iff {x : Except ε α} {f : α → Except ε β} {b : β} :
    x >>= f = .ok b ↔ ∃ a, x = .ok a ∧ f a = .ok b := by
  cases x with
  | error err => exact ⟨fun h => (by cases h), fun ⟨_, h, _⟩ => (by cases h)⟩
  | ok a =>
    constructor
    · intro h
      exact ⟨a, rfl, h⟩
    · rintro ⟨a', h, hb⟩
      obtain rfl := Except.ok.inj h
      exact hb

/-- Two steps fail as the one does, or else as the other. -/
theorem bind_eq_error_iff {x : Except ε α} {f : α → Except ε β} {err : ε} :
    x >>= f = .error err ↔ x = .error err ∨ ∃ a, x = .ok a ∧ f a = .error err := by
  cases x with
  | error err' =>
    constructor
    · intro h
      exact .inl (congrArg _ (Except.error.inj h))
    · rintro (h | ⟨a, h, -⟩)
      · exact congrArg _ (Except.error.inj h)
      · cases h
  | ok a =>
    constructor
    · intro h
      exact .inr ⟨a, rfl, h⟩
    · rintro (h | ⟨a', h, herr⟩)
      · cases h
      · obtain rfl := Except.ok.inj h
        exact herr

/-- A mapped result is a result. -/
theorem map_eq_error_iff {x : Except ε α} {f : α → β} {err : ε} :
    x.map f = .error err ↔ x = .error err := by
  cases x <;> simp [Except.map]

theorem exists_map_eq_ok_iff {x : Except ε α} {f : α → β} :
    (∃ b, x.map f = .ok b) ↔ ∃ a, x = .ok a := by
  cases x <;> simp [Except.map]

theorem mapError_eq_ok_iff {δ : Type} {x : Except ε α} {f : ε → δ} {a : α} :
    x.mapError f = .ok a ↔ x = .ok a := by
  cases x with
  | error err => exact ⟨fun h => (by cases h), fun h => (by cases h)⟩
  | ok b => exact ⟨fun h => congrArg _ (Except.ok.inj h), fun h => congrArg _ (Except.ok.inj h)⟩

theorem toOption_eq_some_iff {x : Except ε α} {a : α} : x.toOption = some a ↔ x = .ok a := by
  cases x <;> simp [Except.toOption]

/-! ### Collecting results -/

/-- Each item has a result exactly when there is a list of these results. -/
theorem mapM_eq_ok_iff {f : α → Except ε β} {items : List α} {results : List β} :
    items.mapM f = .ok results ↔ items.map f = results.map .ok := by
  -- both sides by induction on the items, with the results taken apart along with them
  induction items generalizing results with
  | nil =>
    rw [List.mapM_nil]
    constructor
    · intro h
      obtain rfl := Except.ok.inj h
      rfl
    · intro h
      rw [List.map_eq_nil_iff.1 h.symm]
      rfl
  | cons item items ih =>
    rw [List.mapM_cons, List.map_cons, bind_eq_ok_iff]
    constructor
    · rintro ⟨first, hitem, h⟩
      obtain ⟨rest, hitems, hresults⟩ := bind_eq_ok_iff.1 h
      obtain rfl := Except.ok.inj hresults
      rw [hitem, ih.1 hitems, List.map_cons]
    · intro h
      cases results with
      | nil => cases h
      | cons first rest =>
        obtain ⟨hitem, hitems⟩ := List.cons.inj h
        exact ⟨first, hitem, bind_eq_ok_iff.2 ⟨rest, ih.2 hitems, rfl⟩⟩

theorem mapM_congr {f g : α → Except ε β} {items : List α} (h : ∀ item ∈ items, f item = g item) :
    items.mapM f = items.mapM g := by
  induction items with
  | nil => rfl
  | cons item items ih =>
    obtain ⟨hitem, hitems⟩ := List.forall_mem_cons.1 h
    rw [List.mapM_cons, List.mapM_cons, hitem, ih hitems]

/-- **The first failure.** Working through a list fails with the error of the first item that has no
result. -/
theorem mapM_eq_error_iff {f : α → Except ε β} {items : List α} {err : ε} :
    items.mapM f = .error err ↔
      ∃ before item behind, items = before ++ item :: behind ∧
        (∀ item' ∈ before, ∃ result, f item' = .ok result) ∧ f item = .error err := by
  constructor
  · intro h
    induction items with
    | nil => cases h
    | cons head items ih =>
      rw [List.mapM_cons] at h
      cases hhead : f head with
      -- the first item is the one that fails, and nothing stands before it
      | error err' =>
        rw [hhead] at h
        obtain rfl := Except.error.inj h
        exact ⟨[], head, items, rfl, fun _ hmem => absurd hmem List.not_mem_nil, hhead⟩
      | ok first =>
        -- the failure is behind this item, which then belongs to those before
        cases hitems : items.mapM f with
        | ok rest =>
          rw [hhead, hitems] at h
          cases h
        | error err' =>
          rw [hhead, hitems] at h
          obtain rfl := Except.error.inj h
          obtain ⟨before, item, behind, rfl, hbefore, hitem⟩ := ih hitems
          have hbefore' := List.forall_mem_cons.2 ⟨⟨first, hhead⟩, hbefore⟩
          exact ⟨head :: before, item, behind, rfl, hbefore', hitem⟩
  · rintro ⟨before, item, behind, rfl, hbefore, hitem⟩
    -- the items before have results, so the work gets to the one that fails
    induction before with
    | nil =>
      rw [List.nil_append, List.mapM_cons, hitem]
      rfl
    | cons head before ih =>
      obtain ⟨⟨first, hhead⟩, hrest⟩ := List.forall_mem_cons.1 hbefore
      rw [List.cons_append, List.mapM_cons, hhead, ih hrest]
      rfl

/-- Each item has a result exactly when there is a list of these results. -/
theorem exists_results_iff {f : α → Except ε β} {items : List α} :
    (∃ results : List β, items.map f = results.map .ok) ↔
      ∀ item ∈ items, ∃ result, f item = .ok result := by
  induction items with
  | nil => exact ⟨fun _ item hitem => absurd hitem List.not_mem_nil, fun _ => ⟨[], rfl⟩⟩
  | cons item items ih =>
    constructor
    · rintro ⟨results, hresults⟩
      cases results with
      | nil => cases hresults
      | cons result results =>
        obtain ⟨hitem, hitems⟩ := List.cons.inj hresults
        exact List.forall_mem_cons.2 ⟨⟨result, hitem⟩, ih.1 ⟨results, hitems⟩⟩
    · intro h
      obtain ⟨⟨result, hitem⟩, hitems⟩ := List.forall_mem_cons.1 h
      obtain ⟨results, hresults⟩ := ih.2 hitems
      exact ⟨result :: results, by rw [List.map_cons, hitem, hresults, List.map_cons]⟩

theorem exists_mapM_eq_ok_iff {f : α → Except ε β} {items : List α} :
    (∃ results, items.mapM f = .ok results) ↔ ∀ item ∈ items, ∃ result, f item = .ok result := by
  simp only [mapM_eq_ok_iff, exists_results_iff]

/-- What was collected are the results of the items. -/
theorem mem_of_mapM_eq_ok {f : α → Except ε β} {items : List α} {results : List β}
    (h : items.mapM f = .ok results) {b : β} : b ∈ results ↔ ∃ item ∈ items, f item = .ok b := by
  rw [← List.mem_map, mapM_eq_ok_iff.1 h, List.mem_map]
  simp

/-- If no item speaks of a key, then no entry that is read from the items has it. -/
theorem fst_ne_of_mapM_eq_ok {κ ν : Type} {read : α → Except ε β} {entry : β → κ × ν}
    {items : List α} {readings : List β} {k : κ} (h : items.mapM read = .ok readings)
    (hne : ∀ item ∈ items, ∀ b, read item = .ok b → (entry b).1 ≠ k) :
    ∀ e ∈ readings.map entry, e.1 ≠ k := by
  intro e he
  obtain ⟨b, hb, rfl⟩ := List.mem_map.1 he
  obtain ⟨item, hitem, hread⟩ := (mem_of_mapM_eq_ok h).1 hb
  exact hne item hitem b hread

/-- Where the items are cut, the results can be cut too. -/
theorem of_mapM_append_cons_eq_ok {f : α → Except ε β} {before behind : List α} {item : α}
    {results : List β} (h : (before ++ item :: behind).mapM f = .ok results) :
    ∃ front result back, results = front ++ result :: back ∧ before.mapM f = .ok front ∧
      f item = .ok result ∧ behind.mapM f = .ok back := by
  simp only [mapM_eq_ok_iff] at h ⊢
  rw [List.map_append, List.map_cons] at h
  obtain ⟨front, rest, rfl, hfront, hrest⟩ := List.map_eq_append_iff.1 h.symm
  obtain ⟨result, back, rfl, hresult, hback⟩ := List.map_eq_cons_iff.1 hrest
  exact ⟨front, result, back, rfl, hfront.symm, hresult.symm, hback.symm⟩

/-! ### Carrying a state along -/

/-- What every step of a fold keeps is kept by the fold. -/
theorem foldlM_keeps {P : β → Prop} {f : β → α → Except ε β}
    (hstep : ∀ b a b', P b → f b a = .ok b' → P b') {items : List α} {b b' : β} (hb : P b)
    (h : items.foldlM f b = .ok b') : P b' := by
  induction items generalizing b with
  | nil =>
    obtain rfl := Except.ok.inj h
    exact hb
  | cons item items ih =>
    rw [List.foldlM_cons] at h
    obtain ⟨next, hitem, hitems⟩ := bind_eq_ok_iff.1 h
    -- the state behind the first step has the property, so the rest may start from it
    exact ih (hstep b item next hb hitem) hitems

/-- **Reading first.** If each step reads its item and then carries the state on, it makes no
difference to read all items before. The first item that cannot be read ends the work either way. -/
theorem foldlM_read {γ : Type} (read : α → Except ε γ) (carry : β → γ → β) (items : List α)
    (b : β) :
    items.foldlM (fun b item => (read item).map (carry b)) b
      = (items.mapM read).map fun readings => readings.foldl carry b := by
  induction items generalizing b with
  | nil => rfl
  | cons item items ih =>
    rw [List.foldlM_cons, List.mapM_cons]
    -- an item that cannot be read ends both sides, and otherwise both carry the state on
    cases read item with
    | error err => rfl
    | ok reading =>
      change items.foldlM _ (carry b reading) = _
      rw [ih]
      cases items.mapM read <;> rfl

/-! ### The last word -/

/-- Of the items with a property, one is the last. -/
theorem exists_last {P : α → Prop} {items : List α} (h : ∃ a ∈ items, P a) :
    ∃ before a behind, items = before ++ a :: behind ∧ P a ∧ ∀ a' ∈ behind, ¬ P a' := by
  induction items with
  | nil =>
    obtain ⟨a, ha, -⟩ := h
    exact absurd ha List.not_mem_nil
  | cons first items ih =>
    by_cases hlater : ∃ a ∈ items, P a
    · -- a later item has the property, so the first one is not the last with it
      obtain ⟨before, a, behind, rfl, hP, hlast⟩ := ih hlater
      exact ⟨first :: before, a, behind, rfl, hP, hlast⟩
    · have hlast : ∀ a ∈ items, ¬ P a := fun a ha hP => hlater ⟨a, ha, hP⟩
      -- no later item has it, so it must be the first
      obtain ⟨a, ha, hP⟩ := h
      obtain rfl | hmem := List.mem_cons.1 ha
      · exact ⟨[], a, items, rfl, hP, hlast⟩
      · exact absurd hP (hlast a hmem)

section LastSaid

variable {π : Type}

/-- What the last item that says anything says. -/
def lastSaid? (word : α → Option β) (items : List α) : Option β :=
  (items.filterMap word).getLast?

@[simp] theorem lastSaid?_nil (word : α → Option β) : lastSaid? word [] = none := rfl

/-- The first item counts only if no later one says anything. -/
theorem lastSaid?_cons (word : α → Option β) (a : α) (items : List α) :
    lastSaid? word (a :: items) = (lastSaid? word items).or (word a) := by
  unfold lastSaid?
  -- an item that says nothing drops out of the list of words
  cases hsaid : word a with
  | none => rw [List.filterMap_cons_none hsaid, Option.or_none]
  | some b =>
    rw [List.filterMap_cons_some hsaid, List.getLast?_cons]
    cases (items.filterMap word).getLast? <;> rfl

/-- Something was said exactly if some item says anything. -/
theorem isSome_lastSaid?_iff {word : α → Option β} {items : List α} :
    (lastSaid? word items).isSome ↔ ∃ a ∈ items, ∃ b, word a = some b := by
  induction items with
  | nil => exact ⟨fun h => (by cases h), fun ⟨a, ha, _⟩ => absurd ha List.not_mem_nil⟩
  | cons a items ih =>
    simp only [List.mem_cons, exists_eq_or_imp]
    rw [lastSaid?_cons, Option.isSome_or, Bool.or_eq_true, ih, Option.isSome_iff_exists]
    exact or_comm

/-- **The last word counts.** If each step changes a field to what it says about it, and leaves the
field alone if it says nothing, then many steps change it to what was said last. -/
theorem foldl_eq_lastSaid? (field : π → β) {step : π → α → π} {word : α → Option β}
    (h : ∀ p a, field (step p a) = (word a).getD (field p)) (p : π) (items : List α) :
    field (items.foldl step p) = (lastSaid? word items).getD (field p) := by
  induction items generalizing p with
  | nil => rfl
  | cons a items ih =>
    rw [List.foldl_cons, ih, h, lastSaid?_cons, Option.getD_or]

/-- The same for a field that may be empty, if a step that says nothing leaves what was there. -/
theorem foldl_eq_lastSaid?_or (field : π → Option β) {step : π → α → π} {word : α → Option β}
    (h : ∀ p a, field (step p a) = (word a).or (field p)) (p : π) (items : List α) :
    field (items.foldl step p) = (lastSaid? word items).or (field p) := by
  induction items generalizing p with
  | nil => rfl
  | cons a items ih => rw [List.foldl_cons, ih, h, lastSaid?_cons, Option.or_assoc]

end LastSaid

end Stencil
