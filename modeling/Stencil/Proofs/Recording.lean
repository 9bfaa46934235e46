import Stencil.Engine.Basic
import Stencil.Proofs.Dictionary

/-!
# Listening to filters

To say in which order filters are called, a set of filters is replaced by one that keeps a list of
its calls. A recorded filter does what the filter does, and adds its call to a list that it carries
next to what the filter remembers: `FilterSet.recorded` does this for all filters of a set.
Recording changes no answer, and nothing of what the filters themselves remember.

The calls of a chain that succeeds are known (`FilterSet.apply_recorded`): there is one for each
bound letter, in order, and each is made on what the one before it has answered. So are the calls
for a token (`replacement_recorded`), which are those of its filter group, made on its part;
`Token.Transforms` says so.
-/

namespace Stencil

variable {σ : Type}

/-- A call of a filter. -/
structure FilterCall where
  /-- The letter that the filter is bound to. -/
  letter : Char
  /-- The value it was called with. -/
  input : Value
  /-- What it answered. -/
  result : Except FilterError Value

/-- The calls make a chain: the first one is made on a value, every other one on what the call
before it has answered, and none of them fails. -/
def FilterCall.Linked : Value → List FilterCall → Prop
  | _, [] => True
  | v, call :: calls => call.input = v ∧ ∃ u, call.result = .ok u ∧ Linked u calls

/-- The filter that does the same, and adds its call to a list. -/
def Filter.recorded (letter : Char) (f : Filter σ) : Filter (σ × List FilterCall) :=
  ⟨f.name, fun v memory =>
    let answer := f.run v memory.1
    (answer.1, (answer.2, memory.2 ++ [⟨letter, v, answer.1⟩]))⟩

namespace FilterSet

/-- The filters that do the same, and add their calls to a list. -/
def recorded (fs : FilterSet σ) : FilterSet (σ × List FilterCall) :=
  Dictionary.mapWithKey Filter.recorded fs

@[simp] theorem find?_recorded (fs : FilterSet σ) (letter : Char) :
    Dictionary.find? fs.recorded letter = (fs.find? letter).map (Filter.recorded letter) :=
  Dictionary.find?_mapWithKey ..

@[simp] theorem letters_recorded (fs : FilterSet σ) : fs.recorded.letters = fs.letters :=
  Dictionary.keys_mapWithKey ..

/-- **A chain of filters.** Recording changes no answer, and a chain that succeeds calls the bound
letters from left to right. -/
theorem apply_recorded (fs : FilterSet σ) (letters : List Char) (v : Value) (memory : σ)
    (log : List FilterCall) :
    ∃ calls, fs.recorded.apply letters v (memory, log)
        = ((fs.apply letters v memory).1, ((fs.apply letters v memory).2, log ++ calls)) ∧
      ∀ u, (fs.apply letters v memory).1 = .ok u →
        calls.map (·.letter) = letters.filter fs.contains ∧ FilterCall.Linked v calls := by
  induction letters generalizing v memory log with
  | nil => exact ⟨[], by rw [List.append_nil]; rfl, fun _ _ => ⟨rfl, trivial⟩⟩
  | cons letter rest ih =>
    cases hf : fs.find? letter with
    | none =>
      have hf' : Dictionary.find? fs.recorded letter = none := by rw [find?_recorded, hf]; rfl
      have hunbound : fs.contains letter = false := by rw [Dictionary.contains, hf]; rfl
      rw [apply_cons_of_none hf, apply_cons_of_none hf',
        List.filter_cons_of_neg (by simp [hunbound])]
      exact ih v memory log
    | some f =>
      have hf' : Dictionary.find? fs.recorded letter = some (f.recorded letter) := by
        rw [find?_recorded, hf]; rfl
      have hbound : fs.contains letter = true := by rw [Dictionary.contains, hf]; rfl
      -- both filters answer alike, and the recorded one has one call more in its list
      rcases hrun : f.run v memory with ⟨result, after⟩
      have hrun' : (f.recorded letter).run v (memory, log)
          = (result, (after, log ++ [⟨letter, v, result⟩])) := by
        dsimp only [Filter.recorded]
        rw [hrun]
      cases result with
      | error cause =>
        -- the call that fails is the last one; of such a chain nothing more is claimed
        refine ⟨[⟨letter, v, .error cause⟩], ?_, fun u hu => ?_⟩
        · simp only [apply, hf, hf', hrun, hrun']
        · simp only [apply, hf, hrun, reduceCtorEq] at hu
      | ok u =>
        -- the rest of the chain goes on from the answer, with one call more in the list
        obtain ⟨calls, hrest, hcalls⟩ := ih u after (log ++ [⟨letter, v, .ok u⟩])
        have happly : fs.apply (letter :: rest) v memory = fs.apply rest u after := by
          simp only [apply, hf, hrun]
        have happly' : fs.recorded.apply (letter :: rest) v (memory, log)
            = fs.recorded.apply rest u (after, log ++ [⟨letter, v, .ok u⟩]) := by
          simp only [apply, hf', hrun']
        refine ⟨⟨letter, v, .ok u⟩ :: calls, ?_, fun w hw => ?_⟩
        · rw [happly', happly, hrest, List.append_assoc]
          rfl
        · rw [happly] at hw
          obtain ⟨hletters, hlinked⟩ := hcalls w hw
          rw [List.filter_cons_of_pos hbound, ← hletters]
          exact ⟨rfl, rfl, u, rfl, hlinked⟩

end FilterSet

/-- The calls that transform a token: its bound letters from left to right, the first one on the
part and each other one on the answer before it. There are none if there is no part or no filter
group. -/
def Token.Transforms (parts : Parts) (filters : FilterSet σ) (t : Token)
    (calls : List FilterCall) : Prop :=
  match parts.find? t.key, t.filters with
  | some v, some letters =>
    calls.map (·.letter) = letters.toList.filter filters.contains ∧ FilterCall.Linked v calls
  | _, _ => calls = []

/-- **A replacement.** Recording changes no answer, and a replacement that succeeds transforms its
token. -/
theorem replacement_recorded (parts : Parts) (filters : FilterSet σ) (t : Token) (memory : σ)
    (log : List FilterCall) :
    ∃ calls, replacement parts filters.recorded t (memory, log)
        = ((replacement parts filters t memory).1,
            ((replacement parts filters t memory).2, log ++ calls)) ∧
      ∀ text, (replacement parts filters t memory).1 = .ok text →
        t.Transforms parts filters calls := by
  unfold replacement Token.Transforms
  cases parts.find? t.key with
  | none => exact ⟨[], by rw [List.append_nil], fun _ _ => rfl⟩
  | some v =>
    cases t.filters with
    | none => exact ⟨[], by rw [List.append_nil], fun _ _ => rfl⟩
    | some letters =>
      obtain ⟨calls, happly, hcalls⟩ := filters.apply_recorded letters.toList v memory log
      dsimp only
      refine ⟨calls, by rw [happly], fun text htext => ?_⟩
      cases hresult : (filters.apply letters.toList v memory).1 with
      | ok u => exact hcalls u hresult
      | error err =>
        rw [hresult] at htext
        cases htext

end Stencil
