import Stencil.Filter.Set
import Stencil.Memo
import Stencil.Token.Compiler

/-!
# Filling templates in

An `Engine` holds the parts, the filters and two tables of results: one for whole templates, one for
single tokens. The table of tokens is keyed by the text of a token and shared by all templates.

`replacement` is what a token stands for: the part with its key, passed through its filters and
shown as text, or the token itself if there is no such part. `Engine.resolve` looks a token up
before it works the replacement out, and `Engine.run` does the same for a template. What a table
holds is used even after the parts or the filters have changed. A token that fails leaves nothing
behind in the tables, and ends the run of its template.

The bound letters may change at any time, so an engine builds its pattern anew for each template it
searches. This is when its compiler of expressions is asked: an engine that has been built may still
turn out not to be `Accepted`, and no template is searched then.
-/

namespace Stencil

/-- An engine that fills templates in. `σ` is what its filters remember. -/
structure Engine (σ : Type) where
  /-- What compiles the expression for the tokens. -/
  compiler : ExpressionCompiler
  /-- The delimiters, and whether results are kept. -/
  config : Config
  /-- The filters by letter. -/
  filters : FilterSet σ
  /-- The replacement values by key. -/
  parts : Parts
  /-- The results for whole templates. -/
  templates : Memo
  /-- The results for single tokens. -/
  tokens : Memo
  /-- How many templates were searched for tokens. -/
  scans : Nat

/-- What an engine has counted. -/
structure EngineStats where
  /-- Templates searched for tokens. -/
  scans : Nat
  /-- The table of whole templates. -/
  templates : MemoStats
  /-- The table of single tokens. -/
  tokens : MemoStats
  deriving DecidableEq, Repr

/-- What an operation ends in, with the engine and the memory of its filters afterwards. -/
structure Outcome (σ α : Type) where
  /-- The result. -/
  result : Except Error α
  /-- The engine afterwards. -/
  engine : Engine σ
  /-- What the filters remember afterwards. -/
  memory : σ

/-- The outcome with another result in case of success. -/
def Outcome.map {σ α β : Type} (f : α → β) (o : Outcome σ α) : Outcome σ β :=
  { o with result := o.result.map f }

variable {σ : Type}

/-- What a token stands for, given the parts and the filters. -/
def replacement (parts : Parts) (filters : FilterSet σ) (t : Token) (memory : σ) :
    Except Error String × σ :=
  match parts.find? t.key with
  | none => (.ok t.text, memory)
  | some v =>
    match t.filters with
    | none => (.ok v.text, memory)
    | some letters =>
      let (result, memory) := filters.apply letters.toList v memory
      (result.map Value.text, memory)

namespace Engine

/-- An engine that has done nothing yet. The delimiters must not be empty. Nothing is compiled. -/
def build (compiler : ExpressionCompiler) (config : Config) (filters : FilterSet σ)
    (parts : Parts) : Except Error (Engine σ) := do
  config.check
  return {
    compiler, config, filters, parts
    templates := .empty config.memoize
    tokens := .empty config.memoize
    scans := 0 }

/-- What the engine has counted. -/
def stats (e : Engine σ) : EngineStats :=
  ⟨e.scans, e.templates.stats, e.tokens.stats⟩

/-- **The compiler accepts the engine.** It has nothing to say against the expression for the
tokens, as things stand. -/
def Accepted (e : Engine σ) : Prop :=
  e.compiler.Accepts e.config e.filters.letters

/-- How the engine recognises tokens. -/
def pattern (e : Engine σ) : Except Error Pattern :=
  Pattern.build e.compiler e.config e.filters.letters

/-- The tokens of a template at their places. -/
def occurrences (e : Engine σ) (template : String) : Except Error (List Occurrence) :=
  e.pattern.map (·.occurrences template)

/-- Switches both tables on or off. What they hold is kept. -/
def setMemoize (e : Engine σ) (memoize : Bool) : Engine σ :=
  { e with
    config := { e.config with memoize }
    templates := e.templates.setEnabled memoize
    tokens := e.tokens.setEnabled memoize }

/-- The engine with other parts. -/
def setParts (e : Engine σ) (parts : Parts) : Engine σ :=
  { e with parts }

/-- The engine with other filters. -/
def setFilters (e : Engine σ) (filters : FilterSet σ) : Engine σ :=
  { e with filters }

/-- Finds what a token stands for, in the table or by working it out. -/
def resolve (e : Engine σ) (t : Token) (memory : σ) : Outcome σ String :=
  match e.tokens.get t.text with
  | (some text, tokens) => ⟨.ok text, { e with tokens }, memory⟩
  | (none, tokens) =>
    match replacement e.parts e.filters t memory with
    | (.ok text, memory) => ⟨.ok text, { e with tokens := tokens.insert t.text text }, memory⟩
    -- the lookup stays counted, but nothing is stored
    | (.error err, memory) => ⟨.error err, { e with tokens }, memory⟩

/-- Copies literals and resolves tokens, up to the first token that fails. -/
def fill (e : Engine σ) : List Segment → σ → Outcome σ (List Char)
  | [], memory => ⟨.ok [], e, memory⟩
  | .literal c :: rest, memory => (e.fill rest memory).map (c :: ·)
  | .token t :: rest, memory =>
    match e.resolve t memory with
    | ⟨.ok text, e, memory⟩ => (e.fill rest memory).map (text.toList ++ ·)
    | ⟨.error err, e, memory⟩ => ⟨.error err, e, memory⟩

/-- Fills a template in, from the table or token by token. -/
def run (e : Engine σ) (template : String) (memory : σ) : Outcome σ String :=
  match e.templates.get template with
  | (some text, templates) => ⟨.ok text, { e with templates }, memory⟩
  | (none, templates) =>
    let e := { e with templates }
    match e.pattern with
    -- no search has begun, so none is counted
    | .error err => ⟨.error err, e, memory⟩
    | .ok p =>
      match ({ e with scans := e.scans + 1 }).fill (p.segments template.toList) memory with
      | ⟨.ok cs, e, memory⟩ =>
        let text := String.ofList cs
        ⟨.ok text, { e with templates := e.templates.insert template text }, memory⟩
      | ⟨.error err, e, memory⟩ => ⟨.error err, e, memory⟩

end Engine

end Stencil
