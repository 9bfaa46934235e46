import Stencil.Engine.Basic

/-!
# Plans for engines

A `Plan` collects what an engine is to be built from, and is changed step by step before anything is
checked. Its filters are the default ones until a step says otherwise. `process` builds an engine
for a single template; of its two sources of parts, the plan overrides the other one.
-/

namespace Stencil

/-- What an engine is to be built from. -/
structure Plan (σ : Type) where
  /-- The delimiters, and whether results are kept. -/
  config : Config := {}
  /-- The filters by letter. -/
  filters : FilterSet σ := FilterSet.defaults
  /-- The replacement values by key. -/
  parts : Parts := ∅

/-- A change of a plan. -/
inductive PlanStep (σ : Type) where
  /-- Take over a whole configuration. -/
  | config (config : Config)
  /-- Use other brackets. -/
  | brackets (opening closing : String)
  /-- Use another separator. -/
  | separator (separator : String)
  /-- Keep results, or do not. -/
  | memoize (memoize : Bool)
  /-- Add a part. -/
  | part (key : String) (v : Value)
  /-- Add parts. -/
  | parts (parts : Parts)
  /-- Replace all filters. -/
  | filters (filters : FilterSet σ)
  /-- Bind a letter to a filter. -/
  | filter (letter : Char) (f : Filter σ)
  /-- Unbind a letter. -/
  | without (letter : Char)

namespace Plan

variable {σ : Type}

/-- The plan after one more step. -/
def step (plan : Plan σ) : PlanStep σ → Plan σ
  | .config config => { plan with config }
  | .brackets opening closing => { plan with config := plan.config.withBrackets opening closing }
  | .separator separator => { plan with config := { plan.config with separator } }
  | .memoize memoize => { plan with config := { plan.config with memoize } }
  | .part key v => { plan with parts := plan.parts.insert key v }
  | .parts parts => { plan with parts := plan.parts.insertAll parts.entries }
  | .filters filters => { plan with filters }
  | .filter letter f => { plan with filters := plan.filters.insert letter f }
  | .without letter => { plan with filters := plan.filters.erase letter }

/-- The plan that steps make from nothing. -/
def ofSteps (steps : List (PlanStep σ)) : Plan σ :=
  steps.foldl step {}

/-- Builds the engine. The delimiters must not be empty. -/
def build (plan : Plan σ) (compiler : ExpressionCompiler) : Except Error (Engine σ) :=
  Engine.build compiler plan.config plan.filters plan.parts

/-- Fills a single template in with an engine of its own. -/
def process (plan : Plan σ) (compiler : ExpressionCompiler) (template : String) (parts : Parts)
    (memory : σ) : Except Error String × σ :=
  match { plan with parts := parts.insertAll plan.parts.entries }.build compiler with
  | .error err => (.error err, memory)
  | .ok e =>
    let outcome := e.run template memory
    (outcome.result, outcome.memory)

end Plan

end Stencil
