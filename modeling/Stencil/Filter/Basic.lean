import Stencil.Value

/-!
# Filters

A filter turns a value into another value or rejects it. It may remember something from one call to
the next: `σ` is the type of what the filters at hand remember, and a filter is a function of the
value and of that memory. With nothing to remember, `σ = Unit`, a filter is just a function of its
value. What a filter has remembered stays remembered when it fails.
-/

namespace Stencil

/-- A transformation of part values. -/
structure Filter (σ : Type) where
  /-- The name shown when filters are listed. -/
  name : String := "custom"
  /-- The value, the memory before, and after. -/
  run : Value → σ → Except FilterError Value × σ

/-- The filter that computes a function and remembers nothing. -/
def Filter.ofFunction {σ : Type} (f : Value → Except FilterError Value)
    (name : String) : Filter σ :=
  ⟨name, fun v memory => (f v, memory)⟩

end Stencil
