import Stencil.Token.Expression

/-!
# Compiling patterns

A pattern is put to use by compiling its regular expression, which is left to a library. The library
may refuse an expression, so it is a parameter here: an `ExpressionCompiler` tells what it has to
say against an expression. Delimiters and letters are escaped, so that no choice of them makes an
expression malformed. They may still make it too large.

`Pattern.build` checks the delimiters and then asks the compiler. It succeeds exactly if the
delimiters are good and the compiler `Accepts` the expression (`Pattern.build_eq_ok_iff`). What is
built does not depend on the compiler: it is `Pattern.ofConfig`, or nothing.
-/

namespace Stencil

/-- A compiler of regular expressions, as far as patterns are concerned with it. -/
structure ExpressionCompiler where
  /-- What the compiler says against an expression; `none` if it compiles it. -/
  complaint? : List Char → Option ExpressionError

namespace ExpressionCompiler

/-- What a compiler says against the tokens of a configuration and the bound letters. -/
def complaintOf? (compiler : ExpressionCompiler) (config : Config) (letters : List Char) :
    Option ExpressionError :=
  compiler.complaint? (Pattern.ofConfig config letters).expressionChars

/-- **A compiler accepts a configuration** and the bound letters. It has nothing to say against the
expression for their tokens. -/
def Accepts (compiler : ExpressionCompiler) (config : Config) (letters : List Char) : Prop :=
  compiler.complaintOf? config letters = none

instance (compiler : ExpressionCompiler) (config : Config) (letters : List Char) :
    Decidable (compiler.Accepts config letters) :=
  inferInstanceAs (Decidable (compiler.complaintOf? config letters = none))

/-- A compiler without a limit on the size of expressions. -/
def unlimited : ExpressionCompiler where
  complaint? _ := none

@[simp] theorem accepts_unlimited (config : Config) (letters : List Char) :
    unlimited.Accepts config letters := rfl

/-- The bytes that a compiled expression may take. -/
def sizeLimit : Nat := 10485760

/-- The bytes that a state of a compiled expression takes. -/
def stateSize : Nat := 32

/-- The compiler that the program works with. An expression is refused if it gets too large, where
its size is estimated at a state for each byte. -/
def standard : ExpressionCompiler where
  complaint? expression :=
    if sizeLimit < stateSize * byteLength expression then some (.tooLarge sizeLimit) else none

end ExpressionCompiler

namespace Pattern

/-- The pattern of a configuration and the bound letters. The delimiters must not be empty, and the
compiler must accept the expression. -/
def build (compiler : ExpressionCompiler) (config : Config) (letters : List Char) :
    Except Error Pattern := do
  config.check
  match compiler.complaintOf? config letters with
  | some cause => throw (.pattern cause)
  | none => return ofConfig config letters

variable {compiler : ExpressionCompiler} {config : Config} {letters : List Char}

/-- Good delimiters leave the decision to the compiler. -/
theorem build_of_valid (hconfig : config.Valid) :
    build compiler config letters =
      match compiler.complaintOf? config letters with
      | some cause => .error (.pattern cause)
      | none => .ok (ofConfig config letters) := by
  rw [build, Config.check_eq_ok_iff.2 hconfig]
  rfl

theorem build_of_check {err : Error} (h : config.check = .error err) :
    build compiler config letters = .error err := by
  rw [build, h]
  rfl

/-- **When a pattern is built.** The delimiters are good, and the compiler accepts the expression.
The pattern is then that of the configuration. -/
theorem build_eq_ok_iff {p : Pattern} :
    build compiler config letters = .ok p ↔
      config.Valid ∧ compiler.Accepts config letters ∧ p = ofConfig config letters := by
  cases hcheck : config.check with
  | error err =>
    have hconfig : ¬ config.Valid := fun h => by
      cases hcheck.symm.trans (Config.check_eq_ok_iff.2 h)
    simp [build_of_check hcheck, hconfig]
  | ok =>
    have hconfig : config.Valid := Config.check_eq_ok_iff.1 hcheck
    rw [build_of_valid hconfig, ExpressionCompiler.Accepts]
    cases compiler.complaintOf? config letters with
    | none => simp [hconfig, eq_comm]
    | some cause => simp

/-- Good delimiters that the compiler accepts make a pattern. -/
theorem build_of_accepts (hconfig : config.Valid) (haccepts : compiler.Accepts config letters) :
    build compiler config letters = .ok (ofConfig config letters) :=
  build_eq_ok_iff.2 ⟨hconfig, haccepts, rfl⟩

/-- Good delimiters that it does not accept end in what it says. -/
theorem build_of_refused (hconfig : config.Valid) (hrefused : ¬ compiler.Accepts config letters) :
    ∃ cause, build compiler config letters = .error (.pattern cause) := by
  rw [build_of_valid hconfig]
  cases hcomplaint : compiler.complaintOf? config letters with
  | none => exact absurd hcomplaint hrefused
  | some cause => exact ⟨cause, rfl⟩

/-- If good delimiters do not make a pattern, the compiler has refused them. -/
theorem build_fails_by_compiler (hconfig : config.Valid) {err : Error}
    (h : build compiler config letters = .error err) :
    ¬ compiler.Accepts config letters ∧ ∃ cause, err = .pattern cause := by
  by_cases haccepts : compiler.Accepts config letters
  · rw [build_of_accepts hconfig haccepts] at h
    cases h
  · obtain ⟨cause, hcause⟩ := build_of_refused hconfig haccepts
    exact ⟨haccepts, cause, Except.error.inj (h.symm.trans hcause)⟩

end Pattern

end Stencil
