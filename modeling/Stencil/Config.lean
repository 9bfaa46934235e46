import Stencil.Error

/-!
# Delimiters, and whether results are kept

A token is written with three delimiters: an opening and a closing bracket, and a separator between
the key and the filter letters. Any text will do, but none may be empty. `Config.check` reports the
first one that is, and a configuration is `Valid` exactly when there is nothing to report
(`Config.check_eq_ok_iff`).
-/

namespace Stencil

/-- How tokens are written, and whether the engine keeps what it has worked out. -/
structure Config where
  /-- The text that opens a token. -/
  opening : String := "\x7b"
  /-- The text that closes a token. -/
  closing : String := "\x7d"
  /-- The text between the key and the filter letters. -/
  separator : String := "-"
  /-- Whether filled in templates and tokens are kept. -/
  memoize : Bool := true
  deriving DecidableEq, Repr

namespace Config

instance : Inhabited Config := ⟨{}⟩

/-- No delimiter is empty. -/
structure Valid (config : Config) : Prop where
  /-- There is an opening bracket. -/
  opening : config.opening ≠ ""
  /-- There is a closing bracket. -/
  closing : config.closing ≠ ""
  /-- There is a separator. -/
  separator : config.separator ≠ ""

/-- Reports the first delimiter that is empty. -/
def check (config : Config) : Except Error Unit :=
  if config.opening = "" then .error (.invalidConfig "Opening bracket must not be empty")
  else if config.closing = "" then .error (.invalidConfig "Closing bracket must not be empty")
  else if config.separator = "" then .error (.invalidConfig "Separator must not be empty")
  else .ok ()

theorem check_eq_ok_iff {config : Config} : config.check = .ok () ↔ config.Valid := by
  constructor
  · intro h
    by_cases hopening : config.opening = ""
    · simp [check, hopening] at h
    by_cases hclosing : config.closing = ""
    · simp [check, hopening, hclosing] at h
    by_cases hseparator : config.separator = ""
    · simp [check, hopening, hclosing, hseparator] at h
    exact ⟨hopening, hclosing, hseparator⟩
  · intro h
    simp [check, h.opening, h.closing, h.separator]

/-- The configuration with other brackets. -/
def withBrackets (config : Config) (opening closing : String) : Config :=
  { config with opening, closing }

end Config

end Stencil
