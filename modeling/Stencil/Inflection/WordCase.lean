import Stencil.Text.Ranges

/-!
# Joining words in one of three styles

A compound name is cut into its words and the words are joined again: all capitalised
(`SendEmail`), with underscores (`send_email`), or all capitalised but the first (`sendEmail`).

Words consist of ASCII letters and digits; every other character separates words and vanishes.
Inside a run of letters and digits a new word starts at a capital letter that follows a word in
lower case (`user|Items`), and at the last capital of a run of capitals that goes on in lower case
(`HTTP|Server`). Digits take the case of the letters before them.
-/

namespace Stencil.Inflection

/-- The case of the word read so far. -/
inductive Trend where
  /-- No letter has been read since the word began. -/
  | fresh
  /-- The last letter was in lower case. -/
  | lower
  /-- The last letter was in upper case. -/
  | upper
  deriving DecidableEq, Repr

/-- The trend after one more character. -/
def Trend.next (trend : Trend) (c : Char) : Trend :=
  if c.isLower then .lower else if c.isUpper then .upper else trend

/-- Cuts a run of letters and digits into words. `word` holds the characters of the present word,
last one first. -/
def humpsFrom (trend : Trend) (word : List Char) : List Char → List (List Char)
  | [] => [word.reverse]
  | [c] => [(c :: word).reverse]
  | c :: d :: rest =>
    -- the word ends behind `c`
    if trend.next c = .lower && d.isUpper then
      (c :: word).reverse :: humpsFrom .fresh [] (d :: rest)
    -- the word ends before `c`, which begins the next one
    else if trend = .upper && c.isUpper && d.isLower then
      word.reverse :: humpsFrom .fresh [c] (d :: rest)
    else humpsFrom (trend.next c) (c :: word) (d :: rest)

/-- Cuts a run of letters and digits into words. -/
def humps : List Char → List (List Char)
  | [] => []
  | c :: rest => humpsFrom .fresh [] (c :: rest)

/-- The maximal runs of ASCII letters and digits of a text; `run` holds the present one, last
character first. -/
def runsFrom (run : List Char) : List Char → List (List Char)
  | [] => [run.reverse]
  | c :: rest =>
    if c.isAlphanum then runsFrom (c :: run) rest else run.reverse :: runsFrom [] rest

/-- The words of a compound name. -/
def words (cs : List Char) : List (List Char) :=
  (runsFrom [] cs).flatMap humps

/-- A word in lower case. -/
def lowerWord (word : List Char) : List Char :=
  word.map Char.toLower

/-- A word in lower case but for a capital first letter. -/
def capitalWord : List Char → List Char
  | [] => []
  | c :: rest => c.toUpper :: lowerWord rest

/-- All words capitalised and joined: `send_email` becomes `SendEmail`. -/
def camelize (cs : List Char) : List Char :=
  (words cs).flatMap capitalWord

/-- All words in lower case, joined by underscores: `userItems` becomes `user_items`. -/
def underscore (cs : List Char) : List Char :=
  ['_'].intercalate ((words cs).map lowerWord)

/-- The first word in lower case and the others capitalised: `send_email` becomes `sendEmail`. -/
def variablize (cs : List Char) : List Char :=
  match words cs with
  | [] => []
  | first :: rest => lowerWord first ++ rest.flatMap capitalWord

end Stencil.Inflection
