import Stencil.Value

/-!
# Tables of a TOML document

A document is a list of statements: headers that open a table, and assignments to keys of the table
that is open. `Statement.value?` plays them through. A table is defined once: by its header, or
by the dotted keys of one section. A table that only came about as the parent of another one may
still be defined by its own header later.
-/

namespace Stencil.Document.Toml

/-- A statement of a document. -/
inductive Statement where
  /-- Opens a table. -/
  | header (path : List String)
  /-- Opens a new table at the end of a list of tables. -/
  | element (path : List String)
  /-- Gives a key of the open table a value. -/
  | assign (path : List String) (v : Value)

/-- How a table came about. -/
inductive Origin where
  /-- As the parent of a table with a header. -/
  | implied
  /-- By its own header. -/
  | header
  /-- By a dotted key. -/
  | dotted
  deriving DecidableEq

/-- What a key stands for while a document is read. -/
inductive Item where
  /-- A finished value. -/
  | value (v : Value)
  /-- A table. -/
  | table (origin : Origin) (entries : List (String × Item))
  /-- A list of tables, last one first. -/
  | tables (elements : List (List (String × Item)))

/-- The entries of a table. -/
abbrev Entries : Type := List (String × Item)

/-- The entries with the item of a key changed, or added if there was none. -/
def Entries.alter (key : String) (f : Option Item → Option Item) : Entries → Option Entries
  | [] => (f none).map fun item => [(key, item)]
  | (k, item) :: rest =>
    if k = key then (f (some item)).map fun item => (k, item) :: rest
    else (alter key f rest).map ((k, item) :: ·)

/-- Changes the table that a header path leads to; parents that do not exist come about. -/
def Entries.descend (f : Entries → Option Entries) : List String → Entries → Option Entries
  | [], entries => f entries
  | key :: path, entries =>
    entries.alter key fun
      | none => (descend f path []).map (.table .implied)
      | some (.table origin inner) => (descend f path inner).map (.table origin)
      | some (.tables (last :: before)) =>
        (descend f path last).map fun last => .tables (last :: before)
      | some _ => none

/-- Defines the table with a given key by its header. -/
def Entries.define (key : String) (entries : Entries) : Option Entries :=
  entries.alter key fun
    | none => some (.table .header [])
    | some (.table .implied inner) => some (.table .header inner)
    | some _ => none

/-- Adds a table to the list of tables with a given key. -/
def Entries.extend (key : String) (entries : Entries) : Option Entries :=
  entries.alter key fun
    | none => some (.tables [[]])
    | some (.tables elements) => some (.tables ([] :: elements))
    | some _ => none

/-- Gives a key a value. A dotted key leads into tables that dotted keys have brought about;
`inDotted` tells whether the present table is one of them, or the open table itself. -/
def Entries.assign (v : Value) (inDotted : Bool) : List String → Entries → Option Entries
  | [], _ => none
  | [key], entries =>
    entries.alter key fun
      | none => if inDotted then some (.value v) else none
      | some _ => none
  | key :: path, entries =>
    entries.alter key fun
      | none => (assign v true path []).map (.table .dotted)
      | some (.table .header _) => none
      | some (.table origin inner) => (assign v (origin == .dotted) path inner).map (.table origin)
      | some (.tables (last :: before)) =>
        (assign v false path last).map fun last => .tables (last :: before)
      | some _ => none

mutual

/-- The data value of an item. -/
def Item.toValue : Item → Value
  | .value v => v
  | .table _ entries => Value.ofFields (Item.fields entries)
  | .tables elements => .array (Item.elements elements).reverse

/-- The fields of a table. -/
def Item.fields : List (String × Item) → List (String × Value)
  | [] => []
  | (key, item) :: rest => (key, item.toValue) :: fields rest

/-- The elements of a list of tables. -/
def Item.elements : List (List (String × Item)) → List Value
  | [] => []
  | entries :: rest => Value.ofFields (fields entries) :: elements rest

end

/-- The entries and the path of the open table. -/
structure Section where
  /-- The entries of the whole document. -/
  entries : Entries := []
  /-- The path of the open table. -/
  path : List String := []

/-- Plays one statement. -/
def Section.play? (s : Section) : Statement → Option Section
  | .header path =>
    match path.getLast? with
    | none => none
    | some key =>
      (s.entries.descend (Entries.define key) path.dropLast).map fun entries => ⟨entries, path⟩
  | .element path =>
    match path.getLast? with
    | none => none
    | some key =>
      (s.entries.descend (Entries.extend key) path.dropLast).map fun entries => ⟨entries, path⟩
  | .assign path v =>
    (s.entries.descend (Entries.assign v true path) s.path).map fun entries => { s with entries }

/-- The data value of a list of statements; `none` if they contradict each other. -/
def Statement.value? (statements : List Statement) : Option Value :=
  (statements.foldlM Section.play? {}).map fun s => Value.ofFields (Item.fields s.entries)

end Stencil.Document.Toml
