import Stencil.Settings.Path
import Stencil.Value

/-!
# Layers of settings

Settings are set one over another, each at its path. What stands in the way of a path gives way: a
value becomes a table where the path goes on to a field, and a list where it goes on to an item. A
list that is too short is filled up with null. A table that is set over a field adds its own fields
to what the field holds, field by field and with their names in lower case; every other value, and
everything that is set over an item, replaces what was there.
-/

namespace Stencil

namespace Value

/-- The fields of a table; every other value counts as an empty one. -/
def fieldsOf : Value → List (String × Value)
  | .object fields => fields
  | _ => []

/-- The items of a list; every other value counts as an empty one. -/
def itemsOf : Value → List Value
  | .array items => items
  | _ => []

mutual

/-- What a field holds after a value has been set over what it held before. -/
def overlay (old : Option Value) : Value → Value
  | .object fields => addFields (old.getD (.object [])) fields
  | v => v

/-- Sets fields over those of a table. -/
def addFields (table : Value) : List (String × Value) → Value
  | [] => table
  | (name, v) :: rest =>
    let key := PathStep.fold name
    let fields := table.fieldsOf
    addFields (.object (insertKey key (overlay (findKey? key fields) v) fields)) rest

end

/-- Where an index leads in a list of a given length. A negative one counts from the end. -/
def position (length : Nat) (index : Int) : Nat :=
  if index < 0 then (length + index).toNat else index.toNat

/-- The list with an item changed. If it is too short it is filled up with null first. -/
def changeItem (index : Int) (change : Value → Value) (items : List Value) : List Value :=
  let place := position items.length index
  let filled := items ++ List.replicate (place + 1 - items.length) null
  filled.modify place change

/-- What a place holds, having held `old`, after `v` has been set at a path from there. -/
def setAt (v : Value) (old : Option Value) : List PathStep → Value
  | [] => overlay old v
  | .field name :: steps =>
    let fields := (old.getD null).fieldsOf
    object (insertKey name (setAt v (findKey? name fields) steps) fields)
  | [.item index] => array (changeItem index (fun _ => v) (old.getD null).itemsOf)
  | .item index :: steps =>
    array (changeItem index (fun item => setAt v (some item) steps) (old.getD null).itemsOf)

/-- Sets settings by their names, one over another. -/
def ofLayers (entries : List (String × Value)) : Value :=
  entries.foldl (fun table (name, v) => setAt v (some table) (PathStep.ofName name)) (object [])

end Value

end Stencil
