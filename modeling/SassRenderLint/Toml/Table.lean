/-
Module: SassRenderLint.Toml.Table
Layer: Toml
Purpose: Building the tables of a TOML document. A table comes about by a header of its own, because a
  header names a table inside it, or because a dotted key does; the way decides whether it may be
  opened or extended later. No key is set twice.
Main exports: Toml.Table, Toml.Table.assign?, Toml.Table.openTable?, Toml.Table.openArray?,
  Toml.Table.toFields
-/
import SassRenderLint.Json.Basic

namespace SassRenderLint

namespace Toml

/-- How a table came about. -/
inductive Origin where
  /-- A header of its own. -/
  | header
  /-- A header that names a table inside it. -/
  | implied
  /-- A dotted key. -/
  | dotted
deriving DecidableEq, Repr, Inhabited

mutual

/-- What stands under a key. -/
inductive Item where
  | value (value : Json)
  | table (table : Table)
  | tables (earlier : List Table) (last : Table)

/-- A table under construction. -/
inductive Table where
  | mk (origin : Origin) (entries : List (String × Item))

end

instance : Inhabited Table := ⟨.mk .header []⟩

namespace Table

def origin : Table → Origin
  | .mk origin _ => origin

/-- The keys with what stands under them. -/
def entries : Table → List (String × Item)
  | .mk _ entries => entries

def new (origin : Origin) : Table := .mk origin []

def get? (t : Table) (key : String) : Option Item :=
  (t.entries.find? fun entry => entry.1 = key).map Prod.snd

/-- Puts an item under a key in place of what was there. -/
def put (t : Table) (key : String) (item : Item) : Table :=
  .mk t.origin ((key, item) :: t.entries.filter fun entry => entry.1 ≠ key)

/-- Changes the table at a path. Tables that are missing on the way come about with `origin`; of an
    array of tables the last one is meant. A dotted key does not go into a table that has a header. -/
def change? (origin : Origin) (change : Table → Option Table) : List String → Table → Option Table
  | [], t => change t
  | key :: path, t =>
    match t.get? key with
    | none => (change? origin change path (new origin)).map fun child => t.put key (.table child)
    | some (.value _) => none
    | some (.tables earlier last) =>
      (change? origin change path last).map fun child => t.put key (.tables earlier child)
    | some (.table child) =>
      if origin = .dotted ∧ child.origin = .header then none
      else (change? origin change path child).map fun child => t.put key (.table child)

/-- Sets a key that is not set. `direct` says that the key has one part: a table that a dotted key made
    is set by dotted keys only, and any other table by undotted ones. -/
def set? (direct : Bool) (key : String) (value : Json) (t : Table) : Option Table :=
  if (t.origin = .dotted) = direct then none
  else
    match t.get? key with
    | none => some (t.put key (.value value))
    | some _ => none

/-- Sets a key of the table that is open. -/
def assign? (t : Table) (header : List String) (path : List String) (key : String) (value : Json) :
    Option Table :=
  change? .implied (change? .dotted (set? path.isEmpty key value) path) header t

/-- Opens a table by its header. -/
def openTable? (t : Table) (path : List String) (key : String) : Option Table :=
  change? .implied
    (fun parent =>
      match parent.get? key with
      | none => some (parent.put key (.table (new .header)))
      | some (.table child) =>
        if child.origin = .implied then some (parent.put key (.table (.mk .header child.entries))) else none
      | some _ => none)
    path t

/-- Opens another table of an array by its header. -/
def openArray? (t : Table) (path : List String) (key : String) : Option Table :=
  change? .implied
    (fun parent =>
      match parent.get? key with
      | none => some (parent.put key (.tables [] (new .header)))
      | some (.tables earlier last) => some (parent.put key (.tables (earlier ++ [last]) (new .header)))
      | some _ => none)
    path t

end Table

mutual

/-- An item as JSON. -/
def Item.toJson : Item → Json
  | .value v => v
  | .table t => .obj (Table.toFields t)
  | .tables earlier last => .arr (Table.toJsonList earlier ++ [.obj (Table.toFields last)])

/-- A table as the fields of an object, in key order. -/
def Table.toFields : Table → Fields
  | .mk _ entries => Table.fieldsOf entries

/-- Entries as fields in key order. -/
def Table.fieldsOf : List (String × Item) → Fields
  | [] => []
  | (key, item) :: rest => Fields.insert (Table.fieldsOf rest) key item.toJson

def Table.toJsonList : List Table → List Json
  | [] => []
  | t :: rest => .obj (Table.toFields t) :: Table.toJsonList rest

end

end Toml

end SassRenderLint
