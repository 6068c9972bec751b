import Snippet.Text.Basic

/-! TOML documents: values, and tables under construction. -/

set_option autoImplicit false

namespace Snippet.Toml

/-- A value. Of times and of numbers that are not whole only the kind is kept. -/
inductive Value where
  | string : Text → Value
  | integer : Int → Value
  | float : Value
  | time : Value
  | boolean : Bool → Value
  | array : List Value → Value
  | table : List (Text × Value) → Value

/-- How a table came to be: by a header of its own or as an inline table, as a step
on the way to another header, or as a step of a dotted key. -/
inductive Origin where
  | header
  | path
  | dotted
  deriving DecidableEq, Repr

inductive Node where
  | value : Value → Node
  | table : Origin → List (Text × Node) → Node
  | tables : List (List (Text × Node)) → Node

abbrev Entries := List (Text × Node)

mutual

def Node.finish : Node → Value
  | .value value => value
  | .table _ entries => .table (finishEntries entries)
  | .tables elements => .array (finishElements elements)

def finishEntries : List (Text × Node) → List (Text × Value)
  | [] => []
  | (key, node) :: rest => (key, node.finish) :: finishEntries rest

def finishElements : List (List (Text × Node)) → List Value
  | [] => []
  | entries :: rest => .table (finishEntries entries) :: finishElements rest

end

namespace Entries

def find? (entries : Entries) (key : Text) : Option Node :=
  (List.find? (fun entry => entry.1 == key) entries).map (·.2)

/-- A new value for a key that has one, in its place, or a new entry at the end. -/
def set (entries : Entries) (key : Text) (node : Node) : Entries :=
  if entries.any (·.1 == key) then
    entries.map fun entry => if entry.1 == key then (key, node) else entry
  else entries ++ [(key, node)]

def erase (entries : Entries) (key : Text) : Entries := entries.filter (·.1 != key)

/-- A change at the end of a path of header steps. A step leads into a table, into the
last table of an array of tables, or into a new table. -/
def alongHeader (change : Entries → Option Entries) : List Text → Entries → Option Entries
  | [], entries => change entries
  | key :: path, entries =>
    match entries.find? key with
    | none => do
      let inner ← alongHeader change path []
      some (entries.set key (.table .path inner))
    | some (.table origin inner) => do
      let inner ← alongHeader change path inner
      some (entries.set key (.table origin inner))
    | some (.tables elements) =>
      match elements.getLast? with
      | none => none
      | some last => do
        let inner ← alongHeader change path last
        some (entries.set key (.tables (elements.dropLast ++ [inner])))
    | some (.value _) => none

/-- A value under a dotted key. Steps lead only into tables that have no header, and
the value only into a table made by dotted keys; the table in which the key stands is
given with `origin`. -/
def insertDotted (key : Text) (value : Node) : (origin : Origin) → (path : List Text) → Bool →
    Entries → Option Entries
  | origin, [], stepped, entries =>
    if stepped && origin != .dotted then none
    else if (entries.find? key).isSome then none
    else some (entries ++ [(key, value)])
  | _, step :: path, _, entries =>
    match entries.find? step with
    | none => do
      let inner ← insertDotted key value .dotted path true []
      some (entries ++ [(step, .table .dotted inner)])
    | some (.table origin inner) =>
      if origin == .header then none
      else do
        let inner ← insertDotted key value origin path true inner
        some (entries.set step (.table origin inner))
    | some (.tables elements) =>
      match elements.getLast? with
      | none => none
      | some last => do
        let inner ← insertDotted key value .header path true last
        some (entries.set step (.tables (elements.dropLast ++ [inner])))
    | some (.value _) => none

def insert (entries : Entries) (parts : List Text) (value : Node) : Option Entries :=
  match parts.getLast? with
  | none => none
  | some key => insertDotted key value .header parts.dropLast false entries

end Entries

end Snippet.Toml
