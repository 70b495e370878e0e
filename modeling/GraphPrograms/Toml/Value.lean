import GraphPrograms.Text.Basic

/-!
Values of a TOML document, and how the lines of a document add to its tables.

A table knows what made it: braces, a header of its own, the header of a table inside it, or a
dotted key.  That decides what may still be added.  A header makes a table once; a dotted key goes
on with tables that dotted keys made; a table in braces is closed.
-/

namespace GraphPrograms.Toml

/-- What made a table. -/
inductive Origin where
  | braces
  | header
  | innerHeader
  | dottedKey
deriving DecidableEq, Repr

inductive Value where
  | text (value : Text)
  | integer (value : Int)
  /-- A float, with whether a double holds it. -/
  | float (finite : Bool)
  | boolean (value : Bool)
  | moment
  /-- An array; `ofTables` if headers in double brackets made it. -/
  | array (ofTables : Bool) (items : List Value)
  | table (origin : Origin) (entries : List (Text × Value))

instance : Inhabited Value := ⟨.moment⟩

/-- The keys of a table with their values. -/
abbrev Entries := List (Text × Value)

/-- Entries with one value replaced. -/
def replaceEntry (key : Text) (value : Value) (entries : Entries) : Entries :=
  entries.map fun entry => if entry.1 = key then (key, value) else entry

/-- Changes the table that a path of keys leads to, making the tables on the way.  A path of
dotted keys does not lead into tables that have headers of their own, and no path leads into
braces.  In an array of tables the last table is meant. -/
def descend (dotted : Bool) (change : Origin → Entries → Option Entries) :
    List Text → Origin → Entries → Option Entries
  | [], origin, entries => change origin entries
  | key :: path, _, entries =>
      match entries.lookup key with
      | none =>
          let origin := if dotted then Origin.dottedKey else .innerHeader
          (descend dotted change path origin []).map fun inner =>
            entries ++ [(key, .table origin inner)]
      | some (.table .braces _) => none
      | some (.table origin inner) =>
          if dotted ∧ origin = .header then none
          else
            (descend dotted change path origin inner).map fun inner =>
              replaceEntry key (.table origin inner) entries
      | some (.array true items) =>
          match items.getLast? with
          | some (.table origin inner) =>
              (descend dotted change path origin inner).map fun inner =>
                replaceEntry key (.array true (items.dropLast ++ [.table origin inner])) entries
          | _ => none
      | some _ => none

/-- Adds a value under a dotted key.  The table it goes to was made by the same dotted key, or is
the one whose lines are read if the key has no dots. -/
def addValue (path : List Text) (key : Text) (value : Value) :
    Origin → Entries → Option Entries :=
  descend true (fun origin entries =>
    if (origin = .dottedKey) = path.isEmpty ∨ (entries.lookup key).isSome then none
    else some (entries ++ [(key, value)])) path

/-- Makes the table of a header.  It may be there already if only inner tables had headers. -/
def addTable (path : List Text) (key : Text) : Entries → Option Entries :=
  descend false (fun _ entries =>
    match entries.lookup key with
    | none => some (entries ++ [(key, .table .header [])])
    | some (.table .innerHeader inner) => some (replaceEntry key (.table .header inner) entries)
    | some _ => none) path .header

/-- Adds one more table to an array of tables, which is made if it is missing. -/
def addItem (path : List Text) (key : Text) : Entries → Option Entries :=
  descend false (fun _ entries =>
    match entries.lookup key with
    | none => some (entries ++ [(key, .array true [.table .header []])])
    | some (.array true items) =>
        some (replaceEntry key (.array true (items ++ [.table .header []])) entries)
    | some _ => none) path .header

mutual

/-- Whether every number in a value can be held: integers in 128 bits, floats in a double. -/
def Value.fits : Value → Bool
  | .integer value => decide (-(2 ^ 127) ≤ value) && decide (value < 2 ^ 128)
  | .float finite => finite
  | .array _ items => itemsFit items
  | .table _ entries => entriesFit entries
  | _ => true

def itemsFit : List Value → Bool
  | [] => true
  | item :: rest => item.fits && itemsFit rest

def entriesFit : List (Text × Value) → Bool
  | [] => true
  | (_, value) :: rest => value.fits && entriesFit rest

end

end GraphPrograms.Toml
