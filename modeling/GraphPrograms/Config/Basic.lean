import GraphPrograms.Look.Basic
import GraphPrograms.Toml.Document

/-!
A configuration: what a TOML document says about the program's four areas.

A section is a table of named fields.  It may also be an array of its fields in their fixed order;
then the fields without a default must all be there, and items behind the last field do not count.
A date holds none of the fields.  Keys that mean nothing are passed over, as long as their values
can be held.
-/

namespace GraphPrograms

/-- Where equations come from and where rejected lines go. -/
structure InputSection where
  path? : Option Text := none
  rejects? : Option Text := none
  plain : Bool := false
deriving DecidableEq, Repr

/-- Where programs go. -/
structure OutputSection where
  folder? : Option Text := none
  stem? : Option Text := none
  extension? : Option Text := none
deriving DecidableEq, Repr

/-- Which colors may be given. -/
structure ColorsSection where
  range? : Option (Nat × Nat) := none
deriving DecidableEq, Repr

structure Config where
  look? : Option Look := none
  input? : Option InputSection := none
  output? : Option OutputSection := none
  colors? : Option ColorsSection := none
deriving DecidableEq, Repr

namespace Config

/-- The known fields of a section, and whether the others can be passed over. -/
def known? (names : List Text) (entries : Toml.Entries) : Option Toml.Entries :=
  if entries.all fun entry => names.contains entry.1 || entry.2.fits then
    some (entries.filter fun entry => names.contains entry.1)
  else none

/-- The fields of a section, given their names in order and how many an array must hold. -/
def fields? (names : List Text) (least : Nat) : Toml.Value → Option Toml.Entries
  | .table _ entries => known? names entries
  | .array _ items => if least ≤ items.length then some (names.zip items) else none
  | .moment => some []
  | _ => none

/-- Reads a field that may be absent. -/
def optional? {α : Type} (fields : Toml.Entries) (name : String) (read : Toml.Value → Option α) :
    Option (Option α) :=
  match fields.lookup name.toList with
  | none => some none
  | some value => (read value).map some

/-- Reads a flag, which is off if it is absent. -/
def flag? (fields : Toml.Entries) (name : String) : Option Bool :=
  (optional? fields name fun value =>
    match value with
    | .boolean value => some value
    | _ => none).map (·.getD false)

def text? (fields : Toml.Entries) (name : String) : Option (Option Text) :=
  optional? fields name fun value =>
    match value with
    | .text value => some value
    | _ => none

/-- A bound of a range of colors. -/
def bound? : Toml.Value → Option Nat
  | .integer value => if 0 ≤ value ∧ value ≤ 4294967295 then some value.toNat else none
  | _ => none

/-- A range of colors: the first two items of an array. -/
def bounds? : Toml.Value → Option (Nat × Nat)
  | .array _ (low :: high :: _) => do some (← bound? low, ← bound? high)
  | _ => none

end Config

open Config

def Look.ofValue? (value : Toml.Value) : Option Look := do
  let fields ← fields? ["ascii_only".toList, "high_contrast".toList] 0 value
  some ⟨← flag? fields "ascii_only", ← flag? fields "high_contrast"⟩

def InputSection.ofValue? (value : Toml.Value) : Option InputSection := do
  let fields ← fields? ["path".toList, "rejects".toList, "plaintext".toList] 2 value
  some ⟨← text? fields "path", ← text? fields "rejects", ← flag? fields "plaintext"⟩

def OutputSection.ofValue? (value : Toml.Value) : Option OutputSection := do
  let fields ← fields? ["dir".toList, "prefix".toList, "extension".toList] 3 value
  some ⟨← text? fields "dir", ← text? fields "prefix", ← text? fields "extension"⟩

def ColorsSection.ofValue? (value : Toml.Value) : Option ColorsSection := do
  let fields ← fields? ["numeric_range".toList] 1 value
  some ⟨← optional? fields "numeric_range" bounds?⟩

namespace Config

/-- The configuration that the entries of a document hold. -/
def ofEntries? (entries : Toml.Entries) : Option Config := do
  let names := ["app".toList, "input".toList, "output".toList, "colors".toList]
  let sections ← known? names entries
  some {
    look? := ← optional? sections "app" Look.ofValue?
    input? := ← optional? sections "input" InputSection.ofValue?
    output? := ← optional? sections "output" OutputSection.ofValue?
    colors? := ← optional? sections "colors" ColorsSection.ofValue? }

/-- The configuration that a text holds. -/
def ofText? (text : Text) : Option Config := (Toml.document? text).bind ofEntries?

end Config

end GraphPrograms
