import TextQuery.Toml.DateTime

/-!
# TOML values

A table remembers how it came about, because that decides whether it may be extended: by a header of its own, as a step
on the way to a deeper header, by a dotted key, or in braces.
-/

namespace TextQuery.Toml

/-- How a table came about. -/
inductive Origin where
  /-- By a header, or as the document itself. -/
  | header
  /-- As a step in the header of a deeper table. -/
  | implied
  /-- As a step in a dotted key. -/
  | dotted
  /-- In braces. -/
  | inline
  deriving DecidableEq, Repr

/-- A value of a document. -/
inductive Value where
  | string (t : Text)
  | integer (n : Numeral)
  | float (d : Decimal)
  | boolean (b : Bool)
  /-- A date, a time, or both, as it is written. -/
  | dateTime (t : Text)
  /-- An array; the flag tells one that is made by headers in double brackets. -/
  | array (byHeaders : Bool) (items : List Value)
  | table (origin : Origin) (entries : List (Text × Value))
  deriving Repr

/-- The keys of a table with their values, in the order of definition. -/
abbrev Entries := List (Text × Value)

mutual

/-- Whether every number inside a value can be held.  An integer without a value cannot. -/
def Value.isHeld : Value → Bool
  | .integer n => n.value?.any isHeldInteger
  | .float d => d.isHeld
  | .array _ items => areHeld items
  | .table _ entries => entriesAreHeld entries
  | _ => true

/-- Whether every number inside some values can be held. -/
def areHeld : List Value → Bool
  | [] => true
  | v :: rest => v.isHeld && areHeld rest

/-- Whether every number inside some entries can be held. -/
def entriesAreHeld : List (Text × Value) → Bool
  | [] => true
  | (_, v) :: rest => v.isHeld && entriesAreHeld rest

end

end TextQuery.Toml
