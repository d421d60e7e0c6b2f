import TextQuery.Toml.Value

/-!
# Building TOML tables

A table is built one definition at a time.  No definition may repeat another or reopen what is complete: a header
opens a table once, a dotted key extends only tables that dotted keys have made, and what stands in brackets or braces
is not extended at all.  A document consists of sections, one to a header.  The table of a header is opened when its
section begins, and the table of a header in double brackets joins its array when its section ends.
-/

namespace TextQuery.Toml

/-- Whether a table has been named only on the way to another one. -/
def Origin.isImplicit : Origin → Bool
  | implied => true
  | dotted => true
  | _ => false

/-- The entries with the value of one key replaced. -/
def replaceEntry (key : Text) (v : Value) (entries : Entries) : Entries :=
  entries.map fun (k, old) => if k = key then (k, v) else (k, old)

/-- Changes the table that a path leads to, and makes the tables that are missing on the way.  With `byKey`, the path
is the beginning of a dotted key, otherwise that of a header. -/
def changeAt (byKey : Bool) (change : Origin → Entries → Option (Origin × Entries)) :
    List Text → Origin → Entries → Option (Origin × Entries)
  | [], origin, entries => change origin entries
  | key :: path, origin, entries =>
    match entries.lookup key with
    | none => do
      let (o, es) ← changeAt byKey change path (if byKey then .dotted else .implied) []
      return (origin, entries ++ [(key, .table o es)])
    | some (.table o es) =>
      if o = .inline ∨ (byKey = true ∧ o.isImplicit = false) then none
      else do
        let (o', es') ← changeAt byKey change path o es
        return (origin, replaceEntry key (.table o' es') entries)
    | some (.array true items) =>
      match items.getLast? with
      | some (.table o es) => do
        let (o', es') ← changeAt byKey change path o es
        return (origin, replaceEntry key (.array true (items.dropLast ++ [.table o' es'])) entries)
      | _ => none
    | some _ => none

/-- Defines the last part of a key in the table that the parts before it lead to. -/
def defineKey (isDotted : Bool) (key : Text) (v : Value) (origin : Origin) (entries : Entries) :
    Option (Origin × Entries) :=
  if (origin == .dotted) != isDotted then none
  else if (entries.lookup key).isSome then none
  else some (origin, entries ++ [(key, v)])

/-- Opens the table of a header in the table above it. -/
def openTable (key : Text) (origin : Origin) (entries : Entries) : Option (Origin × Entries) :=
  match entries.lookup key with
  | none => some (origin, entries ++ [(key, .table .header [])])
  | some (.table .implied es) => some (origin, replaceEntry key (.table .header es) entries)
  | some _ => none

/-- Adds a table to the array of a header in double brackets. -/
def addItem (key : Text) (item : Entries) (origin : Origin) (entries : Entries) : Option (Origin × Entries) :=
  match entries.lookup key with
  | none => some (origin, entries ++ [(key, .array true [.table .header item])])
  | some (.array true items) =>
    some (origin, replaceEntry key (.array true (items ++ [.table .header item])) entries)
  | some _ => none

/-- Gives a value to a key, whose parts are `path` and `key`. -/
def assign (path : List Text) (key : Text) (v : Value) (origin : Origin) (entries : Entries) :
    Option (Origin × Entries) :=
  changeAt true (defineKey (!path.isEmpty) key v) path origin entries

/-- A key of one or more parts: those before the last one, and the last. -/
structure Key where
  path : List Text
  last : Text
  deriving DecidableEq, Repr

/-- Where the assignments of a document go. -/
inductive Section where
  /-- To the table that the parts of a header lead to. -/
  | table (header : List Text)
  /-- To a new table, which joins the array of a header in double brackets when the section ends. -/
  | item (header : Key) (entries : Entries)
  deriving Repr

/-- A document under construction: its entries, and its last section. -/
structure Draft where
  entries : Entries := []
  current : Section := .table []
  deriving Repr

/-- Changes the table that the parts of a header lead to. -/
def Draft.change (d : Draft) (path : List Text) (change : Origin → Entries → Option (Origin × Entries)) :
    Option Entries :=
  (changeAt false change path .header d.entries).map (·.2)

/-- Ends the last section. -/
def Draft.endSection (d : Draft) : Option Draft :=
  match d.current with
  | .table _ => some d
  | .item header item => do return { entries := ← d.change header.path (addItem header.last item) }

/-- Begins the section of a header. -/
def Draft.beginTable (d : Draft) (header : Key) : Option Draft := do
  return ⟨← d.change header.path (openTable header.last), .table (header.path ++ [header.last])⟩

/-- Begins the section of a header in double brackets. -/
def Draft.beginItem (d : Draft) (header : Key) : Draft := { d with current := .item header [] }

/-- Gives a value to a key in the last section. -/
def Draft.assign (d : Draft) (key : Key) (v : Value) : Option Draft :=
  match d.current with
  | .table header => do
    return { d with entries := ← d.change header (Toml.assign key.path key.last v) }
  | .item header item => do
    let (_, item) ← Toml.assign key.path key.last v .header item
    return { d with current := .item header item }

end TextQuery.Toml
