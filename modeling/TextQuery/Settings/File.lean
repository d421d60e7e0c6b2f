import TextQuery.Matching.Options
import TextQuery.Toml.Document

/-!
# Settings files

A settings file is a TOML document with two keys that count: `root`, and `matching`, a table of matching options or an
array that lists their values in order.  Other keys are passed over.  Every setting may be missing.
-/

namespace TextQuery

/-- The matching options that a settings file gives. -/
structure PartialOptions where
  ignoreCase : Option Bool := none
  ignoreAccents : Option Bool := none
  wholeWords : Option Bool := none
  deriving DecidableEq, Repr

/-- The options after those given have replaced others. -/
def PartialOptions.override (given : PartialOptions) (o : Options) : Options where
  ignoreCase := given.ignoreCase.getD o.ignoreCase
  ignoreAccents := given.ignoreAccents.getD o.ignoreAccents
  wholeWords := given.wholeWords.getD o.wholeWords

/-- What a settings file says. -/
structure SettingsFile where
  /-- Whether the search for further files ends here. -/
  root : Option Bool := none
  matching : Option PartialOptions := none
  deriving DecidableEq, Repr

namespace SettingsFile

open Toml (Entries Value)

/-- The truth value of a key, if the key is there.  No other value will do. -/
def truth? (key : Text) (entries : Entries) : Option (Option Bool) :=
  match entries.lookup key with
  | none => some none
  | some (.boolean b) => some (some b)
  | some _ => none

/-- Whether the numbers can be held in all entries but those of the keys that count. -/
def othersAreHeld (keys : List Text) (entries : Entries) : Bool :=
  Toml.entriesAreHeld (entries.filter fun (k, _) => !keys.contains k)

/-- The names of the matching options. -/
def optionKeys : List Text := ["ignore_case".toList, "ignore_accents".toList, "whole_words".toList]

/-- The matching options of a table. -/
def optionsOfTable? (entries : Entries) : Option PartialOptions := do
  if !othersAreHeld optionKeys entries then none
  return {
    ignoreCase := ← truth? "ignore_case".toList entries
    ignoreAccents := ← truth? "ignore_accents".toList entries
    wholeWords := ← truth? "whole_words".toList entries }

/-- The truth value that a value is. -/
def truthOf? : Value → Option Bool
  | .boolean b => some b
  | _ => none

/-- The matching options of an array.  Items after the third are not looked at. -/
def optionsOfArray? (items : List Value) : Option PartialOptions := do
  let truths ← (items.take 3).mapM truthOf?
  return ⟨truths[0]?, truths[1]?, truths[2]?⟩

/-- The matching options that a value gives.  A date or time has no keys, and so counts as an empty table. -/
def optionsOf? : Value → Option PartialOptions
  | .table _ entries => optionsOfTable? entries
  | .array _ items => optionsOfArray? items
  | .dateTime _ => some {}
  | _ => none

/-- What the entries of a document say. -/
def ofEntries? (entries : Entries) : Option SettingsFile := do
  if !othersAreHeld ["root".toList, "matching".toList] entries then none
  let root ← truth? "root".toList entries
  match entries.lookup "matching".toList with
  | none => return ⟨root, none⟩
  | some v => return ⟨root, some (← optionsOf? v)⟩

/-- What a text says as a settings file. -/
def ofText (t : Text) : Except Toml.Fault SettingsFile := do Toml.wellFormed (ofEntries? (← Toml.document t))

end SettingsFile

end TextQuery
