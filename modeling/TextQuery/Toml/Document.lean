import TextQuery.Toml.Outline
import TextQuery.Toml.Table

/-!
# The meaning of TOML documents

A document is well-formed when it has an outline, and its lines have a meaning one after the other.  Otherwise the
first fault counts, and the outline comes before all meaning.
-/

namespace TextQuery.Toml

/-- What is wrong with a document. -/
inductive Fault where
  /-- The text breaks a rule of the language. -/
  | malformed
  /-- A key has too many parts. -/
  | keyTooLong
  deriving DecidableEq, Repr

/-- How a fault is reported. -/
def Fault.message : Fault → Text
  | malformed => "TOML parse error\n".toList
  | keyTooLong => "recursion limit\n".toList

/-- A result, or the fault when there is none. -/
def wellFormed {α : Type} : Option α → Except Fault α
  | some a => .ok a
  | none => .error .malformed

/-- Whether a character may stand in a key without quotation marks. -/
def isBareKeyChar (c : Char) : Bool := c.isAlphanum || c == '_' || c == '-'

/-- The part of a key that is written.  A string over several lines is none. -/
def Lexeme.keyPart? : Lexeme → Option Text
  | word t => if !t.isEmpty && t.all isBareKeyChar then some t else none
  | string q inside => if q.multiline then none else inside.bind q.decode

/-- The key whose parts are written. -/
def Key.ofLexemes (parts : List Lexeme) : Except Fault Key := do
  let names ← wellFormed (parts.mapM Lexeme.keyPart?)
  if names.length > depthLimit then throw .keyTooLong
  match names.getLast? with
  | some last => return ⟨names.dropLast, last⟩
  | none => throw .malformed

/-- The value that a word stands for. -/
def scalar? (t : Text) : Option Value :=
  if t = "true".toList then some (.boolean true)
  else if t = "false".toList then some (.boolean false)
  else match numeral? t, float? t with
    | some n, _ => some (.integer n)
    | none, some d => some (.float d)
    | none, none => if isDateTime t then some (.dateTime t) else none

/-- The value that is written. -/
def Lexeme.value? : Lexeme → Option Value
  | word t => scalar? t
  | string q inside => (inside.bind q.decode).map .string

mutual

/-- The value that is written. -/
def Node.value : Node → Except Fault Value
  | .scalar l => wellFormed l.value?
  | .array items => do return .array false (← valuesOf items)
  | .table fields => do
    let (origin, entries) ← defineFields .inline [] fields
    return .table origin entries

/-- The values that are written one behind the other. -/
def valuesOf : List Node → Except Fault (List Value)
  | [] => .ok []
  | item :: rest => do
    let v ← item.value
    return v :: (← valuesOf rest)

/-- Adds the definitions in a pair of braces to a table. -/
def defineFields (origin : Origin) (entries : Entries) : List (List Lexeme × Node) → Except Fault (Origin × Entries)
  | [] => .ok (origin, entries)
  | (parts, item) :: rest => do
    let key ← Key.ofLexemes parts
    let v ← item.value
    let (origin, entries) ← wellFormed (assign key.path key.last v origin entries)
    defineFields origin entries rest

end

/-- Adds a line to a document. -/
def Draft.addLine (d : Draft) : Line → Except Fault Draft
  | .open header => do
    let d ← wellFormed d.endSection
    wellFormed (d.beginTable (← Key.ofLexemes header))
  | .openItem header => do
    let d ← wellFormed d.endSection
    return d.beginItem (← Key.ofLexemes header)
  | .assign parts item => do
    let key ← Key.ofLexemes parts
    let v ← item.value
    wellFormed (d.assign key v)

/-- The entries of a document. -/
def document (t : Text) : Except Fault Entries := do
  let d ← (← wellFormed (outline t)).foldlM Draft.addLine {}
  return (← wellFormed d.endSection).entries

end TextQuery.Toml
