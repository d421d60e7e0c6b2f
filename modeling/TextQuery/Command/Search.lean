import TextQuery.Command.Arguments
import TextQuery.Command.Json
import TextQuery.Command.Style
import TextQuery.Query.Basic
import TextQuery.Settings.Configuration

/-!
# Searching

A search looks at every line of its inputs, or at every input as a whole.  It prints what it has found, counts it, or
lists it as JSON; these are three views of the same hits.  An input that cannot be read is reported, and the search
goes on with the others.
-/

namespace TextQuery

/-- What a command prints, and its exit status. -/
structure Report where
  status : Nat
  output : Text := []
  errors : Text := []
  deriving DecidableEq, Repr

/-- The report on a query that cannot be read. -/
def Report.ofQueryError (e : QueryError) : Report :=
  { status := 2, errors := Style.line e.display.trimEnd }

/-- The options in force as JSON. -/
def Options.toJson (o : Options) : Json := Json.ofFields [
  ("ignore_case", .bool o.ignoreCase),
  ("ignore_accents", .bool o.ignoreAccents),
  ("whole_words", .bool o.wholeWords)]

namespace Search

/-- A text to search, with the name it goes by. -/
structure Input where
  name : Text
  contents : Text
  deriving DecidableEq, Repr

/-- What was found: a line, with its number from one on, or an input as a whole. -/
structure Hit where
  source : Text
  place : Option (Nat × Text)
  deriving DecidableEq, Repr

/-- Inputs that were read, and the messages for those that were not. -/
structure Inputs where
  readable : List Input
  failures : List Text
  deriving DecidableEq, Repr

/-- The name of the standard input. -/
def standardName : Text := ['-']

/-- The message for an input that cannot be read. -/
def failure (name : Text) (cause : FileError) : Text :=
  "error: failed to read ".toList ++ name ++ ": ".toList ++ cause.message

/-- Reads the standard input. -/
def standardInput (stdin : Contents) : Inputs :=
  match stdin.read with
  | .ok t => ⟨[⟨standardName, t⟩], []⟩
  | .error cause => ⟨[], [failure "standard input".toList cause]⟩

/-- Adds a file in front of inputs. -/
def addFile (env : Environment) (p : Path) (inputs : Inputs) : Inputs :=
  match env.read p with
  | .ok t => { inputs with readable := ⟨p.toText, t⟩ :: inputs.readable }
  | .error cause => { inputs with failures := failure p.toText cause :: inputs.failures }

/-- Reads the files of a search, or the standard input when it names none. -/
def inputs (s : Search) (env : Environment) (stdin : Contents) : Inputs :=
  if s.files.isEmpty then standardInput stdin
  else s.files.foldr (addFile env) ⟨[], []⟩

/-- The lines of a text with their numbers from one on. -/
def numberedLines (t : Text) : List (Nat × Text) := t.lines.zipIdx.map fun (line, i) => (i + 1, line)

/-- What is found in an input. -/
def hits (accepts : Text → Bool) (whole : Bool) (input : Input) : List Hit :=
  if whole then (if accepts input.contents then [⟨input.name, none⟩] else [])
  else ((numberedLines input.contents).filter fun (_, line) => accepts line).map fun place => ⟨input.name, some place⟩

/-- A hit on a line of its own.  The name of the input and the number of the line are given when they are wanted. -/
def hitLine (showSource lineNumber : Bool) (hit : Hit) : Text :=
  match hit.place with
  | none => hit.source
  | some (number, text) =>
    (if showSource then hit.source ++ [':'] else []) ++
      (if lineNumber then Text.ofNat number ++ [':'] else []) ++ text

/-- The number of hits in an input, on a line of its own. -/
def countLine (showSource : Bool) (input : Input) (found : List Hit) : Text :=
  (if showSource then input.name ++ [':'] else []) ++ Text.ofNat found.length

/-- A hit as JSON. -/
def Hit.toJson (hit : Hit) : Json :=
  match hit.place with
  | none => Json.ofFields [("source", .string hit.source)]
  | some (number, text) =>
    Json.ofFields [("source", .string hit.source), ("line", .number number), ("text", .string text)]

/-- All hits as JSON. -/
def listing (query : Text) (options : Options) (found : List Hit) : Json := Json.ofFields [
  ("query", .string query),
  ("options", options.toJson),
  ("matches", .array (found.map Hit.toJson)),
  ("total", .number found.length)]

/-- The hits in every input. -/
def found (s : Search) (q : Query) (readable : List Input) : List (Input × List Hit) :=
  let terms := q.compiled
  readable.map fun input => (input, hits (fun t => terms.holdsIn (q.options.prepare t)) s.whole input)

/-- What a search prints. -/
def output (s : Search) (q : Query) (readable : List Input) : Text :=
  let showSource := readable.length > 1
  let found := s.found q readable
  if s.json then Style.line ((listing q.raw q.options (found.flatMap (·.2))).render 0)
  else if s.count then found.flatMap fun (input, hits) => Style.line (countLine showSource input hits)
  else (found.flatMap (·.2)).flatMap fun hit => Style.line (hitLine showSource s.lineNumber hit)

/-- The exit status: 2 when an input could not be read, otherwise 0 or 1 by whether anything was found. -/
def status (s : Search) (q : Query) (inputs : Inputs) : Nat :=
  if !inputs.failures.isEmpty then 2
  else if (s.found q inputs.readable).any fun (_, hits) => !hits.isEmpty then 0
  else 1

/-- Runs a search with configured options. -/
def run (s : Search) (env : Environment) (configured : Options) (stdin : Contents) : Report :=
  match Query.ofText s.query (s.flags.override configured) with
  | .error e => .ofQueryError e
  | .ok q =>
    let inputs := s.inputs env stdin
    { status := s.status q inputs
      output := s.output q inputs.readable
      errors := inputs.failures.flatMap Style.line }

end Search

end TextQuery
