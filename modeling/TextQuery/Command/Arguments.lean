import TextQuery.Files.Path
import TextQuery.Matching.Options

/-!
# Arguments

The first argument names a command; the rest are its flags and values.  Flags may stand anywhere, short ones may be
joined, and two dashes alone end them.  Arguments are looked at from left to right, and the first mistake counts;
what is missing or excludes each other is found at the end.
-/

namespace TextQuery

/-- Why a command line names no command to run. -/
inductive UsageFault where
  | unknownArgument
  | missingArgument
  | argumentConflict
  | invalidCommand
  | tooManyValues
  | invalidValue
  /-- The user asks for help. -/
  | helpWanted
  | noCommand
  deriving DecidableEq, Repr

/-- The exit status.  To ask for help is no mistake. -/
def UsageFault.status : UsageFault → Nat
  | helpWanted => 0
  | _ => 2

/-- The flags of all commands. -/
inductive Flag where
  | caseSensitive
  | ignoreCase
  | keepAccents
  | substring
  | whole
  | count
  | lineNumber
  | json
  | global
  | force
  | help
  deriving DecidableEq, Repr

namespace Flag

/-- The name of a flag behind two dashes. -/
def long : Flag → Text
  | caseSensitive => "case-sensitive".toList
  | ignoreCase => "ignore-case".toList
  | keepAccents => "keep-accents".toList
  | substring => "substring".toList
  | whole => "whole".toList
  | count => "count".toList
  | lineNumber => "line-number".toList
  | json => "json".toList
  | global => "global".toList
  | force => "force".toList
  | help => "help".toList

/-- The name of a flag behind one dash. -/
def short? : Flag → Option Char
  | caseSensitive => some 's'
  | ignoreCase => some 'i'
  | whole => some 'w'
  | count => some 'c'
  | lineNumber => some 'n'
  | help => some 'h'
  | _ => none

/-- The flags that decide how terms are compared. -/
def matching : List Flag := [caseSensitive, ignoreCase, keepAccents, substring]

/-- The pairs of flags that exclude each other. -/
def exclusive : List (Flag × Flag) := [(caseSensitive, ignoreCase), (json, count)]

end Flag

/-- The values that a command takes. -/
inductive Operands where
  | none
  | query
  | queryAndFiles
  deriving DecidableEq, Repr

/-- The flags and values that a command takes. -/
structure Signature where
  flags : List Flag
  operands : Operands
  deriving Repr

/-- The flags and values of a command line, in their order. -/
structure Arguments where
  flags : List Flag := []
  values : List Text := []
  deriving DecidableEq, Repr

namespace Arguments

/-- The flags of a command, with the one that all commands have. -/
def allFlags (s : Signature) : List Flag := s.flags ++ [.help]

/-- Refuses empty names of files. -/
def settle (s : Signature) (a : Arguments) : Except UsageFault Unit :=
  if s.operands = .queryAndFiles ∧ [] ∈ a.values.drop 1 then .error .invalidValue else .ok ()

/-- Adds a flag. -/
def addFlag (s : Signature) (a : Arguments) (f : Flag) : Except UsageFault Arguments := do
  a.settle s
  if f = .help then throw .helpWanted
  if f ∈ a.flags then throw .argumentConflict
  return { a with flags := a.flags ++ [f] }

/-- Adds a value. -/
def addValue (s : Signature) (a : Arguments) (t : Text) : Except UsageFault Arguments :=
  match s.operands, a.values with
  | .none, _ => .error .unknownArgument
  | .query, _ :: _ => .error .unknownArgument
  | _, values => .ok { a with values := values ++ [t] }

/-- Adds the flag with a long name, which may have a value attached that it does not take. -/
def addLong (s : Signature) (a : Arguments) (t : Text) : Except UsageFault Arguments :=
  let name := t.takeWhile (· != '=')
  match (allFlags s).find? (·.long == name) with
  | none => .error .unknownArgument
  | some f => if name.length < t.length then .error .tooManyValues else a.addFlag s f

/-- Adds the flags with the given short names. -/
def addShort (s : Signature) (a : Arguments) : Text → Except UsageFault Arguments
  | [] => .ok a
  | c :: rest =>
    match (allFlags s).find? (·.short? == some c) with
    | none => .error .unknownArgument
    | some f => do (← a.addFlag s f).addShort s rest

/-- Adds the arguments of a command line, the first of them first. -/
def addAll (s : Signature) (a : Arguments) : List Text → Except UsageFault Arguments
  | [] => .ok a
  | ['-', '-'] :: rest => rest.foldlM (addValue s) a
  | ('-' :: '-' :: name) :: rest => do (← a.addLong s name).addAll s rest
  | ('-' :: c :: names) :: rest => do (← a.addShort s (c :: names)).addAll s rest
  | t :: rest => do (← a.addValue s t).addAll s rest

/-- Checks what only the whole command line shows. -/
def check (s : Signature) (a : Arguments) : Except UsageFault Unit := do
  a.settle s
  if Flag.exclusive.any fun (f, g) => a.flags.contains f && a.flags.contains g then throw .argumentConflict
  if s.operands ≠ .none ∧ a.values = [] then throw .missingArgument

/-- The flags and values of a command. -/
def ofTexts (s : Signature) (ts : List Text) : Except UsageFault Arguments := do
  let a ← addAll s {} ts
  a.check s
  return a

/-- Whether a flag is given. -/
def has (a : Arguments) (f : Flag) : Bool := a.flags.contains f

end Arguments

/-- The flags that replace matching options. -/
structure MatchFlags where
  caseSensitive : Bool := false
  ignoreCase : Bool := false
  keepAccents : Bool := false
  substring : Bool := false
  deriving DecidableEq, Repr

/-- The options in force when flags are given on top of configured options. -/
def MatchFlags.override (f : MatchFlags) (o : Options) : Options where
  ignoreCase := if f.caseSensitive then false else f.ignoreCase || o.ignoreCase
  ignoreAccents := o.ignoreAccents && !f.keepAccents
  wholeWords := o.wholeWords && !f.substring

/-- A search for a query in files, or in the standard input when none is named. -/
structure Search where
  query : Text
  files : List Path
  whole : Bool := false
  count : Bool := false
  lineNumber : Bool := false
  json : Bool := false
  flags : MatchFlags := {}
  deriving DecidableEq, Repr

/-- What a command line asks for. -/
inductive Command where
  | search (s : Search)
  | check (query : Text) (json : Bool)
  | explain (query : Text) (flags : MatchFlags)
  | init (global force : Bool)
  | config
  deriving DecidableEq, Repr

namespace Command

/-- The matching flags among those given. -/
def matchFlags (a : Arguments) : MatchFlags where
  caseSensitive := a.has .caseSensitive
  ignoreCase := a.has .ignoreCase
  keepAccents := a.has .keepAccents
  substring := a.has .substring

/-- The first value given. -/
def queryOf (a : Arguments) : Text := a.values.headD []

/-- The command that flags and values ask for. -/
abbrev Build := Arguments → Command

/-- The names of the commands, with what they take and what they make of it. -/
def table : List (Text × Signature × Build) := [
  ("match".toList, ⟨Flag.matching ++ [.whole, .count, .lineNumber, .json], .queryAndFiles⟩, fun a => .search {
    query := queryOf a
    files := (a.values.drop 1).map Path.ofText
    whole := a.has .whole
    count := a.has .count
    lineNumber := a.has .lineNumber
    json := a.has .json
    flags := matchFlags a }),
  ("check".toList, ⟨[.json], .query⟩, fun a => .check (queryOf a) (a.has .json)),
  ("explain".toList, ⟨Flag.matching, .query⟩, fun a => .explain (queryOf a) (matchFlags a)),
  ("init".toList, ⟨[.global, .force], .none⟩, fun a => .init (a.has .global) (a.has .force)),
  ("config".toList, ⟨[], .none⟩, fun _ => .config)]

/-- Whether a text names a command. -/
def isName (t : Text) : Bool := (table.lookup t).isSome

/-- The name of the command that gives help. -/
def helpName : Text := "help".toList

/-- What is wrong with a command line that asks for help by name. -/
def helpFault : List Text → UsageFault
  | [] => .helpWanted
  | [name] => if isName name || name == helpName then .helpWanted else .invalidCommand
  | _ => .invalidCommand

/-- What is wrong with a command line that begins with a flag. -/
def flagFault (t : Text) : UsageFault :=
  match t with
  | '-' :: '-' :: rest =>
    let name := rest.takeWhile (· != '=')
    if name ≠ Flag.help.long then .unknownArgument
    else if name.length < rest.length then .tooManyValues
    else .helpWanted
  | _ :: c :: _ => if Flag.help.short? = some c then .helpWanted else .unknownArgument
  | _ => .unknownArgument

/-- Whether an argument is a flag: a dash with something behind it. -/
def isFlag : Text → Bool
  | '-' :: _ :: _ => true
  | _ => false

/-- The command that a command line asks for. -/
def ofTexts : List Text → Except UsageFault Command
  | [] => .error .noCommand
  | [['-', '-']] => .error .noCommand
  | ['-', '-'] :: name :: _ =>
    .error (if isName name || name == helpName then .unknownArgument else .invalidCommand)
  | name :: rest =>
    if isFlag name then .error (flagFault name)
    else if name = helpName then .error (helpFault rest)
    else match table.lookup name with
      | none => .error .invalidCommand
      | some (signature, build) => build <$> Arguments.ofTexts signature rest

end Command

end TextQuery
