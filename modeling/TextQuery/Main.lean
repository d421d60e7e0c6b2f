import TextQuery.Command.Reach

/-!
# The command line program

The outer layer: it collects the arguments, the files within reach of the command, and the standard input, runs the
command on them, and carries out what the command has written and printed.
-/

namespace TextQuery.Main

/-- How the program is called. -/
def usage : String :=
  "Filter text with boolean queries

Usage: sift <COMMAND>

Commands:
  match <QUERY> [FILES]...  Print lines (or files) that satisfy a query
        -s, --case-sensitive, -i, --ignore-case, --keep-accents, --substring,
        -w, --whole, -c, --count, -n, --line-number, --json
  check <QUERY>             Validate a query and report problems
        --json
  explain <QUERY>           Show how a query is parsed and compiled
        -s, --case-sensitive, -i, --ignore-case, --keep-accents, --substring
  init                      Initialize sift configuration in current directory
        --global, --force
  config                    Show effective configuration settings
  help [COMMAND]            Print this message
"

/-- What is wrong with a command line, in one line. -/
def describe : UsageFault → String
  | .unknownArgument => "error: unexpected argument"
  | .missingArgument => "error: the query is missing"
  | .argumentConflict => "error: some of the arguments cannot be used together"
  | .invalidCommand => "error: unrecognized subcommand"
  | .tooManyValues => "error: a flag was given a value that it does not take"
  | .invalidValue => "error: the name of a file is empty"
  | .helpWanted => ""
  | .noCommand => ""

/-- Refuses a command line, or gives the help it asks for. -/
def refuse (fault : UsageFault) : IO UInt32 := do
  if fault = .helpWanted then IO.print usage
  else IO.eprintln s!"{describe fault}\n\n{usage}"
  return fault.status.toUInt32

/-- The texts that bytes are the UTF-8 form of. -/
def decode (bytes : ByteArray) : Contents :=
  match String.fromUTF8? bytes with
  | some s => .text s.toList
  | none => .undecodable

/-- A location as the system writes it. -/
def systemName (location : Location) : String := String.ofList (Path.toText ⟨.root, location⟩)

/-- What stands at a location.  This fails where the system does not let the program look. -/
def entryAt (location : Location) : IO (Option Entry) := do
  let file := (← IO.currentDir) / systemName location
  match ← file.metadata.toBaseIO with
  | .ok found =>
    if found.type == .dir then return some .directory
    try return some (.file (decode (← IO.FS.readBinFile file)))
    catch _ => return some (.file .undecodable { readable := false })
  | .error (.permissionDenied file code details) => throw (.permissionDenied file code details)
  | .error _ => return none

/-- The tree of files, right at the given locations, those further up first.  The program cannot look where names cannot be
followed. -/
def snapshot (locations : List Location) : IO FileTree :=
  locations.foldlM (fun files location => do
    match ← (entryAt location).toBaseIO with
    | .ok (some e) => return files.put location e
    | .ok none => return files
    | .error _ => return files.put location.dropLast (.directory { searchable := false })) ⟨fun _ => none⟩

/-- Writes the files that differ at the given locations. -/
def commit (before after : FileTree) (locations : List Location) : IO Unit :=
  locations.forM fun location =>
    match after.entryAt location with
    | some (.file (.text t) _) =>
      if after.entryAt location = before.entryAt location then return
      else IO.FS.writeFile (systemName location) (String.ofList t)
    | _ => return

/-- The tree in which nothing can be written. -/
def withoutWriting (files : FileTree) : FileTree where
  entryAt location :=
    match files.entryAt location with
    | some (.directory access) => some (.directory { access with writable := false })
    | some (.file contents access) => some (.file contents { access with writable := false })
    | none => none

/-- The path of the home directory.  An empty variable counts as none. -/
def home? : IO (Option Path) := do
  match ← IO.getEnv "HOME" with
  | none | some "" => return none
  | some name => return some (Path.ofText name.toList)

/-- Runs a command.  That a file cannot be written shows only when it is tried; the report is then that of a run where
nothing can be written. -/
def perform (command : Command) : IO UInt32 := do
  let directory := Path.ofText (← IO.currentDir).toString.toList
  let place : Environment := ⟨⟨fun _ => none⟩, directory.names, ← home?⟩
  let locations := command.reach place directory
  let env := { place with files := ← snapshot locations }
  let stdin ← if command.readsStandardInput then decode <$> (← IO.getStdin).readBinToEnd else pure (.text [])
  let (report, files) := command.run env directory stdin
  let report ← try
      commit env.files files locations
      pure report
    catch _ => pure (command.run { env with files := withoutWriting env.files } directory stdin).1
  IO.print (String.ofList report.output)
  IO.eprint (String.ofList report.errors)
  return report.status.toUInt32

end TextQuery.Main

/-- Runs the command that the arguments ask for. -/
def main (args : List String) : IO UInt32 :=
  match TextQuery.Command.ofTexts (args.map String.toList) with
  | .error fault => TextQuery.Main.refuse fault
  | .ok command => TextQuery.Main.perform command
