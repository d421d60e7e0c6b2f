import TextQuery.Command.Search
import TextQuery.Settings.Template

/-!
# Starting a settings file

A new settings file is written to the working directory or to the home directory.  A file that is there already is kept,
unless it is to be overwritten.
-/

namespace TextQuery.Init

/-- The path of the new file.  There is none for the home directory if that is not known.  `directory` is the path of the
working directory. -/
def target? (env : Environment) (directory : Path) (global : Bool) : Option Path :=
  if global then env.globalPath? else some (directory.child Environment.settingsName)

/-- The report on a home directory that is not known. -/
def homeless : Report where
  status := 2
  errors := Style.line "error: could not determine home directory".toList

/-- The report on a file that is there already. -/
def occupied (p : Path) : Report where
  status := 2
  errors := Style.line ("error: configuration file already exists: ".toList ++ p.toText) ++
    Style.line "use --force to overwrite".toList

/-- The report on a file that cannot be written. -/
def unwritable (p : Path) (cause : FileError) : Report where
  status := 2
  errors := Style.line ("error: failed to write ".toList ++ p.toText ++ ": ".toList ++ cause.message)

/-- The report on a new file. -/
def created (p : Path) : Report where
  status := 0
  output := Style.line ("Created ".toList ++ p.toText) ++ Style.line [] ++
    Style.line (Style.heading "Configuration written:".toList) ++ Style.line (Style.block Template.text)

/-- Writes a new settings file to a path.  The result has the files afterwards. -/
def writeTo (env : Environment) (p : Path) (force : Bool) : Report × FileTree :=
  if env.files.isThere env.cwd p && !force then (occupied p, env.files)
  else match env.files.write env.cwd p Template.text with
    | .ok files => (created p, files)
    | .error cause => (unwritable p cause, env.files)

/-- Writes a new settings file, if there is a place for it.  The result has the files afterwards. -/
def run (env : Environment) (directory : Path) (global force : Bool) : Report × FileTree :=
  match target? env directory global with
  | none => (homeless, env.files)
  | some p => writeTo env p force

end TextQuery.Init
