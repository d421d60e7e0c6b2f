import TextQuery.Command.Run

/-!
# What a command can touch

A command looks at few places: the settings files that can count, the files it names, and what stands on the way to
them.  The tree of files that it runs on needs to be right there only.
-/

namespace TextQuery

/-- The locations where segments lead from a location, step by step, with the one that they start from. -/
def Location.steps (location : Location) : List Text → List Location
  | [] => [location]
  | s :: rest =>
    if s = [] ∨ s = ['.'] then Location.steps location rest
    else if s = ['.', '.'] then location :: Location.steps location.dropLast rest
    else location :: Location.steps (location ++ [s]) rest

/-- The locations on the way of a path, its goal among them. -/
def Path.steps (cwd : Location) (p : Path) : List Location :=
  Location.steps (if p.anchor = .root then [] else cwd) p.segments

namespace Command

/-- The paths of the settings files that can count for a directory. -/
def settingsPaths (env : Environment) (directory : Path) : List Path :=
  env.globalPath?.toList ++ directory.ancestors.map (·.child Environment.settingsName)

/-- The paths of the files that a command can read or write. -/
def paths (env : Environment) (directory : Path) : Command → List Path
  | search s => settingsPaths env directory ++ s.files
  | check _ _ => []
  | explain _ _ => settingsPaths env directory
  | init global _ => (Init.target? env directory global).toList
  | config => settingsPaths env directory

/-- The locations that a command can look at or write to. -/
def reach (env : Environment) (directory : Path) (command : Command) : List Location :=
  ((command.paths env directory).flatMap (·.steps env.cwd)).eraseDups

/-- Whether a command reads the standard input. -/
def readsStandardInput : Command → Bool
  | search s => s.files.isEmpty
  | _ => false

end Command

end TextQuery
