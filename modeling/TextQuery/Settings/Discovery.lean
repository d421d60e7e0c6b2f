import TextQuery.Files.Tree
import TextQuery.Settings.File

/-!
# Finding settings files

Settings files lie in the working directory and in the directories above it.  The nearest comes first.  The search
ends at a file that says it is the root; otherwise the file in the home directory comes last, if there is a home
directory.
-/

namespace TextQuery

/-- Where a program runs: the files, the working directory, and the path of the home directory, if that is known. -/
structure Environment where
  files : FileTree
  cwd : Location
  home : Option Path

namespace Environment

/-- The name of settings files. -/
def settingsName : Text := ".sift.toml".toList

/-- The path of the settings file in the home directory, if that is known. -/
def globalPath? (env : Environment) : Option Path := env.home.map (·.child settingsName)

/-- The path of the settings file in the home directory; the empty path, which leads nowhere, if that is not known. -/
def globalPath (env : Environment) : Path := env.globalPath?.getD ⟨.relative, []⟩

/-- Whether a path is that of the settings file in the home directory. -/
def isGlobalPath (env : Environment) (p : Path) : Bool := env.globalPath?.any p.same

/-- Whether a path leads to a file. -/
def isFile (env : Environment) (p : Path) : Bool := env.files.isFile env.cwd p

/-- The text of the file that a path leads to. -/
def read (env : Environment) (p : Path) : Except FileError Text := env.files.read env.cwd p

/-- What a settings file says, when it can be read and is well-formed. -/
def settingsAt? (env : Environment) (p : Path) : Option SettingsFile :=
  match env.read p with
  | .ok t => (SettingsFile.ofText t).toOption
  | .error _ => none

/-- Whether a settings file says that it is the root. -/
def isRoot (env : Environment) (p : Path) : Bool := (env.settingsAt? p).any (·.root == some true)

/-- The settings files in a list of directories, up to a root, and whether a root was met. -/
def filesIn (env : Environment) : List Path → List Path × Bool
  | [] => ([], false)
  | directory :: rest =>
    let p := directory.child settingsName
    if !env.isFile p then env.filesIn rest
    else if env.isRoot p then ([p], true)
    else
      let (files, found) := env.filesIn rest
      (p :: files, found)

/-- The settings files for a directory, the nearest first. -/
def discover (env : Environment) (directory : Path) : List Path :=
  let (files, found) := env.filesIn directory.ancestors
  match env.globalPath? with
  | none => files
  | some p => if !found && env.isFile p && !files.any p.same then files ++ [p] else files

end Environment

end TextQuery
