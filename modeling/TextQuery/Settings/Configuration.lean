import TextQuery.Settings.Discovery

/-!
# The configuration in force

The settings files are laid over each other, the nearest on top.  One file that cannot be used spoils the whole
configuration.
-/

namespace TextQuery

/-- Why there is no configuration. -/
inductive ConfigurationError where
  | unreadable (path : Path) (cause : FileError)
  | malformed (path : Path) (fault : Toml.Fault)
  deriving DecidableEq, Repr

/-- How an error is reported. -/
def ConfigurationError.message : ConfigurationError → Text
  | unreadable path cause =>
    "failed to read config file ".toList ++ path.toText ++ ": ".toList ++ cause.message
  | malformed path fault =>
    "failed to parse config file ".toList ++ path.toText ++ ": ".toList ++ fault.message

/-- The matching options in force, and the files they come from. -/
structure Configuration where
  options : Options := {}
  sources : List Path := []
  deriving DecidableEq, Repr

/-- A settings file with its path. -/
structure SourcedSettings where
  path : Path
  settings : SettingsFile
  deriving DecidableEq, Repr

/-- What a text says as the settings file at a path. -/
def SettingsFile.ofSource (path : Path) (t : Text) : Except ConfigurationError SettingsFile :=
  (SettingsFile.ofText t).mapError (.malformed path)

/-- What the settings file at a path says. -/
def Environment.settings (env : Environment) (path : Path) : Except ConfigurationError SettingsFile :=
  match env.read path with
  | .ok t => SettingsFile.ofSource path t
  | .error cause => .error (.unreadable path cause)

namespace Configuration

/-- Lays one settings file over options. -/
def overlay (s : SourcedSettings) (o : Options) : Options :=
  match s.settings.matching with
  | some given => given.override o
  | none => o

/-- The configuration of settings files, the topmost first. -/
def merge (sources : List SourcedSettings) : Configuration where
  options := sources.foldr overlay {}
  sources := sources.map (·.path)

/-- The configuration of the settings files at some paths, the topmost first. -/
def ofPaths (env : Environment) (paths : List Path) : Except ConfigurationError Configuration := do
  let sources ← paths.mapM fun path => return ⟨path, ← env.settings path⟩
  return merge sources

/-- The configuration for a directory. -/
def load (env : Environment) (directory : Path) : Except ConfigurationError Configuration :=
  ofPaths env (env.discover directory)

/-- The options in force as a settings file. -/
def toToml (c : Configuration) : Text :=
  "[matching]\nignore_case = ".toList ++ Text.ofBool c.options.ignoreCase ++
    "\nignore_accents = ".toList ++ Text.ofBool c.options.ignoreAccents ++
    "\nwhole_words = ".toList ++ Text.ofBool c.options.wholeWords ++ "\n".toList

end Configuration

end TextQuery
