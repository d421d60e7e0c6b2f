import TextQuery.Command.Search

/-!
# Showing the configuration

The options in force are shown as a settings file, behind comments that name the files they come from.
-/

namespace TextQuery.Config

/-- The comments in front of the options. -/
def heading (c : Configuration) : List Text :=
  if c.sources.isEmpty then ["# no configuration files found; using defaults".toList]
  else "# merged from (highest precedence first):".toList :: c.sources.map fun p => "#   ".toList ++ p.toText

/-- Shows a configuration. -/
def run (c : Configuration) : Report :=
  { status := 0, output := ((heading c).flatMap fun t => Style.line (Style.aside t)) ++ c.toToml }

end TextQuery.Config
