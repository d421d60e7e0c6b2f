import TextQuery.Command.Check
import TextQuery.Command.Config
import TextQuery.Command.Explain
import TextQuery.Command.Init

/-!
# Running commands

Commands that compare texts need the configuration of the working directory, and fail when there is none.  A new
settings file can be started, and a query checked, whatever the configuration.
-/

namespace TextQuery.Command

/-- The report on a configuration that cannot be used. -/
def unconfigured (e : ConfigurationError) : Report where
  status := 2
  errors := Style.line ("error: failed to load configuration: ".toList ++ e.message)

/-- Runs a command that needs the configuration. -/
def runConfigured (env : Environment) (directory : Path) (command : Configuration → Report) : Report :=
  match Configuration.load env directory with
  | .ok c => command c
  | .error e => unconfigured e

/-- Runs a command in a working directory, whose path is `directory`.  The result has the files afterwards. -/
def run (env : Environment) (directory : Path) (stdin : Contents) : Command → Report × FileTree
  | search s => (runConfigured env directory fun c => s.run env c.options stdin, env.files)
  | check query json => (Check.run query json, env.files)
  | explain query flags => (runConfigured env directory fun c => Explain.run query flags c.options, env.files)
  | init global force => Init.run env directory global force
  | config => (runConfigured env directory Config.run, env.files)

end TextQuery.Command
