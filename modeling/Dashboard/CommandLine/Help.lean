import Dashboard.CommandLine.Options

/-!
# Help

The help names every flag, what it is for and its environment variable, in
two columns.
-/

namespace Dashboard.CommandLine

/-- The name of the program. -/
def programName : String := "kube-pfs-dashboard"

/-- The name of the program and its version. -/
def versionText : String := programName ++ " 0.1.0\n"

/-- What a flag is for. -/
def Flag.about : Flag → String
  | config => "Path to configuration file (TOML)"
  | backend => "Base URL of the demo-ui backend (overrides config file)"
  | interval => "Refresh period in milliseconds (overrides config file)"
  | timeout => "Per-request timeout in milliseconds (overrides config file)"
  | logLevel => "Log level: trace, debug, info, warn, error (overrides config file)"
  | logFile => "Write logs to this file (overrides config file)"
  | once => "Run a single refresh, print every panel as text and exit"
  | dumpConfig => "Dump effective configuration to stdout and exit"
  | set => "Runtime config overrides in key=value format (can be specified multiple times)"
  | help => "Print help"
  | version => "Print version"

/-- A flag with its letter and its value. -/
def Flag.column (f : Flag) : String :=
  let letter := (f.letter?.map fun c => "-" ++ String.singleton c ++ ", ").getD "    "
  "  " ++ letter ++ f.usage

/-- The environment variable of a flag and what it is set to. -/
def Flag.variableText (f : Flag) (env : String → Option String) : String :=
  (f.envName?.map fun v => " [env: " ++ v ++ "=" ++ (env v).getD "" ++ "]").getD ""

/-- The width of the first column. -/
def columnWidth : Nat := Flag.all.foldl (fun n f => max n f.column.length) 0

/-- The line of a flag. -/
def Flag.line (f : Flag) (env : String → Option String) : String :=
  let gap := String.ofList (List.replicate (columnWidth + 2 - f.column.length) ' ')
  f.column ++ gap ++ f.about ++ f.variableText env ++ "\n"

/-- The help of the program. -/
def helpText (env : String → Option String) : String :=
  programName ++ " - live status of the kube-pfs demo cluster\n\nUsage: " ++ programName ++
    " [OPTIONS]\n\nOptions:\n" ++ String.join (Flag.all.map fun f => f.line env)

end Dashboard.CommandLine
