import BrokerClient.Settings.File

/-!
# Machines

What a program finds where it runs: the files, the home folder, and the variables that are set.  The
settings come from a settings file if there is one, or else from the variables.
-/

namespace BrokerClient

/-- A machine as the program sees it. -/
structure Machine where
  tree : FileTree
  home : String
  environment : VariableFile.Variables

namespace Machine

/-- Where the settings come from. -/
inductive Source
  | file (path : String)
  | environment
  deriving Repr, DecidableEq

/-- What the log says about where the settings come from. -/
def Source.message : Source → String
  | file path => "Loading settings from " ++ path
  | environment => "No settings file found, reading environment"

def source (machine : Machine) : Source :=
  match Settings.findFile machine.tree machine.home with
  | .ok path => .file path
  | .error _ => .environment

/-- The settings of the machine. -/
def settings (machine : Machine) : Except Report Settings :=
  match machine.source with
  | .file path => Settings.load machine.tree path
  | .environment => Settings.ofEnvironment machine.tree machine.environment

/-- The name by which the machine goes.  The file of variables counts only where it has been read
for the settings. -/
def name (machine : Machine) : String :=
  let known :=
    match machine.source with
    | .file _ => machine.environment
    | .environment => Settings.allVariables machine.tree machine.environment
  (known.lookup "HOSTNAME").getD "localhost"

end Machine

/-! ## What is asked of the program -/

/-- What the arguments ask for. -/
inductive Command
  /-- Writing a starter settings file. -/
  | createFile (path : String)
  /-- Running. -/
  | run
  deriving Repr, DecidableEq

/-- Any arguments that do not ask for a starter file ask to run. -/
def Command.ofArguments : List String → Command
  | ["init-config"] => createFile Settings.fileName
  | "init-config" :: path :: _ => createFile path
  | _ => run

/-- The exit code and what is written to standard error. -/
def Report.exit : Except Report Unit → UInt32 × String
  | .ok () => (0, "")
  | .error report => (1, "Error: " ++ report.lines ++ "\n")

end BrokerClient
