import BrokerClient.FileTree
import BrokerClient.Settings.Codec
import BrokerClient.Settings.VariableFile

/-!
# Settings files

Loading settings from a file, writing a starter file, finding the file, and the variables as a
second source for a machine without one.  Files are those of a `FileTree`.
-/

namespace BrokerClient

namespace Settings

/-- The settings that a document holds. -/
def ofBytes? (content : Bytes) : Except Json.PlacedError Settings :=
  (shape.ofBytes? content).map ofJson

/-- The settings that a JSON value holds. -/
def ofValue? (value : Json.Value) : Except Json.PlacedError Settings :=
  (shape.ofValue? value).map ofJson

/-- Settings that pass `validate`. -/
def checked (settings : Settings) : Except Report Settings :=
  match settings.validate with
  | .ok () => .ok settings
  | .error fault => .error (.ofMessage fault.message)

/-- The settings in the text of a settings file. -/
def ofFile (content : Bytes) : Except Report Settings :=
  match ofBytes? content with
  | .error e =>
    .error ((Report.ofMessage e.message).context
      "Configuration file contains invalid JSON or missing required fields")
  | .ok settings => settings.checked

/-- Loads the settings file at a path. -/
def load (tree : FileTree) (path : String) : Except Report Settings :=
  match tree.readText path with
  | .error fault =>
    .error ((Report.ofMessage fault.message).context ("Failed to read config file at " ++ path))
  | .ok content => ofFile content

/-- Makes the folders that a path lies in. -/
def makeFoldersFor (tree : FileTree) (path : String) : FileTree × Except Report Unit :=
  match FileTree.parent? path with
  | none => (tree, .ok ())
  | some above =>
    if above.isEmpty || tree.contains above then (tree, .ok ())
    else
      let (tree, made) := tree.makeFolders above
      (tree, made.mapError fun fault =>
        (Report.ofMessage fault.message).context ("Failed to create directory at " ++ above))

/-- Writes a starter settings file at a path, making the folders on the way.  The folders made
before a failure stay. -/
def create (tree : FileTree) (path : String) : FileTree × Except Report Unit :=
  match makeFoldersFor tree path with
  | (tree, .error report) => (tree, .error report)
  | (tree, .ok ()) =>
    match tree.write path (Bytes.ofString starter.toJson.pretty) with
    | .ok tree => (tree, .ok ())
    | .error fault =>
      (tree, .error ((Report.ofMessage fault.message).context
        ("Failed to write configuration to " ++ path)))

/-! ## Finding a file -/

/-- The name of a settings file. -/
def fileName : String := "RustRabbitMQ.json"

/-- The places where a settings file is looked for, in order. -/
def filePlaces (home : String) : List String :=
  [fileName, "config/" ++ fileName, home ++ "/." ++ fileName]

/-- The first place that holds a settings file. -/
def findFile (tree : FileTree) (home : String) : Except Report String :=
  match (filePlaces home).find? tree.contains with
  | some path => .ok path
  | none =>
    .error (.ofMessage ("Could not find " ++ fileName ++
      " in the current directory, config/ or your home directory"))

/-! ## Variables -/

/-- The name of a file of variables. -/
def variableFileName : String := ".env"

/-- The content of the nearest file of variables, in the working folder or above it. -/
def variableFile? (tree : FileTree) : Option Bytes :=
  let folders := (List.range (tree.workFolder.length + 1)).map fun up =>
    tree.workFolder.take (tree.workFolder.length - up)
  folders.findSome? fun folder =>
    match tree.root.at? (folder ++ [variableFileName]) with
    | some (.file content) => some content
    | _ => none

/-- The variables that are set, with those of the nearest file of variables. -/
def allVariables (tree : FileTree) (known : VariableFile.Variables) : VariableFile.Variables :=
  match variableFile? tree with
  | none => known
  | some content => VariableFile.load known content

/-- The settings from the variables that are set and from those of the nearest file of variables. -/
def ofEnvironment (tree : FileTree) (known : VariableFile.Variables) :
    Except Report Settings :=
  (ofVariables (allVariables tree known).lookup).mapError VariableFault.report

end Settings

end BrokerClient
