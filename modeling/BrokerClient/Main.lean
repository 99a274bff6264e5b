import BrokerClient.Service

/-!
# The command line

Reads the machine's files and variables, lets the library decide what is to be done, and does it.
There is no transport here: an address at which a server would have to be reached is refused.
-/

namespace BrokerClient

/-- The file or folder at a path as an entry of a tree, if there is one. -/
def readEntry? (path : String) : IO (Option (String × Bytes)) := do
  if ← ((← IO.currentDir) / path).isDir then return some (path ++ "/", [])
  try
    return some (path, (← IO.FS.readBinFile path).data.toList)
  catch _ => return none

/-- The files that matter, as a tree. -/
def readTree (home : String) (target : Option String) : IO FileTree := do
  let work := (← IO.currentDir).toString
  let workFolder := FileTree.names work
  let absolute (path : String) : String :=
    if path.startsWith "/" then path else work ++ "/" ++ path
  let above := (List.range (workFolder.length + 1)).map fun k =>
    "/" ++ Text.join "/" (workFolder.take k ++ [Settings.variableFileName])
  let paths := (Settings.filePlaces home ++ target.toList).map absolute ++ above
  return .ofFiles "" (← paths.filterMapM readEntry?) workFolder

/-- The variables that the program reads. -/
def variableNames : List String := [
  "RABBITMQ_URLS", "RABBITMQ_URL", "RABBITMQ_QUEUE", "RABBITMQ_RECONNECT_DELAY_SECONDS",
  "RABBITMQ_AUTO_ACK", "RABBITMQ_EXCLUSIVE", "RABBITMQ_NO_LOCAL", "RABBITMQ_PREFETCH_COUNT",
  "RABBITMQ_PREFETCH_SIZE", "RABBITMQ_PREFETCH_GLOBAL", "RABBITMQ_EXCHANGE",
  "RABBITMQ_ROUTING_KEY", "HOSTNAME"]

/-- The variables that are set. -/
def readVariables : IO VariableFile.Variables :=
  variableNames.filterMapM fun name => do
    return (← IO.getEnv name).map (name, ·)

/-- Writes a file that the library has made. -/
def writeFile (tree : FileTree) (path : String) : IO Unit := do
  match FileTree.parent? path with
  | some above => if !above.isEmpty then IO.FS.createDirAll above
  | none => pure ()
  match tree.readBytes path with
  | .ok content => IO.FS.writeBinFile path ⟨content.toArray⟩
  | .error _ => pure ()

end BrokerClient

open BrokerClient in
def main (arguments : List String) : IO UInt32 := do
  let home := (← IO.getEnv "HOME").getD ""
  let command := Command.ofArguments arguments
  let target := match command with
    | .createFile path => some path
    | .run => none
  let machine : Machine := ⟨← readTree home target, home, ← readVariables⟩
  let outcome ← match command with
    | .createFile path => do
      let (tree, outcome) := Settings.create machine.tree path
      if outcome matches .ok () then writeFile tree path
      pure outcome
    | .run => do
      let startup := Service.start machine { hears := fun _ => false }
      startup.log.forM fun entry => IO.println entry.line.text
      pure (startup.result.map fun _ => ())
  let (code, errors) := Report.exit outcome
  (← IO.getStderr).putStr errors
  return code
