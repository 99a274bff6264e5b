import BrokerClient.Text.Blank

/-!
# Log lines and turns

A log line has a level, a message and named values, which are kept as the texts that are shown.

The parts of a client are tasks that go on in small turns: a turn changes the state that the task
works on, moves the task to its next point, and logs.
-/

namespace BrokerClient

namespace Log

inductive Level
  | debug
  | info
  | warn
  | error
  deriving Repr, DecidableEq

def Level.name : Level → String
  | debug => "DEBUG"
  | info => "INFO"
  | warn => "WARN"
  | error => "ERROR"

/-- A log line without time and place. -/
structure Line where
  level : Level
  message : String
  values : List (String × String)
  deriving Repr, DecidableEq

namespace Line

/-- The named values, each after a blank. -/
def valuesText (line : Line) : String :=
  String.join (line.values.map fun (name, value) => " " ++ name ++ "=" ++ value)

/-- Level, message and values. -/
def text (line : Line) : String :=
  line.level.name ++ " " ++ line.message ++ line.valuesText

/-- Level and values, the message being the first of them. -/
def flatText (line : Line) : String :=
  line.level.name ++ " message=" ++ line.message ++ line.valuesText

end Line

def debug (message : String) (values : List (String × String)) : Line :=
  ⟨.debug, message, values⟩

def info (message : String) (values : List (String × String)) : Line :=
  ⟨.info, message, values⟩

def warn (message : String) (values : List (String × String)) : Line :=
  ⟨.warn, message, values⟩

def error (message : String) (values : List (String × String)) : Line :=
  ⟨.error, message, values⟩

end Log

/-- What a turn of a task at a point of type `π` leaves behind. -/
structure Turn (σ π : Type) where
  state : σ
  point : π
  log : List Log.Line := []

end BrokerClient
