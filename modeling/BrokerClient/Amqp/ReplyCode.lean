/-!
# Reply codes

The error codes of AMQP 0-9-1.  A soft error closes the channel on which it came up, a hard error
the whole connection.
-/

namespace BrokerClient.Amqp

/-- How much an error closes. -/
inductive Severity
  | soft
  | hard
  deriving Repr, DecidableEq

def Severity.name : Severity → String
  | .soft => "soft"
  | .hard => "hard"

/-- The error codes with their severity and name. -/
def replyCodes : List (Nat × Severity × String) := [
  (311, .soft, "CONTENT-TOO-LARGE"),
  (312, .soft, "NO-ROUTE"),
  (313, .soft, "NO-CONSUMERS"),
  (403, .soft, "ACCESS-REFUSED"),
  (404, .soft, "NOT-FOUND"),
  (405, .soft, "RESOURCE-LOCKED"),
  (406, .soft, "PRECONDITION-FAILED"),
  (320, .hard, "CONNECTION-FORCED"),
  (402, .hard, "INVALID-PATH"),
  (501, .hard, "FRAME-ERROR"),
  (502, .hard, "SYNTAX-ERROR"),
  (503, .hard, "COMMAND-INVALID"),
  (504, .hard, "CHANNEL-ERROR"),
  (505, .hard, "UNEXPECTED-FRAME"),
  (506, .hard, "RESOURCE-ERROR"),
  (530, .hard, "NOT-ALLOWED"),
  (540, .hard, "NOT-IMPLEMENTED"),
  (541, .hard, "INTERNAL-ERROR")]

/-- An error that one side of a connection reports to the other. -/
structure ProtocolError where
  severity : Severity
  name : String
  text : String
  deriving Repr, DecidableEq

/-- The error with a code, if the protocol defines the code. -/
def ProtocolError.ofCode? (code : Nat) (text : String) : Option ProtocolError :=
  (replyCodes.find? (·.1 == code)).map fun (_, severity, name) => ⟨severity, name, text⟩

def ProtocolError.message (e : ProtocolError) : String :=
  "AMQP " ++ e.severity.name ++ " error: " ++ e.name ++ ": " ++ e.text

end BrokerClient.Amqp
