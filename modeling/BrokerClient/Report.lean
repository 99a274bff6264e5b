import BrokerClient.Text.Blank

/-!
# Failure reports

A report is the message of a failure together with the messages of what caused it, the nearest cause
first.
-/

namespace BrokerClient

/-- A failure and its causes. -/
structure Report where
  message : String
  causes : List String
  deriving Repr, DecidableEq

namespace Report

/-- A failure with no cause but itself. -/
def ofMessage (message : String) : Report :=
  ⟨message, []⟩

/-- Says what was being done when the failure came up. -/
def context (report : Report) (message : String) : Report :=
  ⟨message, report.message :: report.causes⟩

/-- The message and all causes on one line. -/
def line (report : Report) : String :=
  Text.join ": " (report.message :: report.causes)

/-- A cause after `lead`, its further lines indented by `indent`. -/
def cause (lead indent text : String) : String :=
  "\n" ++ lead ++ Text.join ("\n" ++ indent) (Text.split '\n' text)

/-- The number of a cause, right-aligned in five columns. -/
def number (i : Nat) : String :=
  String.ofList (List.replicate (5 - (toString i).length) ' ') ++ toString i ++ ": "

/-- The message and all causes on lines of their own; several causes are numbered. -/
def lines (report : Report) : String :=
  match report.causes with
  | [] => report.message
  | [only] => report.message ++ "\n\nCaused by:" ++ cause "    " "    " only
  | causes =>
    report.message ++ "\n\nCaused by:" ++
      String.join (causes.zipIdx.map fun (text, i) => cause (number i) "       " text)

end Report

end BrokerClient
