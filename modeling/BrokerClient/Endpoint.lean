import BrokerClient.Url.Basic

/-!
# Endpoints

An endpoint is the address of a broker, kept as text.  Several endpoints are written in one text
with commas between them; white space around an entry and entries that are blank do not count.
-/

namespace BrokerClient.Endpoint

/-- The entries of a comma-separated list. -/
def parseChars (chars : List Char) : List (List Char) :=
  ((Text.splitChars ',' chars).map Text.trimChars).filter fun entry => !entry.isEmpty

/-- The endpoints in a comma-separated list, in order. -/
def parseList (text : String) : List String :=
  (parseChars text.toList).map String.ofList

/-- The endpoint as it may be shown: with stars for its password.  A text that is no address, or one
whose password cannot be replaced, stays. -/
def redact (endpoint : String) : String :=
  match Url.parse endpoint with
  | .error _ => endpoint
  | .ok url =>
    match url.maskPassword? "***" with
    | some masked => masked.text
    | none => endpoint

end BrokerClient.Endpoint
