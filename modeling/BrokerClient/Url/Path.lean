import BrokerClient.Url.Percent

/-!
# Paths

The path of an address is a list of segments, each written with a slash in front.  While it is read,
the segments `.` and `..`, also in encoded form, are resolved.
-/

namespace BrokerClient.Url

/-- The segment that stands for its own folder. -/
def isSingleDot (segment : List Char) : Bool :=
  segment.map Char.toLower ∈ ["." , "%2e"].map String.toList

/-- The segment that stands for the folder above. -/
def isDoubleDot (segment : List Char) : Bool :=
  segment.map Char.toLower ∈ ["..", ".%2e", "%2e.", "%2e%2e"].map String.toList

/-- A letter with a colon or a bar: the name of a drive, which `..` does not leave. -/
def isDriveLetter : List Char → Bool
  | [letter, mark] => letter.isAlpha && (mark = ':' || mark = '|')
  | _ => false

/-- The folder above; a drive is its own. -/
def leave (folders : List (List Char)) : List (List Char) :=
  match folders.getLast? with
  | some last => if isDriveLetter last then folders else folders.dropLast
  | none => []

/-- The segments that are left of `segments` below `folders` once the dots are resolved. -/
def resolveDots (folders : List (List Char)) : List (List Char) → List (List Char)
  | [] => folders
  | [last] =>
    if isDoubleDot last then leave folders ++ [[]]
    else if isSingleDot last then folders ++ [[]]
    else folders ++ [last]
  | segment :: rest =>
    if isDoubleDot segment then resolveDots (leave folders) rest
    else if isSingleDot segment then resolveDots folders rest
    else resolveDots (folders ++ [segment]) rest

/-- The pieces between the separators; there is always at least one. -/
def splitWhere (isSeparator : Char → Bool) : List Char → List (List Char)
  | [] => [[]]
  | c :: rest =>
    if isSeparator c then [] :: splitWhere isSeparator rest
    else
      match splitWhere isSeparator rest with
      | [] => [[c]]
      | piece :: pieces => (c :: piece) :: pieces

/-- The segments of a path that is given without the slash in front. -/
def segmentsOf (isSeparator : Char → Bool) (chars : List Char) : List (List Char) :=
  resolveDots [] ((splitWhere isSeparator chars).map (encode .path))

/-- The written form of a path. -/
def showSegments (segments : List (List Char)) : List Char :=
  segments.flatMap ('/' :: ·)

end BrokerClient.Url
