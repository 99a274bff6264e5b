/-!
# Sorted fields

A list of named values in ascending order of the names, one for each name.  Names are ordered by
their characters, which is also the order of their UTF-8 bytes.
-/

namespace BrokerClient.Fields

variable {α : Type}

/-- Puts a value at its place; a value that was there under the name is replaced. -/
def insert (name : String) (value : α) : List (String × α) → List (String × α)
  | [] => [(name, value)]
  | (other, old) :: rest =>
    if name = other then (name, value) :: rest
    else if name < other then (name, value) :: (other, old) :: rest
    else (other, old) :: insert name value rest

/-- The fields in order; of two with one name the later stands. -/
def ofList (fields : List (String × α)) : List (String × α) :=
  fields.foldl (fun sorted field => insert field.1 field.2 sorted) []

/-- The value under a name. -/
def find? (name : String) (fields : List (String × α)) : Option α :=
  (List.find? (fun field => field.1 == name) fields).map (·.2)

/-- Takes a name away. -/
def erase (name : String) (fields : List (String × α)) : List (String × α) :=
  fields.filter fun field => field.1 != name

end BrokerClient.Fields
