import SealedTunnel.Decimal.Binary64

/-!
Documents of nested values. An object's fields stand in the order in which they are written; of a document
that was read they are in ascending order, and no name occurs twice.
-/
namespace SealedTunnel

open Decimal (Binary64)

inductive Json
  | null
  | bool (value : Bool)
  | integer (value : Int)
  | float (value : Binary64)
  | string (text : String)
  | array (items : List Json)
  | object (fields : List (String × Json))
  deriving Repr

namespace Json

def insertField (name : String) (value : Json) : List (String × Json) → List (String × Json)
  | [] => [(name, value)]
  | (other, held) :: rest =>
    if name < other then (name, value) :: (other, held) :: rest
    else if name = other then (name, value) :: rest
    else (other, held) :: insertField name value rest

/-- An object of these fields; the last of several with one name counts. -/
def ofFields (fields : List (String × Json)) : Json :=
  object (fields.foldl (fun done field => insertField field.1 field.2 done) [])

/-- The field of that name; a null counts as absent. -/
def field? (name : String) : Json → Option Json
  | object fields =>
    match fields.lookup name with
    | some null => none
    | found => found
  | _ => none

def string? : Json → Option String
  | string text => some text
  | _ => none

def bool? : Json → Option Bool
  | bool value => some value
  | _ => none

def integer? : Json → Option Int
  | integer value => some value
  | _ => none

def array? : Json → Option (List Json)
  | array items => some items
  | _ => none

end Json
end SealedTunnel
