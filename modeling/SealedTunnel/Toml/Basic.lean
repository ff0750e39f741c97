import SealedTunnel.Decimal.Binary64

namespace SealedTunnel

open Decimal (Binary64)

inductive Toml
  | string (text : String)
  | integer (value : Int)
  | float (value : Binary64)
  | boolean (value : Bool)
  /-- A date, a time of day, or both. Which one does not matter. -/
  | moment
  | array (items : List Toml)
  | table (fields : List (String × Toml))
  deriving Repr

namespace Toml

def largestInteger : Int := 0x7fffffffffffffff

def leastInteger : Int := -0x8000000000000000

def field? (name : String) : Toml → Option Toml
  | table fields => fields.lookup name
  | _ => none

end Toml
end SealedTunnel
