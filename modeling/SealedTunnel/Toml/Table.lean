import SealedTunnel.Toml.Basic

/-!
Building tables from entries and headers. A table is written in one place: it cannot be given twice,
nor extended from elsewhere once it has been given.
-/
namespace SealedTunnel.Toml

inductive Standing
  /-- By its own header. -/
  | given
  /-- As part of the header of another one. -/
  | implied
  /-- By dots in the keys of entries. -/
  | dotted
  deriving DecidableEq, Repr

inductive Node
  | value (value : Toml)
  | table (standing : Standing) (fields : List (String × Node))
  /-- Tables of one name, the latest last. -/
  | tables (items : List (List (String × Node)))

abbrev Fields := List (String × Node)

def setField (name : String) (node : Node) : Fields → Fields
  | [] => [(name, node)]
  | (other, held) :: rest => if other = name then (name, node) :: rest else (other, held) :: setField name node rest

/-- Changes the table at the end of a path. Tables that are missing on the way are made. -/
def reach (made : Standing) (mayEnter : Standing → Bool) (change : Standing → Fields → Option Fields) :
    (standing : Standing) → (path : List String) → Fields → Option Fields
  | standing, [], fields => change standing fields
  | _, name :: path, fields => do
    match fields.lookup name with
    | none =>
      let inner ← reach made mayEnter change made path []
      return setField name (.table made inner) fields
    | some (.table standing inner) =>
      if mayEnter standing then
        let inner ← reach made mayEnter change standing path inner
        return setField name (.table standing inner) fields
      else none
    | some (.tables items) =>
      let inner ← reach made mayEnter change .given path (items.getLastD [])
      return setField name (.tables (items.dropLast ++ [inner])) fields
    | some (.value _) => none

def atHeader (path : List String) (change : Fields → Option Fields) (root : Fields) : Option Fields :=
  reach .implied (fun _ => true) (fun _ => change) .given path root

/-- An entry by a key, which leads only into tables made by dots. -/
def addEntry (path : List String) (name : String) (value : Toml) (fields : Fields) : Option Fields :=
  reach .dotted (· ≠ .given)
    (fun standing fields =>
      if (standing = .dotted) = path.isEmpty ∨ (fields.lookup name).isSome then none
      else some (setField name (.value value) fields))
    .given path fields

def giveTable (name : String) (fields : Fields) : Option Fields :=
  match fields.lookup name with
  | none => some (setField name (.table .given []) fields)
  | some (.table .implied inner) => some (setField name (.table .given inner) fields)
  | _ => none

def giveItem (name : String) (fields : Fields) : Option Fields :=
  match fields.lookup name with
  | none => some (setField name (.tables [[]]) fields)
  | some (.tables items) => some (setField name (.tables (items ++ [[]])) fields)
  | _ => none

mutual

def Node.toToml : Node → Toml
  | .value value => value
  | .table _ fields => .table (fieldValues fields)
  | .tables items => .array (itemValues items)

def fieldValues : List (String × Node) → List (String × Toml)
  | [] => []
  | (name, node) :: rest => (name, node.toToml) :: fieldValues rest

def itemValues : List (List (String × Node)) → List Toml
  | [] => []
  | fields :: rest => .table (fieldValues fields) :: itemValues rest

end

def ofEntries? (entries : List ((List String × String) × Toml)) : Option Toml :=
  (entries.foldlM (fun fields ((path, name), value) => addEntry path name value fields) ([] : Fields)).map fun fields =>
    .table (fieldValues fields)

end SealedTunnel.Toml
