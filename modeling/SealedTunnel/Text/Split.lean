/-! Cutting text at a separator, which belongs to none of the pieces. -/
namespace SealedTunnel.Text

def splitFirst? (separator : Char) : List Char → Option (List Char × List Char)
  | [] => none
  | c :: rest =>
    if c = separator then some ([], rest)
    else (splitFirst? separator rest).map fun (front, behind) => (c :: front, behind)

def splitLast? (separator : Char) : List Char → Option (List Char × List Char)
  | [] => none
  | c :: rest =>
    match splitLast? separator rest with
    | some (front, behind) => some (c :: front, behind)
    | none => if c = separator then some ([], rest) else none

/-- The pieces between all separators, one more than there are of these. -/
def pieces (separator : Char) : List Char → List (List Char)
  | [] => [[]]
  | c :: rest =>
    if c = separator then [] :: pieces separator rest
    else
      match pieces separator rest with
      | [] => [[c]]
      | first :: others => (c :: first) :: others

end SealedTunnel.Text
