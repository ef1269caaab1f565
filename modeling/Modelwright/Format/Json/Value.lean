import Modelwright.Number.Shortest

namespace Modelwright

/-! JSON values.  Whole numbers of 64 bits stay whole; every other number is a binary fraction. -/

inductive Number where
  | int (value : Int)
  | float (value : Binary64)
  deriving DecidableEq, Repr, Inhabited

inductive Json where
  | null
  | bool (value : Bool)
  | number (value : Number)
  | string (value : String)
  | array (items : List Json)
  | object (entries : List (String × Json))
  deriving Repr, Inhabited

namespace Number

def text : Number → String
  | .int n => toString n
  | .float x => x.text

end Number

namespace Json

/-- Entries are kept in the order of their keys; a later value for a key replaces an earlier
one. -/
def insertEntry (key : String) (value : Json) : List (String × Json) → List (String × Json)
  | [] => [(key, value)]
  | (k, v) :: rest =>
    if key < k then (key, value) :: (k, v) :: rest
    else if key = k then (key, value) :: rest
    else (k, v) :: insertEntry key value rest

def ofEntries (entries : List (String × Json)) : Json :=
  .object (entries.foldl (fun sorted entry => insertEntry entry.1 entry.2 sorted) [])

def string? : Json → Option String
  | .string s => some s
  | _ => none

end Json

end Modelwright
