import Modelwright.Format.Node

namespace Modelwright

abbrev Record := List (String × Node)

namespace Node

/-- The entries with a known key.  A known key may not be repeated; other entries are passed
over, but their keys must be texts. -/
def knownEntries? (names : List String) (entries : List (Node × Node)) : Option Record := do
  let named ← entries.mapM fun entry => do return (← entry.1.text?, entry.2)
  let known := named.filter fun entry => names.contains entry.1
  if (known.map (·.1)).Nodup then some known else none

/-- A record is a mapping, or in some dialects a sequence that gives its places in order. -/
def record? (dialect : Dialect) (names : List String) (node : Node) : Option Record :=
  match node.untagged with
  | .mapping entries => knownEntries? names entries
  | .sequence items =>
    if dialect.listedRecords ∧ items.length ≤ names.length then some (names.zip items) else none
  | .scalar reading => if reading.isBlank then some [] else none
  | .tagged _ _ => none

def list? (read : Node → Option α) (node : Node) : Option (List α) :=
  node.items?.bind (·.mapM read)

def case? (dialect : Dialect) (cases : List (String × α)) (node : Node) : Option α := do
  match ← node.variant? dialect with
  | (name, none) => cases.lookup name
  | (name, some payload) => if payload.isNull then cases.lookup name else none

end Node

namespace Record

def required (record : Record) (name : String) (read : Node → Option α) : Option α :=
  (record.lookup name).bind read

def withDefault (record : Record) (name : String) (fallback : α) (read : Node → Option α) :
    Option α :=
  match record.lookup name with
  | none => some fallback
  | some node => read node

def optional (record : Record) (name : String) (read : Node → Option α) : Option (Option α) :=
  match record.lookup name with
  | none => some none
  | some node => do if ← node.missing? then return none else return some (← read node)

end Record

end Modelwright
