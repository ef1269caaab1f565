import Modelwright.Format.Json.Value

namespace Modelwright

/-! Nodes of a data document, before it is known what each place of it should hold.  A scalar says
how it reads at each kind of place; mappings keep repeated keys. -/

structure Scalar where
  text? : Option String
  bool? : Option Bool
  /-- As a natural number, which is written without a minus sign. -/
  nat? : Option Nat
  /-- Where a value may be missing, whether it is.  A scalar that is marked as missing and still
  says something is neither. -/
  missing? : Option Bool
  /-- Where a sequence or a record is wanted. -/
  isBlank : Bool
  value? : Option Json
  deriving Inhabited

inductive Node where
  | scalar (reading : Scalar)
  | sequence (items : List Node)
  | mapping (entries : List (Node × Node))
  | tagged (tag : String) (body : Node)
  deriving Inhabited

/-- What a document's notation decides about reading: whether a mapping of one key can stand for a
tagged value, whether a sequence can stand for a record, and how deep values may nest. -/
structure Dialect where
  keyedVariants : Bool
  listedRecords : Bool
  maxDepth : Option Nat
  deriving Repr

namespace Scalar

def null : Scalar := ⟨none, none, none, some true, false, some .null⟩

def ofBool (b : Bool) : Scalar := ⟨none, some b, none, some false, false, some (.bool b)⟩

/-- A number out of range has no value. -/
def ofNumber? (n? : Option Number) : Scalar :=
  let nat? := match n? with
    | some (.int n) => if 0 ≤ n then some n.toNat else none
    | _ => none
  ⟨none, none, nat?, some false, false, n?.map .number⟩

/-- A text that is no sequence of characters has no value. -/
def ofText? (s? : Option String) : Scalar :=
  ⟨s?, none, none, some false, false, s?.map .string⟩

end Scalar

namespace Node

/-- A tag does not matter where the kind of value is known. -/
def untagged : Node → Node
  | .tagged _ body => body
  | node => node

def scalar? (node : Node) : Option Scalar :=
  match node.untagged with
  | .scalar reading => some reading
  | _ => none

def text? (node : Node) : Option String :=
  node.scalar?.bind (·.text?)

def bool? (node : Node) : Option Bool :=
  node.scalar?.bind (·.bool?)

/-- Sizes take 32 bits. -/
def size? (node : Node) : Option Nat :=
  (node.scalar?.bind (·.nat?)).filter (· < 1 <<< 32)

def missing? : Node → Option Bool
  | .scalar reading => reading.missing?
  | _ => some false

def isNull (node : Node) : Bool :=
  node.missing? == some true

def items? (node : Node) : Option (List Node) :=
  match node.untagged with
  | .sequence items => some items
  | .scalar reading => if reading.isBlank then some [] else none
  | _ => none

def variant? (dialect : Dialect) : Node → Option (String × Option Node)
  | .scalar reading => reading.text?.map (·, none)
  | .tagged tag body => some (tag, some body)
  | .mapping [(key, body)] => if dialect.keyedVariants then key.text?.map (·, some body) else none
  | _ => none

/-- A value of any shape.  Keys must be texts. -/
def json? : Node → Option Json
  | .scalar reading => reading.value?
  | .sequence items => (jsonItems? items).map .array
  | .mapping entries => (jsonEntries? entries).map Json.ofEntries
  | .tagged _ _ => none
where
  jsonItems? : List Node → Option (List Json)
    | [] => some []
    | item :: items => do return (← json? item) :: (← jsonItems? items)
  jsonEntries? : List (Node × Node) → Option (List (String × Json))
    | [] => some []
    | (key, value) :: entries => do
      return (← key.text?, ← json? value) :: (← jsonEntries? entries)

/-- The number of sequences and mappings around the innermost scalar. -/
def depth : Node → Nat
  | .scalar _ => 0
  | .sequence items => depthOfItems items + 1
  | .mapping entries => depthOfEntries entries + 1
  | .tagged _ body => depth body
where
  depthOfItems : List Node → Nat
    | [] => 0
    | item :: items => max (depth item) (depthOfItems items)
  depthOfEntries : List (Node × Node) → Nat
    | [] => 0
    | (key, value) :: entries => max (max (depth key) (depth value)) (depthOfEntries entries)

def fits (dialect : Dialect) (outer : Nat) (node : Node) : Bool :=
  match dialect.maxDepth with
  | none => true
  | some limit => outer + node.depth ≤ limit

end Node

namespace Json

def node : Json → Node
  | .null => .scalar .null
  | .bool b => .scalar (.ofBool b)
  | .number n => .scalar (.ofNumber? (some n))
  | .string s => .scalar (.ofText? (some s))
  | .array items => .sequence (nodes items)
  | .object entries => .mapping (entryNodes entries)
where
  nodes : List Json → List Node
    | [] => []
    | item :: items => node item :: nodes items
  entryNodes : List (String × Json) → List (Node × Node)
    | [] => []
    | (key, value) :: entries =>
      (.scalar (.ofText? (some key)), node value) :: entryNodes entries

end Json

end Modelwright
