import Modelwright.Format.Shape
import Modelwright.Format.Yaml.Tree
import Modelwright.Format.Yaml.Value

namespace Modelwright.Yaml

/-! Following aliases.  An anchor gets as its number how many names were known before it, so a name
that is used again takes a new number, which a later name may share; an alias means the last node
of its number, wherever that stands. -/

namespace Tree

abbrev Names := List (String × Nat)

namespace Names

def insert (names : Names) (name : String) : Names :=
  (name, names.length) :: names.filter (·.1 != name)

end Names

mutual

/-- Numbers for names.  An alias must have its anchor before it. -/
def numbered? (names : Names) : Tree String → Option (Tree Nat × Names)
  | .scalar tag style text => some (.scalar tag style text, names)
  | .sequence tag items => do
    let (items, names) ← numberedItems? names items
    return (.sequence tag items, names)
  | .mapping tag entries => do
    let (entries, names) ← numberedEntries? names entries
    return (.mapping tag entries, names)
  | .alias name => do return (.alias (← names.lookup name), names)
  | .anchored name body => do
    let (body, later) ← numbered? (names.insert name) body
    return (.anchored names.length body, later)

def numberedItems? (names : Names) : List (Tree String) → Option (List (Tree Nat) × Names)
  | [] => some ([], names)
  | item :: items => do
    let (item, names) ← numbered? names item
    let (items, names) ← numberedItems? names items
    return (item :: items, names)

def numberedEntries? (names : Names) :
    List (Tree String × Tree String) → Option (List (Tree Nat × Tree Nat) × Names)
  | [] => some ([], names)
  | (key, value) :: entries => do
    let (key, names) ← numbered? names key
    let (value, names) ← numbered? names value
    let (entries, names) ← numberedEntries? names entries
    return ((key, value) :: entries, names)

end

/-- The nodes with anchors in the order in which they start. -/
def anchors : Tree ι → List (ι × Tree ι)
  | .scalar .. => []
  | .sequence _ items => anchorsOfItems items
  | .mapping _ entries => anchorsOfEntries entries
  | .alias _ => []
  | .anchored name body => (name, body) :: anchors body
where
  anchorsOfItems : List (Tree ι) → List (ι × Tree ι)
    | [] => []
    | item :: items => anchors item ++ anchorsOfItems items
  anchorsOfEntries : List (Tree ι × Tree ι) → List (ι × Tree ι)
    | [] => []
    | (key, value) :: entries => anchors key ++ anchors value ++ anchorsOfEntries entries

/-- The marks that write a tree: one for a scalar or an alias, two for a collection. -/
def size : Tree ι → Nat
  | .scalar .. => 1
  | .sequence _ items => sizeOfItems items + 2
  | .mapping _ entries => sizeOfEntries entries + 2
  | .alias _ => 1
  | .anchored _ body => size body
where
  sizeOfItems : List (Tree ι) → Nat
    | [] => 0
    | item :: items => size item + sizeOfItems items
  sizeOfEntries : List (Tree ι × Tree ι) → Nat
    | [] => 0
    | (key, value) :: entries => size key + size value + sizeOfEntries entries

/-- A node under its tag.  A local tag names a case. -/
def tagNode (tag : Option String) (node : Node) : Node :=
  match tag.map String.toList with
  | some ('!' :: name) => .tagged (String.ofList name) node
  | _ => node

def scalarNode (tag : Option String) (style : Style) (text : String) : Node :=
  match tag with
  | none => .scalar (Yaml.scalar style text)
  | some name =>
    if name.toList.head? = some '!' then tagNode tag (.scalar (Yaml.scalar style text))
    else .scalar (taggedScalar name style text)

def unreadable : Node := .scalar (.ofText? none)

/-- What an alias leads to, and how many aliases are followed there: in reading all of it, and in
reading what a shape takes of it. -/
structure Target where
  node : Node
  steps : Nat
  stepsWithin : Shape → Nat
  deriving Inhabited

/-- Nothing is behind an alias that has been followed too often. -/
def Target.none : Target := ⟨unreadable, 0, fun _ => 0⟩

abbrev Targets := List (Nat × Target)

def Targets.of (targets : Targets) (name : Nat) : Target :=
  (targets.lookup name).getD .none

def node (targets : Targets) : Tree Nat → Node
  | .scalar tag style text => scalarNode tag style text
  | .sequence tag items => tagNode tag (.sequence (nodesOfItems items))
  | .mapping tag entries => tagNode tag (.mapping (nodesOfEntries entries))
  | .alias name => (targets.of name).node
  | .anchored _ body => node targets body
where
  nodesOfItems : List (Tree Nat) → List Node
    | [] => []
    | item :: items => node targets item :: nodesOfItems items
  nodesOfEntries : List (Tree Nat × Tree Nat) → List (Node × Node)
    | [] => []
    | (key, value) :: entries => (node targets key, node targets value) :: nodesOfEntries entries

/-- How many aliases are followed in reading a whole tree. -/
def steps (targets : Targets) : Tree Nat → Nat
  | .scalar .. => 0
  | .sequence _ items => stepsOfItems items
  | .mapping _ entries => stepsOfEntries entries
  | .alias name => (targets.of name).steps + 1
  | .anchored _ body => steps targets body
where
  stepsOfItems : List (Tree Nat) → Nat
    | [] => 0
    | item :: items => steps targets item + stepsOfItems items
  stepsOfEntries : List (Tree Nat × Tree Nat) → Nat
    | [] => 0
    | (key, value) :: entries => steps targets key + steps targets value + stepsOfEntries entries

def bare : Tree ι → Tree ι
  | .anchored _ body => bare body
  | tree => tree

/-- How many aliases are followed in reading a tree in a shape.  What stands at a place that a
record does not have is passed over, with the aliases in it. -/
def stepsWithin (targets : Targets) : Shape → Tree Nat → Nat
  | .list item, tree =>
    match tree.bare with
    | .sequence _ items => (items.map (stepsWithin targets item)).sum
    | .alias name => (targets.of name).stepsWithin (.list item) + 1
    | _ => 0
  | .record required allowed, tree =>
    match tree.bare with
    | .mapping _ entries =>
      (entries.map fun (key, value) =>
        let name := (key.node targets).text?
        key.steps targets + stepsAt required name value + stepsAt allowed name value).sum
    | .alias name => (targets.of name).stepsWithin (.record required allowed) + 1
    | _ => 0
  | _, tree => tree.steps targets
where
  stepsAt : List (String × Shape) → Option String → Tree Nat → Nat
    | [], _, _ => 0
    | (place, shape) :: places, name, value =>
      if name = some place then stepsWithin targets shape value else stepsAt places name value

/-- The targets of anchors after so many rounds of following aliases. -/
def targets (anchors : List (Nat × Tree Nat)) : Nat → Targets
  | 0 => []
  | rounds + 1 =>
    let known := targets anchors rounds
    anchors.map fun (name, body) =>
      (name, ⟨body.node known, body.steps known, (stepsWithin known · body)⟩)

/-- An alias inside its own anchor can be followed again and again, but each time it leads one
collection deeper. -/
def rounds : Nat := 128

/-- The node of a tree with its aliases followed, unless reading it in a shape follows more of them
than a hundred for each mark. -/
def resolved? (shape : Shape) (tree : Tree String) : Option Node := do
  let (tree, _) ← tree.numbered? []
  let targets := targets tree.anchors.reverse rounds
  if tree.stepsWithin targets shape ≤ 100 * tree.size then some (tree.node targets) else none

end Tree

end Modelwright.Yaml
