import Modelwright.Format.Yaml.Token
import Modelwright.Reading

namespace Modelwright.Yaml

/-- A document before its aliases are followed.  The names of anchors may be of any type. -/
inductive Tree (ι : Type) where
  | scalar (tag : Option String) (style : Style) (text : String)
  | sequence (tag : Option String) (items : List (Tree ι))
  | mapping (tag : Option String) (entries : List (Tree ι × Tree ι))
  | alias (name : ι)
  | anchored (name : ι) (body : Tree ι)
  deriving Inhabited

abbrev Handles := List (String × String)

def standardHandles : Handles := [("!", "!"), ("!!", "tag:yaml.org,2002:")]

namespace Handles

def expand? (handles : Handles) (handle suffix : String) : Option String :=
  if handle.isEmpty then some suffix else (handles.lookup handle).map (· ++ suffix)

end Handles

def Tree.empty (tag : Option String) : Tree String := .scalar tag .plain ""

abbrev Parsed (α : Type) (bound : Nat) := Option (Reading Token bound α)

structure Place where
  block : Bool
  indentless : Bool

namespace Place

def flow : Place := ⟨false, false⟩

def blockItem : Place := ⟨true, false⟩

def mappingPart : Place := ⟨true, true⟩

def starts (place : Place) : Token → Bool
  | .scalar .. => true
  | .flowSequenceStart => true
  | .flowMappingStart => true
  | .blockSequenceStart => place.block
  | .blockMappingStart => place.block
  | .blockEntry => place.indentless
  | _ => false

end Place

mutual

/-- A node with its properties; one of both must be there. -/
def node? (handles : Handles) (place : Place) (tokens : List Token) :
    Parsed (Tree String) tokens.length :=
  match tokens with
  | .alias name :: rest => some ⟨.alias name, rest, Nat.lt_succ_self _⟩
  | .anchor name :: .tag handle suffix :: rest => do
    let tag ← handles.expand? handle suffix
    let body ← body? handles place (some tag) rest
    return (body.map (.anchored name)).weaken (by simp)
  | .anchor name :: rest => do
    let body ← body? handles place none rest
    return (body.map (.anchored name)).weaken (by simp)
  | .tag handle suffix :: .anchor name :: rest => do
    let tag ← handles.expand? handle suffix
    let body ← body? handles place (some tag) rest
    return (body.map (.anchored name)).weaken (by simp)
  | .tag handle suffix :: rest => do
    let tag ← handles.expand? handle suffix
    let body ← body? handles place (some tag) rest
    return body.weaken (by simp)
  | tokens => content? handles place none tokens
termination_by (tokens.length, 2)

def body? (handles : Handles) (place : Place) (tag : Option String) (tokens : List Token) :
    Parsed (Tree String) (tokens.length + 1) :=
  if tokens.head?.any place.starts then
    (content? handles place tag tokens).map (·.weaken (Nat.le_succ _))
  else some ⟨.empty tag, tokens, Nat.lt_succ_self _⟩
termination_by (tokens.length, 1)

def content? (handles : Handles) (place : Place) (tag : Option String) (tokens : List Token) :
    Parsed (Tree String) tokens.length :=
  match tokens with
  | .scalar style text :: rest => some ⟨.scalar tag style text, rest, Nat.lt_succ_self _⟩
  | .flowSequenceStart :: rest =>
    (flowItems? handles rest).map fun r => (r.map (.sequence tag)).weaken (by simp)
  | .flowMappingStart :: rest =>
    (flowEntries? handles rest).map fun r => (r.map (.mapping tag)).weaken (by simp)
  | .blockSequenceStart :: rest =>
    if place.block then
      (blockItems? handles rest).map fun r => (r.map (.sequence tag)).weaken (by simp)
    else none
  | .blockMappingStart :: rest =>
    if place.block then
      (blockEntries? handles rest).map fun r => (r.map (.mapping tag)).weaken (by simp)
    else none
  | .blockEntry :: rest =>
    if place.indentless then do
      let first ← part? handles .blockItem [.blockEntry, .key, .value, .blockEnd] rest
      have := first.shorter
      let more ← indentlessItems? handles first.rest
      return (more.map fun items => .sequence tag (first.value :: items)).weaken
        (by simp only [List.length_cons]; omega)
    else none
  | _ => none
termination_by (tokens.length, 0)

/-- A node that is empty if one of the given tokens follows at once. -/
def part? (handles : Handles) (place : Place) (stops : List Token) (tokens : List Token) :
    Parsed (Tree String) (tokens.length + 1) :=
  if tokens.head?.any stops.contains then some ⟨.empty none, tokens, Nat.lt_succ_self _⟩
  else (node? handles place tokens).map (·.weaken (Nat.le_succ _))
termination_by (tokens.length, 3)

def blockItems? (handles : Handles) (tokens : List Token) :
    Parsed (List (Tree String)) tokens.length :=
  match tokens with
  | .blockEnd :: rest => some ⟨[], rest, Nat.lt_succ_self _⟩
  | .blockEntry :: rest => do
    let first ← part? handles .blockItem [.blockEntry, .blockEnd] rest
    have := first.shorter
    let more ← blockItems? handles first.rest
    return (more.map (first.value :: ·)).weaken (by simp only [List.length_cons]; omega)
  | _ => none
termination_by (tokens.length, 0)

/-- Items of a sequence without indentation, which ends with the first token that is no entry. -/
def indentlessItems? (handles : Handles) (tokens : List Token) :
    Parsed (List (Tree String)) (tokens.length + 1) :=
  match tokens with
  | .blockEntry :: rest => do
    let first ← part? handles .blockItem [.blockEntry, .key, .value, .blockEnd] rest
    have := first.shorter
    let more ← indentlessItems? handles first.rest
    return (more.map (first.value :: ·)).weaken (by simp only [List.length_cons]; omega)
  | tokens => some ⟨[], tokens, Nat.lt_succ_self _⟩
termination_by (tokens.length, 0)

def entryValue? (handles : Handles) (place : Place) (stops : List Token) (tokens : List Token) :
    Parsed (Tree String) (tokens.length + 1) :=
  match tokens with
  | .value :: rest =>
    (part? handles place stops rest).map (·.weaken (by simp))
  | tokens => some ⟨.empty none, tokens, Nat.lt_succ_self _⟩
termination_by (tokens.length, 0)

def blockEntries? (handles : Handles) (tokens : List Token) :
    Parsed (List (Tree String × Tree String)) tokens.length :=
  match tokens with
  | .blockEnd :: rest => some ⟨[], rest, Nat.lt_succ_self _⟩
  | .key :: rest => do
    let key ← part? handles .mappingPart [.key, .value, .blockEnd] rest
    have := key.shorter
    let value ← entryValue? handles .mappingPart [.key, .value, .blockEnd] key.rest
    have := value.shorter
    let more ← blockEntries? handles value.rest
    return (more.map ((key.value, value.value) :: ·)).weaken
      (by simp only [List.length_cons]; omega)
  | _ => none
termination_by (tokens.length, 0)

/-- A pair inside a flow sequence, behind the mark of its key.  A mark where the key should be is
passed over. -/
def flowPair? (handles : Handles) (tokens : List Token) :
    Parsed (Tree String) (tokens.length + 1) := do
  let key : Reading Token (tokens.length + 1) (Tree String) ←
    if tokens.head?.any [.value, .flowEntry, .flowSequenceEnd].contains then
      some ⟨.empty none, tokens.tail, by simp only [List.length_tail]; omega⟩
    else (node? handles .flow tokens).map (·.weaken (Nat.le_succ _))
  have := key.shorter
  let value ← entryValue? handles .flow [.flowEntry, .flowSequenceEnd] key.rest
  return (value.map fun value => .mapping none [(key.value, value)]).weaken (by omega)
termination_by (tokens.length + 1, 0)

def flowItem? (handles : Handles) (tokens : List Token) : Parsed (Tree String) tokens.length :=
  match tokens with
  | .key :: rest => (flowPair? handles rest).map (·.weaken (by simp))
  | tokens => node? handles .flow tokens
termination_by (tokens.length, 3)

/-- Items of a flow sequence through its end; a comma may stand behind the last. -/
def flowItems? (handles : Handles) (tokens : List Token) :
    Parsed (List (Tree String)) tokens.length :=
  match tokens with
  | .flowSequenceEnd :: rest => some ⟨[], rest, Nat.lt_succ_self _⟩
  | tokens => do
    let first ← flowItem? handles tokens
    have hfirst := first.shorter
    match hrest : first.rest with
    | .flowSequenceEnd :: rest => return ⟨[first.value], rest, by
        simp only [hrest, List.length_cons] at hfirst
        omega⟩
    | .flowEntry :: rest =>
      have : rest.length < tokens.length := by
        simp only [hrest, List.length_cons] at hfirst
        omega
      let more ← flowItems? handles rest
      return (more.map (first.value :: ·)).weaken (by omega)
    | _ => none
termination_by (tokens.length, 4)

/-- An entry of a flow mapping; without a mark it is a key alone. -/
def flowEntry? (handles : Handles) (tokens : List Token) :
    Parsed (Tree String × Tree String) tokens.length :=
  match tokens with
  | .key :: rest => do
    let key ← part? handles .flow [.value, .flowEntry, .flowMappingEnd] rest
    have := key.shorter
    let value ← entryValue? handles .flow [.flowEntry, .flowMappingEnd] key.rest
    return (value.map fun value => (key.value, value)).weaken
      (by simp only [List.length_cons]; omega)
  | tokens => (node? handles .flow tokens).map (·.map fun key => (key, .empty none))
termination_by (tokens.length, 3)

def flowEntries? (handles : Handles) (tokens : List Token) :
    Parsed (List (Tree String × Tree String)) tokens.length :=
  match tokens with
  | .flowMappingEnd :: rest => some ⟨[], rest, Nat.lt_succ_self _⟩
  | tokens => do
    let first ← flowEntry? handles tokens
    have hfirst := first.shorter
    match hrest : first.rest with
    | .flowMappingEnd :: rest => return ⟨[first.value], rest, by
        simp only [hrest, List.length_cons] at hfirst
        omega⟩
    | .flowEntry :: rest =>
      have : rest.length < tokens.length := by
        simp only [hrest, List.length_cons] at hfirst
        omega
      let more ← flowEntries? handles rest
      return (more.map (first.value :: ·)).weaken (by omega)
    | _ => none
termination_by (tokens.length, 4)

end

end Modelwright.Yaml
