import Modelwright.Format.Yaml.Scalars
import Modelwright.Format.Yaml.Tag
import Modelwright.Text.Span

namespace Modelwright.Yaml

/-! From characters to tokens.  Block collections are opened and closed by the column that a token
stands in.  A mapping key is recognized by the colon behind it, so the place of a possible key is
kept until then. -/

/-- A place where a mapping key may have started. -/
structure PossibleKey where
  number : Nat
  place : Cursor
  /-- Whether nothing else can stand there. -/
  required : Bool
  deriving Repr, Inhabited

namespace PossibleKey

/-- A key and its colon stand on one line, at most 1024 bytes apart. -/
def reaches (key : PossibleKey) (cursor : Cursor) : Bool :=
  key.place.line == cursor.line &&
    Text.byteLength (key.place.rest.take (cursor.column - key.place.column)) ≤ 1024

end PossibleKey

structure Layout where
  cursor : Cursor
  /-- The tokens read, the last one first. -/
  tokens : List Token
  /-- The columns of the open block collections, the innermost first. -/
  columns : List Nat
  /-- Whether a key may start here without a mark. -/
  keyAllowed : Bool
  key : Option PossibleKey
  /-- The possible keys in front of the open flow collections, the innermost first. -/
  outerKeys : List (Option PossibleKey)
  deriving Repr, Inhabited

namespace Layout

def start (cursor : Cursor) : Layout := ⟨cursor, [], [], true, none, []⟩

/-- Whether a flow collection is open; inside one indentation does not matter. -/
def isFlow (layout : Layout) : Bool :=
  !layout.outerKeys.isEmpty

def indent (layout : Layout) : Int :=
  match layout.columns with
  | [] => -1
  | column :: _ => column

def emit (layout : Layout) (token : Token) : Layout :=
  { layout with tokens := token :: layout.tokens }

def insert (layout : Layout) (number : Nat) (token : Token) : Layout :=
  { layout with tokens := layout.tokens.insertIdx (layout.tokens.length - number) token }

def mark (layout : Layout) (token : Token) (length : Nat) : Layout :=
  { layout.emit token with cursor := layout.cursor.advance length }

/-- The block collections to the right of a column end. -/
def unroll (layout : Layout) (column : Int) : Layout :=
  if layout.isFlow then layout
  else
    let ended := layout.columns.takeWhile fun c : Nat => column < c
    { layout with
      tokens := List.replicate ended.length .blockEnd ++ layout.tokens
      columns := layout.columns.drop ended.length }

/-- A block collection starts at a column, unless one is open there. -/
def roll (layout : Layout) (column number : Nat) (token : Token) : Layout :=
  if layout.isFlow || (column : Int) ≤ layout.indent then layout
  else { layout.insert number token with columns := column :: layout.columns }

def dropKey? (layout : Layout) : Option Layout :=
  if layout.key.any (·.required) then none else some { layout with key := none }

def saveKey? (layout : Layout) : Option Layout :=
  if layout.keyAllowed then do
    let required := !layout.isFlow && layout.indent == layout.cursor.column
    let key := ⟨layout.tokens.length, layout.cursor, required⟩
    return { ← layout.dropKey? with key := some key }
  else some layout

def allowKey (layout : Layout) (keyAllowed : Bool) : Layout :=
  { layout with keyAllowed }

def document? (layout : Layout) (token : Token) : Option Layout := do
  let layout ← (layout.unroll (-1)).dropKey?
  return (layout.mark token 3).allowKey false

def directiveLine? (layout : Layout) : Option Layout := do
  let layout ← (layout.unroll (-1)).dropKey?
  let (token, cursor) ← directive? layout.cursor
  return { layout.emit token with cursor, keyAllowed := false }

def flowStart? (layout : Layout) (token : Token) : Option Layout := do
  let layout ← layout.saveKey?
  return { layout.mark token 1 with
    key := none, outerKeys := layout.key :: layout.outerKeys, keyAllowed := true }

def flowEnd? (layout : Layout) (token : Token) : Option Layout := do
  let layout ← layout.dropKey?
  let layout := (layout.mark token 1).allowKey false
  match layout.outerKeys with
  | [] => return layout
  | key :: outerKeys => return { layout with key, outerKeys }

def flowEntry? (layout : Layout) : Option Layout := do
  return ((← layout.dropKey?).mark .flowEntry 1).allowKey true

def rollHere? (layout : Layout) (token : Token) : Option Layout :=
  if layout.isFlow then some layout
  else if layout.keyAllowed then
    some (layout.roll layout.cursor.column layout.tokens.length token)
  else none

def blockEntry? (layout : Layout) : Option Layout := do
  let layout ← (← layout.rollHere? .blockSequenceStart).dropKey?
  return (layout.mark .blockEntry 1).allowKey true

def markedKey? (layout : Layout) : Option Layout := do
  let layout ← (← layout.rollHere? .blockMappingStart).dropKey?
  return (layout.mark .key 1).allowKey !layout.isFlow

/-- The possible key that a colon at the cursor confirms, if there is one. -/
def confirmedKey? (layout : Layout) : Option (Option PossibleKey) :=
  match layout.key with
  | none => some none
  | some key =>
    if key.reaches layout.cursor then some (some key)
    else if key.required then none
    else some none

def value? (layout : Layout) : Option Layout := do
  match ← layout.confirmedKey? with
  | some key =>
    let layout :=
      (layout.insert key.number .key).roll key.place.column key.number .blockMappingStart
    return { layout.mark .value 1 with key := none, keyAllowed := false }
  | none =>
    let layout ← { layout with key := none }.rollHere? .blockMappingStart
    return (layout.mark .value 1).allowKey !layout.isFlow

def word? (layout : Layout) (read? : Cursor → Option (Token × Cursor)) : Option Layout := do
  let layout ← layout.saveKey?
  let (token, cursor) ← read? layout.cursor
  return { layout.emit token with cursor, keyAllowed := false }

def anchor? (layout : Layout) (token : String → Token) : Option Layout :=
  layout.word? fun cursor =>
    (anchorName? cursor.next).map fun (name, after) => (token name, after)

def quoted? (layout : Layout)
    (read? : Nat → Nat → List Char → Option (List Char × Cursor)) : Option Layout :=
  layout.word? fun cursor =>
    (read? cursor.line (cursor.column + 1) (cursor.rest.drop 1)).map fun (text, after) =>
      (.scalar .quoted (String.ofList text), after)

/-- Behind a plain scalar that ends its line a key may start. -/
def plain? (layout : Layout) : Option Layout := do
  let layout ← layout.saveKey?
  let (text, folded, cursor) ← plainText layout.isFlow (layout.indent + 1) .none
    layout.cursor.line layout.cursor.column layout.cursor.rest
  return { layout.emit (.scalar .plain (String.ofList text)) with cursor, keyAllowed := folded }

def blockScalar? (layout : Layout) (literal : Bool) : Option Layout := do
  let layout ← layout.dropKey?
  let (header, cursor) ← blockHeader? layout.cursor.next
  let outer := layout.indent.toNat
  let state : BlockState := ⟨header.increment.map (outer + ·), 0, [], [], false, false⟩
  let (text, cursor) ← blockText literal header.chomping (max (layout.indent + 1).toNat 1) state
    cursor.line cursor.column cursor.rest
  let style := if literal then Style.literal else .quoted
  return { layout.emit (.scalar style (String.ofList text)) with cursor, keyAllowed := true }

def isIndicator (c : Char) : Bool :=
  "-?:,[]\x7b\x7d#&*!|>'\"%@\x60".toList.contains c

def startsPlain (layout : Layout) (c : Char) (rest : List Char) : Bool :=
  !(endsWord [c] || isIndicator c) || (c == '-' && !rest.head?.any isSpace) ||
    (!layout.isFlow && (c == '?' || c == ':') && !endsWord rest)

def token? (layout : Layout) : Option Layout :=
  match layout.cursor.rest with
  | [] => none
  | c :: rest =>
    let column := layout.cursor.column
    let flow := layout.isFlow
    if column = 0 ∧ c = '%' then layout.directiveLine?
    else if column = 0 ∧ isDocumentMark (c :: rest) then
      layout.document? (if c = '-' then .documentStart else .documentEnd)
    else if c = '[' then layout.flowStart? .flowSequenceStart
    else if c = '\x7b' then layout.flowStart? .flowMappingStart
    else if c = ']' then layout.flowEnd? .flowSequenceEnd
    else if c = '\x7d' then layout.flowEnd? .flowMappingEnd
    else if c = ',' then layout.flowEntry?
    else if c = '-' ∧ endsWord rest then layout.blockEntry?
    else if c = '?' ∧ (flow ∨ endsWord rest) then layout.markedKey?
    else if c = ':' ∧ (flow ∨ endsWord rest) then layout.value?
    else if c = '*' then layout.anchor? .alias
    else if c = '&' then layout.anchor? .anchor
    else if c = '!' then layout.word? (tag? flow)
    else if c = '|' ∧ !flow then layout.blockScalar? true
    else if c = '>' ∧ !flow then layout.blockScalar? false
    else if c = '\'' then layout.quoted? (singleQuoted .none)
    else if c = '"' then layout.quoted? (doubleQuoted .none 0 0)
    else if layout.startsPlain c rest then layout.plain?
    else none

def isByteOrderMark (c : Char) : Bool :=
  c.toNat == 0xFEFF

/-- The place of the next token, and whether a key may start there.  A tab is no indentation, and a
byte order mark at the start of a line takes a column. -/
def nextPlace (flow keyAllowed comment : Bool) (line column : Nat) : List Char → Cursor × Bool
  | [] => (⟨[], line, column⟩, keyAllowed)
  | c :: rest =>
    if isBreak c then nextPlace flow (keyAllowed || !flow) false (line + 1) 0 rest
    else if comment || c == ' ' || (c == '\t' && (flow || !keyAllowed)) ||
        (column == 0 && isByteOrderMark c) then
      nextPlace flow keyAllowed comment line (column + 1) rest
    else if c == '#' then nextPlace flow keyAllowed true line (column + 1) rest
    else (⟨c :: rest, line, column⟩, keyAllowed)

/-- The cursor moves on to the next token, and block collections end that do not reach there. -/
def settle (layout : Layout) : Layout :=
  let (cursor, keyAllowed) := nextPlace layout.isFlow layout.keyAllowed false
    layout.cursor.line layout.cursor.column layout.cursor.rest
  { layout with cursor, keyAllowed }.unroll cursor.column

def finish? (layout : Layout) : Option Layout :=
  (layout.unroll (-1)).dropKey?

def tokenize? (layout : Layout) : Option Layout :=
  if layout.cursor.rest.isEmpty then layout.finish?
  else
    match layout.token? with
    | none => none
    | some after =>
      if after.settle.cursor.rest.length < layout.cursor.rest.length then after.settle.tokenize?
      else none
termination_by layout.cursor.rest.length

end Layout

def tokenize? (cursor : Cursor) : Option (List Token) :=
  (Layout.start cursor).settle.tokenize?.map (·.tokens.reverse)

end Modelwright.Yaml
