import Modelwright.Format.Json.Reader
import Modelwright.Format.Yaml.Token

namespace Modelwright.Yaml

/-! Texts of scalars in their five styles.  Each function reads one character at a time and says
where it stopped. -/

/-- White space inside a scalar that may be folded: blanks of one line, or a line break and the
breaks that follow it. -/
structure Gap where
  blanks : List Char
  folded : Bool
  first : Option Char
  more : List Char
  deriving Repr, Inhabited

namespace Gap

def none : Gap := ⟨[], false, .none, []⟩

def escapedBreak : Gap := ⟨[], true, .none, []⟩

def isOpen (gap : Gap) : Bool :=
  gap.folded || !gap.blanks.isEmpty

def push (gap : Gap) (c : Char) : Gap :=
  if isBreak c then
    if gap.folded then { gap with more := gap.more ++ [c] }
    else ⟨[], true, some c, []⟩
  else if gap.folded then gap
  else { gap with blanks := gap.blanks ++ [c] }

/-- A single line break becomes a space; of several the first is dropped. -/
def text (gap : Gap) : List Char :=
  if gap.folded then
    if gap.first = some '\n' then if gap.more.isEmpty then [' '] else gap.more
    else gap.first.toList ++ gap.more
  else gap.blanks

end Gap

def placeAfter (c : Char) (line column : Nat) : Nat × Nat :=
  if isBreak c then (line + 1, 0) else (line, column + 1)

def isFlowPunctuation (c : Char) : Bool :=
  c == ',' || c == '[' || c == ']' || c == '\x7b' || c == '\x7d'

/-- Whether a plain scalar stops before a character that no gap stands in front of. -/
def stopsPlain (flow : Bool) (c : Char) (rest : List Char) : Bool :=
  (c == ':' && endsWord rest) || (flow && isFlowPunctuation c)

def stopsBehindGap (flow : Bool) (indent : Int) (column : Nat) (chars : List Char) : Bool :=
  (!flow && (column : Int) < indent) || (column == 0 && isDocumentMark chars) ||
    chars.head? == some '#'

/-- A colon that neither separates nor belongs to a word. -/
def isStrayColon (flow : Bool) (c : Char) (rest : List Char) : Bool :=
  flow && c == ':' && (rest.head?.any fun d => isFlowPunctuation d || d == '?')

/-- A plain scalar, whether its last gap broke a line, and where it stops. -/
def plainText (flow : Bool) (indent : Int) (gap : Gap) (line column : Nat) :
    List Char → Option (List Char × Bool × Cursor)
  | [] => some ([], gap.folded, ⟨[], line, column⟩)
  | c :: rest =>
    let after := placeAfter c line column
    if isSpace c || isBreak c then
      if gap.folded && c == '\t' && (column : Int) < indent then none
      else plainText flow indent (gap.push c) after.1 after.2 rest
    else if gap.isOpen && stopsBehindGap flow indent column (c :: rest) then
      some ([], gap.folded, ⟨c :: rest, line, column⟩)
    else if isStrayColon flow c rest then none
    else if stopsPlain flow c rest then some ([], gap.folded, ⟨c :: rest, line, column⟩)
    else do
      let (text, folded, stop) ← plainText flow indent .none after.1 after.2 rest
      return (gap.text ++ c :: text, folded, stop)

/-- A single-quoted scalar behind its opening quote; a quote inside is written twice. -/
def singleQuoted (gap : Gap) (line column : Nat) : List Char → Option (List Char × Cursor)
  | [] => none
  | c :: rest =>
    let after := placeAfter c line column
    if isSpace c || isBreak c then singleQuoted (gap.push c) after.1 after.2 rest
    else if column = 0 ∧ isDocumentMark (c :: rest) then none
    else if c = '\'' then
      match rest with
      | '\'' :: more => do
        let (text, stop) ← singleQuoted .none line (column + 2) more
        return (gap.text ++ '\'' :: text, stop)
      | _ => some (gap.text, ⟨rest, line, column + 1⟩)
    else do
      let (text, stop) ← singleQuoted .none after.1 after.2 rest
      return (gap.text ++ c :: text, stop)

def escape? : Char → Option Char
  | '0' => some '\x00'
  | 'a' => some '\x07'
  | 'b' => some '\x08'
  | 't' => some '\t'
  | '\t' => some '\t'
  | 'n' => some '\n'
  | 'v' => some '\x0b'
  | 'f' => some '\x0c'
  | 'r' => some '\r'
  | 'e' => some '\x1b'
  | ' ' => some ' '
  | '"' => some '"'
  | '/' => some '/'
  | '\\' => some '\\'
  | 'N' => some (Char.ofNat 0x85)
  | '_' => some (Char.ofNat 0xA0)
  | 'L' => some (Char.ofNat 0x2028)
  | 'P' => some (Char.ofNat 0x2029)
  | _ => none

def escapeDigits? : Char → Option Nat
  | 'x' => some 2
  | 'u' => some 4
  | 'U' => some 8
  | _ => none

def charOfPoint? (point : Nat) : Option Char :=
  if (0xD800 ≤ point ∧ point < 0xE000) ∨ 0x10FFFF < point then none else some (Char.ofNat point)

/-- A double-quoted scalar behind its opening quote.  While `digits` is not zero, that many
hexadecimal digits of an escape are still to come. -/
def doubleQuoted (gap : Gap) (digits value : Nat) (line column : Nat) :
    List Char → Option (List Char × Cursor)
  | [] => none
  | c :: rest =>
    let after := placeAfter c line column
    match digits with
    | more + 1 => do
      let point := value * 16 + (← Json.hexDigit? c)
      if more = 0 then
        let char ← charOfPoint? point
        let (text, stop) ← doubleQuoted gap 0 0 after.1 after.2 rest
        return (char :: text, stop)
      else doubleQuoted gap more point after.1 after.2 rest
    | 0 =>
      if isSpace c || isBreak c then doubleQuoted (gap.push c) 0 0 after.1 after.2 rest
      else if column = 0 ∧ isDocumentMark (c :: rest) then none
      else if c = '"' then some (gap.text, ⟨rest, line, column + 1⟩)
      else if c = '\\' then
        match rest with
        | [] => none
        | d :: more =>
          if isBreak d then do
            let (text, stop) ← doubleQuoted .escapedBreak 0 0 (line + 1) 0 more
            return (gap.text ++ text, stop)
          else match escapeDigits? d with
            | some count => do
              let (text, stop) ← doubleQuoted .none count 0 line (column + 2) more
              return (gap.text ++ text, stop)
            | none => do
              let char ← escape? d
              let (text, stop) ← doubleQuoted .none 0 0 line (column + 2) more
              return (gap.text ++ char :: text, stop)
      else do
        let (text, stop) ← doubleQuoted .none 0 0 after.1 after.2 rest
        return (gap.text ++ c :: text, stop)

inductive Chomping where
  | strip
  | clip
  | keep
  deriving DecidableEq, Repr

structure BlockHeader where
  chomping : Chomping
  /-- The indentation beyond the parent's, if it is given. -/
  increment : Option Nat
  deriving Repr

def chomping? (cursor : Cursor) : Option Chomping × Cursor :=
  match cursor.peek? with
  | some '+' => (some .keep, cursor.next)
  | some '-' => (some .strip, cursor.next)
  | _ => (none, cursor)

def increment? (cursor : Cursor) : Option (Option Nat × Cursor) :=
  match cursor.peek? with
  | some c =>
    if c = '0' then none
    else if c.isDigit then some (some (c.toNat - '0'.toNat), cursor.next)
    else some (none, cursor)
  | none => some (none, cursor)

/-- The marks behind the style of a block scalar, in either order, to the end of their line. -/
def blockHeader? (cursor : Cursor) : Option (BlockHeader × Cursor) := do
  let (early, cursor) := chomping? cursor
  let (increment, cursor) ← increment? cursor
  let (late, cursor) :=
    if early.isNone && increment.isSome then chomping? cursor else (none, cursor)
  let cursor ← cursor.endLine?
  return (⟨(early.or late).getD .clip, increment⟩, cursor)

/-- The state between the lines of a block scalar. -/
structure BlockState where
  indent : Option Nat
  /-- The deepest indentation seen while that of the text is not known. -/
  deepest : Nat
  lineBreak : List Char
  blankBreaks : List Char
  startedBlank : Bool
  inText : Bool
  deriving Repr

namespace BlockState

def isIndenting (state : BlockState) (column : Nat) : Bool :=
  match state.indent with
  | none => true
  | some indent => column < indent

/-- The indentation when the first line of text is reached. -/
def resolved (state : BlockState) (least : Nat) : Nat :=
  state.indent.getD (max state.deepest least)

/-- What stands between the last line of text and one that starts with the given character. -/
def joint (state : BlockState) (literal : Bool) (c : Char) : List Char :=
  (if !literal && state.lineBreak == ['\n'] && !state.startedBlank && !isSpace c then
    if state.blankBreaks.isEmpty then [' '] else []
  else state.lineBreak) ++ state.blankBreaks

def ending (state : BlockState) : Chomping → List Char
  | .strip => []
  | .clip => state.lineBreak
  | .keep => state.lineBreak ++ state.blankBreaks

end BlockState

/-- A block scalar behind its header; `least` is the smallest indentation it can have. -/
def blockText (literal : Bool) (chomping : Chomping) (least : Nat) (state : BlockState)
    (line column : Nat) : List Char → Option (List Char × Cursor)
  | [] =>
    some (if state.inText then [] else state.ending chomping, ⟨[], line, column⟩)
  | c :: rest =>
    if state.inText then
      if isBreak c then
        blockText literal chomping least
          { state with lineBreak := [c], blankBreaks := [], inText := false } (line + 1) 0 rest
      else do
        let (text, stop) ← blockText literal chomping least state line (column + 1) rest
        return (c :: text, stop)
    else if c = ' ' ∧ state.isIndenting column then
      blockText literal chomping least { state with deepest := max state.deepest (column + 1) }
        line (column + 1) rest
    else if c = '\t' ∧ state.isIndenting column then none
    else if isBreak c then
      blockText literal chomping least { state with blankBreaks := state.blankBreaks ++ [c] }
        (line + 1) 0 rest
    else
      let indent := state.resolved least
      if column = indent then do
        let inner := { state with
          indent := some indent, startedBlank := isSpace c, inText := true }
        let (text, stop) ← blockText literal chomping least inner line (column + 1) rest
        return (state.joint literal c ++ c :: text, stop)
      else some (state.ending chomping, ⟨c :: rest, line, column⟩)

end Modelwright.Yaml
