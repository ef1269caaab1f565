import Modelwright.Format.Yaml.Alias
import Modelwright.Format.Yaml.Layout

namespace Modelwright.Yaml

def isPrintable (c : Char) : Bool :=
  c == '\t' || c == '\n' || c == '\r' || (' ' ≤ c && c ≤ '~') || c.toNat == 0x85 ||
    (0xA0 ≤ c.toNat && c.toNat ≤ 0xFFFD) || 0x10000 ≤ c.toNat

def unifyBreaks : List Char → List Char
  | '\r' :: '\n' :: rest => '\n' :: unifyBreaks rest
  | c :: rest => (if c = '\r' ∨ c.toNat = 0x85 then '\n' else c) :: unifyBreaks rest
  | [] => []

/-- The handles that directives add, and the tokens behind them.  A directive may not be
repeated. -/
def directives? (version : Bool) (added : Handles) :
    List Token → Option (Handles × List Token)
  | .versionDirective :: rest => if version then none else directives? true added rest
  | .tagDirective handle start :: rest =>
    if (added.lookup handle).isSome then none
    else directives? version ((handle, start) :: added) rest
  | tokens => some (added ++ standardHandles, tokens)

def isDirective : Token → Bool
  | .versionDirective => true
  | .tagDirective .. => true
  | _ => false

def content (handles : Handles) (tokens : List Token) : Option (Tree String × List Token) :=
  match tokens with
  | [] => some (.empty none, [])
  | token :: _ =>
    if isDirective token || token == .documentStart || token == .documentEnd then
      some (.empty none, tokens)
    else (node? handles .blockItem tokens).map fun r => (r.value, r.rest)

/-- The only document of a text.  Directives need a mark behind them where the document starts. -/
def onlyTree? (tokens : List Token) : Option (Tree String) := do
  let (tree, rest) ← match tokens with
    | [] => none
    | token :: _ =>
      if isDirective token || token == .documentStart then do
        let (handles, tokens) ← directives? false [] tokens
        match tokens with
        | .documentStart :: rest => content handles rest
        | _ => none
      else (node? standardHandles .blockItem tokens).map fun r => (r.value, r.rest)
  if (rest.dropWhile (· == .documentEnd)).isEmpty then some tree else none

def document? (shape : Shape) (text : String) : Option Node := do
  let chars := text.toList
  if chars.all isPrintable then
    (← onlyTree? (← tokenize? ⟨unifyBreaks chars, 0, 0⟩)).resolved? shape
  else none

/-- Cases are named by tags, and values nest at most 128 deep. -/
def dialect : Dialect := ⟨false, false, some 128⟩

end Modelwright.Yaml
