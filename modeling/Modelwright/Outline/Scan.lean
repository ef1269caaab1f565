import Modelwright.Outline.Basic
import Modelwright.Outline.Line

namespace Modelwright.Outline

open Modelwright.Text

/-! Outline of a module, line by line.  Indentation tells which class a line belongs to; brackets
and triple quotes that stay open carry over to the lines that follow. -/

structure Scan where
  classes : List OutlineClass
  current : Option OutlineClass
  bodyIndent : Option Nat
  block : Option OutlineBlock
  blockIndent : Option Nat
  /-- The triple quote that would end the open string. -/
  openString : Option (List Char)
  depth : Nat
  deriving DecidableEq, Repr, Inhabited

namespace Scan

def start : Scan := ⟨[], none, none, none, none, none, 0⟩

/-- A class takes its last block with it. -/
def finished (c : OutlineClass) (block : Option OutlineBlock) : OutlineClass :=
  { c with blocks := c.blocks ++ block.toList }

def closeClass (scan : Scan) : Scan :=
  match scan.current with
  | none => { scan with bodyIndent := none, blockIndent := none }
  | some c =>
    { scan with
      classes := scan.classes ++ [finished c scan.block]
      current := none
      bodyIndent := none
      block := none
      blockIndent := none }

def topLevel (scan : Scan) (text : List Char) : Scan :=
  let closed := scan.closeClass
  match declaredClass? text with
  | some name => { closed with current := some ⟨name, [], []⟩ }
  | none => closed

def bodyStatement (scan : Scan) (c : OutlineClass) (text : List Char) : Scan :=
  let c := finished c scan.block
  let blockIndent := if scan.block.isSome then none else scan.blockIndent
  match declaredClass? text with
  | some name =>
    { scan with current := some c, block := some ⟨name, []⟩, blockIndent := blockIndent }
  | none =>
    let c := match declaredName? text with
      | some name => c.addAttribute name
      | none => c
    { scan with current := some c, block := none, blockIndent := blockIndent }

/-- A statement deeper than the class body counts if it stands directly in a block. -/
def blockStatement (scan : Scan) (indent : Nat) (text : List Char) : Scan :=
  match scan.block with
  | none => scan
  | some block =>
    let blockIndent := scan.blockIndent.getD indent
    let block :=
      if indent = blockIndent then { block with keys := block.keys ++ (declaredName? text).toList }
      else block
    { scan with block := some block, blockIndent := some blockIndent }

/-- A statement that does not continue an earlier line. -/
def statement (scan : Scan) (indent : Nat) (text : List Char) : Scan :=
  if indent = 0 then scan.topLevel text
  else match scan.current with
    | none => scan
    | some c =>
      let bodyIndent := scan.bodyIndent.getD indent
      let scan := { scan with bodyIndent := some bodyIndent }
      if indent = bodyIndent then scan.bodyStatement c text
      else if bodyIndent < indent then scan.blockStatement indent text
      else scan

def code (scan : Scan) (indent : Nat) (text : List Char) : Scan :=
  if text.isEmpty then scan
  else
    let carried :=
      { scan with depth := bracketDepth scan.depth text, openString := openQuote? text }
    if 0 < scan.depth then carried else carried.statement indent text

def line (scan : Scan) (raw : List Char) : Scan :=
  match scan.openString with
  | some quote => if holds quote raw then { scan with openString := none } else scan
  | none => scan.code (indentation raw) (trim (withoutComment .code raw))

def finish (scan : Scan) : List OutlineClass :=
  scan.closeClass.classes

end Scan

end Modelwright.Outline

namespace Modelwright

def outline (source : String) : List OutlineClass :=
  ((Text.lines source.toList).foldl Outline.Scan.line Outline.Scan.start).finish

end Modelwright
