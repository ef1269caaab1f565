import Modelwright.Proofs.Outline.Run
import Modelwright.Proofs.Target.Skeleton

namespace Modelwright.Outline

open Modelwright.Text Modelwright.Target

/-! Statements of a module, told apart by the rules of the target language, and what a scan makes of
them as long as it keeps in step with these rules. -/

/-- Where a module stands: in a literal or not, in brackets, or behind a backslash. -/
structure Reader where
  mode : Skeleton.Mode
  depth : Nat
  joined : Bool
  deriving DecidableEq

namespace Reader

def start : Reader := ⟨.code, 0, false⟩

-- A bracket or a backslash leads to code only if it is not in a literal or in a comment.
def step (reader : Reader) (c : Char) : Reader :=
  let next := (Skeleton.step reader.mode c).1
  ⟨next, if next = .code then bracketDepth reader.depth [c] else reader.depth,
    next = .code && c = '\\'⟩

def line (reader : Reader) (raw : List Char) : Reader :=
  let last := raw.foldl step { reader with joined := false }
  { last with mode := (Skeleton.step last.mode '\n').1 }

/-- Whether nothing is open, so that the next line starts a statement. -/
def isFresh (reader : Reader) : Bool :=
  reader.mode = .code && reader.depth = 0 && !reader.joined

end Reader

structure Statement where
  indent : Nat
  text : List Char
  deriving DecidableEq

def lineText (raw : List Char) : List Char :=
  trim (withoutComment .code raw)

def statement? (raw : List Char) : Option Statement :=
  if lineText raw = [] then none else some ⟨indentation raw, lineText raw⟩

def statements (reader : Reader) : List (List Char) → List Statement
  | [] => []
  | raw :: rest =>
    (if reader.isFresh then (statement? raw).toList else []) ++ statements (reader.line raw) rest

namespace Scan

def isFresh (scan : Scan) : Bool :=
  scan.openString.isNone && scan.depth = 0

def does (scan : Scan) (s : Statement) : Scan :=
  scan.statement s.indent s.text

/-- What the scan has found, apart from what is open. -/
def settled (scan : Scan) : Scan :=
  { scan with depth := 0, openString := none }

/-- At the start of each of the lines, and behind them, the scan and the reader agree on whether a
statement starts. -/
def Follows (scan : Scan) (reader : Reader) : List (List Char) → Prop
  | [] => scan.isFresh = reader.isFresh
  | raw :: rest =>
    scan.isFresh = reader.isFresh ∧ Follows (scan.line raw) (reader.line raw) rest

instance decidableFollows :
    (scan : Scan) → (reader : Reader) → (lines : List (List Char)) →
      Decidable (scan.Follows reader lines)
  | scan, reader, [] => inferInstanceAs (Decidable (scan.isFresh = reader.isFresh))
  | scan, reader, raw :: rest =>
    have := decidableFollows (scan.line raw) (reader.line raw) rest
    inferInstanceAs (Decidable (_ ∧ Follows _ _ _))

variable {scan : Scan} {reader : Reader}

theorem isFresh_iff : scan.isFresh = true ↔ scan.openString = none ∧ scan.depth = 0 := by
  simp [isFresh]

theorem finish_settled (scan : Scan) : scan.settled.finish = scan.finish :=
  finish_with scan 0 none

theorem settled_carry (scan : Scan) (indent : Nat) (text : List Char) (depth : Nat)
    (openString : Option (List Char)) :
    (scan.carry indent text depth openString).settled =
      if scan.depth = 0 then scan.settled.statement indent text else scan.settled := by
  rw [carry]
  by_cases inside : 0 < scan.depth
  · rw [if_pos inside, if_neg (Nat.ne_of_gt inside)]
    rfl
  · rw [if_neg inside, if_pos (Nat.eq_zero_of_not_pos inside), statement_with]
    exact (statement_with scan 0 none indent text).symm

theorem settled_line_of_isFresh (fresh : scan.isFresh = true) (raw : List Char) :
    (scan.line raw).settled = (statement? raw).toList.foldl does scan.settled := by
  obtain ⟨closed, outside⟩ := isFresh_iff.mp fresh
  rw [line_of_closed closed, statement?, lineText]
  by_cases blank : trim (withoutComment .code raw) = []
  · rw [if_pos blank, blank]
    rfl
  · rw [if_neg blank, code_of_ne_nil _ _ blank, settled_carry, if_pos outside]
    rfl

theorem settled_line_of_not_isFresh (within : scan.isFresh = false) (raw : List Char) :
    (scan.line raw).settled = scan.settled := by
  cases opened : scan.openString with
  | some quote =>
      rw [line_of_openString opened]
      split
      · rfl
      · rfl
  | none =>
      have inside : scan.depth ≠ 0 := by
        intro outside
        rw [isFresh_iff.mpr ⟨opened, outside⟩] at within
        cases within
      rw [line_of_closed opened]
      by_cases blank : trim (withoutComment .code raw) = []
      · rw [blank]
        rfl
      · rw [code_of_ne_nil _ _ blank, settled_carry, if_neg inside]

/-- A scan that keeps in step takes in the statements one after the other. -/
theorem settled_foldl_line {lines : List (List Char)} (follows : scan.Follows reader lines) :
    (lines.foldl line scan).settled = (statements reader lines).foldl does scan.settled := by
  induction lines generalizing scan reader with
  | nil => rfl
  | cons raw rest ih =>
      obtain ⟨agree, others⟩ := follows
      have first : (scan.line raw).settled =
          (if reader.isFresh then (statement? raw).toList else []).foldl does scan.settled := by
        rw [← agree]
        cases fresh : scan.isFresh with
        | true => exact settled_line_of_isFresh fresh raw
        | false => exact settled_line_of_not_isFresh fresh raw
      rw [List.foldl_cons, ih others, statements, List.foldl_append, first]

theorem isFresh_foldl_line {lines : List (List Char)} (follows : scan.Follows reader lines) :
    (lines.foldl line scan).isFresh = (lines.foldl Reader.line reader).isFresh := by
  induction lines generalizing scan reader with
  | nil => exact follows
  | cons raw rest ih => exact ih follows.2

end Scan

end Modelwright.Outline
