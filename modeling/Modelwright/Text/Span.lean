import Modelwright.Text.Lines

namespace Modelwright

open Modelwright.Text

/-! Positions in source text.  Offsets count bytes of the UTF-8 form; columns count characters. -/

/-- The half-open byte range from `start` to `stop`. -/
structure Span where
  start : Nat
  stop : Nat
  deriving DecidableEq, Repr, Inhabited

namespace Span

def merge (a b : Span) : Span :=
  ⟨min a.start b.start, max a.stop b.stop⟩

def width (span : Span) : Nat :=
  span.stop - span.start

@[simp] theorem merge_start (a b : Span) : (a.merge b).start = min a.start b.start := rfl

@[simp] theorem merge_stop (a b : Span) : (a.merge b).stop = max a.stop b.stop := rfl

end Span

structure Name where
  text : String
  span : Span
  deriving DecidableEq, Repr, Inhabited

namespace Text

def byteLength (chars : List Char) : Nat :=
  chars.foldr (fun c size => c.utf8Size + size) 0

@[simp] theorem byteLength_nil : byteLength [] = 0 := rfl

@[simp] theorem byteLength_cons (c : Char) (rest : List Char) :
    byteLength (c :: rest) = c.utf8Size + byteLength rest := rfl

@[simp] theorem byteLength_append (a b : List Char) :
    byteLength (a ++ b) = byteLength a + byteLength b := by
  induction a with
  | nil => simp
  | cons c rest ih => simp only [List.cons_append, byteLength_cons, ih, Nat.add_assoc]

/-- The longest start of the text that takes at most `count` bytes. -/
def takeBytes : Nat → List Char → List Char
  | _, [] => []
  | count, c :: rest =>
    if c.utf8Size ≤ count then c :: takeBytes (count - c.utf8Size) rest else []

/-- The text from a byte offset on, where the offset is the start of a character. -/
def dropBytes : Nat → List Char → List Char
  | _, [] => []
  | 0, chars => chars
  | count + 1, c :: rest => dropBytes (count + 1 - c.utf8Size) rest

def slice (span : Span) (chars : List Char) : List Char :=
  takeBytes span.width (dropBytes span.start chars)

/-- Line and column of an offset, both counted from one.  An offset inside a character stands for
its start, one beyond the text for the end. -/
def lineColumn (chars : List Char) (offset : Nat) : Nat × Nat :=
  let before := takeBytes offset chars
  (before.count '\n' + 1, (before.reverse.takeWhile (· != '\n')).length + 1)

end Text

end Modelwright
