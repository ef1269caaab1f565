import Modelwright.Text.Lines

namespace Modelwright.Path

open Modelwright.Text

/-! Slash-separated paths, as texts.  Nothing is normalized: a path keeps the segments it was
written with. -/

/-- The start of a path that is not split into segments: the root, or a dot that stands for the
working directory. -/
def start (path : List Char) : List Char :=
  match path with
  | '/' :: _ => ['/']
  | ['.'] => ['.']
  | '.' :: '/' :: _ => ['.']
  | _ => []

/-- Segments that name no entry of their directory. -/
def isIdle (segment : List Char) : Bool :=
  segment.isEmpty || segment == ['.']

def dropIdleEnd (segments : List (List Char)) : List (List Char) :=
  (segments.reverse.dropWhile isIdle).reverse

/-- The segments behind the start, without idle ones at the end. -/
def segments (path : List Char) : List (List Char) :=
  dropIdleEnd (pieces '/' (path.drop (start path).length))

def joinSegments (parts : List (List Char)) : List Char :=
  (parts.intersperse ['/']).flatten

/-- The path without its last segment; the root and the empty path have no parent. -/
def parent? (path : String) : Option String :=
  let chars := path.toList
  let parts := segments chars
  if parts.isEmpty then
    if start chars = ['.'] then some "" else none
  else some (String.ofList (start chars ++ joinSegments (dropIdleEnd parts.dropLast)))

/-- The last segment, unless it leads upwards. -/
def fileName? (path : String) : Option String :=
  match (segments path.toList).getLast? with
  | none => none
  | some name => if name = ['.', '.'] then none else some (String.ofList name)

/-- What follows the last dot of the file name; a dot in front does not count. -/
def fileExtension? (path : String) : Option String :=
  (fileName? path).bind fun name =>
    let chars := name.toList
    let behind := (chars.reverse.takeWhile (· != '.')).reverse
    if behind.length + 1 < chars.length then some (String.ofList behind) else none

def isAbsolute (path : String) : Bool :=
  path.toList.head? == some '/'

/-- The second path seen from the first; an absolute one stands by itself. -/
def join (base path : String) : String :=
  if isAbsolute path || base.isEmpty then path
  else if base.toList.getLast? = some '/' then base ++ path
  else base ++ "/" ++ path

def withFileName (path name : String) : String :=
  match fileName? path with
  | some _ => join ((parent? path).getD "") name
  | none => join path name

end Modelwright.Path
