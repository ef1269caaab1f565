import Modelwright.Files.Path
import Modelwright.Files.System

namespace Modelwright

/-! Files in memory, for test runs; the program itself works on the files of the system.  All stand
below one working directory: nothing is above it, and no absolute path leads into it. -/

inductive FileEntry where
  | directory
  | file (contents : String)
  deriving DecidableEq, Repr, Inhabited

/-- The names on the way to an entry, the innermost first. -/
abbrev Location := List (List Char)

structure Store where
  entries : List (Location × FileEntry)
  deriving Repr, Inhabited

namespace Store

open Modelwright.Text

def empty : Store := ⟨[]⟩

/-- The working directory is always there. -/
def entryAt? (store : Store) (location : Location) : Option FileEntry :=
  if location.isEmpty then some .directory else store.entries.lookup location

def isDirectory (store : Store) (location : Location) : Bool :=
  store.entryAt? location == some .directory

def contents? (store : Store) (location : Location) : Option String :=
  match store.entryAt? location with
  | some (.file contents) => some contents
  | _ => none

def erase (store : Store) (location : Location) : Store :=
  ⟨store.entries.filter (·.1 != location)⟩

def insert (store : Store) (location : Location) (entry : FileEntry) : Store :=
  ⟨(location, entry) :: (store.erase location).entries⟩

def step? (segment : List Char) (here : Location) : Option Location :=
  if Path.isIdle segment then some here
  else if segment = ['.', '.'] then
    match here with
    | [] => none
    | _ :: outer => some outer
  else some (segment :: here)

/-- Where segments lead.  Each step starts from a directory; the last may lead nowhere. -/
def walk? (store : Store) : List (List Char) → Location → Option Location
  | [], here => some here
  | segment :: rest, here =>
    if store.isDirectory here then (step? segment here).bind (store.walk? rest) else none

def segments? (path : String) : Option (List (List Char)) :=
  if path.isEmpty || Path.isAbsolute path then none else some (pieces '/' path.toList)

def locate? (store : Store) (path : String) : Option Location :=
  (segments? path).bind (store.walk? · [])

/-- Directories on the way, made where they are missing; says whether all could be made. -/
def makeWay (store : Store) : List (List Char) → Location → Store × Bool
  | [], _ => (store, true)
  | segment :: rest, here =>
    match step? segment here with
    | none => (store, false)
    | some next =>
      match store.entryAt? next with
      | some .directory => store.makeWay rest next
      | some (.file _) => (store, false)
      | none => (store.insert next .directory).makeWay rest next

def createDirectories (store : Store) (path : String) : Store × Bool :=
  match segments? path with
  | some segments => store.makeWay segments []
  | none => (store, path.isEmpty)

def write? (store : Store) (path contents : String) : Option Store := do
  let location ← store.locate? path
  if store.isDirectory location then none else some (store.insert location (.file contents))

def remove? (store : Store) (path : String) : Option Store := do
  let location ← store.locate? path
  let _ ← store.contents? location
  return store.erase location

def rename? (store : Store) (source target : String) : Option Store := do
  let location ← store.locate? source
  let contents ← store.contents? location
  (store.erase location).write? target contents

/-- A change that may fail, and then changes nothing. -/
def attempt (change : Store → Option Store) : StateM Store Bool := fun store =>
  match change store with
  | some changed => (true, changed)
  | none => (false, store)

instance : FileSystem (StateM Store) where
  pathExists path := fun store => ((store.locate? path).any (store.entryAt? · |>.isSome), store)
  readText? path := fun store => ((store.locate? path).bind store.contents?, store)
  createDirectories path := fun store =>
    let (changed, made) := store.createDirectories path
    (made, changed)
  write path contents := attempt (·.write? path contents)
  rename source target := attempt (·.rename? source target)
  remove path := attempt (·.remove? path)

end Store

end Modelwright
