import Mathlib.Data.List.Pairwise
import Mathlib.Logic.Function.Basic
import Modelwright.Proofs.Files.Siblings

namespace Modelwright

/-! Files on a disk that may refuse what is asked of it.  A disk is a map from places to contents;
a refusal changes nothing. -/

/-- Where paths lead.  Several may lead to one place, but not under different names, and siblings of
different files stay apart. -/
class Places (κ : Type) where
  place : String → κ
  fileName_eq {first second name other : String} (same : place first = place second)
    (ends : Path.fileName? first = some name) (endsOther : Path.fileName? second = some other) :
    name = other
  target_eq {first second temporary other : String}
    (waits : temporaryPath? first = some temporary)
    (waitsOther : temporaryPath? second = some other) (same : place temporary = place other) :
    place first = place second

open Places

/-- A place is known by the names on the way to it. -/
structure Trail where
  absolute : Bool
  names : List (List Char)
  deriving DecidableEq, Repr

def Trail.ofPath (path : String) : Trail :=
  ⟨Path.isAbsolute path, Path.trail path.toList⟩

instance : Places Trail where
  place := Trail.ofPath
  fileName_eq same ends endsOther := by
    have names := Path.fileName?_eq_of_trail_eq (congrArg Trail.names same)
    rw [ends, endsOther] at names
    exact Option.some.inj names
  target_eq waits waitsOther same := by
    obtain ⟨name, ends, -, root, names⟩ := Path.trail_temporary waits
    obtain ⟨other, endsOther, -, rootOther, namesOther⟩ := Path.trail_temporary waitsOther
    have sameNames := congrArg Trail.names same
    have sameRoot := congrArg Trail.absolute same
    simp only [Trail.ofPath] at sameNames sameRoot
    rw [names, namesOther] at sameNames
    obtain ⟨front, last⟩ := List.append_inj' sameNames rfl
    obtain rfl := Path.temporaryName_injective (String.toList_injective (List.cons.inj last).1)
    simp only [Trail.ofPath, Trail.mk.injEq]
    refine ⟨by rw [← root, ← rootOther, sameRoot], ?_⟩
    rw [Path.trail_of_fileName? ends, Path.trail_of_fileName? endsOther, front]

/-- The contents at each place, and whether what is attempted next will be allowed. -/
structure Disk (κ : Type) where
  contents : κ → Option String
  verdicts : Nat → Bool

namespace Disk

variable {κ : Type}

def after (disk : Disk κ) (contents : κ → Option String) : Disk κ :=
  ⟨contents, fun n => disk.verdicts (n + 1)⟩

def attempt (change : (κ → Option String) → Option (κ → Option String)) : StateM (Disk κ) Bool :=
  fun disk =>
    match disk.verdicts 0, change disk.contents with
    | true, some changed => (true, disk.after changed)
    | _, _ => (false, disk.after disk.contents)

theorem attempt_run {change : (κ → Option String) → Option (κ → Option String)} {disk : Disk κ}
    {changed : κ → Option String} (allowed : disk.verdicts 0 = true)
    (made : change disk.contents = some changed) :
    (attempt change).run disk = (true, disk.after changed) := by
  simp [attempt, StateT.run, allowed, made]

theorem attempt_cases (change : (κ → Option String) → Option (κ → Option String))
    (disk : Disk κ) :
    (∃ changed, change disk.contents = some changed ∧
      (attempt change).run disk = (true, disk.after changed)) ∨
    (attempt change).run disk = (false, disk.after disk.contents) := by
  cases verdict : disk.verdicts 0 with
  | false => exact .inr (by simp [attempt, StateT.run, verdict])
  | true =>
      cases made : change disk.contents with
      | none => exact .inr (by simp [attempt, StateT.run, verdict, made])
      | some changed => exact .inl ⟨changed, rfl, attempt_run verdict made⟩

instance [DecidableEq κ] [Places κ] : FileSystem (StateM (Disk κ)) where
  pathExists path := fun disk => ((disk.contents (place path)).isSome, disk)
  readText? path := fun disk => (disk.contents (place path), disk)
  createDirectories _ := attempt some
  write path text := attempt fun contents =>
    some (Function.update contents (place path) (some text))
  rename source target := attempt fun contents =>
    (contents (place source)).map fun text =>
      Function.update (Function.update contents (place source) none) (place target) (some text)
  remove path := fun disk => ((disk.contents (place path)).isSome,
    { disk with contents := Function.update disk.contents (place path) none })

section Operations

variable [DecidableEq κ] [Places κ] (disk : Disk κ)

theorem createDirectories_run (path : String) :
    ∃ allowed later, (FileSystem.createDirectories path : StateM (Disk κ) Bool).run disk =
      (allowed, later) ∧ later.contents = disk.contents := by
  rcases attempt_cases some disk with ⟨changed, made, run⟩ | run
  · exact ⟨true, _, run, (Option.some.inj made).symm⟩
  · exact ⟨false, _, run, rfl⟩

theorem write_run (path text : String) :
    ∃ allowed later, (FileSystem.write path text : StateM (Disk κ) Bool).run disk =
      (allowed, later) ∧ later.contents =
        if allowed then Function.update disk.contents (place path) (some text)
        else disk.contents := by
  rcases attempt_cases (fun contents =>
    some (Function.update contents (place path) (some text))) disk with ⟨changed, made, run⟩ | run
  · exact ⟨true, _, run, (Option.some.inj made).symm⟩
  · exact ⟨false, _, run, rfl⟩

theorem rename_run (source target : String) {text : String}
    (stands : disk.contents (place source) = some text) :
    ∃ allowed later, (FileSystem.rename source target : StateM (Disk κ) Bool).run disk =
      (allowed, later) ∧ later.contents =
        if allowed then
          Function.update (Function.update disk.contents (place source) none) (place target)
            (some text)
        else disk.contents := by
  rcases attempt_cases (fun contents => (contents (place source)).map fun text =>
    Function.update (Function.update contents (place source) none) (place target) (some text))
    disk with ⟨changed, made, run⟩ | run
  · rw [stands] at made
    exact ⟨true, _, run, (Option.some.inj made).symm⟩
  · exact ⟨false, _, run, rfl⟩

end Operations

end Disk

section Runs

variable {κ ε α β : Type} {disk later : Disk κ}

abbrev outcomeOn (action : ExceptT ε (StateM (Disk κ)) α) (disk : Disk κ) : Except ε α × Disk κ :=
  action.run.run disk

theorem outcomeOn_bind_of_ok {x : ExceptT ε (StateM (Disk κ)) α} {value : α}
    (run : outcomeOn x disk = (.ok value, later)) (f : α → ExceptT ε (StateM (Disk κ)) β) :
    outcomeOn (x >>= f) disk = outcomeOn (f value) later := by
  have continued : outcomeOn (x >>= f) disk =
      (ExceptT.bindCont f (outcomeOn x disk).1).run (outcomeOn x disk).2 := rfl
  rw [continued, run]
  rfl

theorem outcomeOn_bind_of_error {x : ExceptT ε (StateM (Disk κ)) α} {error : ε}
    (run : outcomeOn x disk = (.error error, later)) (f : α → ExceptT ε (StateM (Disk κ)) β) :
    outcomeOn (x >>= f) disk = (.error error, later) := by
  have continued : outcomeOn (x >>= f) disk =
      (ExceptT.bindCont f (outcomeOn x disk).1).run (outcomeOn x disk).2 := rfl
  rw [continued, run]
  rfl

theorem outcomeOn_lift {x : StateM (Disk κ) α} {value : α} (run : x.run disk = (value, later)) :
    outcomeOn (ExceptT.lift x : ExceptT ε (StateM (Disk κ)) α) disk = (.ok value, later) := by
  have lifted : outcomeOn (ExceptT.lift x : ExceptT ε (StateM (Disk κ)) α) disk =
      (.ok (x.run disk).1, (x.run disk).2) := rfl
  rw [lifted, run]

theorem outcomeOn_tryCatch_of_ok {x : ExceptT ε (StateM (Disk κ)) α} {value : α}
    (run : outcomeOn x disk = (.ok value, later)) (f : ε → ExceptT ε (StateM (Disk κ)) α) :
    outcomeOn (tryCatch x f) disk = (.ok value, later) := by
  have continued : outcomeOn (tryCatch x f) disk =
      (match (outcomeOn x disk).1 with
      | .ok value => (pure (.ok value) : StateM (Disk κ) (Except ε α))
      | .error error => (f error).run).run (outcomeOn x disk).2 := rfl
  rw [continued, run]
  rfl

theorem outcomeOn_tryCatch_of_error {x : ExceptT ε (StateM (Disk κ)) α} {error : ε}
    (run : outcomeOn x disk = (.error error, later)) (f : ε → ExceptT ε (StateM (Disk κ)) α) :
    outcomeOn (tryCatch x f) disk = outcomeOn (f error) later := by
  have continued : outcomeOn (tryCatch x f) disk =
      (match (outcomeOn x disk).1 with
      | .ok value => (pure (.ok value) : StateM (Disk κ) (Except ε α))
      | .error error => (f error).run).run (outcomeOn x disk).2 := rfl
  rw [continued, run]

theorem outcomeOn_ensure {success : StateM (Disk κ) Bool} {allowed : Bool}
    (run : success.run disk = (allowed, later)) (error : WriteError) :
    outcomeOn (ensure success error) disk =
      (if allowed then .ok () else .error error, later) := by
  have continued : outcomeOn (ensure success error) disk =
      outcomeOn (if (success.run disk).1 then pure () else throw error) (success.run disk).2 := rfl
  rw [continued, run]
  cases allowed <;> rfl

theorem outcomeOn_adapt {ε' : Type} (f : ε → ε') (x : ExceptT ε (StateM (Disk κ)) α)
    (disk : Disk κ) : outcomeOn (x.adapt f) disk =
      ((outcomeOn x disk).1.mapError f, (outcomeOn x disk).2) :=
  rfl

end Runs

end Modelwright
