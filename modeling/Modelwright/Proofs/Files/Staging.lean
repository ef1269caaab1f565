import Modelwright.Proofs.Files.Disk

namespace Modelwright

open Places Disk

variable {κ : Type} [Places κ]

def OutputFile.temporary (file : OutputFile) : String :=
  (temporaryPath? file.path).getD ""

def OutputFile.staged (file : OutputFile) : Staged :=
  ⟨file.temporary, file.path⟩

def WriteError.Concerns (file : OutputFile) : WriteError → Prop
  | noDirectory path => Path.parent? file.path = some path
  | noFileName path => path = file.path ∧ Path.fileName? path = none
  | unwritable path => temporaryPath? file.path = some path
  | unreplaceable path _ => path = file.path

def keptIn (contents : κ → Option String) (file : OutputFile) : Bool :=
  file.policy == .createIfAbsent && (contents (place file.path)).isSome

def toWrite (contents : κ → Option String) (files : List OutputFile) : List OutputFile :=
  files.filter fun file => !keptIn contents file

def toKeep (contents : κ → Option String) (files : List OutputFile) : List OutputFile :=
  files.filter (keptIn contents)

section Filters

variable {rest : List OutputFile} {file : OutputFile} {before : κ → Option String}

theorem toWrite_cons_of_kept (kept : keptIn before file = true) :
    toWrite before (file :: rest) = toWrite before rest := by
  simp [toWrite, kept]

theorem toKeep_cons_of_kept (kept : keptIn before file = true) :
    toKeep before (file :: rest) = file :: toKeep before rest := by
  simp [toKeep, kept]

theorem toWrite_cons (stands : keptIn before file = false) :
    toWrite before (file :: rest) = file :: toWrite before rest := by
  simp [toWrite, stands]

theorem toKeep_cons (stands : keptIn before file = false) :
    toKeep before (file :: rest) = toKeep before rest := by
  simp [toKeep, stands]

end Filters

theorem place_temporary_ne {path temporary : String}
    (waits : temporaryPath? path = some temporary) : (place temporary : κ) ≠ place path := by
  intro same
  obtain ⟨name, ends, longer, -⟩ := Path.trail_temporary waits
  exact Path.ne_temporaryName name (fileName_eq same longer ends)

theorem temporary_eq {file : OutputFile} {temporary : String}
    (waits : temporaryPath? file.path = some temporary) : file.temporary = temporary := by
  rw [OutputFile.temporary, waits, Option.getD_some]

/-- Neither file stands where the other does, or where the contents of the other wait. -/
structure KeepApart (κ : Type) [Places κ] (first second : OutputFile) : Prop where
  targets : (place first.path : κ) ≠ place second.path
  before : ∀ temporary, temporaryPath? first.path = some temporary →
    (place temporary : κ) ≠ place second.path
  behind : ∀ temporary, temporaryPath? second.path = some temporary →
    (place temporary : κ) ≠ place first.path

theorem KeepApart.temporaries {first second : OutputFile} (apart : KeepApart κ first second)
    {temporary other : String} (waits : temporaryPath? first.path = some temporary)
    (waitsOther : temporaryPath? second.path = some other) :
    (place temporary : κ) ≠ place other :=
  fun same => apart.targets (target_eq waits waitsOther same)

instance : Std.Symm (KeepApart κ) where
  symm _ _ apart := ⟨apart.targets.symm, apart.behind, apart.before⟩

section KeepApart

variable {files : List OutputFile} {first second : OutputFile}

theorem target_ne (apart : files.Pairwise (KeepApart κ)) (listed : first ∈ files)
    (other : second ∈ files) (unlike : first ≠ second) :
    (place first.path : κ) ≠ place second.path :=
  (apart.forall listed other unlike).targets

theorem temporary_ne (apart : files.Pairwise (KeepApart κ)) (listed : first ∈ files)
    (other : second ∈ files) {temporary : String}
    (waits : temporaryPath? first.path = some temporary) :
    (place temporary : κ) ≠ place second.path := by
  by_cases same : first = second
  · exact same ▸ place_temporary_ne waits
  · exact (apart.forall listed other same).before temporary waits

end KeepApart

variable [DecidableEq κ]

instance (first second : OutputFile) : Decidable (KeepApart κ first second) :=
  decidable_of_iff
    ((place first.path : κ) ≠ place second.path ∧
      (∀ temporary ∈ temporaryPath? first.path, (place temporary : κ) ≠ place second.path) ∧
      ∀ temporary ∈ temporaryPath? second.path, (place temporary : κ) ≠ place first.path)
    ⟨fun ⟨targets, before, behind⟩ => ⟨targets, before, behind⟩,
      fun apart => ⟨apart.targets, apart.before, apart.behind⟩⟩

/-- What staging a file comes to: its contents wait, or nothing has changed. -/
inductive StageEnds (file : OutputFile) (before : κ → Option String) :
    Except WriteError Staged × Disk κ → Prop
  | staged {temporary : String} {later : Disk κ}
      (waits : temporaryPath? file.path = some temporary)
      (contents : later.contents =
        Function.update before (place temporary) (some file.contents)) :
      StageEnds file before (.ok ⟨temporary, file.path⟩, later)
  | refused {error : WriteError} {later : Disk κ} (concerns : error.Concerns file)
      (early : ∀ path done, error ≠ .unreplaceable path done) (contents : later.contents = before) :
      StageEnds file before (.error error, later)

/-- The second half of staging, behind the making of directories. -/
def writeBeside (file : OutputFile) : ExceptT WriteError (StateM (Disk κ)) Staged :=
  match temporaryPath? file.path with
  | none => throw (.noFileName file.path)
  | some temporary => do
    ensure (FileSystem.write temporary file.contents) (.unwritable temporary)
    return ⟨temporary, file.path⟩

theorem stageEnds_writeBeside (file : OutputFile) (disk : Disk κ) :
    StageEnds file disk.contents (outcomeOn (writeBeside file) disk) := by
  cases waits : temporaryPath? file.path with
  | none =>
      have nameless : Path.fileName? file.path = none := by simpa [temporaryPath?] using waits
      have run : outcomeOn (writeBeside file) disk = (.error (.noFileName file.path), disk) := by
        rw [writeBeside, waits]
        rfl
      rw [run]
      exact .refused ⟨rfl, nameless⟩ (fun _ _ => nofun) rfl
  | some temporary =>
      rw [writeBeside, waits]
      obtain ⟨allowed, later, run, contents⟩ := write_run disk temporary file.contents
      have ensured := outcomeOn_ensure run (.unwritable temporary)
      cases allowed with
      | true =>
          dsimp only
          rw [outcomeOn_bind_of_ok ensured]
          exact .staged waits contents
      | false =>
          dsimp only
          rw [outcomeOn_bind_of_error ensured]
          exact .refused waits (fun _ _ => nofun) contents

theorem stage_eq (file : OutputFile) :
    stage file =
      (match Path.parent? file.path with
      | none => writeBeside file
      | some parent =>
        if parent.isEmpty then writeBeside file
        else do
          ensure (FileSystem.createDirectories parent) (.noDirectory parent)
          writeBeside file : ExceptT WriteError (StateM (Disk κ)) Staged) :=
  rfl

theorem stageEnds (file : OutputFile) (disk : Disk κ) :
    StageEnds file disk.contents (outcomeOn (stage file) disk) := by
  rw [stage_eq]
  split
  · exact stageEnds_writeBeside file disk
  · next parent above =>
      split
      · exact stageEnds_writeBeside file disk
      · obtain ⟨allowed, later, run, contents⟩ := createDirectories_run disk parent
        have ensured := outcomeOn_ensure run (.noDirectory parent)
        cases allowed with
        | true =>
            rw [outcomeOn_bind_of_ok ensured, ← contents]
            exact stageEnds_writeBeside file later
        | false =>
            rw [outcomeOn_bind_of_error ensured]
            exact .refused above (fun _ _ => nofun) contents

/-- Nothing waits any more, and all else is as before. -/
structure Cleared (files : List OutputFile) (before after : κ → Option String) : Prop where
  temporaries : ∀ file ∈ files, after (place file.temporary) = none
  others : ∀ p, (∀ file ∈ files, p ≠ place file.temporary) → after p = before p

theorem dropStaged_run (files : List OutputFile) (disk : Disk κ) :
    ∃ later, outcomeOn (ε := WriteError) (dropStaged (files.map OutputFile.staged)) disk =
      (.ok (), later) ∧ Cleared files disk.contents later.contents := by
  induction files generalizing disk with
  | nil => exact ⟨disk, rfl, List.forall_mem_nil _, fun _ _ => rfl⟩
  | cons file rest ih =>
      obtain ⟨later, run, cleared⟩ := ih
        { disk with contents := Function.update disk.contents (place file.temporary) none }
      refine ⟨later, run, ?_, ?_⟩
      · intro found listed
        by_cases again : ∃ other ∈ rest, place found.temporary = (place other.temporary : κ)
        · obtain ⟨other, listed, same⟩ := again
          rw [same, cleared.temporaries other listed]
        · rw [cleared.others _ fun other listed same => again ⟨other, listed, same⟩]
          rcases List.mem_cons.mp listed with rfl | listed
          · exact Function.update_self ..
          · exact absurd ⟨found, listed, rfl⟩ again
      · intro p away
        obtain ⟨here, later⟩ := List.forall_mem_cons.mp away
        rw [cleared.others p later]
        exact Function.update_of_ne here ..

/-- The targets of some files are replaced, nothing waits any more, and all else is as before. -/
structure Replaced (done files : List OutputFile) (before after : κ → Option String) : Prop where
  targets : ∀ file ∈ done, after (place file.path) = some file.contents
  temporaries : ∀ file ∈ files, after (place file.temporary) = none
  others : ∀ p, (∀ file ∈ done, p ≠ place file.path) →
    (∀ file ∈ files, p ≠ place file.temporary) → after p = before p

def renamed (file : OutputFile) (contents : κ → Option String) : κ → Option String :=
  Function.update (Function.update contents (place file.temporary) none) (place file.path)
    (some file.contents)

section Steps

variable {file : OutputFile} {done rest : List OutputFile} {before after : κ → Option String}

/-- Until its turn comes a file waits undisturbed. -/
theorem waiting_renamed (beside : ∀ other ∈ rest, KeepApart κ file other)
    (waits : temporaryPath? file.path = some file.temporary)
    (named : ∀ other ∈ rest, temporaryPath? other.path = some other.temporary)
    (waiting : ∀ other ∈ rest, before (place other.temporary) = some other.contents) :
    ∀ other ∈ rest, renamed file before (place other.temporary) = some other.contents := by
  intro other listed
  have apart := beside other listed
  rw [renamed, Function.update_of_ne (apart.behind _ (named other listed)),
    Function.update_of_ne (apart.temporaries waits (named other listed)).symm,
    waiting other listed]

/-- Nothing that is replaced later stands where the file does, or where its contents waited. -/
theorem Replaced.cons (beside : ∀ other ∈ rest, KeepApart κ file other)
    (waits : temporaryPath? file.path = some file.temporary)
    (named : ∀ other ∈ rest, temporaryPath? other.path = some other.temporary)
    (part : ∀ other ∈ done, other ∈ rest)
    (replaced : Replaced done rest (renamed file before) after) :
    Replaced (file :: done) (file :: rest) before after where
  targets := by
    refine List.forall_mem_cons.mpr ⟨?_, replaced.targets⟩
    rw [replaced.others _ (fun other listed => (beside other (part other listed)).targets)
      (fun other listed => ((beside other listed).behind _ (named other listed)).symm),
      renamed, Function.update_self]
  temporaries := by
    refine List.forall_mem_cons.mpr ⟨?_, replaced.temporaries⟩
    rw [replaced.others _
      (fun other listed => (beside other (part other listed)).before _ waits)
      (fun other listed => (beside other listed).temporaries waits (named other listed)),
      renamed, Function.update_of_ne (place_temporary_ne waits), Function.update_self]
  others p away awayWaiting := by
    obtain ⟨here, away⟩ := List.forall_mem_cons.mp away
    obtain ⟨hereWaiting, awayWaiting⟩ := List.forall_mem_cons.mp awayWaiting
    rw [replaced.others p away awayWaiting, renamed, Function.update_of_ne here,
      Function.update_of_ne hereWaiting]

end Steps

theorem replaceAll_cons_run (file : OutputFile) (rest : List OutputFile) (replaced : List String)
    (disk : Disk κ) (waiting : disk.contents (place file.temporary) = some file.contents) :
    (∃ between, between.contents = renamed file disk.contents ∧
      outcomeOn (replaceAll replaced ((file :: rest).map OutputFile.staged)) disk =
        outcomeOn (replaceAll (replaced ++ [file.path]) (rest.map OutputFile.staged)) between) ∨
    ∃ later, Cleared (file :: rest) disk.contents later.contents ∧
      outcomeOn (replaceAll replaced ((file :: rest).map OutputFile.staged)) disk =
        (.error (.unreplaceable file.path replaced), later) := by
  obtain ⟨allowed, between, run, contents⟩ := rename_run disk file.temporary file.path waiting
  have asked : outcomeOn (ε := WriteError) (FileSystem.rename file.temporary file.path) disk =
      (.ok allowed, between) := outcomeOn_lift run
  rw [List.map_cons, OutputFile.staged, replaceAll, outcomeOn_bind_of_ok asked]
  cases allowed with
  | true => exact .inl ⟨between, contents, rfl⟩
  | false =>
      obtain ⟨later, dropped, cleared⟩ := dropStaged_run (file :: rest) between
      rw [contents] at cleared
      exact .inr ⟨later, cleared, outcomeOn_bind_of_ok dropped _⟩

/-- The files are replaced up to one that is refused, if one is. -/
theorem replaceAll_run {files : List OutputFile} (apart : files.Pairwise (KeepApart κ))
    (named : ∀ file ∈ files, temporaryPath? file.path = some file.temporary)
    (replaced : List String) {disk : Disk κ}
    (waiting : ∀ file ∈ files, disk.contents (place file.temporary) = some file.contents) :
    ∃ done rest later, files = done ++ rest ∧ Replaced done files disk.contents later.contents ∧
      outcomeOn (replaceAll replaced (files.map OutputFile.staged)) disk =
        (match rest with
        | [] => .ok ()
        | failing :: _ =>
          .error (.unreplaceable failing.path (replaced ++ done.map OutputFile.path)), later) := by
  induction files generalizing replaced disk with
  | nil =>
      refine ⟨[], [], disk, rfl, ⟨List.forall_mem_nil _, List.forall_mem_nil _,
        fun _ _ _ => rfl⟩, rfl⟩
  | cons file rest ih =>
      obtain ⟨beside, apart⟩ := List.pairwise_cons.mp apart
      obtain ⟨waits, named⟩ := List.forall_mem_cons.mp named
      obtain ⟨here, waiting⟩ := List.forall_mem_cons.mp waiting
      rcases replaceAll_cons_run file rest replaced disk here with
        ⟨between, contents, run⟩ | ⟨later, cleared, run⟩
      · have still := waiting_renamed beside waits named waiting
        rw [← contents] at still
        obtain ⟨done, left, later, split, replacedRest, runRest⟩ :=
          ih apart named (replaced ++ [file.path]) still
        have part : ∀ other ∈ done, other ∈ rest := fun other listed =>
          split ▸ List.mem_append_left _ listed
        rw [contents] at replacedRest
        refine ⟨file :: done, left, later, by rw [split, List.cons_append],
          replacedRest.cons beside waits named part, ?_⟩
        rw [run, runRest, List.append_assoc]
        rfl
      · refine ⟨[], file :: rest, later, rfl, ⟨List.forall_mem_nil _, cleared.temporaries,
          fun p _ away => cleared.others p away⟩, ?_⟩
        rw [run, List.map_nil, List.append_nil]

end Modelwright
