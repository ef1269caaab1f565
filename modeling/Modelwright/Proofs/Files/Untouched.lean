import Modelwright.Proofs.Files.Lenient

namespace Modelwright

open Places Disk

/-! What writing files leaves alone, whatever is refused.  Nothing is asked of the files: they may
get in each other's way. -/

variable {κ : Type} [DecidableEq κ] [Places κ] {p : κ}

theorem rename_keeps {source target : String} (disk : Disk κ) (away : p ≠ place source)
    (same : p = place target → disk.contents (place source) = disk.contents p) :
    ((FileSystem.rename source target : StateM (Disk κ) Bool).run disk).2.contents p =
      disk.contents p := by
  rcases attempt_cases (fun contents => (contents (place source)).map fun text =>
    Function.update (Function.update contents (place source) none) (place target) (some text))
    disk with ⟨changed, made, run⟩ | run
  · obtain ⟨text, found, rfl⟩ := Option.map_eq_some_iff.mp made
    refine (congrArg (fun result => result.2.contents p) run).trans ?_
    by_cases here : p = place target
    · rw [← same here, found, here]
      exact Function.update_self ..
    · exact (Function.update_of_ne here ..).trans (Function.update_of_ne away ..)
  · exact congrArg (fun result => result.2.contents p) run

theorem dropStaged_keeps (files : List Staged) (disk : Disk κ)
    (away : ∀ file ∈ files, p ≠ place file.temporary) :
    ∃ later, outcomeOn (ε := WriteError) (dropStaged files) disk = (.ok (), later) ∧
      later.contents p = disk.contents p := by
  induction files generalizing disk with
  | nil => exact ⟨disk, rfl, rfl⟩
  | cons file rest ih =>
      obtain ⟨here, away⟩ := List.forall_mem_cons.mp away
      obtain ⟨later, run, kept⟩ := ih
        { disk with contents := Function.update disk.contents (place file.temporary) none } away
      exact ⟨later, run, kept.trans (Function.update_of_ne here ..)⟩

/-- The first file may take a place that has its contents already. -/
theorem replaceAll_keeps {files : List Staged} (replaced : List String) (disk : Disk κ)
    (away : ∀ file ∈ files, p ≠ place file.temporary)
    (first : ∀ file ∈ files.head?, p = place file.target →
      disk.contents (place file.temporary) = disk.contents p)
    (others : ∀ file ∈ files.tail, p ≠ place file.target) :
    (outcomeOn (replaceAll replaced files) disk).2.contents p = disk.contents p := by
  induction files generalizing replaced disk with
  | nil => rfl
  | cons file rest ih =>
      obtain ⟨here, behind⟩ := List.forall_mem_cons.mp away
      have renamed := rename_keeps disk here (first file rfl)
      rcases run : (FileSystem.rename file.temporary file.target :
        StateM (Disk κ) Bool).run disk with ⟨allowed, between⟩
      rw [run] at renamed
      have taken : outcomeOn (ε := WriteError) (FileSystem.rename file.temporary file.target) disk =
          (.ok allowed, between) := outcomeOn_lift run
      rw [replaceAll, outcomeOn_bind_of_ok taken]
      cases allowed with
      | false =>
          obtain ⟨later, dropped, kept⟩ := dropStaged_keeps (file :: rest) between away
          rw [if_neg Bool.false_ne_true, outcomeOn_bind_of_ok dropped]
          exact kept.trans renamed
      | true =>
          rw [if_pos rfl]
          refine (ih _ between behind (fun other listed same => ?_) fun other listed =>
            others other (List.mem_of_mem_tail listed)).trans renamed
          exact absurd same (others other (List.mem_of_mem_head? listed))

/-- Nothing waits for the last file, whether it has taken its place or not. -/
theorem replaceAll_singleton_clears {temporary target : String} (replaced : List String)
    (disk : Disk κ) (apart : (place temporary : κ) ≠ place target) :
    (outcomeOn (replaceAll replaced [⟨temporary, target⟩]) disk).2.contents (place temporary) =
      none := by
  rcases attempt_cases (fun contents => (contents (place temporary)).map fun text =>
    Function.update (Function.update contents (place temporary) none) (place target) (some text))
    disk with ⟨changed, made, run⟩ | run
  · obtain ⟨text, found, rfl⟩ := Option.map_eq_some_iff.mp made
    have taken : outcomeOn (ε := WriteError) (FileSystem.rename temporary target) disk =
        (.ok true, _) := outcomeOn_lift run
    rw [replaceAll, outcomeOn_bind_of_ok taken]
    exact (Function.update_of_ne apart ..).trans (Function.update_self ..)
  · have refused : outcomeOn (ε := WriteError) (FileSystem.rename temporary target) disk =
        (.ok false, _) := outcomeOn_lift run
    rw [replaceAll, outcomeOn_bind_of_ok refused]
    exact Function.update_self ..

theorem stageAll_cons_cases (staged : List Staged) {file : OutputFile} (rest : List OutputFile)
    {disk : Disk κ} (stands : keptIn disk.contents file = false)
    (away : ∀ earlier ∈ staged, p ≠ place earlier.temporary) :
    (∃ temporary between, temporaryPath? file.path = some temporary ∧
      between.contents =
        Function.update disk.contents (place temporary) (some file.contents) ∧
      outcomeOn (stageAll staged (file :: rest)) disk =
        outcomeOn (stageAll (staged ++ [⟨temporary, file.path⟩]) rest) between) ∨
    ∃ error later, outcomeOn (stageAll staged (file :: rest)) disk = (.error error, later) ∧
      later.contents p = disk.contents p := by
  rw [stageAll, outcomeOn_bind_of_ok (outcomeOn_isKept file _), stands, if_neg Bool.false_ne_true]
  have ends := stageEnds file disk
  generalize run : outcomeOn (stage file) disk = result at ends
  cases ends with
  | @staged temporary between waits contents =>
      rw [outcomeOn_bind_of_ok (outcomeOn_tryCatch_of_ok run _)]
      exact .inl ⟨temporary, between, waits, contents, rfl⟩
  | @refused error between concerns early contents =>
      obtain ⟨later, dropped, kept⟩ := dropStaged_keeps staged between away
      have failed : outcomeOn (tryCatch (stage file) fun error => do
          dropStaged staged
          throw error) disk = (.error error, later) := by
        rw [outcomeOn_tryCatch_of_error run, outcomeOn_bind_of_ok dropped]
        rfl
      rw [outcomeOn_bind_of_error failed]
      exact .inr ⟨error, later, rfl, by rw [kept, contents]⟩

section Writing

variable {disk later : Disk κ} {files : List OutputFile} {first second : OutputFile}

theorem writeFiles_state_of_error {error : WriteError}
    (run : outcomeOn (stageAll [] files) disk = (.error error, later)) :
    (outcomeOn (writeFiles files) disk).2 = later := by
  rw [writeFiles, outcomeOn_bind_of_error run]

theorem writeFiles_state_of_staged {staged : List Staged} {kept : List String}
    (run : outcomeOn (stageAll [] files) disk = (.ok (staged, kept), later)) :
    (outcomeOn (writeFiles files) disk).2 = (outcomeOn (replaceAll [] staged) later).2 := by
  rw [writeFiles, outcomeOn_bind_of_ok run]
  rcases replaced : outcomeOn (replaceAll [] staged) later with ⟨error | ⟨⟩, last⟩
  · rw [outcomeOn_bind_of_error replaced]
  · rw [outcomeOn_bind_of_ok replaced]
    rfl

def AwayFrom (p : κ) (file : OutputFile) : Prop :=
  ∀ temporary, temporaryPath? file.path = some temporary → p ≠ place temporary

theorem writeFiles_keeps_of_kept (stands : keptIn disk.contents first = false)
    (kept : ∀ temporary, temporaryPath? first.path = some temporary → ∀ file ∈ files,
      keptIn (Function.update disk.contents (place temporary) (some first.contents)) file = true)
    (away : AwayFrom p first)
    (same : p = place first.path → disk.contents p = some first.contents) :
    (outcomeOn (writeFiles (first :: files)) disk).2.contents p = disk.contents p := by
  rcases stageAll_cons_cases [] files stands (List.forall_mem_nil _) with
    ⟨temporary, between, waits, contents, run⟩ | ⟨error, later, run, unchanged⟩
  · have here : p ≠ place temporary := away temporary waits
    have all : ∀ file ∈ files, keptIn between.contents file = true := by
      rw [contents]
      exact kept temporary waits
    have untouched : between.contents p = disk.contents p := by
      rw [contents, Function.update_of_ne here]
    have staged := run.trans (stageAll_kept _ between all)
    rw [writeFiles_state_of_staged staged, ← untouched]
    refine replaceAll_keeps [] between (List.forall_mem_singleton.mpr here) ?_
      (List.forall_mem_nil _)
    rintro _ ⟨⟩ target
    rw [untouched, same target, contents]
    exact Function.update_self ..
  · rw [writeFiles_state_of_error run, unchanged]

theorem writeFiles_keeps_of_new (stands : keptIn disk.contents first = false)
    (standsSecond : ∀ temporary, temporaryPath? first.path = some temporary →
      keptIn (Function.update disk.contents (place temporary) (some first.contents)) second = false)
    (away : AwayFrom p first) (awaySecond : AwayFrom p second)
    (same : p = place first.path → disk.contents p = some first.contents)
    (apart : p ≠ place second.path) :
    (outcomeOn (writeFiles [first, second]) disk).2.contents p = disk.contents p := by
  rcases stageAll_cons_cases [] [second] stands (List.forall_mem_nil _) with
    ⟨temporary, between, waits, contents, run⟩ | ⟨error, later, run, unchanged⟩
  · have here : p ≠ place temporary := away temporary waits
    have untouched : between.contents p = disk.contents p := by
      rw [contents, Function.update_of_ne here]
    have stillStands : keptIn between.contents second = false := by
      rw [contents]
      exact standsSecond temporary waits
    rcases stageAll_cons_cases [⟨temporary, first.path⟩] [] stillStands
      (List.forall_mem_singleton.mpr here) with
      ⟨waiting, ready, waitsSecond, contentsSecond, runSecond⟩ | ⟨error, later, failed, unchanged⟩
    · have there : p ≠ place waiting := awaySecond waiting waitsSecond
      have staged := run.trans runSecond
      have still : ready.contents p = disk.contents p := by
        rw [contentsSecond, Function.update_of_ne there, untouched]
      rw [writeFiles_state_of_staged (staged.trans rfl), ← still]
      refine replaceAll_keeps [] ready
        (List.forall_mem_cons.mpr ⟨here, List.forall_mem_singleton.mpr there⟩) ?_
        (List.forall_mem_singleton.mpr apart)
      rintro _ ⟨⟩ target
      have crossed : (place temporary : κ) ≠ place waiting := fun crossed =>
        apart (target.trans (target_eq waits waitsSecond crossed))
      rw [still, same target, contentsSecond, Function.update_of_ne crossed, contents]
      exact Function.update_self ..
    · rw [writeFiles_state_of_error (run.trans failed), unchanged, untouched]
  · rw [writeFiles_state_of_error run, unchanged]

end Writing

end Modelwright
