import Modelwright.Proofs.Files.Writing

namespace Modelwright

open Places Disk

variable {κ : Type}

namespace Disk

def lenient (contents : κ → Option String) : Disk κ :=
  ⟨contents, fun _ => true⟩

end Disk

variable [DecidableEq κ]

def moved (contents : κ → Option String) (source target : κ) : κ → Option String :=
  Function.update (Function.update contents source none) target (contents source)

section Moved

variable {contents : κ → Option String} {source target : κ}

@[simp] theorem moved_target : moved contents source target target = contents source :=
  Function.update_self ..

theorem moved_source (apart : source ≠ target) : moved contents source target source = none := by
  rw [moved, Function.update_of_ne apart, Function.update_self]

theorem moved_of_ne {p : κ} (here : p ≠ target) (there : p ≠ source) :
    moved contents source target p = contents p := by
  rw [moved, Function.update_of_ne here, Function.update_of_ne there]

end Moved

variable [Places κ]

section Steps

variable {contents : κ → Option String} {file : OutputFile} {rest : List OutputFile}
  {temporary : String}

theorem stage_lenient (waits : temporaryPath? file.path = some temporary) :
    outcomeOn (stage file) (lenient contents) = (.ok ⟨temporary, file.path⟩,
      lenient (Function.update contents (place temporary) (some file.contents))) := by
  have beside : outcomeOn (writeBeside file) (lenient contents) = (.ok ⟨temporary, file.path⟩,
      lenient (Function.update contents (place temporary) (some file.contents))) := by
    rw [writeBeside, waits]
    rfl
  rw [stage_eq]
  split
  · exact beside
  · next parent _ =>
      split
      · exact beside
      · have made : outcomeOn (ensure (FileSystem.createDirectories parent) (.noDirectory parent))
            (lenient contents) = (.ok (), lenient contents) := outcomeOn_ensure rfl _
        exact (outcomeOn_bind_of_ok made _).trans beside

theorem exists_stage_error (nameless : temporaryPath? file.path = none) (disk : Disk κ) :
    ∃ error later, outcomeOn (stage file) disk = (.error error, later) := by
  have ends := stageEnds file disk
  generalize outcomeOn (stage file) disk = result at ends
  cases ends with
  | staged waits _ => rw [nameless] at waits; cases waits
  | refused _ _ _ => exact ⟨_, _, rfl⟩

theorem stageAll_cons_lenient (staged : List Staged) (stands : keptIn contents file = false)
    (waits : temporaryPath? file.path = some temporary) :
    outcomeOn (stageAll staged (file :: rest)) (lenient contents) =
      outcomeOn (stageAll (staged ++ [⟨temporary, file.path⟩]) rest)
        (lenient (Function.update contents (place temporary) (some file.contents))) := by
  have found : keptIn (lenient contents).contents file = false := stands
  rw [stageAll, outcomeOn_bind_of_ok (outcomeOn_isKept file _), found, if_neg Bool.false_ne_true,
    outcomeOn_bind_of_ok (outcomeOn_tryCatch_of_ok (stage_lenient waits) _)]

theorem stageAll_kept (staged : List Staged) (disk : Disk κ)
    (kept : ∀ file ∈ rest, keptIn disk.contents file = true) :
    outcomeOn (stageAll staged rest) disk = (.ok (staged, rest.map OutputFile.path), disk) := by
  induction rest with
  | nil => rfl
  | cons file rest ih =>
      obtain ⟨here, later⟩ := List.forall_mem_cons.mp kept
      rw [stageAll, outcomeOn_bind_of_ok (outcomeOn_isKept file _), here, if_pos rfl,
        outcomeOn_bind_of_ok (ih later)]
      rfl

theorem replaceAll_cons_lenient (replaced : List String) {target : String}
    (stands : (contents (place temporary)).isSome = true) (rest : List Staged) :
    outcomeOn (replaceAll replaced (⟨temporary, target⟩ :: rest)) (lenient contents) =
      outcomeOn (replaceAll (replaced ++ [target]) rest)
        (lenient (moved contents (place temporary) (place target))) := by
  have made : (contents (place temporary)).map (fun text => Function.update
      (Function.update contents (place temporary) none) (place target) (some text)) =
      some (moved contents (place temporary) (place target)) := by
    obtain ⟨text, found⟩ := Option.isSome_iff_exists.mp stands
    rw [moved, found]
    rfl
  have renamed : outcomeOn (ε := WriteError) (FileSystem.rename temporary target)
      (lenient contents) = (.ok true, lenient (moved contents (place temporary) (place target))) :=
    outcomeOn_lift (attempt_run rfl made)
  rw [replaceAll, outcomeOn_bind_of_ok renamed, if_pos rfl]

end Steps

section Writing

variable {before : κ → Option String} {first second : OutputFile} {rest : List OutputFile}
  {temporary other : String}

theorem writeFiles_of_kept (stands : keptIn before first = false)
    (waits : temporaryPath? first.path = some temporary)
    (kept : ∀ file ∈ rest,
      keptIn (Function.update before (place temporary) (some first.contents)) file = true) :
    outcomeOn (writeFiles (first :: rest)) (lenient before) =
      (.ok (rest.map (fun file => (file.path, .kept)) ++ [(first.path, .written)]),
        lenient (moved (Function.update before (place temporary) (some first.contents))
          (place temporary) (place first.path))) := by
  have staged : outcomeOn (stageAll [] (first :: rest)) (lenient before) =
      (.ok ([⟨temporary, first.path⟩], rest.map OutputFile.path),
        lenient (Function.update before (place temporary) (some first.contents))) :=
    (stageAll_cons_lenient [] stands waits).trans (stageAll_kept _ _ kept)
  have waiting : (Function.update before (place temporary) (some first.contents)
      (place temporary)).isSome = true := by
    rw [Function.update_self]
    rfl
  rw [writeFiles, outcomeOn_bind_of_ok staged]
  refine (outcomeOn_bind_of_ok (replaceAll_cons_lenient [] waiting []) _).trans ?_
  rw [List.map_map]
  rfl

theorem stageAll_of_new (stands : keptIn before first = false)
    (waits : temporaryPath? first.path = some temporary)
    (standsSecond :
      keptIn (Function.update before (place temporary) (some first.contents)) second = false)
    (waitsSecond : temporaryPath? second.path = some other) :
    outcomeOn (stageAll [] [first, second]) (lenient before) =
      (.ok ([⟨temporary, first.path⟩, ⟨other, second.path⟩], []),
        lenient (Function.update (Function.update before (place temporary)
          (some first.contents)) (place other) (some second.contents))) :=
  (stageAll_cons_lenient [] stands waits).trans
    (stageAll_cons_lenient _ standsSecond waitsSecond)

theorem writeFiles_of_new (stands : keptIn before first = false)
    (waits : temporaryPath? first.path = some temporary)
    (standsSecond :
      keptIn (Function.update before (place temporary) (some first.contents)) second = false)
    (waitsSecond : temporaryPath? second.path = some other)
    (apart : (place temporary : κ) ≠ place other) :
    outcomeOn (writeFiles [first, second]) (lenient before) =
      (.ok [(first.path, .written), (second.path, .written)],
        lenient (moved (moved (Function.update (Function.update before (place temporary)
          (some first.contents)) (place other) (some second.contents)) (place temporary)
            (place first.path)) (place other) (place second.path))) := by
  have staged := stageAll_of_new stands waits standsSecond waitsSecond
  generalize written : Function.update (Function.update before (place temporary)
    (some first.contents)) (place other) (some second.contents) = waiting at staged ⊢
  have waitsFirst : waiting (place temporary) = some first.contents := by
    rw [← written, Function.update_of_ne apart, Function.update_self]
  have waitsLast : waiting (place other) = some second.contents := by
    rw [← written, Function.update_self]
  -- The first file may have been put where the second one waits.
  have waitsStill : (moved waiting (place temporary) (place first.path)
      (place other)).isSome = true := by
    by_cases crossed : (place other : κ) = place first.path
    · rw [crossed, moved_target, waitsFirst]
      rfl
    · rw [moved_of_ne crossed apart.symm, waitsLast]
      rfl
  rw [writeFiles, outcomeOn_bind_of_ok staged]
  refine (outcomeOn_bind_of_ok ((replaceAll_cons_lenient [] (by rw [waitsFirst]; rfl) _).trans
    (replaceAll_cons_lenient _ waitsStill [])) _).trans ?_
  rfl

theorem exists_writeFiles_error (rest : List OutputFile) (stands : keptIn before first = false)
    (nameless : temporaryPath? first.path = none) :
    ∃ error later, outcomeOn (writeFiles (first :: rest)) (lenient before) =
      (.error error, later) := by
  obtain ⟨error, later, refused⟩ := exists_stage_error nameless (lenient before)
  refine ⟨error, later, ?_⟩
  have found : keptIn (lenient before).contents first = false := stands
  have failed : outcomeOn (tryCatch (stage first) fun error => do
      dropStaged []
      throw error) (lenient before) = (.error error, later) := outcomeOn_tryCatch_of_error refused _
  have staged : outcomeOn (stageAll [] (first :: rest)) (lenient before) =
      (.error error, later) := by
    rw [stageAll, outcomeOn_bind_of_ok (outcomeOn_isKept first _), found, if_neg Bool.false_ne_true,
      outcomeOn_bind_of_error failed]
  rw [writeFiles, outcomeOn_bind_of_error staged]

end Writing

end Modelwright
