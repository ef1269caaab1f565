import Modelwright.Proofs.Files.Staging

namespace Modelwright

open Places Disk

variable {κ : Type} [Places κ] [DecidableEq κ]

theorem outcomeOn_isKept (file : OutputFile) (disk : Disk κ) :
    outcomeOn (ε := WriteError) (isKept file) disk = (.ok (keptIn disk.contents file), disk) := by
  cases policy : file.policy with
  | overwrite =>
      rw [isKept, policy, keptIn, policy]
      rfl
  | createIfAbsent =>
      rw [isKept, policy, keptIn, policy]
      rfl

/-- The contents of the files wait, and all else is as before. -/
structure Waiting (files : List OutputFile) (before after : κ → Option String) : Prop where
  temporaries : ∀ file ∈ files, after (place file.temporary) = some file.contents
  others : ∀ p, (∀ file ∈ files, p ≠ place file.temporary) → after p = before p

/-- What staging files comes to, behind those staged earlier. -/
inductive StagingEnds (earlier files : List OutputFile) (before : κ → Option String) :
    Except WriteError (List Staged × List String) × Disk κ → Prop
  | staged {pending : List Staged} {paths : List String} {later : Disk κ}
      (named : ∀ file ∈ toWrite before files, temporaryPath? file.path = some file.temporary)
      (waiting : Waiting (toWrite before files) before later.contents)
      (added : pending = (earlier ++ toWrite before files).map OutputFile.staged)
      (left : paths = (toKeep before files).map OutputFile.path) :
      StagingEnds earlier files before (.ok (pending, paths), later)
  | refused {done rest : List OutputFile} {failing : OutputFile} {error : WriteError}
      {later : Disk κ} (split : files = done ++ failing :: rest)
      (stands : keptIn before failing = false) (concerns : error.Concerns failing)
      (early : ∀ path replaced, error ≠ .unreplaceable path replaced)
      (named : ∀ file ∈ toWrite before done, temporaryPath? file.path = some file.temporary)
      (cleared : Cleared (earlier ++ toWrite before done) before later.contents) :
      StagingEnds earlier files before (.error error, later)

section Steps

variable {earlier rest : List OutputFile} {file : OutputFile} {before : κ → Option String}

theorem keptIn_update {temporary text : String}
    (waits : temporaryPath? file.path = some temporary) {other : OutputFile}
    (beside : KeepApart κ file other) :
    keptIn (Function.update before (place temporary) (some text)) other = keptIn before other := by
  rw [keptIn, keptIn, Function.update_of_ne (beside.before _ waits).symm]

theorem toWrite_update {temporary text : String}
    (waits : temporaryPath? file.path = some temporary) {files : List OutputFile}
    (beside : ∀ other ∈ files, KeepApart κ file other) :
    toWrite (Function.update before (place temporary) (some text)) files = toWrite before files :=
  List.filter_congr fun other listed => by rw [keptIn_update waits (beside other listed)]

theorem toKeep_update {temporary text : String}
    (waits : temporaryPath? file.path = some temporary) {files : List OutputFile}
    (beside : ∀ other ∈ files, KeepApart κ file other) :
    toKeep (Function.update before (place temporary) (some text)) files = toKeep before files :=
  List.filter_congr fun other listed => keptIn_update waits (beside other listed)

omit [DecidableEq κ] in
theorem StagingEnds.keep {result : Except WriteError (List Staged × List String)} {later : Disk κ}
    (ends : StagingEnds earlier rest before (result, later)) (kept : keptIn before file = true) :
    StagingEnds earlier (file :: rest) before
      (result.map fun found => (found.1, file.path :: found.2), later) := by
  cases ends with
  | staged named waiting added left =>
      refine .staged ?_ ?_ ?_ ?_
      · rwa [toWrite_cons_of_kept kept]
      · rwa [toWrite_cons_of_kept kept]
      · rwa [toWrite_cons_of_kept kept]
      · rw [toKeep_cons_of_kept kept, left, List.map_cons]
  | @refused done others failing error _ split stands concerns early named cleared =>
      have behind : file :: rest = (file :: done) ++ failing :: others := by
        rw [split, List.cons_append]
      refine .refused behind stands concerns early ?_ ?_
      · rwa [toWrite_cons_of_kept kept]
      · rwa [toWrite_cons_of_kept kept]

theorem StagingEnds.write {result : Except WriteError (List Staged × List String) × Disk κ}
    (ends : StagingEnds (earlier ++ [file]) rest
      (Function.update before (place file.temporary) (some file.contents)) result)
    (waits : temporaryPath? file.path = some file.temporary)
    (beside : ∀ other ∈ rest, KeepApart κ file other) (stands : keptIn before file = false) :
    StagingEnds earlier (file :: rest) before result := by
  cases ends with
  | @staged _ _ later named waiting added left =>
      rw [toWrite_update waits beside] at named waiting added
      rw [toKeep_update waits beside] at left
      refine .staged ?_ ⟨?_, ?_⟩ ?_ ?_
      · rw [toWrite_cons stands]
        exact List.forall_mem_cons.mpr ⟨waits, named⟩
      · rw [toWrite_cons stands]
        refine List.forall_mem_cons.mpr ⟨?_, waiting.temporaries⟩
        have apart : ∀ other ∈ toWrite before rest,
            place file.temporary ≠ (place other.temporary : κ) :=
          fun other listed => (beside other (List.mem_filter.mp listed).1).temporaries waits
            (named other listed)
        rw [waiting.others _ apart, Function.update_self]
      · rw [toWrite_cons stands]
        intro p away
        obtain ⟨here, away⟩ := List.forall_mem_cons.mp away
        rw [waiting.others p away, Function.update_of_ne here]
      · rw [toWrite_cons stands, added, List.append_assoc, List.singleton_append]
      · rw [toKeep_cons stands, left]
  | @refused done others failing error later split left concerns early named cleared =>
      have part : ∀ other ∈ done, other ∈ rest := fun other listed =>
        split ▸ List.mem_append_left _ listed
      have failingListed : failing ∈ rest := split ▸ by simp
      rw [toWrite_update waits fun other listed => beside other (part other listed)]
        at named cleared
      rw [keptIn_update waits (beside failing failingListed)] at left
      have behind : file :: rest = (file :: done) ++ failing :: others := by
        rw [split, List.cons_append]
      rw [List.append_assoc, List.singleton_append, ← toWrite_cons stands] at cleared
      have named : ∀ other ∈ toWrite before (file :: done),
          temporaryPath? other.path = some other.temporary := by
        rw [toWrite_cons stands]
        exact List.forall_mem_cons.mpr ⟨waits, named⟩
      refine .refused behind left concerns early named ?_
      refine ⟨cleared.temporaries, fun p away => ?_⟩
      have here : p ≠ place file.temporary :=
        away file (by rw [toWrite_cons stands]; simp)
      rw [cleared.others p away, Function.update_of_ne here]

end Steps

theorem stagingEnds {files : List OutputFile} (apart : files.Pairwise (KeepApart κ))
    (earlier : List OutputFile) (disk : Disk κ) :
    StagingEnds earlier files disk.contents
      (outcomeOn (stageAll (earlier.map OutputFile.staged) files) disk) := by
  -- What was staged earlier grows along the list; a refusal drops all of it.
  induction files generalizing earlier disk with
  | nil =>
      exact .staged (List.forall_mem_nil _) ⟨List.forall_mem_nil _, fun _ _ => rfl⟩
        (by rw [toWrite, List.filter_nil, List.append_nil]) rfl
  | cons file rest ih =>
      obtain ⟨beside, apart⟩ := List.pairwise_cons.mp apart
      rw [stageAll, outcomeOn_bind_of_ok (outcomeOn_isKept file disk)]
      cases kept : keptIn disk.contents file with
      | true =>
          rw [if_pos rfl]
          have ends := ih apart earlier disk
          rcases run : outcomeOn (stageAll (earlier.map OutputFile.staged) rest) disk with
            ⟨error | found, later⟩
          · rw [outcomeOn_bind_of_error run]
            rw [run] at ends
            exact ends.keep kept
          · rw [outcomeOn_bind_of_ok run]
            rw [run] at ends
            exact ends.keep kept
      | false =>
          rw [if_neg Bool.false_ne_true]
          have ends := stageEnds file disk
          generalize run : outcomeOn (stage file) disk = result at ends
          cases ends with
          | @staged temporary between waits contents =>
              obtain rfl := temporary_eq waits
              rw [outcomeOn_bind_of_ok (outcomeOn_tryCatch_of_ok run _)]
              have ends := ih apart (earlier ++ [file]) between
              rw [List.map_append, contents] at ends
              exact ends.write waits beside kept
          | @refused error between concerns early contents =>
              obtain ⟨later, dropped, cleared⟩ := dropStaged_run earlier between
              have failed : outcomeOn (tryCatch (stage file) fun error => do
                  dropStaged (earlier.map OutputFile.staged)
                  throw error) disk = (.error error, later) := by
                rw [outcomeOn_tryCatch_of_error run, outcomeOn_bind_of_ok dropped]
                rfl
              rw [outcomeOn_bind_of_error failed]
              have front : file :: rest = [] ++ file :: rest := rfl
              refine .refused front kept concerns early (List.forall_mem_nil _) ?_
              rw [toWrite, List.filter_nil, List.append_nil, ← contents]
              exact cleared

section Outcomes

variable (files : List OutputFile) (before after : κ → Option String)

/-- Every file has its outcome: it is written, or kept as it was, and nothing else has changed. -/
structure Delivered (outcomes : List (String × WriteOutcome)) : Prop where
  outcomes_eq : outcomes = (toKeep before files).map (fun file => (file.path, .kept)) ++
    (toWrite before files).map (fun file => (file.path, .written))
  each : (outcomes.map Prod.fst).Perm (files.map OutputFile.path)
  written : ∀ file ∈ toWrite before files, after (place file.path) = some file.contents
  kept : ∀ file ∈ toKeep before files, after (place file.path) = before (place file.path)
  cleared : ∀ file ∈ toWrite before files, ∀ temporary,
    temporaryPath? file.path = some temporary → after (place temporary) = none
  others : ∀ p, (∀ file ∈ toWrite before files, p ≠ place file.path ∧
    ∀ temporary, temporaryPath? file.path = some temporary → p ≠ place temporary) →
    after p = before p

/-- Staging has failed at a file; those staged before have left no trace. -/
structure Undone (error : WriteError) : Prop where
  failed : ∃ done failing rest, files = done ++ failing :: rest ∧ keptIn before failing = false ∧
    error.Concerns failing ∧
    (∀ file ∈ toWrite before done, ∀ temporary,
      temporaryPath? file.path = some temporary → after (place temporary) = none) ∧
    ∀ p, (∀ file ∈ toWrite before done, ∀ temporary,
      temporaryPath? file.path = some temporary → p ≠ place temporary) → after p = before p
  targets : ∀ file ∈ files, after (place file.path) = before (place file.path)

/-- One target is refused: those in front of it are replaced, and told, those behind it are not. -/
structure Halted (path : String) (replaced : List String) : Prop where
  failed : ∃ done failing rest, toWrite before files = done ++ failing :: rest ∧
    path = failing.path ∧ replaced = done.map OutputFile.path ∧
    (∀ file ∈ done, after (place file.path) = some file.contents) ∧
    (∀ file ∈ files, file ∉ done → after (place file.path) = before (place file.path)) ∧
    ∀ p, (∀ file ∈ done, p ≠ place file.path) → (∀ file ∈ toWrite before files, ∀ temporary,
      temporaryPath? file.path = some temporary → p ≠ place temporary) → after p = before p
  cleared : ∀ file ∈ toWrite before files, ∀ temporary,
    temporaryPath? file.path = some temporary → after (place temporary) = none

end Outcomes

section Settled

variable {files done rest : List OutputFile} {before between after : κ → Option String}

omit [DecidableEq κ] in
theorem unchanged_of_replaced (waiting : Waiting files before between)
    (replaced : Replaced done files between after) (p : κ)
    (away : ∀ file ∈ done, p ≠ place file.path)
    (awayWaiting : ∀ file ∈ files, p ≠ place file.temporary) : after p = before p :=
  (replaced.others p away awayWaiting).trans (waiting.others p awayWaiting)

omit [DecidableEq κ] in
theorem target_unchanged (apart : files.Pairwise (KeepApart κ))
    (named : ∀ file ∈ toWrite before files, temporaryPath? file.path = some file.temporary)
    (waiting : Waiting (toWrite before files) before between)
    (replaced : Replaced done (toWrite before files) between after)
    (part : ∀ file ∈ done, file ∈ files) {file : OutputFile} (listed : file ∈ files)
    (left : file ∉ done) : after (place file.path) = before (place file.path) := by
  refine unchanged_of_replaced waiting replaced _ (fun other known => ?_) (fun other known => ?_)
  · exact target_ne apart listed (part other known) fun same => left (same ▸ known)
  · exact (temporary_ne apart (List.mem_filter.mp known).1 listed (named other known)).symm

omit [DecidableEq κ] in
theorem delivered_of_replaced (apart : files.Pairwise (KeepApart κ))
    (named : ∀ file ∈ toWrite before files, temporaryPath? file.path = some file.temporary)
    (waiting : Waiting (toWrite before files) before between)
    (replaced : Replaced (toWrite before files) (toWrite before files) between after) :
    Delivered files before after
      ((toKeep before files).map (fun file => (file.path, .kept)) ++
        (toWrite before files).map (fun file => (file.path, .written))) where
  outcomes_eq := rfl
  each := by
    rw [List.map_append, List.map_map, List.map_map]
    have all := (List.filter_append_perm (keptIn before) files).map OutputFile.path
    rwa [List.map_append] at all
  written := replaced.targets
  kept file listed := by
    obtain ⟨known, kept⟩ := List.mem_filter.mp listed
    refine target_unchanged apart named waiting replaced
      (fun other part => (List.mem_filter.mp part).1) known fun written => ?_
    have stands := (List.mem_filter.mp written).2
    rw [kept] at stands
    cases stands
  cleared file listed temporary waits := by
    rw [← temporary_eq waits]
    exact replaced.temporaries file listed
  others p away := by
    refine unchanged_of_replaced waiting replaced p (fun file listed => (away file listed).1) ?_
    exact fun file listed => (away file listed).2 _ (named file listed)

omit [DecidableEq κ] in
theorem halted_of_replaced (apart : files.Pairwise (KeepApart κ))
    (named : ∀ file ∈ toWrite before files, temporaryPath? file.path = some file.temporary)
    (waiting : Waiting (toWrite before files) before between) {failing : OutputFile}
    (split : toWrite before files = done ++ failing :: rest)
    (replaced : Replaced done (toWrite before files) between after) :
    Halted files before after failing.path (done.map OutputFile.path) where
  failed := by
    have part : ∀ file ∈ done, file ∈ files := fun file listed =>
      (List.mem_filter.mp (show file ∈ toWrite before files by
        rw [split]; exact List.mem_append_left _ listed)).1
    refine ⟨done, failing, rest, split, rfl, rfl, replaced.targets, fun file listed left =>
      target_unchanged apart named waiting replaced part listed left, fun p away awayWaiting => ?_⟩
    exact unchanged_of_replaced waiting replaced p away fun file listed =>
      awayWaiting file listed _ (named file listed)
  cleared file listed temporary waits := by
    rw [← temporary_eq waits]
    exact replaced.temporaries file listed

omit [DecidableEq κ] in
theorem undone_of_cleared (apart : files.Pairwise (KeepApart κ)) {failing : OutputFile}
    {error : WriteError} (split : files = done ++ failing :: rest)
    (stands : keptIn before failing = false) (concerns : error.Concerns failing)
    (named : ∀ file ∈ toWrite before done, temporaryPath? file.path = some file.temporary)
    (cleared : Cleared (toWrite before done) before after) : Undone files before after error where
  failed := by
    refine ⟨done, failing, rest, split, stands, concerns, ?_, ?_⟩
    · intro file listed temporary waits
      rw [← temporary_eq waits]
      exact cleared.temporaries file listed
    · exact fun p away => cleared.others p fun file listed => away file listed _ (named file listed)
  targets file listed := by
    refine cleared.others _ fun other known => ?_
    have part : other ∈ files :=
      split ▸ List.mem_append_left _ (List.mem_filter.mp known).1
    exact (temporary_ne apart part listed (named other known)).symm

end Settled

/-- Whatever is refused, and at whatever step, files are written as a whole, or the error says which
of them are. -/
theorem writeFiles_settles {files : List OutputFile} (apart : files.Pairwise (KeepApart κ))
    (disk later : Disk κ) :
    (∀ outcomes, outcomeOn (writeFiles files) disk = (.ok outcomes, later) →
      Delivered files disk.contents later.contents outcomes) ∧
    (∀ error, outcomeOn (writeFiles files) disk = (.error error, later) →
      (∀ path replaced, error ≠ .unreplaceable path replaced) →
        Undone files disk.contents later.contents error) ∧
    ∀ path replaced,
      outcomeOn (writeFiles files) disk = (.error (.unreplaceable path replaced), later) →
        Halted files disk.contents later.contents path replaced := by
  have ends := stagingEnds apart [] disk
  rw [List.map_nil] at ends
  rw [writeFiles]
  generalize staging : outcomeOn (stageAll [] files) disk = result at ends
  cases ends with
  | @staged pending paths between named waiting added left =>
      have pendingApart : (toWrite disk.contents files).Pairwise (KeepApart κ) :=
        apart.sublist List.filter_sublist
      obtain ⟨done, rest, after, split, replaced, run⟩ :=
        replaceAll_run pendingApart named [] waiting.temporaries
      rw [outcomeOn_bind_of_ok staging]
      dsimp only
      rw [added, List.nil_append, left]
      cases rest with
      | nil =>
          rw [List.append_nil] at split
          rw [← split] at replaced
          rw [outcomeOn_bind_of_ok run]
          refine ⟨fun outcomes same => ?_, fun error same => ?_, fun path replaced same => ?_⟩
          all_goals cases same
          rw [List.map_map, List.map_map]
          exact delivered_of_replaced apart named waiting replaced
      | cons failing rest =>
          rw [outcomeOn_bind_of_error run]
          refine ⟨fun _ same => ?_, fun error same early => ?_, fun path replaced same => ?_⟩
          all_goals cases same
          · exact absurd rfl (early _ _)
          · exact halted_of_replaced apart named waiting split replaced
  | refused split stands concerns early named cleared =>
      rw [outcomeOn_bind_of_error staging]
      refine ⟨fun _ same => ?_, fun error same _ => ?_, fun path replaced same => ?_⟩
      all_goals cases same
      · exact undone_of_cleared apart split stands concerns named cleared
      · exact absurd rfl (early _ _)

/-- A file that is replaced, one that is kept and one that is refused. -/
def pageFiles : List OutputFile :=
  [⟨"p/a", "new", .overwrite⟩, ⟨"p/b", "", .createIfAbsent⟩, ⟨"p/c", "new", .overwrite⟩]

/-- The sixth attempt is refused. -/
def pageDisk : Disk Trail where
  contents place := if place ∈ [Trail.ofPath "p/b", Trail.ofPath "p/c"] then some "old" else none
  verdicts attempt := attempt != 5

theorem writeFiles_settles_page :
    pageFiles.Pairwise (KeepApart Trail) ∧
    ∃ later, outcomeOn (writeFiles pageFiles) pageDisk =
        (.error (.unreplaceable "p/c" ["p/a"]), later) ∧
      Halted pageFiles pageDisk.contents later.contents "p/c" ["p/a"] := by
  have apart : pageFiles.Pairwise (KeepApart Trail) := by decide
  have run : outcomeOn (writeFiles pageFiles) pageDisk =
      (.error (.unreplaceable "p/c" ["p/a"]), (outcomeOn (writeFiles pageFiles) pageDisk).2) := by
    rfl
  exact ⟨apart, _, run, (writeFiles_settles apart pageDisk _).2.2 _ _ run⟩

end Modelwright
