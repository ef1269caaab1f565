import Modelwright.Proofs.Files.Lenient
import Modelwright.Proofs.Outcome
import Modelwright.Proofs.Project.Loading

namespace Modelwright

open Places Disk

variable {κ : Type} [DecidableEq κ] [Places κ]

section Files

variable {settings : Settings} {text temporary waiting : String} {before after : κ → Option String}

/-- The models file holds its text, the package file is there, and no other file has changed. -/
structure Generated (settings : Settings) (text : String) (before after : κ → Option String) :
    Prop where
  models : after (place settings.modelsPath) = some text
  init : settings.createPackageInit = true →
    after (place settings.initPath) = some ((before (place settings.initPath)).getD "")
  others : ∀ p, p ≠ place settings.modelsPath →
    (settings.createPackageInit = true → p ≠ place settings.initPath) → after p = before p

/-- The files are in nobody's way: nothing stands where contents will wait, and the models file is
neither the package file, unless that has its text already, nor where the package file waits. -/
structure Unobstructed (settings : Settings) (text : String) (before : κ → Option String) :
    Prop where
  models : ∃ temporary, temporaryPath? settings.modelsPath = some temporary ∧
    before (place temporary) = none
  kept : settings.createPackageInit = true → ∀ old, before (place settings.initPath) = some old →
    (place settings.modelsPath : κ) = place settings.initPath → text = old
  created : settings.createPackageInit = true → before (place settings.initPath) = none →
    (place settings.modelsPath : κ) ≠ place settings.initPath ∧
    ∀ temporary, temporaryPath? settings.initPath = some temporary →
      (place settings.modelsPath : κ) ≠ place temporary ∧ before (place temporary) = none

theorem fileName?_initPath (settings : Settings) :
    Path.fileName? settings.initPath = some "__init__.py" :=
  Path.fileName?_of_trail (Path.trail_join (by decide) (by decide)) (by decide)

theorem exists_temporary_initPath (settings : Settings) :
    ∃ temporary, temporaryPath? settings.initPath = some temporary := by
  rw [temporaryPath?, fileName?_initPath]
  exact ⟨_, rfl⟩

omit [DecidableEq κ] in
theorem temporary_ne_initPath {path : String} (waits : temporaryPath? path = some temporary) :
    (place temporary : κ) ≠ place settings.initPath := by
  intro same
  obtain ⟨name, -, ends, -⟩ := Path.trail_temporary waits
  have begins := congrArg String.toList (fileName_eq same ends (fileName?_initPath settings))
  rw [Path.toList_temporaryName] at begins
  cases begins

omit [DecidableEq κ] in
theorem unobstructed_of_fileName? {name : String}
    (ends : Path.fileName? settings.modelsPath = some name) (plain : name ≠ "__init__.py")
    (shown : name ≠ Path.temporaryName "__init__.py")
    (free : ∀ path ∈ [settings.modelsPath, settings.initPath], ∀ temporary,
      temporaryPath? path = some temporary → before (place temporary) = none) :
    Unobstructed settings text before := by
  have apart : (place settings.modelsPath : κ) ≠ place settings.initPath := fun same =>
    plain (fileName_eq same ends (fileName?_initPath settings))
  refine ⟨?_, fun _ old _ same => absurd same apart, fun _ _ => ⟨apart, fun temporary waits => ?_⟩⟩
  · have waits : temporaryPath? settings.modelsPath =
        some (Path.withFileName settings.modelsPath ("." ++ name ++ ".tmp")) := by
      rw [temporaryPath?, ends, Option.map_some]
    exact ⟨_, waits, free _ (by simp) _ waits⟩
  · refine ⟨fun same => ?_, free _ (by simp) temporary waits⟩
    obtain ⟨init, endsInit, endsTemporary, -⟩ := Path.trail_temporary waits
    rw [fileName?_initPath] at endsInit
    obtain rfl := Option.some.inj endsInit
    exact shown (fileName_eq same ends endsTemporary)

theorem generated_iff_of_kept (waits : temporaryPath? settings.modelsPath = some temporary)
    (present : settings.createPackageInit = true →
      (before (place settings.initPath)).isSome = true) :
    Generated settings text before (moved (Function.update before (place temporary) (some text))
        (place temporary) (place settings.modelsPath)) ↔
      Unobstructed settings text before := by
  have apart : (place temporary : κ) ≠ place settings.modelsPath := place_temporary_ne waits
  have apartInit : (place temporary : κ) ≠ place settings.initPath := temporary_ne_initPath waits
  generalize written : moved (Function.update before (place temporary) (some text))
    (place temporary) (place settings.modelsPath) = after
  have replaced : after (place settings.modelsPath) = some text := by
    rw [← written, moved_target, Function.update_self]
  have cleared : after (place temporary) = none := by
    rw [← written, moved_source apart]
  have unchanged : ∀ p, p ≠ place settings.modelsPath → p ≠ place temporary →
      after p = before p := by
    intro p here there
    rw [← written, moved_of_ne here there, Function.update_of_ne there]
  constructor
  · intro generated
    refine ⟨⟨temporary, waits, ?_⟩, fun wanted old found same => ?_, fun wanted absent => ?_⟩
    · rw [← generated.others _ apart fun _ => apartInit, cleared]
    · have init := generated.init wanted
      rw [← same, replaced, same, found] at init
      exact Option.some.inj init
    · have found := present wanted
      rw [absent] at found
      cases found
  · intro unobstructed
    refine ⟨replaced, fun wanted => ?_, fun p here _ => ?_⟩
    · obtain ⟨old, found⟩ := Option.isSome_iff_exists.mp (present wanted)
      rw [found, Option.getD_some]
      by_cases same : (place settings.modelsPath : κ) = place settings.initPath
      · rw [← same, replaced, unobstructed.kept wanted old found same]
      · rw [unchanged _ (Ne.symm same) apartInit.symm, found]
    · by_cases there : p = place temporary
      · obtain ⟨other, waitsOther, free⟩ := unobstructed.models
        obtain rfl := Option.some.inj (waits.symm.trans waitsOther)
        rw [there, cleared, free]
      · exact unchanged p here there

/-- What a run leaves that stages the models file and a new package file and then renames both. -/
def behindBoth (settings : Settings) (text temporary waiting : String)
    (before : κ → Option String) : κ → Option String :=
  let staged := Function.update (Function.update before (place temporary) (some text))
    (place waiting) (some "")
  moved (moved staged (place temporary) (place settings.modelsPath)) (place waiting)
    (place settings.initPath)

theorem behindBoth_waiting (waitsInit : temporaryPath? settings.initPath = some waiting) :
    behindBoth settings text temporary waiting before (place waiting) = none :=
  moved_source (place_temporary_ne waitsInit)

theorem behindBoth_temporary (waits : temporaryPath? settings.modelsPath = some temporary)
    (apart : (place temporary : κ) ≠ place waiting) :
    behindBoth settings text temporary waiting before (place temporary) = none := by
  have apartInit : (place temporary : κ) ≠ place settings.initPath := temporary_ne_initPath waits
  rw [behindBoth, moved_of_ne apartInit apart, moved_source (place_temporary_ne waits)]

theorem behindBoth_models (apart : (place temporary : κ) ≠ place waiting)
    (apartInit : (place settings.modelsPath : κ) ≠ place settings.initPath)
    (apartStaged : (place settings.modelsPath : κ) ≠ place waiting) :
    behindBoth settings text temporary waiting before (place settings.modelsPath) = some text := by
  rw [behindBoth, moved_of_ne apartInit apartStaged, moved_target, Function.update_of_ne apart,
    Function.update_self]

theorem behindBoth_init (apart : (place temporary : κ) ≠ place waiting)
    (apartStaged : (place settings.modelsPath : κ) ≠ place waiting) :
    behindBoth settings text temporary waiting before (place settings.initPath) = some "" := by
  rw [behindBoth, moved_target, moved_of_ne apartStaged.symm apart.symm, Function.update_self]

theorem behindBoth_of_ne {p : κ} (here : p ≠ place settings.modelsPath)
    (away : p ≠ place settings.initPath) (known : p ≠ place waiting)
    (there : p ≠ place temporary) :
    behindBoth settings text temporary waiting before p = before p := by
  rw [behindBoth, moved_of_ne away known, moved_of_ne here there, Function.update_of_ne known,
    Function.update_of_ne there]

theorem generated_iff_of_new (waits : temporaryPath? settings.modelsPath = some temporary)
    (waitsInit : temporaryPath? settings.initPath = some waiting)
    (wanted : settings.createPackageInit = true) (absent : before (place settings.initPath) = none)
    (apart : (place settings.modelsPath : κ) ≠ place settings.initPath) :
    Generated settings text before (behindBoth settings text temporary waiting before) ↔
      Unobstructed settings text before := by
  have apartWaiting : (place temporary : κ) ≠ place waiting := fun same =>
    apart (target_eq waits waitsInit same)
  have cleared := @behindBoth_temporary κ _ _ settings text _ _ before waits apartWaiting
  have clearedInit := @behindBoth_waiting κ _ _ settings text temporary _ before waitsInit
  constructor
  · intro generated
    -- Otherwise the module would go on to the place of the package file.
    have apartStaged : (place settings.modelsPath : κ) ≠ place waiting := by
      intro crossed
      have models := generated.models
      rw [crossed, clearedInit] at models
      cases models
    refine ⟨⟨temporary, waits, ?_⟩, fun _ old found => ?_, fun _ _ => ⟨apart, ?_⟩⟩
    · rw [← generated.others _ (place_temporary_ne waits) fun _ => temporary_ne_initPath waits,
        cleared]
    · rw [absent] at found
      cases found
    · intro other waitsOther
      obtain rfl := Option.some.inj (waitsInit.symm.trans waitsOther)
      refine ⟨apartStaged, ?_⟩
      rw [← generated.others _ apartStaged.symm fun _ => place_temporary_ne waitsInit, clearedInit]
  · intro unobstructed
    obtain ⟨other, waitsOther, free⟩ := unobstructed.models
    obtain rfl := Option.some.inj (waits.symm.trans waitsOther)
    obtain ⟨apartStaged, freeInit⟩ := (unobstructed.created wanted absent).2 waiting waitsInit
    refine ⟨behindBoth_models apartWaiting apart apartStaged, fun _ => ?_, fun p here away => ?_⟩
    · rw [absent, behindBoth_init apartWaiting apartStaged, Option.getD_none]
    · by_cases known : p = place waiting
      · rw [known, clearedInit, freeInit]
      by_cases there : p = place temporary
      · rw [there, cleared, free]
      exact behindBoth_of_ne here (away wanted) known there

end Files

section Generating

def packageFiles (settings : Settings) (text : String) : List OutputFile :=
  ⟨settings.modelsPath, text, .overwrite⟩ :: initFile settings

theorem outcome_outputFiles {project : Project} {module : Target.Module}
    (renders : (modelsModule project.schema project.settings project.extension).outcome =
      .ok module) :
    project.outputFiles.outcome = .ok (packageFiles project.settings module.render) := by
  rw [Project.outputFiles, Modelwright.outputFiles, Logged.mapError, Logged.outcome_bind, renders]
  rfl

/-- Behind loading and rendering, which change nothing, files are delivered. -/
theorem resultOn_runGenerate {options : GenerateOptions} {disk : Disk κ} {project : Project}
    {module : Target.Module}
    (loads : (resultOn (loadAdjusted options.locate) disk).1 = .ok project)
    (renders : (modelsModule project.schema (options.redirect project.settings)
      project.extension).outcome = .ok module) :
    resultOn (runGenerate options) disk = outcomeOn (deliver options.dryRun
      (packageFiles (options.redirect project.settings) module.render)) disk := by
  rw [runGenerate, resultOn_bind (onlyReads_loadAdjusted _)]
  refine (resultOn_followedBy ?_ _ _).trans rfl
  rw [Logged.outcome_bind]
  refine Outcome.bind_eq_ok_iff.mpr ⟨project, loads, ?_⟩
  exact outcome_outputFiles renders

omit [DecidableEq κ] [Places κ] in
theorem exists_ok_iff {ε α : Type} {result : Except ε α × Disk κ} {value : α} {later : Disk κ}
    (run : result = (.ok value, later)) (holds : Disk κ → Prop) :
    (∃ output left, result = (.ok output, left) ∧ holds left) ↔ holds later := by
  subst run
  constructor
  · rintro ⟨output, left, same, found⟩
    cases same
    exact found
  · exact fun found => ⟨value, later, rfl, found⟩

section Deliver

variable {files : List OutputFile} {disk later : Disk κ}

theorem deliver_of_written {outcomes : List (String × WriteOutcome)}
    (written : outcomeOn (writeFiles files) disk = (.ok outcomes, later)) :
    outcomeOn (deliver false files) disk = (.ok (printed (outcomes.map outcomeLine)), later) := by
  have adapted := outcomeOn_adapt CommandError.output (writeFiles files) disk
  rw [written] at adapted
  rw [deliver, if_neg Bool.false_ne_true]
  exact (outcomeOn_bind_of_ok adapted _).trans rfl

theorem deliver_of_refused {error : WriteError}
    (refused : outcomeOn (writeFiles files) disk = (.error error, later)) :
    outcomeOn (deliver false files) disk = (.error (.output error), later) := by
  have adapted := outcomeOn_adapt CommandError.output (writeFiles files) disk
  rw [refused] at adapted
  rw [deliver, if_neg Bool.false_ne_true]
  exact outcomeOn_bind_of_error adapted _

end Deliver

section Package

variable {settings : Settings} {text temporary : String} {before : κ → Option String}

def Delivers (settings : Settings) (text : String) (before : κ → Option String) : Prop :=
  ∃ output later, outcomeOn (deliver false (packageFiles settings text)) (lenient before) =
    (.ok output, later) ∧ Generated settings text before later.contents

omit [DecidableEq κ] in
theorem initPath_present (old : ¬ (settings.createPackageInit = true ∧
    before (place settings.initPath) = none)) (wanted : settings.createPackageInit = true) :
    (before (place settings.initPath)).isSome = true :=
  Option.isSome_iff_ne_none.mpr fun absent => old ⟨wanted, absent⟩

theorem keptIn_initFile (waits : temporaryPath? settings.modelsPath = some temporary)
    (present : settings.createPackageInit = true →
      (before (place settings.initPath)).isSome = true) :
    ∀ file ∈ initFile settings,
      keptIn (Function.update before (place temporary) (some text)) file = true := by
  intro file listed
  rw [initFile] at listed
  split at listed
  · next wanted =>
      rw [List.mem_singleton.mp listed, keptIn,
        Function.update_of_ne (temporary_ne_initPath waits).symm, present wanted]
      rfl
  · cases listed

theorem keptIn_initPath (waits : temporaryPath? settings.modelsPath = some temporary)
    (absent : before (place settings.initPath) = none) :
    keptIn (Function.update before (place temporary) (some text))
      ⟨settings.initPath, "", .createIfAbsent⟩ = false := by
  rw [keptIn, Function.update_of_ne (temporary_ne_initPath waits).symm, absent]
  rfl

theorem delivers_iff_of_nameless (nameless : temporaryPath? settings.modelsPath = none) :
    Delivers settings text before ↔ Unobstructed settings text before := by
  have stands : keptIn before ⟨settings.modelsPath, text, .overwrite⟩ = false := rfl
  obtain ⟨error, left, refused⟩ := exists_writeFiles_error (initFile settings) stands nameless
  constructor
  · rintro ⟨output, later, run, -⟩
    rw [packageFiles, deliver_of_refused refused] at run
    cases run
  · intro unobstructed
    obtain ⟨temporary, found, -⟩ := unobstructed.models
    rw [nameless] at found
    cases found

theorem delivers_iff_of_kept (waits : temporaryPath? settings.modelsPath = some temporary)
    (present : settings.createPackageInit = true →
      (before (place settings.initPath)).isSome = true) :
    Delivers settings text before ↔ Unobstructed settings text before := by
  have stands : keptIn before ⟨settings.modelsPath, text, .overwrite⟩ = false := rfl
  have written := writeFiles_of_kept stands waits (keptIn_initFile waits present)
  exact (exists_ok_iff (deliver_of_written written) _).trans (generated_iff_of_kept waits present)

theorem delivers_iff_of_new (solid : text ≠ "")
    (waits : temporaryPath? settings.modelsPath = some temporary)
    (wanted : settings.createPackageInit = true)
    (absent : before (place settings.initPath) = none) :
    Delivers settings text before ↔ Unobstructed settings text before := by
  by_cases same : (place settings.modelsPath : κ) = place settings.initPath
  · constructor
    · -- A new package file is empty, and no module is.
      rintro ⟨output, later, -, generated⟩
      have init := generated.init wanted
      rw [← same, generated.models, same, absent] at init
      exact absurd (Option.some.inj init) solid
    · intro unobstructed
      exact absurd same (unobstructed.created wanted absent).1
  · obtain ⟨waiting, waitsInit⟩ := exists_temporary_initPath settings
    have stands : keptIn before ⟨settings.modelsPath, text, .overwrite⟩ = false := rfl
    have apart : (place temporary : κ) ≠ place waiting := fun crossed =>
      same (target_eq waits waitsInit crossed)
    have written := writeFiles_of_new stands waits (keptIn_initPath waits absent) waitsInit apart
    rw [Delivers, packageFiles, initFile, if_pos wanted]
    exact (exists_ok_iff (deliver_of_written written) _).trans
      (generated_iff_of_new waits waitsInit wanted absent same)

theorem delivers_iff (solid : text ≠ "") :
    Delivers settings text before ↔ Unobstructed settings text before := by
  cases waits : temporaryPath? settings.modelsPath with
  | none => exact delivers_iff_of_nameless waits
  | some temporary =>
      by_cases new : settings.createPackageInit = true ∧ before (place settings.initPath) = none
      · exact delivers_iff_of_new solid waits new.1 new.2
      · exact delivers_iff_of_kept waits (initPath_present new)

end Package

theorem generated_iff_unobstructed {options : GenerateOptions} {before : κ → Option String}
    {project : Project} {module : Target.Module}
    (loads : (resultOn (loadAdjusted options.locate) (lenient before)).1 = .ok project)
    (renders : (modelsModule project.schema (options.redirect project.settings)
      project.extension).outcome = .ok module) :
    resultOn (runGenerate { options with dryRun := true }) (lenient before) =
      (.ok module.render, lenient before) ∧
    ((∃ output later, resultOn (runGenerate { options with dryRun := false }) (lenient before) =
        (.ok output, later) ∧
          Generated (options.redirect project.settings) module.render before later.contents) ↔
      Unobstructed (options.redirect project.settings) module.render before) := by
  have run : resultOn (runGenerate { options with dryRun := false }) (lenient before) =
      outcomeOn (deliver false (packageFiles (options.redirect project.settings) module.render))
        (lenient before) := resultOn_runGenerate loads renders
  have solid : module.render ≠ "" := by
    simp [Target.Module.render]
  rw [run]
  exact ⟨resultOn_runGenerate loads renders, delivers_iff solid⟩

def tagText : String :=
  "model Tag \x7b\n  id Int @id\n\x7d\n"

def tagSchema : Schema where
  enums := []
  entities :=
    [⟨"Tag", none, none, [⟨"id", .scalar .int, false, true, false, none, false, none, none⟩], []⟩]

def tagSettings (modelsFile : String) : Settings :=
  { Settings.standard with modelsFile := modelsFile }

def tagFiles (settings : String) (p : Trail) : Option String :=
  if p = Trail.ofPath "prisma/schema.prisma" then some tagText
  else if p = Trail.ofPath Settings.fileName then some settings
  else none

def tagOptions : GenerateOptions :=
  ⟨none, none, none, false⟩

theorem valid_tag : (validDeclarations .prisma "prisma/schema.prisma" tagText).outcome =
    .ok ⟨tagSchema, []⟩ := by
  cbv

theorem loads_tag {text modelsFile : String}
    (read : settingsOfText? text = some (tagSettings modelsFile)) :
    (resultOn (loadAdjusted tagOptions.locate) (lenient (tagFiles text))).1 =
      .ok ⟨tagSettings modelsFile, tagSchema, none⟩ := by
  have told : (tagSettings modelsFile).resolvedFormat? = some .prisma := by cbv
  have found : (lenient (tagFiles text)).contents (place "prisma/schema.prisma") =
      some tagText := by
    show tagFiles text (Trail.ofPath "prisma/schema.prisma") = some tagText
    rw [tagFiles, if_pos rfl]
  have loads := resultOn_loadProject told found valid_tag rfl rfl
  exact resultOn_loadAdjusted rfl read loads

theorem renders_tag (modelsFile : String) :
    ∃ module, (modelsModule tagSchema (tagSettings modelsFile) none).outcome = .ok module := by
  have accepted : (modelsModule tagSchema (tagSettings modelsFile) none).outcome.isOk = true := by
    cbv
  exact Outcome.exists_of_isOk accepted

theorem generated_tag :
    ∃ module output later,
      (resultOn (loadAdjusted tagOptions.locate) (lenient (tagFiles "\x7b\x7d"))).1 =
        .ok ⟨tagSettings "models.py", tagSchema, none⟩ ∧
      (modelsModule tagSchema (tagSettings "models.py") none).outcome = .ok module ∧
      resultOn (runGenerate { tagOptions with dryRun := true }) (lenient (tagFiles "\x7b\x7d")) =
        (.ok module.render, lenient (tagFiles "\x7b\x7d")) ∧
      resultOn (runGenerate tagOptions) (lenient (tagFiles "\x7b\x7d")) = (.ok output, later) ∧
      Generated (tagSettings "models.py") module.render (tagFiles "\x7b\x7d") later.contents := by
  have read : settingsOfText? "\x7b\x7d" = some (tagSettings "models.py") := by cbv
  obtain ⟨module, renders⟩ := renders_tag "models.py"
  obtain ⟨dry, generated⟩ := generated_iff_unobstructed (loads_tag read) renders
  have unobstructed :
      Unobstructed (tagSettings "models.py") module.render (tagFiles "\x7b\x7d") := by
    have ends : Path.fileName? (tagSettings "models.py").modelsPath = some "models.py" := rfl
    refine unobstructed_of_fileName? ends (by decide) (by decide) fun path listed => ?_
    simp only [List.mem_cons, List.not_mem_nil, or_false] at listed
    rcases listed with rfl | rfl
    · rintro _ ⟨⟩
      rfl
    · rintro _ ⟨⟩
      rfl
  obtain ⟨output, later, run, delivered⟩ := generated.mpr unobstructed
  exact ⟨module, output, later, loads_tag read, renders, dry, run, delivered⟩

def crossedText : String :=
  "\x7b\"modelsFile\": \".__init__.py.tmp\"\x7d"

/-- Where the package file waits, no module stays. -/
theorem module_lost_to_initFile :
    ∃ module later,
      (resultOn (loadAdjusted tagOptions.locate) (lenient (tagFiles crossedText))).1 =
        .ok ⟨tagSettings ".__init__.py.tmp", tagSchema, none⟩ ∧
      (modelsModule tagSchema (tagSettings ".__init__.py.tmp") none).outcome = .ok module ∧
      resultOn (runGenerate tagOptions) (lenient (tagFiles crossedText)) =
        (.ok (printed ["Generated prisma/generated/.__init__.py.tmp",
          "Generated prisma/generated/__init__.py"]), later) ∧
      later.contents (place "prisma/generated/.__init__.py.tmp") = none ∧
      later.contents (place "prisma/generated/__init__.py") = some module.render ∧
      ¬ Generated (tagSettings ".__init__.py.tmp") module.render (tagFiles crossedText)
        later.contents := by
  have read : settingsOfText? crossedText = some (tagSettings ".__init__.py.tmp") := by cbv
  obtain ⟨module, renders⟩ := renders_tag ".__init__.py.tmp"
  have stands : keptIn (tagFiles crossedText)
      ⟨"prisma/generated/.__init__.py.tmp", module.render, .overwrite⟩ = false := rfl
  have waits : temporaryPath? "prisma/generated/.__init__.py.tmp" =
      some "prisma/generated/..__init__.py.tmp.tmp" := rfl
  have standsInit : keptIn (Function.update (tagFiles crossedText)
      (place "prisma/generated/..__init__.py.tmp.tmp") (some module.render))
      ⟨"prisma/generated/__init__.py", "", .createIfAbsent⟩ = false := rfl
  have waitsInit : temporaryPath? "prisma/generated/__init__.py" =
      some "prisma/generated/.__init__.py.tmp" := rfl
  have apart : (place "prisma/generated/..__init__.py.tmp.tmp" : Trail) ≠
      place "prisma/generated/.__init__.py.tmp" := by decide
  have apartInit : (place "prisma/generated/.__init__.py.tmp" : Trail) ≠
      place "prisma/generated/__init__.py" := by decide
  have written := writeFiles_of_new stands waits standsInit waitsInit apart
  have run := (resultOn_runGenerate (loads_tag read) renders).trans (deliver_of_written written)
  refine ⟨module, _, loads_tag read, renders, run, ?_, ?_, ?_⟩
  · dsimp only [lenient]
    rw [moved_source apartInit]
  · dsimp only [lenient]
    rw [moved_target, moved_target, Function.update_of_ne apart, Function.update_self]
  · intro generated
    have models : Disk.contents _ (place "prisma/generated/.__init__.py.tmp") = _ :=
      generated.models
    dsimp only [lenient] at models
    rw [moved_source apartInit] at models
    cases models

end Generating

end Modelwright
