import Modelwright.Proofs.Files.Untouched
import Modelwright.Proofs.Project.Delivery
import Modelwright.Proofs.Target.Alike

namespace Modelwright

open Places Disk

variable {κ : Type} [DecidableEq κ] [Places κ]

section Package

variable {settings : Settings} {text temporary old : String} {before : κ → Option String} {p : κ}

/-- The place is none where contents wait, and the models file goes there only if its text stands
there already. -/
structure PackageSpares (settings : Settings) (temporary text : String) (before : κ → Option String)
    (p : κ) : Prop where
  waiting : p ≠ place temporary
  models : p = place settings.modelsPath → before p = some text
  created : settings.createPackageInit = true → before (place settings.initPath) = none →
    AwayFrom p ⟨settings.initPath, "", .createIfAbsent⟩

omit [DecidableEq κ] [Places κ] in
theorem ne_of_absent {q : κ} (found : before p = some old) (absent : before q = none) : p ≠ q := by
  rintro rfl
  rw [absent] at found
  cases found

theorem writeFiles_keeps {disk : Disk κ} (found : disk.contents p = some old)
    (spared : ∀ temporary, temporaryPath? settings.modelsPath = some temporary →
      PackageSpares settings temporary text disk.contents p) :
    (outcomeOn (writeFiles (packageFiles settings text)) disk).2.contents p = disk.contents p := by
  have stands : keptIn disk.contents ⟨settings.modelsPath, text, .overwrite⟩ = false := rfl
  cases waits : temporaryPath? settings.modelsPath with
  | none =>
      rcases stageAll_cons_cases [] (initFile settings) stands (List.forall_mem_nil _) with
        ⟨temporary, between, named, -⟩ | ⟨error, later, run, unchanged⟩
      · rw [waits] at named
        cases named
      · rw [packageFiles, writeFiles_state_of_error run, unchanged]
  | some temporary =>
      have spares := spared temporary waits
      have away : AwayFrom p ⟨settings.modelsPath, text, .overwrite⟩ := fun other waitsOther =>
        (spared other waitsOther).waiting
      by_cases new :
        settings.createPackageInit = true ∧ disk.contents (place settings.initPath) = none
      · have standsInit : ∀ other, temporaryPath? settings.modelsPath = some other →
            keptIn (Function.update disk.contents (place other) (some text))
              ⟨settings.initPath, "", .createIfAbsent⟩ = false :=
          fun other waitsOther => keptIn_initPath waitsOther new.2
        rw [packageFiles, initFile, if_pos new.1]
        exact writeFiles_keeps_of_new stands standsInit away (spares.created new.1 new.2)
          spares.models (ne_of_absent found new.2)
      · have kept : ∀ other, temporaryPath? settings.modelsPath = some other →
            ∀ file ∈ initFile settings,
              keptIn (Function.update disk.contents (place other) (some text)) file = true :=
          fun other waitsOther => keptIn_initFile waitsOther (initPath_present new)
        rw [packageFiles]
        exact writeFiles_keeps_of_kept stands kept away spares.models

theorem spares_of_kept (found : before p = some old)
    (waits : temporaryPath? settings.modelsPath = some temporary)
    (present : settings.createPackageInit = true →
      (before (place settings.initPath)).isSome = true)
    (same : (outcomeOn (writeFiles (packageFiles settings text)) (lenient before)).2.contents p =
      before p) : PackageSpares settings temporary text before p := by
  have stands : keptIn before ⟨settings.modelsPath, text, .overwrite⟩ = false := rfl
  have written := writeFiles_of_kept stands waits (keptIn_initFile waits present)
  rw [packageFiles, written] at same
  dsimp only [lenient] at same
  refine ⟨?_, ?_, fun wanted absent => ?_⟩
  · rintro rfl
    rw [moved_source (place_temporary_ne waits), found] at same
    cases same
  · rintro rfl
    rw [← same, moved_target, Function.update_self]
  · have stood := present wanted
    rw [absent] at stood
    cases stood

/-- The place where a new package file waits ends up empty, even if the models file went there. -/
theorem initPath_cleared {waiting : String}
    (waits : temporaryPath? settings.modelsPath = some temporary)
    (wanted : settings.createPackageInit = true) (absent : before (place settings.initPath) = none)
    (waitsInit : temporaryPath? settings.initPath = some waiting) :
    (outcomeOn (writeFiles (packageFiles settings text)) (lenient before)).2.contents
      (place waiting) = none := by
  have stands : keptIn before ⟨settings.modelsPath, text, .overwrite⟩ = false := rfl
  have staged := stageAll_of_new stands waits (keptIn_initPath waits absent) waitsInit
  have stays : (Function.update (Function.update before (place temporary) (some text))
      (place waiting) (some "") (place temporary : κ)).isSome = true := by
    rw [Function.update_apply]
    split
    · rfl
    · rw [Function.update_self]
      rfl
  rw [packageFiles, initFile, if_pos wanted, writeFiles_state_of_staged staged,
    replaceAll_cons_lenient [] stays]
  exact replaceAll_singleton_clears _ _ (place_temporary_ne waitsInit)

theorem spares_of_new (found : before p = some old)
    (waits : temporaryPath? settings.modelsPath = some temporary)
    (wanted : settings.createPackageInit = true) (absent : before (place settings.initPath) = none)
    (same : (outcomeOn (writeFiles (packageFiles settings text)) (lenient before)).2.contents p =
      before p) : PackageSpares settings temporary text before p := by
  obtain ⟨waiting, waitsInit⟩ := exists_temporary_initPath settings
  have apartInit : p ≠ place settings.initPath := ne_of_absent found absent
  have apartWaiting : p ≠ place waiting := by
    rintro rfl
    rw [initPath_cleared waits wanted absent waitsInit, found] at same
    cases same
  have away : AwayFrom p ⟨settings.initPath, "", .createIfAbsent⟩ := fun other waitsOther =>
    Option.some.inj (waitsInit.symm.trans waitsOther) ▸ apartWaiting
  by_cases crossed : (place temporary : κ) = place waiting
  · -- The models file is the package file then, which is missing.
    refine ⟨crossed ▸ apartWaiting, fun target => ?_, fun _ _ => away⟩
    exact absurd (target.trans (target_eq waits waitsInit crossed)) apartInit
  · have stands : keptIn before ⟨settings.modelsPath, text, .overwrite⟩ = false := rfl
    have written := writeFiles_of_new stands waits (keptIn_initPath waits absent) waitsInit crossed
    rw [packageFiles, initFile, if_pos wanted, written] at same
    dsimp only [lenient] at same
    rw [moved_of_ne apartInit apartWaiting] at same
    refine ⟨?_, ?_, fun _ _ => away⟩
    · rintro rfl
      rw [moved_source (place_temporary_ne waits), found] at same
      cases same
    · rintro rfl
      rw [← same, moved_target, Function.update_of_ne crossed, Function.update_self]

theorem writeFiles_keeps_iff (found : before p = some old) :
    (outcomeOn (writeFiles (packageFiles settings text)) (lenient before)).2.contents p =
        before p ↔
      ∀ temporary, temporaryPath? settings.modelsPath = some temporary →
        PackageSpares settings temporary text before p := by
  constructor
  · intro same temporary waits
    by_cases new : settings.createPackageInit = true ∧ before (place settings.initPath) = none
    · exact spares_of_new found waits new.1 new.2 same
    · exact spares_of_kept found waits (initPath_present new) same
  · have stands : (lenient before).contents p = some old := found
    exact writeFiles_keeps stands

end Package

section Generating

variable {options : GenerateOptions} {disk : Disk κ} {project : Project}

/-- As far as the run writes anything, the place is spared. -/
def GenerateOptions.Spares (options : GenerateOptions) (project : Project)
    (before : κ → Option String) (p : κ) : Prop :=
  options.dryRun = false → ∀ module temporary,
    (modelsModule project.schema (options.redirect project.settings) project.extension).outcome =
      .ok module →
    temporaryPath? (options.redirect project.settings).modelsPath = some temporary →
    PackageSpares (options.redirect project.settings) temporary module.render before p

theorem deliver_state (files : List OutputFile) (disk : Disk κ) :
    (outcomeOn (deliver false files) disk).2 = (outcomeOn (writeFiles files) disk).2 := by
  rcases run : outcomeOn (writeFiles files) disk with ⟨error | outcomes, later⟩
  · rw [deliver_of_refused run]
  · rw [deliver_of_written run]

theorem resultOn_runGenerate_of_unloaded {error : CommandError}
    (fails : (resultOn (loadAdjusted options.locate) disk).1 = .error error) :
    resultOn (runGenerate options) disk = (.error error, disk) := by
  rw [runGenerate, resultOn_bind (onlyReads_loadAdjusted _)]
  refine resultOn_followedBy_of_error ?_ _ _
  rw [Logged.outcome_bind]
  exact congrArg (· >>= _) fails

theorem resultOn_runGenerate_of_unrendered {error : ExportError}
    (loads : (resultOn (loadAdjusted options.locate) disk).1 = .ok project)
    (fails : (modelsModule project.schema (options.redirect project.settings)
      project.extension).outcome = .error error) :
    resultOn (runGenerate options) disk = (.error (.render error), disk) := by
  have outputs : Logged.outcome
      { project with settings := options.redirect project.settings }.outputFiles =
      .error (.render error) := by
    rw [Project.outputFiles, Modelwright.outputFiles, Logged.mapError, Logged.outcome_bind, fails]
    rfl
  rw [runGenerate, resultOn_bind (onlyReads_loadAdjusted _)]
  refine resultOn_followedBy_of_error ?_ _ _
  rw [Logged.outcome_bind]
  exact (congrArg (· >>= _) loads).trans outputs

/-- A run that loads no project changes nothing.  One that does leaves the hand-written module as it
was if its place is spared, whatever is refused, and only then if nothing is. -/
theorem handWritten_kept_iff_spared (options : GenerateOptions) (disk : Disk κ) :
    (∀ error, (resultOn (loadAdjusted options.locate) disk).1 = .error error →
      (resultOn (runGenerate options) disk).2 = disk) ∧
    ∀ project extension, (resultOn (loadAdjusted options.locate) disk).1 = .ok project →
      project.settings.extension = some extension →
      (options.Spares project disk.contents (place extension.path) →
        (resultOn (runGenerate options) disk).2.contents (place extension.path) =
          disk.contents (place extension.path)) ∧
      (disk = lenient disk.contents →
        ((resultOn (runGenerate options) disk).2.contents (place extension.path) =
            disk.contents (place extension.path) ↔
          options.Spares project disk.contents (place extension.path))) := by
  refine ⟨fun error fails => by rw [resultOn_runGenerate_of_unloaded fails],
    fun project extension loads configured => ?_⟩
  obtain ⟨text, found⟩ := exists_text_of_loadAdjusted loads configured
  cases rendered : (modelsModule project.schema (options.redirect project.settings)
      project.extension).outcome with
  | error error =>
      rw [resultOn_runGenerate_of_unrendered loads rendered]
      refine ⟨fun _ => rfl, fun _ => ⟨fun _ _ module temporary renders => ?_, fun _ => rfl⟩⟩
      rw [rendered] at renders
      cases renders
  | ok module =>
      rw [resultOn_runGenerate loads rendered]
      cases dry : options.dryRun with
      | true =>
          refine ⟨fun _ => rfl, fun _ => ⟨fun _ writes => ?_, fun _ => rfl⟩⟩
          rw [dry] at writes
          cases writes
      | false =>
          rw [deliver_state]
          have spares : options.Spares project disk.contents (place extension.path) ↔
              ∀ temporary,
                temporaryPath? (options.redirect project.settings).modelsPath = some temporary →
                PackageSpares (options.redirect project.settings) temporary module.render
                  disk.contents (place extension.path) := by
            constructor
            · exact fun spared temporary => spared dry module temporary rendered
            · rintro spared - other temporary renders
              obtain rfl := Except.ok.inj (rendered.symm.trans renders)
              exact spared temporary
          rw [spares]
          refine ⟨writeFiles_keeps found, fun nothing => ?_⟩
          rw [nothing]
          exact writeFiles_keeps_iff found

end Generating

section Placed

def handText : String :=
  "class Tag:\n    pass\n"

def handSettings (path : String) : Settings :=
  { Settings.standard with extension := some ⟨path, "prisma.base"⟩ }

def handFiles (settings path : String) (p : Trail) : Option String :=
  if p = Trail.ofPath path then some handText else tagFiles settings p

def handModule : ExtensionModule :=
  ⟨"prisma.base", outline handText⟩

/-- What the settings hold when nothing but the hand-written module is configured. -/
def handNode (path : String) : Node :=
  (Json.object [("extension", ExtensionSettings.toJson ⟨path, "prisma.base"⟩)]).node

theorem reads_hand {settings path : String}
    (document : Json.document? settings.toList = some (handNode path)) :
    settingsOfText? settings = some (handSettings path) := by
  rw [settingsOfText?, document]
  rfl

theorem loads_hand {settings path : String}
    (read : settingsOfText? settings = some (handSettings path))
    (apart : Trail.ofPath path ≠ Trail.ofPath Settings.fileName)
    (apartSchema : Trail.ofPath path ≠ Trail.ofPath "prisma/schema.prisma") :
    (resultOn (loadAdjusted tagOptions.locate) (lenient (handFiles settings path))).1 =
      .ok ⟨handSettings path, tagSchema, some handModule⟩ := by
  have told : (handSettings path).resolvedFormat? = some .prisma := by cbv
  have found : (lenient (handFiles settings path)).contents (place "prisma/schema.prisma") =
      some tagText := by
    show handFiles settings path (Trail.ofPath "prisma/schema.prisma") = some tagText
    rw [handFiles, if_neg apartSchema.symm, tagFiles, if_pos rfl]
  have listed : (lenient (handFiles settings path)).contents (place Settings.fileName) =
      some settings := by
    show handFiles settings path (Trail.ofPath Settings.fileName) = some settings
    rw [handFiles, if_neg apart.symm, tagFiles, if_neg (by decide), if_pos rfl]
  have stands : (lenient (handFiles settings path)).contents (place path) = some handText := by
    show handFiles settings path (Trail.ofPath path) = some handText
    rw [handFiles, if_pos rfl]
  have configured : (handSettings path).extension = some ⟨path, "prisma.base"⟩ := rfl
  have extended := outcomeOn_loadExtension configured stands
  have loads := resultOn_loadProject told found valid_tag rfl extended
  exact resultOn_loadAdjusted listed read loads

theorem renders_hand (path : String) :
    ∃ module, (modelsModule tagSchema (handSettings path) (some handModule)).outcome =
      .ok module := by
  have accepted :
      (modelsModule tagSchema (handSettings path) (some handModule)).outcome.isOk = true := by
    cbv
  exact Outcome.exists_of_isOk accepted

theorem render_ne_handText (module : Target.Module) : module.render ≠ handText := by
  intro same
  have begins := congrArg String.toList same
  simp only [Target.Module.render, Target.Module.lines, Target.Module.headerLines,
    List.cons_append, Target.toList_intercalate_lines, Target.linesText_cons] at begins
  cases begins

def besideText : String :=
  "\x7b\"extension\": \x7b\"path\": \"prisma/base.py\", \"module\": \"prisma.base\"\x7d\x7d"

theorem handWritten_kept_beside :
    ∃ module,
      (resultOn (loadAdjusted tagOptions.locate)
        (lenient (handFiles besideText "prisma/base.py"))).1 =
        .ok ⟨handSettings "prisma/base.py", tagSchema, some handModule⟩ ∧
      (modelsModule tagSchema (handSettings "prisma/base.py") (some handModule)).outcome =
        .ok module ∧
      (resultOn (runGenerate tagOptions)
        (lenient (handFiles besideText "prisma/base.py"))).2.contents (place "prisma/base.py") =
          some handText := by
  have document : Json.document? besideText.toList = some (handNode "prisma/base.py") := by cbv
  have loads := loads_hand (reads_hand document) (by decide) (by decide)
  obtain ⟨module, renders⟩ := renders_hand "prisma/base.py"
  refine ⟨module, loads, renders, ?_⟩
  obtain ⟨-, kept⟩ := handWritten_kept_iff_spared tagOptions
    (lenient (handFiles besideText "prisma/base.py"))
  refine ((kept _ _ loads rfl).1 fun _ other temporary rendered waits => ?_).trans rfl
  obtain rfl : "prisma/generated/.models.py.tmp" = temporary := Option.some.inj waits
  refine ⟨by decide, fun same => ?_, fun _ _ waiting waitsInit => ?_⟩
  · exact absurd same (by decide)
  · obtain rfl : "prisma/generated/.__init__.py.tmp" = waiting := Option.some.inj waitsInit
    decide

def overText : String :=
  "\x7b\"extension\": \x7b\"path\": \"prisma/generated/models.py\", " ++
    "\"module\": \"prisma.base\"\x7d\x7d"

/-- Nothing keeps the models file from going where the hand-written module is. -/
theorem handWritten_lost :
    ∃ (module : Target.Module) (later : Disk Trail),
      (resultOn (loadAdjusted tagOptions.locate)
        (lenient (handFiles overText "prisma/generated/models.py"))).1 =
        .ok ⟨handSettings "prisma/generated/models.py", tagSchema, some handModule⟩ ∧
      resultOn (runGenerate tagOptions)
        (lenient (handFiles overText "prisma/generated/models.py")) =
        (.ok (printed ["Generated prisma/generated/models.py",
          "Generated prisma/generated/__init__.py"]), later) ∧
      handFiles overText "prisma/generated/models.py" (place "prisma/generated/models.py") =
        some handText ∧
      later.contents (place "prisma/generated/models.py") = some module.render ∧
      module.render ≠ handText := by
  have document : Json.document? overText.toList =
      some (handNode "prisma/generated/models.py") := by
    cbv
  have loads := loads_hand (reads_hand document) (by decide) (by decide)
  obtain ⟨module, renders⟩ := renders_hand "prisma/generated/models.py"
  have stands : keptIn (handFiles overText "prisma/generated/models.py")
      ⟨"prisma/generated/models.py", module.render, .overwrite⟩ = false := rfl
  have waits : temporaryPath? "prisma/generated/models.py" =
      some "prisma/generated/.models.py.tmp" := rfl
  have standsInit : keptIn (Function.update (handFiles overText "prisma/generated/models.py")
      (place "prisma/generated/.models.py.tmp") (some module.render))
      ⟨"prisma/generated/__init__.py", "", .createIfAbsent⟩ = false := rfl
  have waitsInit : temporaryPath? "prisma/generated/__init__.py" =
      some "prisma/generated/.__init__.py.tmp" := rfl
  have apart : (place "prisma/generated/.models.py.tmp" : Trail) ≠
      place "prisma/generated/.__init__.py.tmp" := by decide
  have apartInit : (place "prisma/generated/models.py" : Trail) ≠
      place "prisma/generated/__init__.py" := by decide
  have apartWaiting : (place "prisma/generated/models.py" : Trail) ≠
      place "prisma/generated/.__init__.py.tmp" := by decide
  have written := writeFiles_of_new stands waits standsInit waitsInit apart
  have run := (resultOn_runGenerate loads renders).trans (deliver_of_written written)
  refine ⟨module, _, loads, run, rfl, ?_, render_ne_handText module⟩
  dsimp only [lenient]
  rw [moved_of_ne apartInit apartWaiting, moved_target, Function.update_of_ne apart,
    Function.update_self]

end Placed

end Modelwright
