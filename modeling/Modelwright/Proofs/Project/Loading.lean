import Modelwright.Command.Run
import Modelwright.Proofs.Files.Disk
import Modelwright.Proofs.Outcome

namespace Modelwright

open Source

variable {κ ε α β : Type}

def OnlyReads (x : StateM (Disk κ) α) : Prop :=
  ∀ disk, (x.run disk).2 = disk

namespace OnlyReads

theorem pure (a : α) : OnlyReads (Pure.pure a : StateM (Disk κ) α) :=
  fun _ => rfl

theorem bind {x : StateM (Disk κ) α} {f : α → StateM (Disk κ) β} (first : OnlyReads x)
    (next : ∀ a, OnlyReads (f a)) : OnlyReads (x >>= f) :=
  fun disk => (next (x.run disk).1 (x.run disk).2).trans (first disk)

theorem lift {x : StateM (Disk κ) α} (reads : OnlyReads x) :
    OnlyReads (ExceptT.lift x : ExceptT ε (StateM (Disk κ)) α).run :=
  reads.bind fun _ => pure _

theorem bind_run {x : ExceptT ε (StateM (Disk κ)) α} {f : α → ExceptT ε (StateM (Disk κ)) β}
    (first : OnlyReads x.run) (next : ∀ a, OnlyReads (f a).run) : OnlyReads (x >>= f).run := by
  rw [ExceptT.run_bind]
  refine first.bind fun result => ?_
  cases result with
  | error e => exact pure _
  | ok a => exact next a

theorem followedBy {x : Logged ε α} {f : α → StateM (Disk κ) (Logged ε β)}
    (next : ∀ a, OnlyReads (f a)) : OnlyReads (x.followedBy f) := by
  rw [Logged.followedBy]
  split
  · exact pure _
  · next a _ => exact (next a).bind fun _ => pure _

end OnlyReads

/-- What an action that logs warnings comes to, apart from these. -/
def resultOn (action : StateM (Disk κ) (Logged ε α)) (disk : Disk κ) :
    Except ε α × Disk κ :=
  ((action.run disk).1.outcome, (action.run disk).2)

theorem resultOn_bind {x : StateM (Disk κ) α} (reads : OnlyReads x)
    (f : α → StateM (Disk κ) (Logged ε β)) (disk : Disk κ) :
    resultOn (x >>= f) disk = resultOn (f (x.run disk).1) disk := by
  have step : resultOn (x >>= f) disk = resultOn (f (x.run disk).1) (x.run disk).2 := rfl
  rw [step, reads disk]

theorem resultOn_followedBy {x : Logged ε α} {a : α} (succeeded : x.outcome = .ok a)
    (f : α → StateM (Disk κ) (Logged ε β)) (disk : Disk κ) :
    resultOn (x.followedBy f) disk = resultOn (f a) disk := by
  rw [Logged.followedBy, succeeded]
  rfl

theorem resultOn_followedBy_of_error {x : Logged ε α} {error : ε}
    (failed : x.outcome = .error error) (f : α → StateM (Disk κ) (Logged ε β)) (disk : Disk κ) :
    resultOn (x.followedBy f) disk = (.error error, disk) := by
  rw [Logged.followedBy, failed]
  rfl

section Loading

variable [DecidableEq κ] [Places κ]

theorem onlyReads_pathExists (path : String) :
    OnlyReads (FileSystem.pathExists path : StateM (Disk κ) Bool) :=
  fun _ => rfl

theorem onlyReads_readText? (path : String) :
    OnlyReads (FileSystem.readText? path : StateM (Disk κ) (Option String)) :=
  fun _ => rfl

theorem onlyReads_loadSettingsFrom (path : String) :
    OnlyReads (loadSettingsFrom path : ExceptT LoadError (StateM (Disk κ)) Settings).run := by
  refine .bind_run (onlyReads_pathExists path).lift fun present => ?_
  split
  · refine .bind_run (onlyReads_readText? path).lift fun text => ?_
    split
    · exact .pure _
    · split <;> exact .pure _
  · exact .pure _

theorem onlyReads_loadSettingsOrStandard (directory : Option String) :
    OnlyReads (loadSettingsOrStandard directory :
      ExceptT LoadError (StateM (Disk κ)) Settings).run := by
  refine .bind_run (onlyReads_pathExists _).lift fun present => ?_
  split
  · exact onlyReads_loadSettingsFrom _
  · exact .pure _

theorem onlyReads_loadSchemaAs (format : SchemaFormat) (path : String) :
    OnlyReads (loadSchemaAs format path : StateM (Disk κ) (Logged LoadError Declarations)) := by
  refine (onlyReads_readText? path).bind fun text => ?_
  split <;> exact .pure _

theorem onlyReads_loadSchemaOf (settings : Settings) :
    OnlyReads (loadSchemaOf settings : StateM (Disk κ) (Logged LoadError Declarations)) := by
  rw [loadSchemaOf]
  split
  · rw [loadSchema]
    split
    · exact .pure _
    · exact onlyReads_loadSchemaAs _ _
  · exact onlyReads_loadSchemaAs _ _

theorem onlyReads_loadExtension (settings : Settings) :
    OnlyReads (loadExtension settings :
      ExceptT LoadError (StateM (Disk κ)) (Option ExtensionModule)).run := by
  rw [loadExtension]
  split
  · exact .pure _
  · refine .bind_run (onlyReads_readText? _).lift fun text => ?_
    split <;> exact .pure _

theorem onlyReads_loadProjectOf (settings : Settings) (declarations : Declarations) :
    OnlyReads (loadProjectOf settings declarations :
      ExceptT LoadError (StateM (Disk κ)) Project).run := by
  rw [loadProjectOf]
  split
  · exact .pure _
  · exact .bind_run (onlyReads_loadExtension _) fun extension => .pure _

theorem onlyReads_loadProject (settings : Settings) :
    OnlyReads (loadProject settings : StateM (Disk κ) (Logged LoadError Project)) := by
  refine (onlyReads_loadSchemaOf settings).bind fun loaded => ?_
  exact .followedBy fun declarations => (onlyReads_loadProjectOf settings declarations).bind
    fun _ => .pure _

theorem onlyReads_loadAdjusted (adjust : Settings → Settings) :
    OnlyReads (loadAdjusted adjust : StateM (Disk κ) (Logged CommandError Project)) := by
  refine (onlyReads_loadSettingsOrStandard none).bind fun settings => ?_
  split
  · exact .pure _
  · exact (onlyReads_loadProject _).bind fun _ => .pure _

section Texts

variable {disk : Disk κ} {path text : String} {settings overlaid : Settings}
  {format : SchemaFormat} {declarations : Declarations}

theorem pathExists_run (found : disk.contents (Places.place path) = some text) :
    (FileSystem.pathExists path : StateM (Disk κ) Bool).run disk = (true, disk) :=
  congrArg (fun text => (Option.isSome text, disk)) found

theorem readText?_run (found : disk.contents (Places.place path) = some text) :
    (FileSystem.readText? path : StateM (Disk κ) (Option String)).run disk = (some text, disk) :=
  congrArg (fun text => (text, disk)) found

theorem outcomeOn_loadSettingsFrom (found : disk.contents (Places.place path) = some text)
    (read : settingsOfText? text = some settings) :
    outcomeOn (loadSettingsFrom path) disk = (.ok settings, disk) := by
  have present : outcomeOn (ε := LoadError) (FileSystem.pathExists path) disk = (.ok true, disk) :=
    outcomeOn_lift (pathExists_run found)
  have opened : outcomeOn (ε := LoadError) (FileSystem.readText? path) disk =
      (.ok (some text), disk) := outcomeOn_lift (readText?_run found)
  rw [loadSettingsFrom, outcomeOn_bind_of_ok present, if_pos rfl, outcomeOn_bind_of_ok opened]
  dsimp only
  rw [read]
  rfl

theorem outcomeOn_loadSettingsOrStandard
    (found : disk.contents (Places.place Settings.fileName) = some text)
    (read : settingsOfText? text = some settings) :
    outcomeOn (loadSettingsOrStandard none) disk = (.ok settings, disk) := by
  have present : outcomeOn (ε := LoadError) (FileSystem.pathExists Settings.fileName) disk =
      (.ok true, disk) := outcomeOn_lift (pathExists_run found)
  rw [loadSettingsOrStandard, outcomeOn_bind_of_ok present, if_pos rfl]
  exact outcomeOn_loadSettingsFrom found read

theorem loadSchemaOf_run (told : settings.resolvedFormat? = some format)
    (found : disk.contents (Places.place settings.schema) = some text) :
    (loadSchemaOf settings : StateM (Disk κ) _).run disk =
      (validDeclarations format settings.schema text, disk) := by
  rw [loadSchemaOf, told]
  show StateT.run (FileSystem.readText? settings.schema >>= _) disk = _
  rw [StateT.run_bind, readText?_run found]
  rfl

theorem resultOn_loadProject (told : settings.resolvedFormat? = some format)
    (found : disk.contents (Places.place settings.schema) = some text)
    (valid : (validDeclarations format settings.schema text).outcome = .ok declarations)
    (overlays : settings.applyBlock declarations.generators settings.schema = (overlaid, none))
    {extension : Option ExtensionModule}
    (extended : outcomeOn (loadExtension overlaid) disk = (.ok extension, disk)) :
    (resultOn (loadProject settings) disk).1 = .ok ⟨overlaid, declarations.schema, extension⟩ := by
  rw [loadProject, resultOn_bind (onlyReads_loadSchemaOf settings), loadSchemaOf_run told found,
    resultOn_followedBy valid, loadProjectOf, overlays]
  exact congrArg Prod.fst (outcomeOn_bind_of_ok extended _)

theorem resultOn_loadAdjusted {adjust : Settings → Settings}
    (found : disk.contents (Places.place Settings.fileName) = some text)
    (read : settingsOfText? text = some settings) {project : Project}
    (loads : (resultOn (loadProject (adjust settings)) disk).1 = .ok project) :
    (resultOn (loadAdjusted adjust) disk).1 = .ok project := by
  have settled := outcomeOn_loadSettingsOrStandard found read
  rw [outcomeOn] at settled
  rw [loadAdjusted, resultOn_bind (onlyReads_loadSettingsOrStandard none), settled]
  exact congrArg (Except.mapError CommandError.load) loads

theorem outcomeOn_loadExtension {extension : ExtensionSettings}
    (configured : settings.extension = some extension)
    (found : disk.contents (Places.place extension.path) = some text) :
    outcomeOn (loadExtension settings) disk =
      (.ok (some ⟨extension.importPath, outline text⟩), disk) := by
  have opened : outcomeOn (ε := LoadError) (FileSystem.readText? extension.path) disk =
      (.ok (some text), disk) := outcomeOn_lift (readText?_run found)
  rw [loadExtension, configured]
  exact outcomeOn_bind_of_ok opened _

end Texts

section Read

variable {disk : Disk κ} {settings : Settings} {project : Project}
  {extension : ExtensionSettings}

theorem exists_text_of_loadExtension {module : Option ExtensionModule}
    (loads : (outcomeOn (loadExtension settings) disk).1 = .ok module)
    (configured : settings.extension = some extension) :
    ∃ text, disk.contents (Places.place extension.path) = some text := by
  cases found : disk.contents (Places.place extension.path) with
  | some text => exact ⟨text, rfl⟩
  | none =>
      have missing : (FileSystem.readText? extension.path : StateM (Disk κ) (Option String)).run
          disk = (none, disk) := congrArg (fun text => (text, disk)) found
      have opened : outcomeOn (ε := LoadError) (FileSystem.readText? extension.path) disk =
          (.ok none, disk) := outcomeOn_lift missing
      rw [loadExtension, configured, outcomeOn_bind_of_ok opened] at loads
      cases loads

theorem exists_text_of_loadProjectOf {declarations : Declarations}
    (loads : (outcomeOn (loadProjectOf settings declarations) disk).1 = .ok project)
    (configured : project.settings.extension = some extension) :
    ∃ text, disk.contents (Places.place extension.path) = some text := by
  rw [loadProjectOf] at loads
  split at loads
  · cases loads
  · next overlaid _ =>
      rcases run : outcomeOn (loadExtension overlaid) disk with ⟨error | module, later⟩
      · rw [outcomeOn_bind_of_error run] at loads
        cases loads
      · rw [outcomeOn_bind_of_ok run] at loads
        cases loads
        exact exists_text_of_loadExtension (congrArg Prod.fst run) configured

theorem exists_text_of_loadProject
    (loads : (resultOn (loadProject settings) disk).1 = .ok project)
    (configured : project.settings.extension = some extension) :
    ∃ text, disk.contents (Places.place extension.path) = some text := by
  rw [loadProject, resultOn_bind (onlyReads_loadSchemaOf settings)] at loads
  cases declared : ((loadSchemaOf settings : StateM (Disk κ) _).run disk).1.outcome with
  | error error =>
      rw [resultOn_followedBy_of_error declared] at loads
      cases loads
  | ok declarations =>
      rw [resultOn_followedBy declared] at loads
      exact exists_text_of_loadProjectOf loads configured

theorem exists_text_of_loadAdjusted {adjust : Settings → Settings}
    (loads : (resultOn (loadAdjusted adjust) disk).1 = .ok project)
    (configured : project.settings.extension = some extension) :
    ∃ text, disk.contents (Places.place extension.path) = some text := by
  rw [loadAdjusted, resultOn_bind (onlyReads_loadSettingsOrStandard none)] at loads
  split at loads
  · cases loads
  · next settings _ =>
      have told : (resultOn (loadProject (adjust settings)) disk).1.mapError CommandError.load =
          .ok project := loads
      exact exists_text_of_loadProject (Outcome.mapError_eq_ok_iff.mp told) configured

end Read

end Loading

end Modelwright
