import Mathlib.Data.List.Basic
import Modelwright.Settings.Overlay

namespace Modelwright.Settings

open Modelwright.Source

/-! What a generator block does to settings. -/

def flagKeys : List String :=
  ["classNamePascalCase", "valueNameSnakeCase", "createPyPackageInitFile"]

def optionKeys : List String := ["modelsFile", "appName"] ++ flagKeys

def flagValues : List String := ["true", "false"]

/-- The key is that of an option, and an option that is a flag is `true` or `false`. -/
def Applicable (option : String × String) : Prop :=
  option.1 ∈ optionKeys ∧ (option.1 ∈ flagKeys → option.2 ∈ flagValues)

instance (option : String × String) : Decidable (Applicable option) :=
  inferInstanceAs (Decidable (_ ∧ _))

def refusal (option : String × String) : OptionError :=
  if option.1 ∈ flagKeys then .invalidBool option.1 option.2 else .unknownOption option.1

def lastValue? (options : List (String × String)) (key : String) : Option String :=
  options.reverse.lookup key

/-- The five fields hold the last values that the options give them. -/
def overlaid (settings : Settings) (options : List (String × String)) : Settings :=
  { settings with
    modelsFile := (lastValue? options "modelsFile").getD settings.modelsFile
    appName := (lastValue? options "appName").getD settings.appName
    pascalClassNames :=
      ((lastValue? options "classNamePascalCase").map (· == "true")).getD settings.pascalClassNames
    snakeValueNames :=
      ((lastValue? options "valueNameSnakeCase").map (· == "true")).getD settings.snakeValueNames
    createPackageInit :=
      ((lastValue? options "createPyPackageInitFile").map (· == "true")).getD
        settings.createPackageInit }

theorem lastValue?_append (options others : List (String × String)) (key : String) :
    lastValue? (options ++ others) key = (lastValue? others key).or (lastValue? options key) := by
  rw [lastValue?, List.reverse_append, List.lookup_append]
  rfl

theorem lastValue?_singleton (option : String × String) (key : String) :
    lastValue? [option] key = if key = option.1 then some option.2 else none := by
  rw [lastValue?, List.reverse_singleton, List.lookup_cons, List.lookup_nil]
  by_cases same : key = option.1
  · rw [if_pos same, beq_iff_eq.mpr same]
  · rw [if_neg same, beq_eq_false_iff_ne.mpr same]

theorem overlaid_append (settings : Settings) (options others : List (String × String)) :
    settings.overlaid (options ++ others) = (settings.overlaid options).overlaid others := by
  simp only [overlaid, lastValue?_append, Option.map_or, Option.getD_or]

theorem boolOption_of_mem {key value : String} (flag : value ∈ flagValues) :
    boolOption key value = .ok (value == "true") := by
  cases flag with
  | head => rfl
  | tail _ flag =>
      cases flag with
      | head => rfl
      | tail _ flag => cases flag

theorem boolOption_of_not_mem {key value : String} (noFlag : value ∉ flagValues) :
    boolOption key value = .error (.invalidBool key value) := by
  simp only [flagValues, List.mem_cons, List.not_mem_nil, or_false, not_or] at noFlag
  rw [boolOption, if_neg noFlag.1, if_neg noFlag.2]

theorem applyOption_of_applicable (settings : Settings) {option : String × String}
    (applicable : Applicable option) :
    settings.applyOption option.1 option.2 = .ok (settings.overlaid [option]) := by
  obtain ⟨key, value⟩ := option
  have known : key ∈ optionKeys := applicable.1
  have flag : key ∈ flagKeys → value ∈ flagValues := applicable.2
  simp only [optionKeys, flagKeys, List.cons_append, List.nil_append, List.mem_cons,
    List.not_mem_nil, or_false] at known
  simp only [overlaid, lastValue?_singleton]
  rcases known with rfl | rfl | rfl | rfl | rfl
  · rfl
  · rfl
  · simp [applyOption, boolOption_of_mem (flag (by simp [flagKeys]))]
  · simp [applyOption, boolOption_of_mem (flag (by simp [flagKeys]))]
  · simp [applyOption, boolOption_of_mem (flag (by simp [flagKeys]))]

theorem applyOption_of_not_applicable (settings : Settings) {option : String × String}
    (refused : ¬ Applicable option) :
    settings.applyOption option.1 option.2 = .error (refusal option) := by
  obtain ⟨key, value⟩ := option
  by_cases known : key ∈ optionKeys
  · have flagged : key ∈ flagKeys ∧ value ∉ flagValues := by
      simpa only [Applicable, known, true_and, Classical.not_imp] using refused
    obtain ⟨flag, noFlag⟩ := flagged
    rw [refusal, if_pos flag]
    simp only [flagKeys, List.mem_cons, List.not_mem_nil, or_false] at flag
    rcases flag with rfl | rfl | rfl
    · simp [applyOption, boolOption_of_not_mem noFlag]
    · simp [applyOption, boolOption_of_not_mem noFlag]
    · simp [applyOption, boolOption_of_not_mem noFlag]
  · have unflagged : key ∉ flagKeys := fun flag => known (List.mem_append_right _ flag)
    rw [refusal, if_neg unflagged]
    simp only [optionKeys, flagKeys, List.cons_append, List.nil_append, List.mem_cons,
      List.not_mem_nil, or_false, not_or] at known
    obtain ⟨models, app, classes, values, package⟩ := known
    rw [applyOption, if_neg models, if_neg app, if_neg classes, if_neg values, if_neg package]

example : Applicable ("appName", "yes") ∧ ¬ Applicable ("createPyPackageInitFile", "yes") := by
  decide

theorem applyOptions_append (settings : Settings) {options : List (String × String)}
    (applicable : ∀ option ∈ options, Applicable option) (rest : List (String × String)) :
    settings.applyOptions (options ++ rest) = (settings.overlaid options).applyOptions rest := by
  induction options generalizing settings with
  | nil => rfl
  | cons option options ih =>
      obtain ⟨first, later⟩ := List.forall_mem_cons.mp applicable
      rw [List.cons_append, applyOptions, applyOption_of_applicable settings first]
      show (settings.overlaid [option]).applyOptions (options ++ rest) = _
      rw [ih _ later, ← overlaid_append, List.singleton_append]

theorem applyOptions_of_applicable (settings : Settings) {options : List (String × String)}
    (applicable : ∀ option ∈ options, Applicable option) :
    settings.applyOptions options = (settings.overlaid options, none) := by
  have ran := applyOptions_append settings applicable []
  rwa [List.append_nil] at ran

theorem applyOptions_of_not_applicable (settings : Settings) {before : List (String × String)}
    (applicable : ∀ option ∈ before, Applicable option) {option : String × String}
    (refused : ¬ Applicable option) (rest : List (String × String)) :
    settings.applyOptions (before ++ option :: rest) =
      (settings.overlaid before, some (refusal option)) := by
  rw [applyOptions_append settings applicable, applyOptions,
    applyOption_of_not_applicable _ refused]

/-- The block has the name that the settings give, or without one a provider that suits. -/
def Selects (settings : Settings) (block : GeneratorBlock) : Prop :=
  match settings.generator with
  | some name => block.name = name
  | none => ∃ provider, block.provider = some provider ∧ "tortoise".toList <:+: provider.toList

inductive IsFirst {α : Type} (p : α → Prop) : List α → α → Prop
  | here {a : α} {rest : List α} (held : p a) : IsFirst p (a :: rest) a
  | later {a b : α} {rest : List α} (passed : ¬ p b) (first : IsFirst p rest a) :
      IsFirst p (b :: rest) a

namespace IsFirst

variable {α : Type} {p : α → Prop} {xs : List α} {a b : α}

theorem mem (first : IsFirst p xs a) : a ∈ xs := by
  induction first with
  | here held => exact List.mem_cons_self
  | later passed first ih => exact List.mem_cons_of_mem _ ih

theorem held (first : IsFirst p xs a) : p a := by
  induction first with
  | here held => exact held
  | later passed first ih => exact ih

theorem find?_eq {q : α → Bool} (agrees : ∀ x, q x = true ↔ p x) (first : IsFirst p xs a) :
    xs.find? q = some a := by
  induction first with
  | here held => exact List.find?_cons_of_pos ((agrees _).mpr held)
  | later passed first ih => rw [List.find?_cons_of_neg (mt (agrees _).mp passed), ih]

theorem unique (first : IsFirst p xs a) (other : IsFirst p xs b) : a = b := by
  classical
  have agrees : ∀ x, decide (p x) = true ↔ p x := fun x => decide_eq_true_iff
  exact Option.some.inj ((first.find?_eq agrees).symm.trans (other.find?_eq agrees))

theorem exists_or (p : α → Prop) (xs : List α) : (∃ a, IsFirst p xs a) ∨ ∀ x ∈ xs, ¬ p x := by
  induction xs with
  | nil => exact .inr fun x listed => nomatch listed
  | cons x xs ih =>
      by_cases held : p x
      · exact .inl ⟨x, .here held⟩
      · cases ih with
        | inl found => exact .inl (found.imp fun a first => .later held first)
        | inr absent => exact .inr (List.forall_mem_cons.mpr ⟨held, absent⟩)

theorem split (first : IsFirst p xs a) :
    ∃ before rest, xs = before ++ a :: rest ∧ ∀ x ∈ before, ¬ p x := by
  induction first with
  | @here a rest held => exact ⟨[], rest, rfl, fun x listed => nomatch listed⟩
  | @later a b rest passed first ih =>
      obtain ⟨before, rest, rfl, passedOver⟩ := ih
      exact ⟨b :: before, rest, rfl, List.forall_mem_cons.mpr ⟨passed, passedOver⟩⟩

end IsFirst

variable {settings : Settings} {blocks : List GeneratorBlock} {block : GeneratorBlock}

theorem isProvided_iff (unnamed : settings.generator = none) (block : GeneratorBlock) :
    isProvided block = true ↔ settings.Selects block := by
  rw [Selects, unnamed, isProvided]
  cases block.provider with
  | none => simp
  | some provider => simp [Text.holds_iff]

theorem name_eq_iff {name : String} (named : settings.generator = some name)
    (block : GeneratorBlock) : decide (block.name = name) = true ↔ settings.Selects block := by
  rw [Selects, named, decide_eq_true_iff]

theorem selectBlock_of_first (first : IsFirst settings.Selects blocks block) :
    settings.selectBlock blocks = .ok (some block) := by
  rw [selectBlock]
  cases chosen : settings.generator with
  | none => exact congrArg Except.ok (first.find?_eq (isProvided_iff chosen))
  | some name => simp only [first.find?_eq (name_eq_iff chosen)]

theorem selectBlock_of_unnamed (unnamed : settings.generator = none)
    (absent : ∀ block ∈ blocks, ¬ settings.Selects block) :
    settings.selectBlock blocks = .ok none := by
  have missed : blocks.find? isProvided = none :=
    List.find?_eq_none.mpr fun block listed =>
      mt (isProvided_iff unnamed block).mp (absent block listed)
  simp only [selectBlock, unnamed, missed]

theorem selectBlock_of_named {name : String} (named : settings.generator = some name)
    (absent : ∀ block ∈ blocks, ¬ settings.Selects block) :
    settings.selectBlock blocks = .error (.blockNotFound name) := by
  have missed : blocks.find? (·.name = name) = none :=
    List.find?_eq_none.mpr fun block listed =>
      mt (name_eq_iff named block).mp (absent block listed)
  simp only [selectBlock, named, missed]

theorem selectBlock_eq_some_iff :
    settings.selectBlock blocks = .ok (some block) ↔ IsFirst settings.Selects blocks block := by
  constructor
  · intro selected
    cases IsFirst.exists_or settings.Selects blocks with
    | inl found =>
        obtain ⟨other, first⟩ := found
        rw [selectBlock_of_first first] at selected
        cases selected
        exact first
    | inr absent =>
        cases chosen : settings.generator with
        | none =>
            rw [selectBlock_of_unnamed chosen absent] at selected
            cases selected
        | some name =>
            rw [selectBlock_of_named chosen absent] at selected
            cases selected
  · exact selectBlock_of_first

variable {schemaPath : String}

theorem applyBlock_of_applicable (first : IsFirst settings.Selects blocks block)
    (applicable : ∀ option ∈ block.options, Applicable option) :
    settings.applyBlock blocks schemaPath =
      ((settings.overlaid block.options).placeOutput schemaPath block, none) := by
  simp only [applyBlock, selectBlock_of_first first, applyOptions_of_applicable settings applicable]

theorem applyBlock_of_not_applicable (first : IsFirst settings.Selects blocks block)
    {before rest : List (String × String)} {option : String × String}
    (split : block.options = before ++ option :: rest)
    (applicable : ∀ earlier ∈ before, Applicable earlier) (refused : ¬ Applicable option) :
    settings.applyBlock blocks schemaPath =
      (settings.overlaid before, some (.option block.name (refusal option))) := by
  simp only [applyBlock, selectBlock_of_first first, split,
    applyOptions_of_not_applicable settings applicable refused rest]

theorem applyBlock_of_unnamed (unnamed : settings.generator = none)
    (absent : ∀ block ∈ blocks, ¬ settings.Selects block) :
    settings.applyBlock blocks schemaPath = (settings, none) := by
  simp only [applyBlock, selectBlock_of_unnamed unnamed absent]

theorem applyBlock_of_named {name : String} (named : settings.generator = some name)
    (absent : ∀ block ∈ blocks, ¬ settings.Selects block) :
    settings.applyBlock blocks schemaPath = (settings, some (.blockNotFound name)) := by
  simp only [applyBlock, selectBlock_of_named named absent]

/-- What an overlay leaves of the settings, with the error that stops it. -/
structure OverlaidBy (settings : Settings) (blocks : List GeneratorBlock) (schemaPath : String)
    (after : Settings) (error : Option OverlayError) : Prop where
  unselected : settings.generator = none → (∀ block ∈ blocks, ¬ settings.Selects block) →
    after = settings ∧ error = none
  missing : ∀ name, settings.generator = some name → (∀ block ∈ blocks, block.name ≠ name) →
    after = settings ∧ error = some (.blockNotFound name)
  applied : error = none → ∀ block, IsFirst settings.Selects blocks block →
    after = { settings.overlaid block.options with
      outputDir := block.output.elim settings.outputDir
        (Path.join ((Path.parent? schemaPath).getD "")) }
  stopped : error ≠ none → ∀ block, IsFirst settings.Selects blocks block →
    ∃ before option rest, block.options = before ++ option :: rest ∧
      (∀ earlier ∈ before, Applicable earlier) ∧ ¬ Applicable option ∧
      after = settings.overlaid before ∧ error = some (.option block.name (refusal option))
  fails_iff : error ≠ none ↔
    (∃ name, settings.generator = some name ∧ ∀ block ∈ blocks, block.name ≠ name) ∨
      ∃ block, IsFirst settings.Selects blocks block ∧
        ∃ option ∈ block.options, ¬ Applicable option
  kept : error ≠ none → after =
    { settings with
      modelsFile := after.modelsFile
      appName := after.appName
      pascalClassNames := after.pascalClassNames
      snakeValueNames := after.snakeValueNames
      createPackageInit := after.createPackageInit }

theorem selects_iff_of_named {name : String} (named : settings.generator = some name) :
    settings.Selects block ↔ block.name = name := by
  rw [Selects, named]

theorem not_missing_of_first (first : IsFirst settings.Selects blocks block) :
    ¬ ∃ name, settings.generator = some name ∧ ∀ block ∈ blocks, block.name ≠ name := by
  intro missing
  obtain ⟨name, named, absent⟩ := missing
  exact absent block first.mem ((selects_iff_of_named named).mp first.held)

namespace OverlaidBy

theorem of_applicable (first : IsFirst settings.Selects blocks block)
    (applicable : ∀ option ∈ block.options, Applicable option) :
    OverlaidBy settings blocks schemaPath
      ((settings.overlaid block.options).placeOutput schemaPath block) none where
  unselected _ absent := absurd first.held (absent block first.mem)
  missing name named absent := absurd ⟨name, named, absent⟩ (not_missing_of_first first)
  applied _ other otherFirst := by
    obtain rfl := first.unique otherFirst
    rw [placeOutput]
    cases block.output with
    | none => rfl
    | some output => rfl
  stopped failed := absurd rfl failed
  kept failed := absurd rfl failed
  fails_iff := by
    constructor
    · intro failed
      exact absurd rfl failed
    · intro failed
      cases failed with
      | inl missing => exact absurd missing (not_missing_of_first first)
      | inr refused =>
          obtain ⟨other, otherFirst, option, listed, refused⟩ := refused
          obtain rfl := first.unique otherFirst
          exact absurd (applicable option listed) refused

theorem of_not_applicable (first : IsFirst settings.Selects blocks block)
    {before rest : List (String × String)} {option : String × String}
    (split : block.options = before ++ option :: rest)
    (applicable : ∀ earlier ∈ before, Applicable earlier) (refused : ¬ Applicable option) :
    OverlaidBy settings blocks schemaPath (settings.overlaid before)
      (some (.option block.name (refusal option))) where
  unselected _ absent := absurd first.held (absent block first.mem)
  missing name named absent := absurd ⟨name, named, absent⟩ (not_missing_of_first first)
  applied succeeded := nomatch succeeded
  stopped _ other otherFirst := by
    obtain rfl := first.unique otherFirst
    exact ⟨before, option, rest, split, applicable, refused, rfl, rfl⟩
  kept _ := rfl
  fails_iff := by
    apply iff_of_true (by simp)
    refine .inr ⟨block, first, option, ?_, refused⟩
    rw [split]
    exact List.mem_append_right _ List.mem_cons_self

theorem of_unnamed (unnamed : settings.generator = none)
    (absent : ∀ block ∈ blocks, ¬ settings.Selects block) :
    OverlaidBy settings blocks schemaPath settings none where
  unselected _ _ := ⟨rfl, rfl⟩
  missing name named := nomatch unnamed.symm.trans named
  applied _ other first := absurd first.held (absent other first.mem)
  stopped failed := absurd rfl failed
  kept failed := absurd rfl failed
  fails_iff := by
    constructor
    · intro failed
      exact absurd rfl failed
    · intro failed
      cases failed with
      | inl missing =>
          obtain ⟨name, named, -⟩ := missing
          cases unnamed.symm.trans named
      | inr refused =>
          obtain ⟨other, first, -⟩ := refused
          exact absurd first.held (absent other first.mem)

theorem of_named {name : String} (named : settings.generator = some name)
    (absent : ∀ block ∈ blocks, ¬ settings.Selects block) :
    OverlaidBy settings blocks schemaPath settings (some (.blockNotFound name)) where
  unselected unnamed := nomatch unnamed.symm.trans named
  missing other otherNamed _ := by
    cases named.symm.trans otherNamed
    exact ⟨rfl, rfl⟩
  applied succeeded := nomatch succeeded
  stopped _ other first := absurd first.held (absent other first.mem)
  kept _ := rfl
  fails_iff := by
    apply iff_of_true (by simp)
    refine .inl ⟨name, named, ?_⟩
    intro block listed same
    exact absent block listed ((selects_iff_of_named named).mpr same)

end OverlaidBy

theorem overlaidBy_applyBlock (settings : Settings) (blocks : List GeneratorBlock)
    (schemaPath : String) :
    OverlaidBy settings blocks schemaPath (settings.applyBlock blocks schemaPath).1
      (settings.applyBlock blocks schemaPath).2 := by
  cases IsFirst.exists_or settings.Selects blocks with
  | inl found =>
      obtain ⟨block, first⟩ := found
      cases IsFirst.exists_or (¬ Applicable ·) block.options with
      | inl found =>
          obtain ⟨option, refused⟩ := found
          obtain ⟨before, rest, split, passed⟩ := refused.split
          have applicable : ∀ earlier ∈ before, Applicable earlier :=
            fun earlier listed => Classical.not_not.mp (passed earlier listed)
          rw [applyBlock_of_not_applicable first split applicable refused.held]
          exact .of_not_applicable first split applicable refused.held
      | inr passed =>
          have applicable : ∀ option ∈ block.options, Applicable option :=
            fun option listed => Classical.not_not.mp (passed option listed)
          rw [applyBlock_of_applicable first applicable]
          exact .of_applicable first applicable
  | inr absent =>
      cases chosen : settings.generator with
      | none =>
          rw [applyBlock_of_unnamed chosen absent]
          exact .of_unnamed chosen absent
      | some name =>
          rw [applyBlock_of_named chosen absent]
          exact .of_named chosen absent

/-- The first block that the settings select overlays them, and what stops an overlay leaves all
but the five fields of its options as they were. -/
theorem first_selected_block_overlays (settings : Settings) (blocks : List GeneratorBlock)
    (schemaPath : String) :
    (∀ block, settings.selectBlock blocks = .ok (some block) ↔
        IsFirst settings.Selects blocks block) ∧
      OverlaidBy settings blocks schemaPath (settings.applyBlock blocks schemaPath).1
        (settings.applyBlock blocks schemaPath).2 := by
  constructor
  · intro block
    exact selectBlock_eq_some_iff
  · exact overlaidBy_applyBlock settings blocks schemaPath

end Modelwright.Settings
