import Mathlib.Data.List.Nodup
import Modelwright.Proofs.Models.Keywords
import Modelwright.Proofs.Models.Precedence

namespace Modelwright

open Modelwright.Target

/-- The keywords that the statement's call passes, one for each time it passes it. -/
def Target.Declaration.keywordNames (declaration : Declaration) : List String :=
  declaration.keywords.map Prod.fst

/-- An integer key that the database makes: being no autoincrement it is said not to be generated,
and by its default it is. -/
def Field.GeneratedBothWays (field : Field) : Prop :=
  field.primaryKey = true ∧ field.type.isInteger = true ∧
    field.default = some (.generator .dbGenerated)

theorem sublist_erase_of_not_mem [DecidableEq α] {xs ys : List α} {a : α} (within : xs.Sublist ys)
    (absent : a ∉ xs) : xs.Sublist (ys.erase a) := by
  rw [← List.erase_of_not_mem absent]
  exact within.erase a

theorem textKeyword_names (key : String) (text : Option String) :
    ((textKeyword key text).map Prod.fst).Sublist [key] := by
  cases text with
  | none => exact List.nil_sublist _
  | some content => exact .refl _

theorem flagKeyword_names (key : String) (flag : Bool) :
    ((flagKeyword key flag).map Prod.fst).Sublist [key] := by
  cases flag with
  | false => exact List.nil_sublist _
  | true => exact .refl _

def typeKeys : List String := ["max_length", "max_digits", "decimal_places", "enum_type"]

theorem typeKeywords_names (casing : Casing) (sizes : FieldSizes) (type : FieldType) :
    ((type.keywords casing sizes).map Prod.fst).Sublist typeKeys := by
  have length : ["max_length"].Sublist typeKeys := by decide
  have digits : ["max_digits", "decimal_places"].Sublist typeKeys := by decide
  cases type with
  | scalar scalar =>
      cases scalar with
      | string => exact length
      | decimal => exact digits
      | _ => exact List.nil_sublist _
  | varchar size => exact length
  | fixed precision scale => exact digits
  | enumeration name => exact (by decide : ["enum_type"].Sublist typeKeys)

theorem keyKeywords_names (field : Field) :
    ((keyKeywords field).map Prod.fst).Sublist ["pk", "generated"] := by
  unfold keyKeywords
  split
  · split
    · exact .refl _
    · exact (by decide : ["pk"].Sublist ["pk", "generated"])
  · exact List.nil_sublist _

theorem generated_mem_keyKeywords_iff {field : Field} :
    "generated" ∈ (keyKeywords field).map Prod.fst ↔
      field.primaryKey = true ∧ field.type.isInteger = true ∧ field.isAutoincrement = false := by
  unfold keyKeywords
  cases field.primaryKey with
  | false => simp
  | true =>
      cases field.type.isInteger with
      | false => simp
      | true => cases field.isAutoincrement <;> simp

def defaultKeys : List String := ["generated", "auto_now_add", "default"]

theorem generatorKeywords_names {field : Field} {generator : Generator} {keywords : List Keyword}
    (found : generatorKeywords? field generator = some keywords) :
    (keywords.map Prod.fst).Sublist defaultKeys ∧
      ("generated" ∈ keywords.map Prod.fst ↔ generator = .dbGenerated ∨
        generator = .autoincrement ∧ field.primaryKey = false) ∧
      ("auto_now_add" ∈ keywords.map Prod.fst → field.updatedAt = false) := by
  cases generator with
  | autoincrement =>
      obtain rfl := Option.some.inj found
      cases field.primaryKey with
      | true => simp
      | false => simp [defaultKeys]
  | now =>
      obtain ⟨-, same⟩ := Option.ite_none_right_eq_some.mp found
      obtain rfl := Option.some.inj same
      cases field.updatedAt with
      | true => simp
      | false => simp [defaultKeys]
  | uuid =>
      obtain ⟨-, same⟩ := Option.ite_none_right_eq_some.mp found
      obtain rfl := Option.some.inj same
      simp [defaultKeys]
  | cuid => cases found
  | dbGenerated =>
      obtain rfl := Option.some.inj found
      simp [defaultKeys]

/-- The database makes a value by its own default, or by counting where the field is no key. -/
theorem defaultArguments_names (casing : Casing) (field : Field) :
    ((field.defaultArguments casing).map Prod.fst).Sublist defaultKeys ∧
      ("generated" ∈ (field.defaultArguments casing).map Prod.fst ↔
        field.default = some (.generator .dbGenerated) ∨
          field.isAutoincrement = true ∧ field.primaryKey = false) ∧
      ("auto_now_add" ∈ (field.defaultArguments casing).map Prod.fst →
        field.updatedAt = false) := by
  rw [Field.isAutoincrement_iff, Field.defaultArguments]
  cases field.default with
  | none => simp
  | some default =>
      cases default with
      | literal value => simp [literalKeyword, defaultKeys]
      | generator generator =>
          cases found : generatorKeywords? field generator with
          | none =>
              cases generator with
              | autoincrement => cases found
              | dbGenerated => cases found
              | _ => simp [found]
          | some keywords => simpa [found] using generatorKeywords_names found

section Fields

variable {frame : Frame} {field : Field}

theorem arguments_names {keys defaults saves : List String}
    (key : ((keyKeywords field).map Prod.fst).Sublist keys)
    (default : ((field.defaultArguments frame.casing).map Prod.fst).Sublist defaults)
    (saved : (field.updatedAtArguments.map Prod.fst).Sublist saves) :
    ((field.arguments frame).map Prod.fst).Sublist
      (["source_field"] ++ keys ++ typeKeys ++ defaults ++ saves ++ ["unique"] ++ ["null"] ++
        ["description"]) := by
  simp only [Field.arguments, List.map_append]
  have type := typeKeywords_names frame.casing frame.settings.fieldSizes field.type
  exact (((((((textKeyword_names _ _).append key).append type).append default).append
    saved).append (flagKeyword_names _ _)).append (flagKeyword_names _ _)).append
      (textKeyword_names _ _)

theorem updatedAtArguments_names (field : Field) :
    (field.updatedAtArguments.map Prod.fst).Sublist ["auto_now"] :=
  flagKeyword_names _ _

theorem generatedBothWays_iff (casing : Casing) : field.GeneratedBothWays ↔
    "generated" ∈ (keyKeywords field).map Prod.fst ∧
      "generated" ∈ (field.defaultArguments casing).map Prod.fst := by
  rw [generated_mem_keyKeywords_iff, (defaultArguments_names casing field).2.1,
    Field.GeneratedBothWays]
  constructor
  · rintro ⟨key, integer, default⟩
    have counted : field.isAutoincrement = false := by
      simp [Field.isAutoincrement, default, DefaultValue.isAutoincrement, DefaultValue.generator?]
    exact ⟨⟨key, integer, counted⟩, .inl default⟩
  · rintro ⟨⟨key, integer, counted⟩, default | ⟨counts, -⟩⟩
    · exact ⟨key, integer, default⟩
    · rw [counted] at counts
      cases counts

theorem arguments_nodup_iff :
    ((field.arguments frame).map Prod.fst).Nodup ↔ ¬ field.GeneratedBothWays := by
  rw [generatedBothWays_iff frame.casing]
  constructor
  · rintro nodup ⟨key, default⟩
    simp only [Field.arguments, List.map_append] at nodup
    have front := nodup.of_append_left.of_append_left.of_append_left.of_append_left
    have apart := (List.nodup_append.mp front).2.2
    exact apart "generated" (by simp [key]) "generated" default rfl
  · intro once
    have saved := updatedAtArguments_names field
    have default := (defaultArguments_names frame.casing field).1
    by_cases key : "generated" ∈ (keyKeywords field).map Prod.fst
    · -- The default does not say again what is said of the key.
      have left : "generated" ∉ (field.defaultArguments frame.casing).map Prod.fst :=
        fun again => once ⟨key, again⟩
      have bounded := arguments_names (keyKeywords_names field)
        (sublist_erase_of_not_mem default left) saved
      exact bounded.nodup (by decide)
    · have bounded := arguments_names (sublist_erase_of_not_mem (keyKeywords_names field) key)
        default saved
      exact bounded.nodup (by decide)

theorem not_stamped_twice :
    ¬ ("auto_now" ∈ (field.arguments frame).map Prod.fst ∧
      "auto_now_add" ∈ (field.arguments frame).map Prod.fst) := by
  rintro ⟨saves, adds⟩
  have key := keyKeywords_names field
  obtain ⟨default, -, unsaved⟩ := defaultArguments_names frame.casing field
  cases saved : field.updatedAt with
  | false =>
      have none : (field.updatedAtArguments.map Prod.fst).Sublist [] := by
        simp [Field.updatedAtArguments, saved, flagKeyword]
      exact absurd ((arguments_names key default none).subset saves) (by decide)
  | true =>
      have left : "auto_now_add" ∉ (field.defaultArguments frame.casing).map Prod.fst :=
        fun added => by simpa [saved] using unsaved added
      have bounded := arguments_names key (sublist_erase_of_not_mem default left)
        (updatedAtArguments_names field)
      exact absurd (bounded.subset adds) (by decide)

end Fields

def relationKeys : List String :=
  ["source_field", "model_name", "to_field", "related_name", "on_delete", "null", "description"]

theorem relationKeywords_names (frame : Frame) (entity : String) (relation : Relation) :
    ((relationKeywords frame entity relation).map Prod.fst).Sublist relationKeys := by
  have policy : (((relation.onDelete.filter (· ≠ .noAction)).map fun policy =>
      ("on_delete", deletePolicyExpr policy)).toList.map Prod.fst).Sublist ["on_delete"] := by
    cases relation.onDelete.filter (· ≠ .noAction) with
    | none => exact List.nil_sublist _
    | some policy => exact .refl _
  have front : ["source_field", "model_name"].Sublist ["source_field", "model_name"] := .refl _
  have reverse : ["related_name"].Sublist ["related_name"] := .refl _
  simp only [relationKeywords, List.map_append]
  exact ((((front.append (textKeyword_names _ _)).append reverse).append policy).append
    (flagKeyword_names _ _)).append (textKeyword_names _ _)

/-- A call of a field passes no keyword twice, unless the field is an integer key that the database
makes; a call of a relation never does.  No call asks for both kinds of time stamp. -/
theorem keywords_once_iff_not_generatedBothWays (frame : Frame) (entity : String) :
    (∀ field : Field, ∃ declaration,
      (∀ used, ((fieldDeclaration frame entity field : Rendered ExportError Declaration)
        used).outcome = .ok (declaration, used.addAll field.requests)) ∧
      (declaration.keywordNames.Nodup ↔ ¬ field.GeneratedBothWays) ∧
      ¬ ("auto_now" ∈ declaration.keywordNames ∧ "auto_now_add" ∈ declaration.keywordNames)) ∧
    ∀ relation : Relation,
      (relationDeclaration frame entity relation).keywordNames.Nodup ∧
      ¬ ("auto_now" ∈ (relationDeclaration frame entity relation).keywordNames ∧
        "auto_now_add" ∈ (relationDeclaration frame entity relation).keywordNames) := by
  constructor
  · intro field
    exact ⟨_, (emits_fieldDeclaration frame entity field).outcome_of_ok rfl, arguments_nodup_iff,
      not_stamped_twice⟩
  · intro relation
    have bounded := relationKeywords_names frame entity relation
    refine ⟨bounded.nodup (by decide), fun both => ?_⟩
    exact absurd (bounded.subset both.1) (by decide)

def voucher : Entity :=
  ⟨"Voucher", none, none,
    [{ Field.plain "id" (.scalar .int) with
      primaryKey := true, default := some (.generator .dbGenerated) }], []⟩

theorem generated_passed_twice :
    Schema.validate ⟨[], [voucher]⟩ = .ok () ∧
      ∃ m, (modelsModule ⟨[], [voucher]⟩ Settings.standard none).outcome = .ok m ∧
        ∃ c ∈ m.models, ∃ declaration ∈ c.declarations,
          declaration.render = "id = fields.IntField(pk=True, generated=False, generated=True)" ∧
            ¬ declaration.keywordNames.Nodup := by
  refine ⟨by decide +kernel, ?_⟩
  have accepted : (modelsModule ⟨[], [voucher]⟩ Settings.standard none).outcome.isOk = true := by
    decide +kernel
  obtain ⟨m, generated⟩ := Outcome.exists_of_isOk accepted
  have listed := generatedClass_mem_models generated List.mem_cons_self
  exact ⟨m, generated, _, listed, _, List.mem_cons_self, by decide +kernel, by decide +kernel⟩

end Modelwright
