import Modelwright.Proofs.Models.Generated

namespace Modelwright

open Modelwright.Target

namespace Target.Declaration

def keywords : Declaration → List Keyword
  | assigned _ (.call _ _ keywords) => keywords
  | annotatedAssigned _ _ (.call _ _ keywords) => keywords
  | _ => []

end Target.Declaration

theorem mem_textKeyword {name key : String} {text : Option String} {value : Expr} :
    (key, value) ∈ textKeyword name text ↔
      key = name ∧ ∃ content, text = some content ∧ value = .text content := by
  cases text with
  | none => simp [textKeyword]
  | some content => simp [textKeyword]

theorem mem_flagKeyword {name key : String} {flag : Bool} {value : Expr} :
    (key, value) ∈ flagKeyword name flag ↔
      key = name ∧ flag = true ∧ value = .bool true := by
  cases flag with
  | false => simp [flagKeyword]
  | true => simp [flagKeyword]

theorem mem_keyKeywords {field : Field} {keyword : Keyword} (member : keyword ∈ keyKeywords field) :
    keyword = ("pk", .bool true) ∨ keyword = ("generated", .bool false) := by
  unfold keyKeywords at member
  split at member
  · split at member
    · simpa using member
    · exact .inl (List.mem_singleton.mp member)
  · exact absurd member List.not_mem_nil

/-- A value that the database or the program generates is asked for in one of three ways. -/
theorem mem_generatorKeywords? {field : Field} {generator : Generator} {keywords : List Keyword}
    (found : generatorKeywords? field generator = some keywords) {keyword : Keyword}
    (member : keyword ∈ keywords) :
    keyword = ("generated", .bool true) ∨ keyword = ("auto_now_add", .bool true) ∨
      keyword = ("default", randomText) := by
  cases generator with
  | autoincrement =>
      obtain rfl := Option.some.inj found
      split at member
      · exact absurd member List.not_mem_nil
      · exact .inl (List.mem_singleton.mp member)
  | now =>
      simp only [generatorKeywords?, Option.ite_none_right_eq_some, Option.some.injEq] at found
      obtain ⟨-, rfl⟩ := found
      split at member
      · exact absurd member List.not_mem_nil
      · exact .inr (.inl (List.mem_singleton.mp member))
  | uuid =>
      simp only [generatorKeywords?, Option.ite_none_right_eq_some, Option.some.injEq] at found
      obtain ⟨-, rfl⟩ := found
      exact .inr (.inr (List.mem_singleton.mp member))
  | cuid => cases found
  | dbGenerated =>
      obtain rfl := Option.some.inj found
      exact .inl (List.mem_singleton.mp member)

theorem mem_defaultArguments {casing : Casing} {field : Field} {keyword : Keyword}
    (member : keyword ∈ field.defaultArguments casing) :
    (∃ value, field.default = some (.literal value) ∧
        keyword = literalKeyword casing field.type value) ∨
      keyword = ("generated", .bool true) ∨ keyword = ("auto_now_add", .bool true) ∨
        keyword = ("default", randomText) := by
  unfold Field.defaultArguments at member
  cases default : field.default with
  | none => simp [default] at member
  | some source =>
      cases source with
      | literal value =>
          rw [default] at member
          exact .inl ⟨value, rfl, List.mem_singleton.mp member⟩
      | generator generator =>
          right
          cases found : generatorKeywords? field generator with
          | none => simp [default, found] at member
          | some keywords =>
              simp only [default, found, Option.getD_some] at member
              exact mem_generatorKeywords? found member

/-- Keywords that do not depend on the type of the field. -/
def commonKeys : List String :=
  ["source_field", "pk", "generated", "auto_now_add", "default", "auto_now", "unique", "null",
    "description"]

theorem mem_arguments {frame : Frame} {field : Field} {key : String} {value : Expr}
    (member : (key, value) ∈ field.arguments frame) :
    key ∈ commonKeys ∨
      (key, value) ∈ field.type.keywords frame.casing frame.settings.fieldSizes := by
  simp only [Field.arguments, Field.updatedAtArguments, List.mem_append, mem_textKeyword,
    mem_flagKeyword] at member
  rcases member with ((((((⟨rfl, -⟩ | member) | member) | member) | ⟨rfl, -⟩) | ⟨rfl, -⟩) |
    ⟨rfl, -⟩) | ⟨rfl, -⟩
  · exact .inl (by simp [commonKeys])
  · rcases mem_keyKeywords member with same | same
    · cases same
      exact .inl (by simp [commonKeys])
    · cases same
      exact .inl (by simp [commonKeys])
  · exact .inr member
  · rcases mem_defaultArguments member with ⟨literal, -, same⟩ | same | same | same
    all_goals
      cases same
      exact .inl (by simp [commonKeys])
  all_goals exact .inl (by simp [commonKeys])

theorem mem_typeKeywords {casing : Casing} {sizes : FieldSizes} {type : FieldType}
    {key : String} {value : Expr} (member : (key, value) ∈ type.keywords casing sizes) :
    (key ∈ ["max_length", "max_digits", "decimal_places"] ∧ ∃ size : Nat, value = .int size) ∨
      ∃ name, type = .enumeration name ∧ key = "enum_type" ∧
        value = .name (casing.className name) := by
  have length {size : Nat} (found : (key, value) ∈ [sizeKeyword "max_length" size]) :
      key ∈ ["max_length", "max_digits", "decimal_places"] ∧ ∃ size : Nat, value = .int size := by
    cases List.mem_singleton.mp found
    exact ⟨by simp, size, rfl⟩
  have digits {precision scale : Nat} (found : (key, value) ∈
      [sizeKeyword "max_digits" precision, sizeKeyword "decimal_places" scale]) :
      key ∈ ["max_length", "max_digits", "decimal_places"] ∧ ∃ size : Nat, value = .int size := by
    rcases List.mem_cons.mp found with same | found
    · cases same
      exact ⟨by simp, precision, rfl⟩
    · cases List.mem_singleton.mp found
      exact ⟨by simp, scale, rfl⟩
  cases type with
  | scalar scalar =>
      left
      cases scalar with
      | string => exact length member
      | decimal => exact digits member
      | _ => exact absurd member List.not_mem_nil
  | varchar size => exact .inl (length member)
  | fixed precision scale => exact .inl (digits member)
  | enumeration name =>
      cases List.mem_singleton.mp member
      exact .inr ⟨name, rfl, rfl, rfl⟩

theorem default_mem_arguments_iff {frame : Frame} {field : Field} {value : Expr} :
    ("default", value) ∈ field.arguments frame ↔
      ("default", value) ∈ field.defaultArguments frame.casing := by
  simp only [Field.arguments, Field.updatedAtArguments, List.mem_append, mem_textKeyword,
    mem_flagKeyword]
  constructor
  · rintro (((((((⟨key, -⟩ | member) | member) | member) | ⟨key, -⟩) | ⟨key, -⟩) | ⟨key, -⟩) |
      ⟨key, -⟩)
    · simp at key
    · rcases mem_keyKeywords member with same | same
      · simp at same
      · simp at same
    · rcases mem_typeKeywords member with ⟨size, -⟩ | ⟨name, -, key, -⟩
      · simp at size
      · simp at key
    · exact member
    all_goals simp at key
  · intro member
    simp [member]

theorem mem_relationKeywords {frame : Frame} {entity : String} {relation : Relation}
    {key : String} {value : Expr}
    (member : (key, value) ∈ relationKeywords frame entity relation) :
    key ∈ ["source_field", "on_delete", "null", "description"] ∨
      (key = "model_name" ∧ value = .text (Naming.modelReference frame.settings.appName
        (frame.casing.className relation.target))) ∨
      (key = "to_field" ∧ ∃ name, referredField frame.schema relation = some name ∧
        value = .text (frame.casing.valueName name)) ∨
      (key = "related_name" ∧
        value = .text (frame.casing.valueName (relation.reverseName entity))) := by
  simp only [relationKeywords, List.mem_append, mem_textKeyword, mem_flagKeyword,
    List.mem_cons, Prod.mk.injEq, List.not_mem_nil, or_false, Option.mem_toList,
    Option.map_eq_some_iff, exists_exists_and_eq_and] at member
  rcases member with (((((⟨rfl, -⟩ | ⟨rfl, rfl⟩) | ⟨rfl, name, found, rfl⟩) | ⟨rfl, rfl⟩) |
    ⟨policy, -, rfl, -⟩) | ⟨rfl, -⟩) | ⟨rfl, -⟩
  · exact .inl (by simp)
  · exact .inr (.inl ⟨rfl, rfl⟩)
  · exact .inr (.inr (.inl ⟨rfl, name, found, rfl⟩))
  · exact .inr (.inr (.inr ⟨rfl, rfl⟩))
  all_goals exact .inl (by simp)

end Modelwright
