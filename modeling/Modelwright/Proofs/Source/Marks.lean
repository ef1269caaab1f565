import Mathlib.Data.List.Induction
import Modelwright.Proofs.Outcome
import Modelwright.Source.Lowering

namespace Modelwright.Source

/-! Attributes of columns: what each of them makes of a field, and what all of them together do. -/

inductive Marks (owner : String) (field : Field) (mark : Attribute) : Field → Prop
  | key (name : mark.name.text = "id") : Marks owner field mark { field with primaryKey := true }
  | unique (name : mark.name.text = "unique") :
      Marks owner field mark { field with unique := true }
  | updatedAt (name : mark.name.text = "updatedAt") :
      Marks owner field mark { field with updatedAt := true }
  | column {column : String} (name : mark.name.text = "map")
      (argument : nameArgument owner mark = .ok column) :
      Marks owner field mark { field with column := some column }
  | default {value : Expr} {default : Option DefaultValue} (name : mark.name.text = "default")
      (argument : mark.main? "value" = some value)
      (lowered : (defaultValue? owner value).outcome = .ok default) :
      Marks owner field mark { field with default := default }
  | native {type : FieldType} (noKey : mark.name.text ≠ "id")
      (noDefault : mark.name.text ≠ "default")
      (refined : nativeType? field.type mark = some (some type)) :
      Marks owner field mark { field with type := type }
  | ignored (noKey : mark.name.text ≠ "id") (noDefault : mark.name.text ≠ "default")
      (plain : nativeType? field.type mark = none) :
      Marks owner field mark field

theorem marks_of_applyMark {owner : String} {field after : Field} {mark : Attribute}
    (applied : (applyMark owner field mark).outcome = .ok after) :
    Marks owner field mark after := by
  unfold applyMark at applied
  dsimp only at applied
  -- One split for each name that an attribute can have, in the order of the tests.
  split at applied
  next name =>
    obtain rfl := Except.ok.inj applied
    exact .key name
  next noKey =>
  split at applied
  next name =>
    obtain rfl := Except.ok.inj applied
    exact .unique name
  next =>
  split at applied
  next name =>
    obtain rfl := Except.ok.inj applied
    exact .updatedAt name
  next =>
  split at applied
  next name =>
    simp only [Logged.outcome_bind, Logged.outcome_ofExcept, Outcome.bind_eq_ok_iff,
      Logged.outcome_pure, Except.ok.injEq] at applied
    obtain ⟨column, argument, rfl⟩ := applied
    exact .column name argument
  next =>
  split at applied
  next name =>
    split at applied
    next => cases applied
    next value argument =>
      simp only [Logged.outcome_bind, Outcome.bind_eq_ok_iff, Logged.outcome_pure,
        Except.ok.injEq] at applied
      obtain ⟨default, lowered, rfl⟩ := applied
      exact .default name argument lowered
  next noDefault =>
  split at applied
  next type refined =>
    obtain rfl := Except.ok.inj applied
    exact .native noKey noDefault refined
  next => cases applied
  next plain =>
    split at applied
    next =>
      obtain rfl := Except.ok.inj applied
      exact .ignored noKey noDefault plain
    next =>
      obtain rfl : field = after := by simpa using applied
      exact .ignored noKey noDefault plain

theorem nativeType?_cases {type refined : FieldType} {mark : Attribute}
    (found : nativeType? type mark = some (some refined)) :
    (type = .scalar .string ∧ ∃ length, refined = .varchar length) ∨
      (type = .scalar .decimal ∧ ∃ precision scale, refined = .fixed precision scale) := by
  unfold nativeType? at found
  dsimp only at found
  split at found
  next text =>
    obtain ⟨length, -, rfl⟩ := Option.map_eq_some_iff.mp (Option.some.inj found)
    exact .inl ⟨text.2, length, rfl⟩
  next =>
    split at found
    next decimal =>
      simp only [Option.some.injEq, Option.bind_eq_bind, Option.bind_eq_some_iff,
        Option.pure_def] at found
      obtain ⟨precision, -, scale, -, rfl⟩ := found
      exact .inr ⟨decimal.2, precision, scale, rfl⟩
    next => cases found

namespace Marks

variable {owner : String} {field after : Field} {mark : Attribute}

theorem name_eq (marks : Marks owner field mark after) : after.name = field.name := by
  cases marks with
  | _ => rfl

theorem primaryKey_eq (marks : Marks owner field mark after) :
    after.primaryKey = (field.primaryKey || decide (mark.name.text = "id")) := by
  cases marks with
  | key name => simp [name]
  | unique name => simp [name]
  | updatedAt name => simp [name]
  | column name argument => simp [name]
  | default name argument lowered => simp [name]
  | native noKey noDefault refined => simp [noKey]
  | ignored noKey noDefault plain => simp [noKey]

theorem enumName?_eq (marks : Marks owner field mark after) :
    after.type.enumName? = field.type.enumName? := by
  cases marks with
  | native noKey noDefault refined =>
      rcases nativeType?_cases refined with ⟨text, length, rfl⟩ | ⟨decimal, precision, scale, rfl⟩
      · rw [text]
        rfl
      · rw [decimal]
        rfl
  | _ => rfl

theorem default_eq (marks : Marks owner field mark after) (other : mark.name.text ≠ "default") :
    after.default = field.default := by
  cases marks with
  | default name argument lowered => exact absurd name other
  | _ => rfl

theorem default_of_name (marks : Marks owner field mark after)
    (name : mark.name.text = "default") :
    ∃ value, mark.main? "value" = some value ∧
      (defaultValue? owner value).outcome = .ok after.default := by
  cases marks with
  | default _ argument lowered => exact ⟨_, argument, lowered⟩
  | key other => simp [name] at other
  | unique other => simp [name] at other
  | updatedAt other => simp [name] at other
  | column other argument => simp [name] at other
  | native noKey noDefault refined => exact absurd name noDefault
  | ignored noKey noDefault plain => exact absurd name noDefault

end Marks

/-- The attribute that gives the default: the last one of its name. -/
def FieldDecl.defaultMark? (decl : FieldDecl) : Option Attribute :=
  decl.attributes.reverse.find? (·.name.text = "default")

def FieldDecl.isMarkedKey (decl : FieldDecl) : Bool :=
  decl.attributes.any (·.name.text = "id")

theorem default_of_foldlM {owner : String} {marks : List Attribute} {start last : Field}
    {mark : Attribute}
    (run : marks.foldlM (fun field mark => (applyMark owner field mark).outcome) start = .ok last)
    (found : marks.reverse.find? (·.name.text = "default") = some mark) :
    ∃ value, mark.main? "value" = some value ∧
      (defaultValue? owner value).outcome = .ok last.default := by
  -- From the last attribute on, none but the one that is found changes the default.
  induction marks using List.reverseRecOn generalizing last with
  | nil => cases found
  | append_singleton before final ih =>
      rw [List.foldlM_append, Outcome.bind_eq_ok_iff] at run
      obtain ⟨middle, beforeRun, finalRun⟩ := run
      rw [List.foldlM_cons, Outcome.bind_eq_ok_iff] at finalRun
      obtain ⟨field, applied, same⟩ := finalRun
      obtain rfl := Outcome.pure_eq_ok_iff.mp same
      have marked := marks_of_applyMark applied
      rw [List.reverse_append, List.reverse_singleton, List.singleton_append,
        List.find?_cons] at found
      split at found
      next name =>
        obtain rfl := Option.some.inj found
        exact marked.default_of_name (of_decide_eq_true name)
      next other =>
        rw [marked.default_eq (of_decide_eq_false other)]
        exact ih beforeRun found

theorem foldl_or (p : α → Bool) (xs : List α) (found : Bool) :
    xs.foldl (fun found x => found || p x) found = (found || xs.any p) := by
  induction xs generalizing found with
  | nil => simp
  | cons x xs ih => rw [List.foldl_cons, ih, List.any_cons, Bool.or_assoc]

section Columns

variable {model : ModelBlock} {decl : FieldDecl} {type : FieldType} {field : Field}

theorem name_scalarField (lowered : (scalarField model decl type).outcome = .ok field) :
    field.name = decl.name.text := by
  rw [scalarField, Logged.outcome_foldlM] at lowered
  exact Outcome.foldlM_preserves Field.name
    (fun _ _ _ applied => (marks_of_applyMark applied).name_eq) lowered

theorem enumName?_scalarField (lowered : (scalarField model decl type).outcome = .ok field) :
    field.type.enumName? = type.enumName? := by
  rw [scalarField, Logged.outcome_foldlM] at lowered
  exact Outcome.foldlM_preserves (fun field => field.type.enumName?)
    (fun _ _ _ applied => (marks_of_applyMark applied).enumName?_eq) lowered

theorem primaryKey_scalarField (lowered : (scalarField model decl type).outcome = .ok field) :
    field.primaryKey = decl.isMarkedKey := by
  rw [scalarField, Logged.outcome_foldlM] at lowered
  have folded : field.primaryKey =
      decl.attributes.foldl (fun marked mark => marked || decide (mark.name.text = "id")) false :=
    Outcome.foldlM_observes Field.primaryKey
      (fun _ _ _ applied => (marks_of_applyMark applied).primaryKey_eq) lowered
  rw [folded, foldl_or, Bool.false_or, FieldDecl.isMarkedKey]

theorem default_scalarField {mark : Attribute}
    (lowered : (scalarField model decl type).outcome = .ok field)
    (found : decl.defaultMark? = some mark) :
    ∃ value, mark.main? "value" = some value ∧
      (defaultValue? (model.name.text ++ "." ++ decl.name.text) value).outcome =
        .ok field.default := by
  rw [scalarField, Logged.outcome_foldlM] at lowered
  exact default_of_foldlM lowered found

end Columns

end Modelwright.Source
