import Modelwright.Proofs.Models.Bindings
import Modelwright.Proofs.Target.Literals

namespace Modelwright

open Modelwright.Target
open Modelwright.Text

/-! Literal defaults of fields whose type is an enumeration: which of them are written as a member
of the enumeration's class. -/

def StartsNumeral (chars : List Char) : Prop :=
  ∃ c rest, chars = c :: rest ∧ (c = '-' ∨ c.isDigit = true)

namespace StartsNumeral

variable {chars : List Char}

theorem append (starts : StartsNumeral chars) (rest : List Char) :
    StartsNumeral (chars ++ rest) := by
  obtain ⟨c, others, rfl, numeral⟩ := starts
  exact ⟨c, others ++ rest, rfl, numeral⟩

theorem take_succ (starts : StartsNumeral chars) (count : Nat) :
    StartsNumeral (chars.take (count + 1)) := by
  obtain ⟨c, others, rfl, numeral⟩ := starts
  exact ⟨c, others.take count, rfl, numeral⟩

theorem signed (starts : StartsNumeral chars) (negative : Bool) :
    StartsNumeral ((if negative then ['-'] else []) ++ chars) := by
  cases negative with
  | false => exact starts
  | true => exact ⟨'-', chars, rfl, .inl rfl⟩

theorem nat (n : Nat) : StartsNumeral (toString n).toList := by
  have digits : (toString n).toList = Nat.toDigits 10 n := String.toList_ofList
  rw [digits]
  cases listed : Nat.toDigits 10 n with
  | nil => exact absurd listed Nat.toDigits_ne_nil
  | cons c rest =>
      refine ⟨c, rest, rfl, .inr ?_⟩
      exact Nat.isDigit_of_mem_toDigits (by decide) (by decide) (listed ▸ List.mem_cons_self)

theorem int (n : Int) : StartsNumeral (toString n).toList := by
  cases n with
  | ofNat n => exact nat n
  | negSucc n => exact ⟨'-', (toString (n + 1)).toList, String.toList_append, .inl rfl⟩

theorem positional (starts : StartsNumeral chars) (top : Int) :
    StartsNumeral (Binary64.positional chars top) := by
  unfold Binary64.positional
  split
  · exact ⟨'0', _, rfl, .inr (by decide)⟩
  · exact ((starts.take_succ _).append _).append _

theorem scientific (starts : StartsNumeral chars) (top : Int) :
    StartsNumeral (Binary64.scientific chars top) :=
  ((starts.take_succ 0).append _).append _

theorem fraction (x : Binary64) : StartsNumeral x.text.toList := by
  unfold Binary64.text
  dsimp only
  split
  · rw [String.toList_ofList]
    exact signed ⟨'0', _, rfl, .inr (by decide)⟩ _
  · rw [String.toList_ofList]
    refine signed ?_ _
    split
    · exact (nat _).positional _
    · exact (nat _).scientific _

theorem number (n : Number) : StartsNumeral n.text.toList := by
  cases n with
  | int n => exact int n
  | float x => exact fraction x

theorem not_identifier {name : String} (starts : StartsNumeral name.toList) :
    isIdentifier name = false := by
  obtain ⟨c, rest, chars, numeral⟩ := starts
  have apart : isAlphabetic c = false ∧ c ≠ '_' := by
    rcases numeral with rfl | digit
    · decide
    · refine ⟨not_isAlphabetic_of_isDigit digit, ?_⟩
      rintro rfl
      cases digit
  simp [isIdentifier, chars, hasIdentifierShape, apart]

end StartsNumeral

/-- Of the literals that are not texts only three are spelled like identifiers. -/
theorem constant_of_isIdentifier {value : Json} (identifier : isIdentifier value.enumText = true)
    (other : ∀ text, value ≠ .string text) : value = .null ∨ ∃ flag, value = .bool flag := by
  have opened {opening body : String} {c : Char} (first : opening.toList = [c])
      (apart : isAlphabetic c = false ∧ c ≠ '_') : isIdentifier (opening ++ body) = false := by
    simp [isIdentifier, String.toList_append, first, hasIdentifierShape, apart]
  cases value with
  | null => exact .inl rfl
  | bool flag => exact .inr ⟨flag, rfl⟩
  | number n =>
      have refused := (StartsNumeral.number n).not_identifier
      rw [Json.enumText, Json.compact, refused] at identifier
      · cases identifier
      · exact other
  | string text => exact absurd rfl (other text)
  | array items =>
      rw [Json.enumText, Json.compact, String.append_assoc,
        opened (c := '[') rfl (by decide)] at identifier
      · cases identifier
      · exact other
  | object entries =>
      rw [Json.enumText, Json.compact, String.append_assoc,
        opened (c := '\x7b') rfl (by decide)] at identifier
      · cases identifier
      · exact other

variable {frame : Frame}

theorem literalDefault_of_not_text {casing : Casing} {name : String} {literal : Json}
    (other : ∀ text, literal ≠ .string text) :
    literalDefault casing (.enumeration name) literal = .data literal := by
  cases literal with
  | string text => exact absurd rfl (other text)
  | _ => rfl

theorem default_mem_arguments_of_literal {field : Field} {literal : Json}
    (default : field.default = some (.literal literal)) {value : Expr} :
    ("default", value) ∈ field.arguments frame ↔
      ("default", value) = literalKeyword frame.casing field.type literal := by
  rw [default_mem_arguments_iff, Field.defaultArguments, default, List.mem_singleton]

def Target.EnumClass.Names (c : EnumClass) (value : Expr) : Prop :=
  ∃ member ∈ c.members, value = .member (.name c.name) member

/-- The expression is all that is passed as the default of the attribute of that name, and the
documentation of the class shows it. -/
structure Target.ModelClass.WritesDefault (c : ModelClass) (name : String) (value : Expr) :
    Prop where
  passed : ∀ d ∈ c.declarations, d.name = name → ∀ other,
    ("default", other) ∈ d.keywords ↔ other = value
  shown : "  - default: " ++ value.render ∈ c.documentation

theorem mem_withDescription {description : Option String} {lines : List String} {line : String}
    (member : line ∈ lines) : line ∈ withDescription description lines := by
  cases description with
  | none => exact member
  | some text => exact List.mem_cons_of_mem _ (List.mem_cons_of_mem _ member)

theorem defaultLine_mem_documentation {entity : Entity} {field : Field} {literal : Json}
    (listed : field ∈ entity.fields) (default : field.default = some (.literal literal)) :
    "  - default: " ++ (literalDefault frame.casing field.type literal).render ∈
      (entity.generatedClass frame).documentation := by
  refine mem_withDescription (List.mem_cons_of_mem _ (List.mem_flatMap.mpr ⟨.field field, ?_, ?_⟩))
  · exact mem_members_iff.mpr (.inl ⟨field, listed, rfl⟩)
  · simp [memberDescription, fieldDescription, defaultLines, default, defaultText]

theorem declaration_eq_of_name {entity : Entity} {field : Field} {d : Declaration}
    (checked : entity.MembersChecked frame) (listed : field ∈ entity.fields)
    (declared : d ∈ (entity.generatedClass frame).declarations)
    (name : d.name = frame.casing.valueName field.name) : d = field.declaration frame := by
  obtain ⟨member, known, -, rfl⟩ := mem_declarations_iff.mp declared
  rw [name_declaration] at name
  have same : member = .field field :=
    List.inj_on_of_nodup_map (attributeNames_nodup checked) known
      (mem_members_iff.mpr (.inl ⟨field, listed, rfl⟩)) name
  rw [same]
  rfl

theorem writesDefault_of_literal {entity : Entity} {field : Field} {name : String} {literal : Json}
    (checked : entity.MembersChecked frame) (listed : field ∈ entity.fields)
    (enumTyped : field.type = .enumeration name)
    (default : field.default = some (.literal literal)) :
    (entity.generatedClass frame).WritesDefault (frame.casing.valueName field.name)
      (literalDefault frame.casing (.enumeration name) literal) := by
  constructor
  · intro d declared named other
    obtain rfl := declaration_eq_of_name checked listed declared named
    refine (default_mem_arguments_of_literal default).trans ?_
    simp [literalKeyword, enumTyped]
  · rw [← enumTyped]
    exact defaultLine_mem_documentation listed default

/-- A literal default of an enumeration is written as a member of the enumeration's class exactly if
it is a text.  The validation takes three other literals for values too, and these are written as
what they are. -/
theorem enumDefault_named_iff_text {schema : Schema} {settings : Settings}
    {extension : Option ExtensionModule} {m : Target.Module} {entity : Entity} {c : ModelClass}
    {field : Field} {name : String} {literal : Json} (valid : schema.validate = .ok ())
    (generated : (modelsModule schema settings extension).outcome = .ok m)
    (emitted : Frame.Emits ⟨schema, settings, extension⟩ m entity c)
    (listed : field ∈ entity.fields) (enumTyped : field.type = .enumeration name)
    (default : field.default = some (.literal literal)) :
    ∃ e enumClass written, Frame.EmitsEnum ⟨schema, settings, extension⟩ m e enumClass ∧
      e.name = name ∧
      c.WritesDefault ((Casing.ofSettings settings).valueName field.name) written ∧
      (Frame.overrides ⟨schema, settings, extension⟩ entity
          ((Casing.ofSettings settings).valueName field.name) = true ∨
        ∃ d ∈ c.declarations, d.name = (Casing.ofSettings settings).valueName field.name) ∧
      (enumClass.Names written ↔ ∃ text, literal = .string text) ∧
      (¬ enumClass.Names written →
        written = .data literal ∧ (literal = .null ∨ ∃ flag, literal = .bool flag)) := by
  replace valid := Schema.validate_eq_ok_iff_wellFormed.mp valid
  obtain ⟨-, values, checked, rfl⟩ := outcome_modelsModule_eq_ok_iff.mp generated
  obtain ⟨known, rfl⟩ := emits_generatedModule_iff.mp emitted
  obtain ⟨e, found, isValue⟩ := ((valid.entities entity known).fields field listed).enumUse name
    (by rw [enumTyped, FieldType.enumName?])
  obtain ⟨declared, rfl⟩ := Schema.mem_of_enum? found
  have isMember := isValue literal default
  refine ⟨e, _, _, emitsEnum_generatedModule_iff.mpr ⟨declared, rfl⟩, rfl,
    writesDefault_of_literal (checked entity known) listed enumTyped default, ?_, ?_⟩
  · have shown := @overridden_or_declared ⟨schema, settings, extension⟩ entity (.field field)
      (mem_members_iff.mpr (.inl ⟨field, listed, rfl⟩))
    rcases shown with ⟨handWritten, extended, declares⟩ | stands
    · exact .inl (Option.any_eq_true _ _ |>.mpr ⟨handWritten, extended, declares⟩)
    · exact .inr ⟨_, stands, rfl⟩
  · by_cases text : ∃ text, literal = .string text
    · obtain ⟨text, rfl⟩ := text
      have named : (e.generatedClass (Casing.ofSettings settings)).Names
          (literalDefault (Casing.ofSettings settings) (.enumeration e.name) (.string text)) :=
        ⟨text, isMember, rfl⟩
      exact ⟨iff_of_true named ⟨text, rfl⟩, fun unnamed => absurd named unnamed⟩
    · have other : ∀ text, literal ≠ .string text := not_exists.mp text
      rw [literalDefault_of_not_text other]
      refine ⟨iff_of_false ?_ text, fun _ => ⟨rfl, ?_⟩⟩
      · rintro ⟨member, _, same⟩
        cases same
      · exact constant_of_isIdentifier (values e declared _ isMember) other

def agreedField : Field :=
  { Field.plain "agreed" (.enumeration "Answer") with default := some (.literal (.string "true")) }

def seenField : Field :=
  { Field.plain "seen" (.enumeration "Answer") with default := some (.literal (.bool true)) }

def survey : Entity :=
  ⟨"Survey", none, none,
    [{ Field.plain "id" (.scalar .int) with primaryKey := true }, agreedField, seenField], []⟩

def surveys : Schema := ⟨[⟨"Answer", ["true", "false"], none⟩], [survey]⟩

theorem enumDefault_named_agreed :
    surveys.validate = .ok () ∧
      ∃ m c, (modelsModule surveys .standard none).outcome = .ok m ∧
        Frame.Emits ⟨surveys, .standard, none⟩ m survey c ∧
        ∃ e enumClass written, Frame.EmitsEnum ⟨surveys, .standard, none⟩ m e enumClass ∧
          e.name = "Answer" ∧
          c.WritesDefault ((Casing.ofSettings .standard).valueName "agreed") written ∧
          enumClass.Names written := by
  have valid : surveys.validate = .ok () := by decide +kernel
  have accepted : (modelsModule surveys .standard none).outcome.isOk = true := by
    decide +kernel
  obtain ⟨m, generated⟩ := Outcome.exists_of_isOk accepted
  have emitted : Frame.Emits ⟨surveys, .standard, none⟩ m survey
      (survey.generatedClass ⟨surveys, .standard, none⟩) := by
    obtain ⟨-, -, -, rfl⟩ := outcome_modelsModule_eq_ok_iff.mp generated
    exact emits_generatedModule_iff.mpr ⟨List.mem_cons_self, rfl⟩
  obtain ⟨e, enumClass, written, emittedEnum, name, writes, -, named, -⟩ :=
    enumDefault_named_iff_text valid generated emitted
      (show agreedField ∈ survey.fields by simp [survey]) rfl rfl
  exact ⟨valid, m, _, generated, emitted, e, enumClass, written, emittedEnum, name, writes,
    named.mpr ⟨"true", rfl⟩⟩

/-- A default that the validation takes for a value is written as `True`, which is no member of any
class. -/
theorem enumDefault_unnamed_seen :
    surveys.validate = .ok () ∧
      ∃ m, (modelsModule surveys .standard none).outcome = .ok m ∧
        ∃ c ∈ m.models, ∃ d ∈ c.declarations,
          d.render = "seen = fields.CharEnumField(enum_type=Answer, default=True)" ∧
            ("default", .data (.bool true)) ∈ d.keywords ∧
            ∀ e ∈ m.enums, ¬ e.Names (.data (.bool true)) := by
  refine ⟨by decide +kernel, ?_⟩
  have accepted : (modelsModule surveys .standard none).outcome.isOk = true := by
    decide +kernel
  obtain ⟨m, generated⟩ := Outcome.exists_of_isOk accepted
  have listed := generatedClass_mem_models generated
    (show survey ∈ surveys.entities from List.mem_cons_self)
  have declared : seenField.declaration ⟨surveys, .standard, none⟩ ∈
      (survey.generatedClass ⟨surveys, .standard, none⟩).declarations :=
    mem_declarations_iff.mpr ⟨.field seenField,
      mem_members_iff.mpr (.inl ⟨seenField, by simp [survey], rfl⟩), rfl, rfl⟩
  refine ⟨m, generated, _, listed, _, declared, by decide +kernel, ?_, ?_⟩
  · exact (default_mem_arguments_of_literal rfl).mpr rfl
  · rintro e _ ⟨member, _, same⟩
    cases same

end Modelwright
