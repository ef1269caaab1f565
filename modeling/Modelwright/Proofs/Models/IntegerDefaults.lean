import Mathlib.Data.List.TakeWhile
import Modelwright.Proofs.Models.EnumDefaults
import Modelwright.Proofs.Number.Numerals
import Modelwright.Proofs.Source.Columns

namespace Modelwright

open Modelwright.Source
open Modelwright.Target

/-! Integers as defaults, from the numeral of the source to the literal of the generated module. -/

def IsWord (n : Int) : Prop :=
  -0x8000000000000000 ≤ n ∧ n < 0x8000000000000000

instance (n : Int) : Decidable (IsWord n) :=
  inferInstanceAs (Decidable (_ ∧ _))

namespace Source

theorem digitsValue_eq (digits : List Char) :
    digitsValue digits = Nat.ofDigitChars 10 digits 0 := by
  simp only [digitsValue, Nat.ofDigitChars_eq_foldl, Nat.mul_comm]

theorem takeWhile_digits {digits : List Char} {k : Nat}
    (denoted : naturalOfDigits? digits = some k) :
    digits.takeWhile Char.isDigit = digits ∧ digits.dropWhile Char.isDigit = [] := by
  have all := List.all_eq_true.mp (naturalOfDigits?_eq_some_iff.mp denoted).2.1
  exact ⟨List.takeWhile_eq_self_iff.mpr all, List.dropWhile_eq_nil_iff.mpr all⟩

theorem numberOfDigits?_of_signed {text : String} {n : Int}
    (denoted : signedInteger? text.toList = some n) :
    numberOfDigits? text =
      if IsWord n then some (.int n)
      else (Binary64.ofDecimal? (decide (n < 0)) n.natAbs 0).map .float := by
  obtain ⟨digits, k, natural, shape⟩ := signedInteger?_eq_some_iff.mp denoted
  obtain ⟨-, digit, value⟩ := naturalOfDigits?_eq_some_iff.mp natural
  obtain ⟨whole, rest⟩ := takeWhile_digits natural
  rw [← digitsValue_eq] at value
  rcases shape with ⟨chars, rfl⟩ | ⟨chars, rfl⟩
  · simp only [numberOfDigits?, chars, List.head?_cons, decide_true, if_true, List.drop_one,
      List.tail_cons, whole, rest, List.tail_nil, List.append_nil, value, List.length_nil, true_and]
    by_cases word : IsWord (-(k : Int))
    · exact (if_pos word).trans (if_pos word).symm
    · have negative : -(k : Int) < 0 := by unfold IsWord at word; omega
      rw [if_neg word, decide_eq_true negative, Int.natAbs_neg, Int.natAbs_natCast]
      exact if_neg word
  · have noSign : digits.head? ≠ some '-' := by
      intro sign
      exact Bool.false_ne_true
        (List.all_eq_true.mp digit '-' (List.mem_of_mem_head? (Option.mem_def.mpr sign)))
    simp only [numberOfDigits?, chars, noSign, decide_false, if_false, List.drop_one, whole,
      rest, List.tail_nil, List.append_nil, value, List.length_nil, true_and]
    by_cases word : IsWord (k : Int)
    · exact (if_pos word).trans (if_pos word).symm
    · have positive : ¬ (k : Int) < 0 := by omega
      rw [if_neg word, decide_eq_false positive, Int.natAbs_natCast]
      exact if_neg word

end Source

/-- The declaration of the field has the expression as its only default. -/
def Field.DeclaresDefault (frame : Frame) (field : Field) (value : Target.Expr) : Prop :=
  ∀ owner used, ∃ d, ((fieldDeclaration frame owner field : Rendered ExportError Declaration)
      used).outcome = .ok (d, used.addAll field.requests) ∧
    ∀ other, ("default", other) ∈ d.keywords ↔ other = value

theorem literalKeyword_number (casing : Casing) (type : FieldType) (n : Number) :
    literalKeyword casing type (.number n) = ("default", .data (.number n)) := by
  cases type with
  | scalar scalar =>
      cases scalar with
      | _ => rfl
  | _ => rfl

theorem declaresDefault_number {field : Field} {n : Number}
    (default : field.default = some (.literal (.number n))) (frame : Frame) :
    field.DeclaresDefault frame (.data (.number n)) := by
  refine fun owner used => ⟨_, (emits_fieldDeclaration frame owner field).outcome_of_ok rfl used,
    fun other => ?_⟩
  refine (default_mem_arguments_of_literal default).trans ?_
  rw [literalKeyword_number, Prod.mk.injEq]
  exact and_iff_right rfl

theorem default_of_number {scope : Source.Scope} {model : ModelBlock} {decl : FieldDecl}
    {field : Field} {mark : Attribute} {text : String} (makes : scope.Makes model decl field)
    (marked : decl.defaultMark? = some mark)
    (argument : mark.main? "value" = some (.number text)) :
    ∃ n, numberOfDigits? text = some n ∧ field.default = some (.literal (.number n)) := by
  obtain ⟨type, -, lowered⟩ := makes
  obtain ⟨value, given, become⟩ := default_scalarField lowered marked
  obtain rfl := Option.some.inj (argument.symm.trans given)
  rw [defaultValue?] at become
  split at become
  next n found => exact ⟨n, found, (Except.ok.inj become).symm⟩
  next => cases become

/-- An integer default is written as a literal of the same integer exactly if it has 64 bits.
Beyond these a fraction is written, and that is a literal of no integer. -/
theorem integerDefault_kept_iff {document : Document} {declared : Declarations}
    (lowered : (lower document).outcome = .ok declared) :
    List.Forall₂ (fun model entity =>
        List.Forall₂ (fun decl field => ∀ mark text n, decl.defaultMark? = some mark →
            mark.main? "value" = some (.number text) → signedInteger? text.toList = some n →
            ∀ frame, ∃ value, field.DeclaresDefault frame value ∧
              (integerLiteral? value.render.toList = some n ↔ IsWord n) ∧
              (¬ IsWord n → integerLiteral? value.render.toList = none ∧
                ∃ x, Binary64.ofDecimal? (decide (n < 0)) n.natAbs 0 = some x ∧
                  value = .data (.number (.float x))))
          (model.fields.filter (document.scope.keeps model)) entity.fields)
      document.scope.models declared.schema.entities := by
  refine (columns_of_lower lowered).imp fun model entity columns => ?_
  refine columns.imp fun decl field makes mark text n marked argument denoted frame => ?_
  obtain ⟨number, found, default⟩ := default_of_number makes marked argument
  refine ⟨_, declaresDefault_number default frame, ?_⟩
  rw [numberOfDigits?_of_signed denoted] at found
  by_cases word : IsWord n
  · rw [if_pos word, Option.some.injEq] at found
    subst found
    exact ⟨iff_of_true (integerLiteral?_toString n) word, fun beyond => absurd word beyond⟩
  · rw [if_neg word, Option.map_eq_some_iff] at found
    obtain ⟨x, nearest, rfl⟩ := found
    have fraction : integerLiteral? x.text.toList = none := integerLiteral?_fraction x
    refine ⟨iff_of_false (fun same => ?_) word, fun _ => ⟨fraction, x, nearest, rfl⟩⟩
    cases fraction.symm.trans same

def meterSource : String :=
  "model Meter \x7b\n  id Int @id\n  low BigInt @default(-9223372036854775808)\n" ++
    "  next BigInt @default(9223372036854775808)\n\x7d\n"

def meterKey : FieldDecl :=
  ⟨⟨"id", ⟨16, 18⟩⟩, ⟨⟨"Int", ⟨19, 22⟩⟩, .required, none⟩, [⟨⟨"id", ⟨24, 26⟩⟩, [], ⟨23, 26⟩⟩],
    none, ⟨16, 26⟩⟩

def lowMark : Attribute :=
  ⟨⟨"default", ⟨41, 48⟩⟩, [⟨none, .number "-9223372036854775808"⟩], ⟨40, 70⟩⟩

def meterLow : FieldDecl :=
  ⟨⟨"low", ⟨29, 32⟩⟩, ⟨⟨"BigInt", ⟨33, 39⟩⟩, .required, none⟩, [lowMark], none, ⟨29, 70⟩⟩

def nextMark : Attribute :=
  ⟨⟨"default", ⟨86, 93⟩⟩, [⟨none, .number "9223372036854775808"⟩], ⟨85, 114⟩⟩

def meterNext : FieldDecl :=
  ⟨⟨"next", ⟨73, 77⟩⟩, ⟨⟨"BigInt", ⟨78, 84⟩⟩, .required, none⟩, [nextMark], none, ⟨73, 114⟩⟩

def meterDocument : Document :=
  ⟨[.model ⟨⟨"Meter", ⟨6, 11⟩⟩, none, [meterKey, meterLow, meterNext], []⟩]⟩

def lowField : Field :=
  { Field.plain "low" (.scalar .bigInt) with
    default := some (.literal (.number (.int (-0x8000000000000000)))) }

def nextField : Field :=
  { Field.plain "next" (.scalar .bigInt) with
    default := some (.literal (.number (.float ⟨false, 1 <<< 52, 11⟩))) }

def meterEntity : Entity :=
  ⟨"Meter", none, none,
    [{ Field.plain "id" (.scalar .int) with primaryKey := true }, lowField, nextField], []⟩

theorem integerDefault_kept_low :
    (lower meterDocument).outcome = .ok ⟨⟨[], [meterEntity]⟩, []⟩ ∧
      meterLow.defaultMark? = some lowMark ∧
      lowMark.main? "value" = some (.number "-9223372036854775808") ∧
      signedInteger? "-9223372036854775808".toList = some (-0x8000000000000000) ∧
      ∀ frame, ∃ value, lowField.DeclaresDefault frame value ∧
        integerLiteral? value.render.toList = some (-0x8000000000000000) := by
  have lowered : (lower meterDocument).outcome = .ok ⟨⟨[], [meterEntity]⟩, []⟩ := by rfl
  have marked : meterLow.defaultMark? = some lowMark := by rfl
  have argument : lowMark.main? "value" = some (.number "-9223372036854775808") := by rfl
  have denoted : signedInteger? "-9223372036854775808".toList = some (-0x8000000000000000) := by
    decide
  obtain ⟨columns, -⟩ := List.forall₂_cons.mp (integerDefault_kept_iff lowered)
  obtain ⟨-, others⟩ := List.forall₂_cons.mp columns
  obtain ⟨low, -⟩ := List.forall₂_cons.mp others
  refine ⟨lowered, marked, argument, denoted, fun frame => ?_⟩
  obtain ⟨value, declares, exactly, -⟩ := low _ _ _ marked argument denoted frame
  exact ⟨value, declares, exactly.mpr (by decide)⟩

theorem integerDefault_lost_next :
    parse meterSource = .ok meterDocument ∧
      (lower meterDocument).outcome = .ok ⟨⟨[], [meterEntity]⟩, []⟩ ∧
      nextMark.main? "value" = some (.number "9223372036854775808") ∧
      (∀ frame, nextField.DeclaresDefault frame
        (.data (.number (.float ⟨false, 1 <<< 52, 11⟩)))) ∧
      (Target.Expr.data (.number (.float ⟨false, 1 <<< 52, 11⟩))).render =
        "9.223372036854776e+18" ∧
      integerLiteral? "9.223372036854776e+18".toList = none := by
  refine ⟨by cbv, by rfl, by rfl, declaresDefault_number rfl, by decide +kernel, by decide⟩

end Modelwright
