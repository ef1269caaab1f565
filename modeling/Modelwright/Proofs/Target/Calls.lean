import Modelwright.Proofs.Target.Hollow
import Modelwright.Proofs.Target.Numerals

namespace Modelwright.Target

open Skeleton

/-! Calls in the text of an expression. -/

namespace Expr

/-- The text of the expression without the contents of its literals. -/
def code (e : Expr) : List Char :=
  (run .code e.render.toList).2

def CallsUuid (e : Expr) : Prop :=
  "uuid.uuid4(".toList <:+: e.code

end Expr

/-- Plain text without an opening parenthesis. -/
def CallFree (text : String) : Prop :=
  Plain text ∧ '(' ∉ text.toList

instance (text : String) : Decidable (CallFree text) :=
  inferInstanceAs (Decidable (_ ∧ _))

/-- No parenthesis opens outside of a literal. -/
def Uncalled (text : String) : Prop :=
  ∃ kept, Scans text.toList kept ∧ '(' ∉ kept

namespace CallFree

variable {a b : String}

theorem append (first : CallFree a) (second : CallFree b) : CallFree (a ++ b) := by
  refine ⟨first.1.append second.1, ?_⟩
  rw [String.toList_append, List.mem_append, not_or]
  exact ⟨first.2, second.2⟩

theorem of_isIdentifier (identifier : isIdentifier a = true) : CallFree a := by
  refine ⟨plain_of_isIdentifier identifier, ?_⟩
  intro opening
  have shape := (Bool.and_eq_true_iff.mp identifier).1
  cases chars : a.toList with
  | nil =>
      rw [chars] at opening
      cases opening
  | cons first rest =>
      rw [chars] at shape opening
      obtain ⟨head, tail⟩ := Bool.and_eq_true_iff.mp shape
      cases opening with
      | head => exact absurd head (by decide)
      | tail _ later => exact absurd (List.all_eq_true.mp tail _ later) (by decide)

end CallFree

theorem not_mem_of_allDigits {chars : List Char} (digits : Literal.AllDigits chars) :
    '(' ∉ chars := by
  intro opening
  exact absurd (digits _ opening) (by decide)

theorem not_mem_of_isFraction {chars : List Char} (fraction : Literal.IsFraction chars) :
    '(' ∉ chars := by
  cases fraction with
  | none => exact List.not_mem_nil
  | point all => exact List.not_mem_cons_of_ne_of_not_mem (by decide) (not_mem_of_allDigits all)

theorem not_mem_of_isExponent {chars : List Char} (exponent : Literal.IsExponent chars) :
    '(' ∉ chars := by
  cases exponent with
  | none => exact List.not_mem_nil
  | power signed nonempty all =>
      apply List.not_mem_cons_of_ne_of_not_mem (by decide)
      refine List.not_mem_cons_of_ne_of_not_mem ?_ (not_mem_of_allDigits all)
      cases signed with
      | inl minus => simp [minus]
      | inr plus => simp [plus]

theorem callFree_number (n : Number) : CallFree n.text := by
  refine ⟨plain_number n, ?_⟩
  obtain ⟨numeral, text⟩ := Literal.exists_numeral n
  have sign : '(' ∉ numeral.sign := by
    cases numeral.signed with
    | inl unsigned => simp [unsigned]
    | inr signed => simp [signed]
  rw [← text]
  simp only [Literal.Numeral.text, List.mem_append, not_or]
  exact ⟨⟨⟨sign, not_mem_of_allDigits numeral.decimal⟩, not_mem_of_isFraction numeral.fractional⟩,
    not_mem_of_isExponent numeral.scaled⟩

namespace Uncalled

variable {a b c : String}

theorem of_callFree (free : CallFree a) : Uncalled a :=
  ⟨a.toList, scans_of_code (run_code_plain free.1), free.2⟩

theorem textLiteral (value : String) : Uncalled (textLiteral value) :=
  ⟨_, scans_textLiteral value, by decide⟩

theorem append (first : Uncalled a) (second : Uncalled b) (bare : Bare b.toList) :
    Uncalled (a ++ b) := by
  obtain ⟨kept, scans, absent⟩ := first
  obtain ⟨more, moreScans, moreAbsent⟩ := second
  refine ⟨kept ++ more, ?_, ?_⟩
  · rw [String.toList_append]
    exact scans.append moreScans bare
  · rw [List.mem_append, not_or]
    exact ⟨absent, moreAbsent⟩

theorem append_callFree (first : Uncalled a) (free : CallFree c) : Uncalled (a ++ c) :=
  first.append (of_callFree free) (Alike.bare_of_plain free.1)

theorem callFree_append (free : CallFree c) (second : Uncalled a) : Uncalled (c ++ a) := by
  obtain ⟨kept, scans, absent⟩ := second
  refine ⟨c.toList ++ kept, ?_, ?_⟩
  · rw [String.toList_append]
    exact scans.plain_append free.1
  · rw [List.mem_append, not_or]
    exact ⟨free.2, absent⟩

theorem append_separated {separator : String} (first : Uncalled a) (free : CallFree separator)
    (nonempty : separator ≠ "") (second : Uncalled b) : Uncalled (a ++ separator ++ b) := by
  rw [String.append_assoc]
  exact first.append (callFree_append free second) (Alike.bare_append free.1 nonempty b)

theorem listed {items : List String} (uncalled : ∀ item ∈ items, Uncalled item) :
    Uncalled (", ".intercalate items) := by
  induction items with
  | nil =>
      rw [String.intercalate_nil]
      exact of_callFree (by decide)
  | cons first rest ih =>
      obtain ⟨head, tail⟩ := List.forall_mem_cons.mp uncalled
      cases rest with
      | nil => simpa using head
      | cons second others =>
          rw [String.intercalate_cons_cons]
          exact head.append_separated (by decide) (by decide) (ih tail)

end Uncalled

mutual

theorem uncalled_dataLiteral : ∀ value : Json, Uncalled (dataLiteral value)
  | .null => .of_callFree (by decide)
  | .bool true => .of_callFree (by decide)
  | .bool false => .of_callFree (by decide)
  | .number n => .of_callFree (callFree_number n)
  | .string s => .textLiteral s
  | .array items =>
    ((Uncalled.listed (uncalled_itemLiterals items)).callFree_append (by decide)).append_callFree
      (by decide)
  | .object entries =>
    ((Uncalled.listed (uncalled_entryLiterals entries)).callFree_append
      (by decide)).append_callFree (by decide)

theorem uncalled_itemLiterals : ∀ items : List Json,
    ∀ item ∈ dataLiteral.itemLiterals items, Uncalled item
  | [] => by simp [dataLiteral.itemLiterals]
  | item :: items =>
    List.forall_mem_cons.mpr ⟨uncalled_dataLiteral item, uncalled_itemLiterals items⟩

theorem uncalled_entryLiterals : ∀ entries : List (String × Json),
    ∀ entry ∈ dataLiteral.entryLiterals entries, Uncalled entry
  | [] => by simp [dataLiteral.entryLiterals]
  | (key, value) :: entries =>
    List.forall_mem_cons.mpr
      ⟨(Uncalled.textLiteral key).append_separated (by decide) (by decide)
        (uncalled_dataLiteral value), uncalled_entryLiterals entries⟩

end

theorem Expr.not_callsUuid {e : Expr} (uncalled : Uncalled e.render) : ¬ e.CallsUuid := by
  intro calls
  obtain ⟨kept, scans, absent⟩ := uncalled
  obtain ⟨last, -, ran⟩ := scans
  have code : e.code = kept := by rw [Expr.code, ran]
  apply absent
  rw [← code]
  exact calls.subset (by decide)

end Modelwright.Target
