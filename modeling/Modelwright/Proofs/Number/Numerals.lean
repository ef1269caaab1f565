import Modelwright.Number.Shortest

namespace Modelwright

/-! Decimal numerals: the integers that they denote, and which texts of numbers are among them. -/

def naturalOfDigits? (digits : List Char) : Option Nat :=
  if digits ≠ [] ∧ digits.all Char.isDigit = true then some (Nat.ofDigitChars 10 digits 0) else none

def signedInteger? : List Char → Option Int
  | '-' :: digits => (naturalOfDigits? digits).map fun n : Nat => -(n : Int)
  | digits => (naturalOfDigits? digits).map fun n : Nat => (n : Int)

theorem naturalOfDigits?_eq_some_iff {digits : List Char} {n : Nat} :
    naturalOfDigits? digits = some n ↔
      digits ≠ [] ∧ digits.all Char.isDigit = true ∧ Nat.ofDigitChars 10 digits 0 = n := by
  rw [naturalOfDigits?, Option.ite_none_right_eq_some, Option.some.injEq, and_assoc]

theorem signedInteger?_eq_some_iff {text : List Char} {n : Int} :
    signedInteger? text = some n ↔ ∃ digits k, naturalOfDigits? digits = some k ∧
      (text = '-' :: digits ∧ n = -(k : Int) ∨ text = digits ∧ n = k) := by
  constructor
  · intro found
    unfold signedInteger? at found
    split at found
    next digits =>
      obtain ⟨k, denoted, rfl⟩ := Option.map_eq_some_iff.mp found
      exact ⟨digits, k, denoted, .inl ⟨rfl, rfl⟩⟩
    next =>
      obtain ⟨k, denoted, rfl⟩ := Option.map_eq_some_iff.mp found
      exact ⟨text, k, denoted, .inr ⟨rfl, rfl⟩⟩
  · rintro ⟨digits, k, denoted, ⟨rfl, rfl⟩ | ⟨rfl, rfl⟩⟩
    · rw [signedInteger?, denoted, Option.map_some]
    · have unsigned (rest : List Char) : text ≠ '-' :: rest := by
        rintro rfl
        have digits := (naturalOfDigits?_eq_some_iff.mp denoted).2.1
        rw [List.all_cons] at digits
        exact Bool.false_ne_true (Bool.and_eq_true_iff.mp digits).1
      rw [signedInteger?, denoted, Option.map_some]
      exact fun rest same => unsigned rest same

theorem mem_of_signedInteger? {text : List Char} {n : Int} (denoted : signedInteger? text = some n)
    {c : Char} (member : c ∈ text) : c = '-' ∨ c.isDigit = true := by
  obtain ⟨digits, k, natural, shape⟩ := signedInteger?_eq_some_iff.mp denoted
  have digit (listed : c ∈ digits) : c.isDigit = true :=
    List.all_eq_true.mp (naturalOfDigits?_eq_some_iff.mp natural).2.1 c listed
  rcases shape with ⟨rfl, -⟩ | ⟨rfl, -⟩
  · exact (List.mem_cons.mp member).imp_right digit
  · exact .inr (digit member)

theorem head?_toDigits_ne_zero {n : Nat} (positive : 0 < n) :
    (Nat.toDigits 10 n).head? ≠ some '0' := by
  -- The first digit is the last quotient by ten, which is not zero.
  induction n using Nat.strongRecOn with
  | ind n ih =>
      by_cases small : n < 10
      · have digit : ∀ d < 10, 0 < d → [d.digitChar].head? ≠ some '0' := by decide
        rw [Nat.toDigits_of_lt_base small]
        exact digit n small positive
      · rw [Nat.toDigits_of_base_le (by decide) (Nat.le_of_not_lt small), List.head?_append,
          Option.or_of_isSome (List.isSome_head?.mpr Nat.toDigits_ne_nil)]
        exact ih (n / 10) (by omega) (by omega)

theorem naturalOfDigits?_toDigits (n : Nat) : naturalOfDigits? (Nat.toDigits 10 n) = some n := by
  refine naturalOfDigits?_eq_some_iff.mpr ⟨Nat.toDigits_ne_nil, ?_, Nat.ofDigitChars_ten_toDigits⟩
  exact List.all_eq_true.mpr fun c => Nat.isDigit_of_mem_toDigits (by decide) (by decide)

namespace Target

/-- The integer that a decimal literal denotes.  Only the literals of zero have a zero first. -/
def integerLiteral? (text : List Char) : Option Int :=
  (signedInteger? text).filter fun n =>
    n = 0 ∨ (if text.head? = some '-' then text.drop 1 else text).head? ≠ some '0'

theorem integerLiteral?_toString (n : Int) : integerLiteral? (toString n).toList = some n := by
  cases n with
  | ofNat n =>
      have text : (toString (Int.ofNat n)).toList = Nat.toDigits 10 n := Nat.toList_repr
      have denoted : signedInteger? (Nat.toDigits 10 n) = some (n : Int) :=
        signedInteger?_eq_some_iff.mpr ⟨_, n, naturalOfDigits?_toDigits n, .inr ⟨rfl, rfl⟩⟩
      have noSign : (Nat.toDigits 10 n).head? ≠ some '-' := by
        intro sign
        have digit := Nat.isDigit_of_mem_toDigits (by decide) (by decide)
          (List.mem_of_mem_head? (Option.mem_def.mpr sign))
        cases digit
      rw [text, integerLiteral?, denoted, if_neg noSign]
      rcases Nat.eq_zero_or_pos n with rfl | positive
      · rfl
      · simp [Option.filter_some, head?_toDigits_ne_zero positive]
  | negSucc n =>
      have text : (toString (Int.negSucc n)).toList = '-' :: Nat.toDigits 10 (n + 1) := by
        refine (String.toList_append (s := "-") (t := (n + 1).repr)).trans ?_
        rw [Nat.toList_repr]
        rfl
      have denoted : signedInteger? ('-' :: Nat.toDigits 10 (n + 1)) = some (Int.negSucc n) :=
        signedInteger?_eq_some_iff.mpr
          ⟨_, n + 1, naturalOfDigits?_toDigits (n + 1), .inl ⟨rfl, rfl⟩⟩
      rw [text, integerLiteral?, denoted]
      simp [Option.filter_some, head?_toDigits_ne_zero (Nat.succ_pos n)]

end Target

theorem point_mem_positional (digits : List Char) (top : Int) :
    '.' ∈ Binary64.positional digits top := by
  unfold Binary64.positional
  split
  · simp
  · simp

theorem exponent_mem_scientific (digits : List Char) (top : Int) :
    'e' ∈ Binary64.scientific digits top := by
  simp [Binary64.scientific]

theorem point_or_exponent_mem_text (x : Binary64) :
    '.' ∈ x.text.toList ∨ 'e' ∈ x.text.toList := by
  unfold Binary64.text
  dsimp only
  split
  · simp
  · rw [String.toList_ofList]
    refine Or.imp (List.mem_append_right _) (List.mem_append_right _) ?_
    split
    · exact .inl (point_mem_positional _ _)
    · exact .inr (exponent_mem_scientific _ _)

theorem Target.integerLiteral?_fraction (x : Binary64) :
    integerLiteral? x.text.toList = none := by
  have other : signedInteger? x.text.toList = none := by
    refine Option.eq_none_iff_forall_ne_some.mpr fun n denoted => ?_
    rcases point_or_exponent_mem_text x with point | exponent
    · exact absurd (mem_of_signedInteger? denoted point) (by decide)
    · exact absurd (mem_of_signedInteger? denoted exponent) (by decide)
  rw [integerLiteral?, other]
  rfl

end Modelwright
