import Modelwright.Proofs.Number.Numerals
import Modelwright.Proofs.Outline.Names

namespace Modelwright.Target.Literal

open Modelwright.Outline (Ends isIdentifierChar)

/-! Numbers as literals of the language: a reader of decimal numerals that keeps their text, and the
text of every number read by it. -/

def minus : List Char → List Char × List Char
  | '-' :: rest => (['-'], rest)
  | chars => ([], chars)

def digits (chars : List Char) : List Char × List Char :=
  (chars.takeWhile Char.isDigit, chars.dropWhile Char.isDigit)

def fraction : List Char → List Char × List Char
  | '.' :: rest => ('.' :: (digits rest).1, (digits rest).2)
  | chars => ([], chars)

def powerSign : List Char → List Char × List Char
  | '-' :: rest => (['-'], rest)
  | '+' :: rest => (['+'], rest)
  | chars => ([], chars)

/-- An `e` that no digits follow belongs to what is behind the number. -/
def exponent : List Char → List Char × List Char
  | [] => ([], [])
  | mark :: rest =>
    let (sign, behind) := powerSign rest
    let (power, after) := digits behind
    if (mark = 'e' ∨ mark = 'E') ∧ power ≠ [] then (mark :: sign ++ power, after)
    else ([], mark :: rest)

instance (text : List Char) : Decidable (Ends text) :=
  decidable_of_iff (text.head?.all (!isIdentifierChar ·) = true) <| by
    cases text with
    | nil => simp [Ends]
    | cons c more => simp [Ends]

/-- The number at the start of a text.  An integer has no needless zero first, and no number has a
name directly behind it. -/
def number? (chars : List Char) : Option (List Char × List Char) :=
  let (sign, unsigned) := minus chars
  let (whole, afterWhole) := digits unsigned
  let (fraction, afterFraction) := fraction afterWhole
  let (exponent, rest) := exponent afterFraction
  if whole ≠ [] ∧ Ends rest ∧ (fraction ++ exponent = [] → (integerLiteral? (sign ++ whole)).isSome)
  then some (sign ++ whole ++ fraction ++ exponent, rest)
  else none

theorem append_minus (chars : List Char) : (minus chars).1 ++ (minus chars).2 = chars := by
  unfold minus
  split
  · rfl
  · rfl

theorem append_digits (chars : List Char) : (digits chars).1 ++ (digits chars).2 = chars :=
  List.takeWhile_append_dropWhile

theorem append_fraction (chars : List Char) : (fraction chars).1 ++ (fraction chars).2 = chars := by
  unfold fraction
  split
  · rw [List.cons_append, append_digits]
  · rfl

theorem append_powerSign (chars : List Char) :
    (powerSign chars).1 ++ (powerSign chars).2 = chars := by
  unfold powerSign
  split
  · rfl
  · rfl
  · rfl

theorem append_exponent (chars : List Char) : (exponent chars).1 ++ (exponent chars).2 = chars := by
  cases chars with
  | nil => rfl
  | cons mark rest =>
      rw [exponent]
      dsimp only
      split
      · rw [List.cons_append, List.cons_append, List.append_assoc, append_digits, append_powerSign]
      · rfl

theorem append_of_number? {chars text rest : List Char} (read : number? chars = some (text, rest)) :
    text ≠ [] ∧ text ++ rest = chars := by
  rw [number?] at read
  dsimp only at read
  split at read
  next found =>
    cases read
    refine ⟨by simp [found.1], ?_⟩
    rw [List.append_assoc, append_exponent, List.append_assoc, append_fraction, List.append_assoc,
      append_digits, append_minus]
  next => cases read

theorem leads_of_number? {c : Char} {more : List Char} {read : List Char × List Char}
    (found : number? (c :: more) = some read) : c = '-' ∨ c.isDigit = true := by
  by_contra other
  obtain ⟨noSign, noDigit⟩ := not_or.mp other
  have unsigned : minus (c :: more) = ([], c :: more) := by
    unfold minus
    split
    next leads => exact absurd (List.cons.inj leads).1 noSign
    next => rfl
  have whole : (digits (c :: more)).1 = [] := List.takeWhile_cons_of_neg noDigit
  simp [number?, unsigned, whole] at found

/-- The text does not continue a number or a name that stands before it. -/
def EndsToken (text : List Char) : Prop :=
  ∀ c ∈ text.head?, isIdentifierChar c = false ∧ c ≠ '.'

theorem EndsToken.ends {text : List Char} (ends : EndsToken text) : Ends text :=
  fun c leads => (ends c leads).1

theorem endsToken_cons {c : Char} (apart : isIdentifierChar c = false) (noPoint : c ≠ '.')
    (rest : List Char) : EndsToken (c :: rest) := by
  rintro _ ⟨⟩
  exact ⟨apart, noPoint⟩

theorem isIdentifierChar_of_isDigit {c : Char} (digit : c.isDigit = true) :
    isIdentifierChar c = true := by
  simp [isIdentifierChar, isAlphanumeric_of_isDigit digit]

def AllDigits (chars : List Char) : Prop :=
  ∀ c ∈ chars, c.isDigit = true

instance (chars : List Char) : Decidable (AllDigits chars) :=
  decidable_of_iff (chars.all Char.isDigit = true) List.all_eq_true

def EndsDigits (text : List Char) : Prop :=
  ∀ c ∈ text.head?, c.isDigit = false

theorem EndsToken.endsDigits {text : List Char} (ends : EndsToken text) : EndsDigits text := by
  intro c leads
  by_contra digit
  rw [Bool.not_eq_false] at digit
  exact Bool.false_ne_true ((ends c leads).1.symm.trans (isIdentifierChar_of_isDigit digit))

theorem cut_append {kind : Char → Bool} {front rest : List Char}
    (all : ∀ c ∈ front, kind c = true) (stops : ∀ c ∈ rest.head?, kind c = false) :
    (front ++ rest).takeWhile kind = front ∧ (front ++ rest).dropWhile kind = rest := by
  rw [List.takeWhile_append_of_pos all, List.dropWhile_append_of_pos all]
  cases rest with
  | nil => simp
  | cons c more => simp [stops c rfl]

theorem digits_append {front rest : List Char} (all : AllDigits front) (ends : EndsDigits rest) :
    digits (front ++ rest) = (front, rest) :=
  Prod.ext (cut_append all ends).1 (cut_append all ends).2

inductive IsFraction : List Char → Prop
  | none : IsFraction []
  | point {places : List Char} (all : AllDigits places) : IsFraction ('.' :: places)

inductive IsExponent : List Char → Prop
  | none : IsExponent []
  | power {sign : Char} {places : List Char} (signed : sign = '-' ∨ sign = '+')
      (some : places ≠ []) (all : AllDigits places) : IsExponent ('e' :: sign :: places)

theorem IsFraction.endsDigits {text rest : List Char} (shape : IsFraction text)
    (ends : EndsDigits rest) : EndsDigits (text ++ rest) := by
  cases shape with
  | none => exact ends
  | point all =>
      rintro _ ⟨⟩
      rfl

theorem IsExponent.endsDigits {text rest : List Char} (shape : IsExponent text)
    (ends : EndsToken rest) : EndsDigits (text ++ rest) := by
  cases shape with
  | none => exact ends.endsDigits
  | power signed some all =>
      rintro _ ⟨⟩
      rfl

theorem IsExponent.noPoint {text rest : List Char} (shape : IsExponent text)
    (ends : EndsToken rest) : (text ++ rest).head? ≠ some '.' := by
  cases shape with
  | none => exact fun leads => (ends '.' leads).2 rfl
  | power signed some all => rintro ⟨⟩

theorem exponent_append {text rest : List Char} (shape : IsExponent text) (ends : EndsToken rest) :
    exponent (text ++ rest) = (text, rest) := by
  cases shape with
  | none =>
      cases rest with
      | nil => rfl
      | cons c more =>
          have apart : ¬ (c = 'e' ∨ c = 'E') := by
            have other := (ends c rfl).1
            rintro (rfl | rfl)
            · revert other
              decide +kernel
            · revert other
              decide +kernel
          simp [exponent, apart]
  | @power sign places signed some all =>
      have cut : powerSign (sign :: (places ++ rest)) = ([sign], places ++ rest) := by
        rcases signed with rfl | rfl
        · rfl
        · rfl
      simp [exponent, cut, digits_append all ends.endsDigits, some]

theorem fraction_append {text rest : List Char} (shape : IsFraction text) (ends : EndsDigits rest)
    (noPoint : rest.head? ≠ some '.') : fraction (text ++ rest) = (text, rest) := by
  cases shape with
  | none =>
      unfold fraction
      split
      next leads => exact absurd (congrArg List.head? leads) noPoint
      next => rfl
  | point all =>
      rw [List.cons_append, fraction, digits_append all ends]

theorem minus_append {text rest : List Char} (signed : text = [] ∨ text = ['-'])
    (noSign : rest.head? ≠ some '-') : minus (text ++ rest) = (text, rest) := by
  rcases signed with rfl | rfl
  · unfold minus
    split
    next leads => exact absurd (congrArg List.head? leads) noSign
    next => rfl
  · rfl

structure Numeral where
  sign : List Char
  whole : List Char
  places : List Char
  power : List Char
  signed : sign = [] ∨ sign = ['-']
  leads : whole ≠ []
  decimal : AllDigits whole
  fractional : IsFraction places
  scaled : IsExponent power
  integral : places ++ power = [] → (integerLiteral? (sign ++ whole)).isSome

def Numeral.text (n : Numeral) : List Char :=
  n.sign ++ n.whole ++ n.places ++ n.power

theorem number?_text (n : Numeral) {rest : List Char} (ends : EndsToken rest) :
    number? (n.text ++ rest) = some (n.text, rest) := by
  have noSign : (n.whole ++ (n.places ++ (n.power ++ rest))).head? ≠ some '-' := by
    cases listed : n.whole with
    | nil => exact absurd listed n.leads
    | cons c more =>
        rintro ⟨⟩
        cases n.decimal '-' (listed ▸ List.mem_cons_self)
  -- Every part ends where the next one starts, with a character that is none of its own.
  have behindPlaces := n.scaled.endsDigits ends
  have behindWhole := n.fractional.endsDigits behindPlaces
  have noPoint := n.scaled.noPoint ends
  simp only [number?, Numeral.text, List.append_assoc, minus_append n.signed noSign,
    digits_append n.decimal behindWhole, fraction_append n.fractional behindPlaces noPoint,
    exponent_append n.scaled ends]
  rw [if_pos ⟨n.leads, ends.ends, n.integral⟩]

theorem allDigits_toDigits (n : Nat) : AllDigits (Nat.toDigits 10 n) :=
  fun _ => Nat.isDigit_of_mem_toDigits (by decide) (by decide)

theorem toList_toString (n : Nat) : (toString n).toList = Nat.toDigits 10 n :=
  Nat.toList_repr

theorem allDigits_zeros (count : Nat) : AllDigits (Binary64.zeros count) := by
  intro c member
  rw [List.eq_of_mem_replicate member]
  rfl

theorem exists_numeral_int (n : Int) : ∃ numeral : Numeral, numeral.text = (toString n).toList := by
  have denoted := integerLiteral?_toString n
  cases n with
  | ofNat n =>
      have text : (toString (Int.ofNat n)).toList = Nat.toDigits 10 n := Nat.toList_repr
      rw [text] at denoted ⊢
      refine ⟨⟨[], Nat.toDigits 10 n, [], [], .inl rfl, Nat.toDigits_ne_nil, allDigits_toDigits n,
        .none, .none, fun _ => ?_⟩, by simp [Numeral.text]⟩
      rw [List.nil_append, denoted]
      rfl
  | negSucc n =>
      have text : (toString (Int.negSucc n)).toList = '-' :: Nat.toDigits 10 (n + 1) := by
        refine (String.toList_append (s := "-") (t := (n + 1).repr)).trans ?_
        rw [Nat.toList_repr]
        rfl
      rw [text] at denoted ⊢
      refine ⟨⟨['-'], Nat.toDigits 10 (n + 1), [], [], .inr rfl, Nat.toDigits_ne_nil,
        allDigits_toDigits (n + 1), .none, .none, fun _ => ?_⟩, by simp [Numeral.text]⟩
      rw [List.singleton_append, denoted]
      rfl

section Fractions

variable {chars : List Char} (all : AllDigits chars) (some : chars ≠ [])
include all some

theorem positional_eq (top : Int) : ∃ whole places, whole ≠ [] ∧ AllDigits whole ∧
    IsFraction places ∧ places ≠ [] ∧ Binary64.positional chars top = whole ++ places := by
  unfold Binary64.positional
  split
  · refine ⟨['0'], _, by simp, by decide, .point ?_, by simp, rfl⟩
    exact List.forall_mem_append.mpr ⟨allDigits_zeros _, all⟩
  · refine ⟨_, _, ?_, ?_, .point ?_, by simp, rfl⟩
    · simp [some]
    · refine List.forall_mem_append.mpr ⟨fun c member => all c (List.mem_of_mem_take member), ?_⟩
      exact allDigits_zeros _
    · split
      · decide
      · exact fun c member => all c (List.mem_of_mem_drop member)

theorem scientific_eq (top : Int) : ∃ whole places power, whole ≠ [] ∧ AllDigits whole ∧
    IsFraction places ∧ IsExponent power ∧ power ≠ [] ∧
      Binary64.scientific chars top = whole ++ places ++ power := by
  unfold Binary64.scientific
  refine ⟨_, _, _, ?_, ?_, ?_, .power ?_ ?_ ?_, by simp, rfl⟩
  · simp [some]
  · exact fun c member => all c (List.mem_of_mem_take member)
  · split
    · exact .none
    · exact .point fun c member => all c (List.mem_of_mem_drop member)
  · split
    · exact .inl rfl
    · exact .inr rfl
  · rw [toList_toString]
    exact Nat.toDigits_ne_nil
  · rw [toList_toString]
    exact allDigits_toDigits _

end Fractions

theorem exists_numeral_fraction (x : Binary64) :
    ∃ numeral : Numeral, numeral.text = x.text.toList := by
  have signed : (if x.negative then ['-'] else []) = [] ∨
      (if x.negative then ['-'] else []) = ['-'] := by
    cases x.negative with
    | false => exact .inl rfl
    | true => exact .inr rfl
  have all (n : Nat) : AllDigits (toString n).toList := toList_toString n ▸ allDigits_toDigits n
  have some (n : Nat) : (toString n).toList ≠ [] := toList_toString n ▸ Nat.toDigits_ne_nil
  unfold Binary64.text
  dsimp only
  generalize (if x.negative then ['-'] else []) = sign at signed ⊢
  split
  · refine ⟨⟨sign, ['0'], ['.', '0'], [], signed, by simp, by decide, .point (by decide), .none,
      nofun⟩, ?_⟩
    rw [String.toList_ofList, Numeral.text, List.append_nil, List.append_assoc]
    rfl
  · split
    · obtain ⟨whole, places, leads, decimal, fractional, scaled, split⟩ :=
        positional_eq (all _) (some _) _
      refine ⟨⟨sign, whole, places, [], signed, leads, decimal, fractional, .none, ?_⟩, ?_⟩
      · simp [scaled]
      · rw [String.toList_ofList, split, Numeral.text, List.append_nil, List.append_assoc]
    · obtain ⟨whole, places, power, leads, decimal, fractional, scaled, something, split⟩ :=
        scientific_eq (all _) (some _) _
      refine ⟨⟨sign, whole, places, power, signed, leads, decimal, fractional, scaled, ?_⟩, ?_⟩
      · simp [something]
      · rw [String.toList_ofList, split, Numeral.text, List.append_assoc, List.append_assoc,
          List.append_assoc]

theorem exists_numeral (n : Number) : ∃ numeral : Numeral, numeral.text = n.text.toList := by
  cases n with
  | int value => exact exists_numeral_int value
  | float x => exact exists_numeral_fraction x

theorem number?_append (n : Number) {rest : List Char} (ends : EndsToken rest) :
    number? (n.text.toList ++ rest) = some (n.text.toList, rest) := by
  obtain ⟨numeral, text⟩ := exists_numeral n
  rw [← text]
  exact number?_text numeral ends

end Modelwright.Target.Literal
