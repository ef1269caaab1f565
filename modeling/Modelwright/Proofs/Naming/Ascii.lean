import Modelwright.Models.Names
import Modelwright.Proofs.Naming.Words
import Modelwright.Proofs.Source.Matching

namespace Modelwright

/-! Names in ASCII. -/

namespace Text

def IsAscii (s : String) : Prop :=
  ∀ c ∈ s.toList, c.toNat < 0x80

theorem IsAscii.append {first second : String} (here : IsAscii first) (there : IsAscii second) :
    IsAscii (first ++ second) := by
  intro c member
  rw [String.toList_append] at member
  exact (List.mem_append.mp member).elim (here c) (there c)

theorem forall_ascii {p : Char → Prop} (each : ∀ n < 0x80, p (Char.ofNat n)) {c : Char}
    (ascii : c.toNat < 0x80) : p c :=
  Char.ofNat_toNat c ▸ each c.toNat ascii

theorem toNat_of_isIdentifierChar {c : Char} (part : Source.isIdentifierChar c = true) :
    c.toNat < 0x80 := by
  have kinds : Source.isIdentifierChar c =
      (c.isUpper || c.isLower || c.isDigit || c == '_') := rfl
  have within {last : Char} (bound : c.val ≤ last.val) (ascii : last.toNat < 0x80) :
      c.toNat < 0x80 :=
    Nat.lt_of_le_of_lt (UInt32.le_iff_toNat_le.mp bound) ascii
  simp only [kinds, Bool.or_eq_true, beq_iff_eq] at part
  rcases part with ((upper | lower) | digit) | rfl
  · exact within (of_decide_eq_true upper).2 (by decide)
  · exact within (of_decide_eq_true ((Bool.and_eq_true _ _).mp lower).2) (by decide)
  · exact within (of_decide_eq_true ((Bool.and_eq_true _ _).mp digit).2) (by decide)
  · decide

theorem toLower_toLower {c : Char} (ascii : c.toNat < 0x80) : c.toLower.toLower = c.toLower :=
  forall_ascii (p := fun c => c.toLower.toLower = c.toLower) (by decide +kernel) ascii

theorem toNat_toLower_lt {c : Char} (ascii : c.toNat < 0x80) : c.toLower.toNat < 0x80 :=
  forall_ascii (p := fun c => c.toLower.toNat < 0x80) (by decide +kernel) ascii

/-- Without a sigma every character has its small letter whatever surrounds it. -/
theorem lowerFrom_eq_map {before chars : List Char} (ascii : ∀ c ∈ chars, c.toNat < 0x80) :
    lowerFrom before chars = chars.map Char.toLower := by
  induction chars generalizing before with
  | nil => rfl
  | cons c rest ih =>
      obtain ⟨first, others⟩ := List.forall_mem_cons.mp ascii
      have noSigma : c ≠ capitalSigma := by
        rintro rfl
        exact absurd first (by decide)
      rw [lowerFrom, if_neg noSigma, lowerChars, if_pos first, ih others]
      rfl

theorem toList_lowercase {s : String} (ascii : IsAscii s) :
    (lowercase s).toList = s.toList.map Char.toLower := by
  rw [lowercase, String.toList_ofList, lowerFrom_eq_map ascii]

theorem isAscii_lowercase {s : String} (ascii : IsAscii s) : IsAscii (lowercase s) := by
  intro c member
  rw [toList_lowercase ascii] at member
  obtain ⟨d, known, rfl⟩ := List.mem_map.mp member
  exact toNat_toLower_lt (ascii d known)

theorem lowercase_lowercase {s : String} (ascii : IsAscii s) :
    lowercase (lowercase s) = lowercase s := by
  apply String.toList_injective
  rw [toList_lowercase (isAscii_lowercase ascii), toList_lowercase ascii, List.map_map]
  exact List.map_congr_left fun c known => toLower_toLower (ascii c known)

end Text

namespace Naming

open Text

theorem wordsOf_alike {kind : CharClass} {word : List Char} (part : kind ≠ .separator)
    (nonempty : word ≠ []) (all : ∀ c ∈ word, classify c = kind) : wordsOf word = [word] := by
  induction word with
  | nil => exact absurd rfl nonempty
  | cons c rest ih =>
      obtain ⟨first, others⟩ := List.forall_mem_cons.mp all
      cases rest with
      | nil => exact wordsOf_parted (first ▸ part) rfl
      | cons d rest =>
          have second : classify d = kind := others d List.mem_cons_self
          have joined : joins c (d :: rest) = true := by
            refine joins_cons_iff.mpr ⟨second ▸ part, ?_⟩
            rw [first, second]
            cases kind with
            | upper =>
                cases rest with
                | nil => rfl
                | cons e rest =>
                    have third : classify e = .upper :=
                      others e (List.mem_cons_of_mem _ List.mem_cons_self)
                    simp [breaks, third]
            | lower | digit => rfl
            | separator => exact absurd rfl part
          rw [wordsOf_joined (first ▸ part) joined, ih (List.cons_ne_nil _ _) others]
          rfl

theorem wordsOf_of_isWord {word : List Char} (isWord : IsWord word) : wordsOf word = [word] := by
  cases isWord with
  | alike part nonempty all => exact wordsOf_alike part nonempty all
  | @capitalized c rest capital nonempty small =>
      have part : classify c ≠ .separator := by simp [capital]
      cases rest with
      | nil => exact absurd rfl nonempty
      | cons d rest =>
          have second : classify d = .lower := small d List.mem_cons_self
          have joined : joins c (d :: rest) = true := by
            refine joins_cons_iff.mpr ⟨by simp [second], ?_⟩
            rw [capital, second]
            rfl
          rw [wordsOf_joined part joined, wordsOf_alike (by decide) nonempty small]
          rfl

theorem words_intercalate {parts : List String} (whole : ∀ part ∈ parts, words part = [part]) :
    words ("_".intercalate parts) = parts := by
  induction parts with
  | nil => rfl
  | cons first rest ih =>
      obtain ⟨here, later⟩ := List.forall_mem_cons.mp whole
      cases rest with
      | nil => simpa using here
      | cons second others =>
          have parted : classify '_' = .separator := by decide
          have split : words (first ++ "_" ++ "_".intercalate (second :: others)) =
              words first ++ words ("_".intercalate (second :: others)) := by
            rw [words, words, words, ← List.map_append, ← wordsOf_append_separator parted]
            simp
          rw [String.intercalate_cons_cons, split, here, ih later, List.singleton_append]

/-- Letters from a to z alone, or digits from 0 to 9 alone. -/
def IsSmallWord (word : String) : Prop :=
  word ≠ "" ∧ ((∀ c ∈ word.toList, c.isLower = true) ∨ ∀ c ∈ word.toList, c.isDigit = true)

/-- Small words with one underscore between neighbours, or nothing. -/
def IsSmallName (s : String) : Prop :=
  s = "" ∨ ∃ parts, parts ≠ [] ∧ (∀ part ∈ parts, IsSmallWord part) ∧ s = "_".intercalate parts

theorem toLower_of_letter {c : Char} (ascii : c.toNat < 0x80)
    (letter : classify c = .upper ∨ classify c = .lower) :
    classify c.toLower = .lower ∧ c.toLower.isLower = true :=
  forall_ascii (p := fun c => classify c = .upper ∨ classify c = .lower →
    classify c.toLower = .lower ∧ c.toLower.isLower = true) (by decide +kernel) ascii letter

theorem toLower_of_digit {c : Char} (ascii : c.toNat < 0x80) (digit : classify c = .digit) :
    classify c.toLower = .digit ∧ c.toLower.isDigit = true :=
  forall_ascii (p := fun c => classify c = .digit →
    classify c.toLower = .digit ∧ c.toLower.isDigit = true) (by decide +kernel) ascii digit

theorem IsWord.letters_or_digits {word : List Char} (isWord : IsWord word) :
    (∀ c ∈ word, classify c = .upper ∨ classify c = .lower) ∨ ∀ c ∈ word, classify c = .digit := by
  cases isWord with
  | @alike kind _ part nonempty all =>
      cases kind with
      | upper => exact .inl fun c member => .inl (all c member)
      | lower => exact .inl fun c member => .inr (all c member)
      | digit => exact .inr all
      | separator => exact absurd rfl part
  | capitalized capital nonempty small =>
      exact .inl (List.forall_mem_cons.mpr ⟨.inl capital, fun d member => .inr (small d member)⟩)

section Words

variable {s word : String} (ascii : IsAscii s) (listed : word ∈ words s)

include listed

theorem isWord_of_mem_words : IsWord word.toList := by
  obtain ⟨chars, known, rfl⟩ := List.mem_map.mp listed
  rw [String.toList_ofList]
  exact isWord_of_mem_wordsOf known

include ascii

theorem isAscii_of_mem_words : IsAscii word := by
  obtain ⟨chars, known, rfl⟩ := List.mem_map.mp listed
  intro c member
  rw [String.toList_ofList] at member
  have kept : c ∈ (wordsOf s.toList).flatten := List.mem_flatten.mpr ⟨chars, known, member⟩
  rw [flatten_wordsOf] at kept
  exact ascii c (List.mem_of_mem_filter kept)

theorem lowercase_of_mem_words :
    IsWord (lowercase word).toList ∧ IsSmallWord (lowercase word) := by
  have isWord := isWord_of_mem_words listed
  have within := isAscii_of_mem_words ascii listed
  have lowered := toList_lowercase within
  have nonempty : word.toList.map Char.toLower ≠ [] := by simpa using isWord.ne_nil
  have some : lowercase word ≠ "" := by
    intro empty
    rw [empty] at lowered
    exact nonempty lowered.symm
  rcases isWord.letters_or_digits with letters | digits
  · have small : ∀ c ∈ word.toList.map Char.toLower, classify c = .lower ∧ c.isLower = true :=
      List.forall_mem_map.mpr fun c member => toLower_of_letter (within c member) (letters c member)
    rw [← lowered] at nonempty small
    exact ⟨.alike (by decide) nonempty fun c member => (small c member).1, some,
      .inl fun c member => (small c member).2⟩
  · have small : ∀ c ∈ word.toList.map Char.toLower, classify c = .digit ∧ c.isDigit = true :=
      List.forall_mem_map.mpr fun c member => toLower_of_digit (within c member) (digits c member)
    rw [← lowered] at nonempty small
    exact ⟨.alike (by decide) nonempty fun c member => (small c member).1, some,
      .inr fun c member => (small c member).2⟩

end Words

section Names

variable {s : String} (ascii : IsAscii s)

include ascii

theorem words_snakeCase : words (snakeCase s) = (words s).map lowercase := by
  refine words_intercalate fun part member => ?_
  obtain ⟨word, listed, rfl⟩ := List.mem_map.mp member
  rw [words, wordsOf_of_isWord (lowercase_of_mem_words ascii listed).1, List.map_singleton,
    String.ofList_toList]

theorem snakeCase_snakeCase : snakeCase (snakeCase s) = snakeCase s := by
  rw [snakeCase, words_snakeCase ascii, List.map_map, snakeCase]
  refine congrArg _ (List.map_congr_left fun word listed => ?_)
  exact lowercase_lowercase (isAscii_of_mem_words ascii listed)

theorem pascalCase_snakeCase : pascalCase (snakeCase s) = pascalCase s := by
  rw [pascalCase, words_snakeCase ascii, List.map_map, pascalCase]
  refine congrArg _ (List.map_congr_left fun word listed => ?_)
  rw [Function.comp_apply, capitalize, lowercase_lowercase (isAscii_of_mem_words ascii listed),
    capitalize]

theorem isSmallName_snakeCase : IsSmallName (snakeCase s) := by
  cases split : words s with
  | nil => exact .inl (by rw [snakeCase, split]; rfl)
  | cons word others =>
      refine .inr ⟨(words s).map lowercase, by simp [split], fun part member => ?_, rfl⟩
      obtain ⟨word, listed, rfl⟩ := List.mem_map.mp member
      exact (lowercase_of_mem_words ascii listed).2

end Names

/-- A default reverse name is written as it stands, in either spelling of members. -/
theorem valueName_reverseName (casing : Casing) {owner relation : String} (ascii : IsAscii owner)
    (also : IsAscii relation) :
    casing.valueName (reverseName owner relation) = reverseName owner relation := by
  have underscore : IsAscii "_" := by simp [IsAscii]
  rw [Casing.valueName, reverseName]
  split
  · exact snakeCase_snakeCase ((ascii.append underscore).append also)
  · rfl

theorem isAscii_of_tokenize {source : String} {lexemes : List Source.Lexeme}
    (lexed : Source.tokenize source = .ok lexemes) {name : String} {span : Span}
    (listed : ⟨.identifier name, span⟩ ∈ lexemes) : IsAscii name := by
  have proper := Source.proper_of_lexesTo (Source.lexesTo_of_lexFrom lexed) _
    (List.mem_map_of_mem listed)
  obtain ⟨c, more, split, start, others⟩ := proper
  have all : ∀ d ∈ name.toList, Source.isIdentifierChar d = true := by
    rw [split]
    exact List.forall_mem_cons.mpr ⟨Source.isIdentifierChar_of_start start, others⟩
  exact fun d member => toNat_of_isIdentifierChar (all d member)

/-- A name in ASCII, as every name of the schema language is, is spelled once and for all in small
words: spelling it so again changes nothing, nor does it matter to its spelling in capitalized
words.  Hence a default reverse name is the attribute's name as it stands. -/
theorem names_in_ascii_settle :
    (∀ s, IsAscii s → snakeCase (snakeCase s) = snakeCase s ∧
      pascalCase (snakeCase s) = pascalCase s ∧ IsSmallName (snakeCase s)) ∧
    (∀ (casing : Casing) owner relation, IsAscii owner → IsAscii relation →
      casing.valueName (reverseName owner relation) = reverseName owner relation) ∧
    ∀ source lexemes, Source.tokenize source = .ok lexemes →
      ∀ name span, ⟨.identifier name, span⟩ ∈ lexemes → IsAscii name := by
  refine ⟨fun s ascii => ?_, fun casing owner relation => valueName_reverseName casing,
    fun source lexemes lexed name span => isAscii_of_tokenize lexed⟩
  exact ⟨snakeCase_snakeCase ascii, pascalCase_snakeCase ascii, isSmallName_snakeCase ascii⟩

theorem names_in_ascii_settle_article :
    IsAscii "HTMLArticle2" ∧ snakeCase "HTMLArticle2" = "html_article_2" ∧
      snakeCase "html_article_2" = "html_article_2" ∧
      pascalCase "html_article_2" = pascalCase "HTMLArticle2" ∧ IsSmallName "html_article_2" ∧
      IsAscii "seeAlso" ∧ (Casing.mk true true).valueName (reverseName "HTMLArticle2" "seeAlso") =
        reverseName "HTMLArticle2" "seeAlso" := by
  have ascii : IsAscii "HTMLArticle2" := by simp [IsAscii]
  have also : IsAscii "seeAlso" := by simp [IsAscii]
  have small : snakeCase "HTMLArticle2" = "html_article_2" := by decide +kernel
  have settled := names_in_ascii_settle.1 "HTMLArticle2" ascii
  rw [small] at settled
  exact ⟨ascii, small, settled.1, settled.2.1, settled.2.2, also,
    names_in_ascii_settle.2.1 _ _ _ ascii also⟩

end Naming

end Modelwright
