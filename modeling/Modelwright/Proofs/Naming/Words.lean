import Modelwright.Naming.Words

namespace Modelwright.Naming

/-! The words of a name. -/

/-- Digits, capitals or small letters alone, or small letters behind one capital. -/
inductive IsWord : List Char → Prop
  | alike {kind : CharClass} {word : List Char} (part : kind ≠ .separator)
      (nonempty : word ≠ []) (all : ∀ c ∈ word, classify c = kind) : IsWord word
  | capitalized {c : Char} {word : List Char} (capital : classify c = .upper)
      (nonempty : word ≠ []) (small : ∀ d ∈ word, classify d = .lower) : IsWord (c :: word)

theorem unbroken_cases {first second : CharClass} {next : Option CharClass}
    (firstPart : first ≠ .separator) (secondPart : second ≠ .separator)
    (unbroken : breaks first second next = false) :
    (first = second ∧ (second = .upper → next ≠ some .lower)) ∨
      (first = .upper ∧ second = .lower) := by
  cases first with
  | upper =>
      cases second with
      | upper => exact .inl ⟨rfl, fun _ => by simpa [breaks] using unbroken⟩
      | lower => exact .inr ⟨rfl, rfl⟩
      | digit => simp [breaks] at unbroken
      | separator => exact absurd rfl secondPart
  | lower =>
      cases second with
      | lower => exact .inl ⟨rfl, fun capital => by cases capital⟩
      | upper => simp [breaks] at unbroken
      | digit => simp [breaks] at unbroken
      | separator => exact absurd rfl secondPart
  | digit =>
      cases second with
      | digit => exact .inl ⟨rfl, fun capital => by cases capital⟩
      | upper => simp [breaks] at unbroken
      | lower => simp [breaks] at unbroken
      | separator => exact absurd rfl secondPart
  | separator => exact absurd rfl firstPart

/-- What follows makes a difference only to two capitals, and only if it is a small letter. -/
theorem breaks_eq_or (first second : CharClass) (next : Option CharClass) :
    breaks first second next =
      (breaks first second none ||
        (first = .upper && second = .upper && next = some .lower)) := by
  cases first with
  | upper => cases second with | _ => simp [breaks]
  | lower => cases second with | _ => rfl
  | digit => cases second with | _ => rfl
  | separator => rfl

theorem breaks_separator (first second : CharClass) :
    breaks first second (some .separator) = breaks first second none := by
  simp [breaks_eq_or first second (some .separator)]

theorem unbroken_of_prefix {first second : CharClass} {tail rest : List Char}
    (leads : tail <+: rest)
    (unbroken : breaks first second (rest.head?.map classify) = false) :
    breaks first second (tail.head?.map classify) = false := by
  cases tail with
  | nil =>
      rw [breaks_eq_or, Bool.or_eq_false_iff] at unbroken
      exact unbroken.1
  | cons c tail =>
      obtain ⟨behind, rfl⟩ := leads
      exact unbroken

theorem joins_cons_iff {c d : Char} {rest : List Char} :
    joins c (d :: rest) = true ↔ classify d ≠ .separator ∧
      breaks (classify c) (classify d) (rest.head?.map classify) = false := by
  simp [joins]

theorem wordsOf_joined {c : Char} {rest : List Char} (part : classify c ≠ .separator)
    (joined : joins c rest = true) : wordsOf (c :: rest) = prepend c (wordsOf rest) := by
  rw [wordsOf, if_neg part, if_pos joined]

theorem wordsOf_parted {c : Char} {rest : List Char} (part : classify c ≠ .separator)
    (parted : joins c rest = false) : wordsOf (c :: rest) = [c] :: wordsOf rest := by
  rw [wordsOf, if_neg part, if_neg (by simp [parted])]

theorem exists_wordsOf_cons {c : Char} {rest : List Char} (part : classify c ≠ .separator) :
    ∃ tail words, wordsOf (c :: rest) = (c :: tail) :: words ∧ tail <+: rest := by
  induction rest generalizing c with
  | nil => exact ⟨[], [], wordsOf_parted part rfl, List.nil_prefix⟩
  | cons d rest ih =>
      cases joined : joins c (d :: rest) with
      | false => exact ⟨[], _, wordsOf_parted part joined, List.nil_prefix⟩
      | true =>
          obtain ⟨tail, words, first, leads⟩ := ih (joins_cons_iff.mp joined).1
          refine ⟨d :: tail, words, ?_, List.cons_prefix_cons.mpr ⟨rfl, leads⟩⟩
          rw [wordsOf_joined part joined, first, prepend]

theorem flatten_wordsOf (chars : List Char) :
    (wordsOf chars).flatten = chars.filter fun c => classify c ≠ .separator := by
  induction chars with
  | nil => rfl
  | cons c rest ih =>
      by_cases part : classify c = .separator
      · rw [wordsOf_separator part, ih, List.filter_cons_of_neg (by simp [part])]
      · rw [List.filter_cons_of_pos (by simp [part]), ← ih]
        cases joined : joins c rest with
        | true => rw [wordsOf_joined part joined, flatten_prepend]
        | false => rw [wordsOf_parted part joined, List.flatten_cons, List.singleton_append]

namespace IsWord

variable {c d : Char} {word : List Char}

theorem ne_nil (isWord : IsWord word) : word ≠ [] := by
  cases isWord with
  | alike part nonempty all => exact nonempty
  | capitalized capital nonempty small => exact List.cons_ne_nil _ _

theorem classify_eq (isWord : IsWord (d :: word))
    (uncapitalized : classify d = .upper → word.head?.map classify ≠ some .lower) :
    ∀ e ∈ d :: word, classify e = classify d := by
  intro e listed
  cases isWord with
  | alike _ _ all => rw [all e listed, all d List.mem_cons_self]
  | capitalized capital nonempty small =>
      cases word with
      | nil => exact absurd rfl nonempty
      | cons first word =>
          apply absurd _ (uncapitalized capital)
          simp [small first List.mem_cons_self]

theorem cons (isWord : IsWord (d :: word)) (first : classify c ≠ .separator)
    (second : classify d ≠ .separator)
    (unbroken : breaks (classify c) (classify d) (word.head?.map classify) = false) :
    IsWord (c :: d :: word) := by
  cases unbroken_cases first second unbroken with
  | inl same =>
      obtain ⟨same, uncapitalized⟩ := same
      apply alike first (by simp)
      refine List.forall_mem_cons.mpr ⟨rfl, ?_⟩
      intro e listed
      rw [isWord.classify_eq uncapitalized e listed, same]
  | inr leads =>
      obtain ⟨capital, small⟩ := leads
      apply capitalized capital (by simp)
      intro e listed
      rw [isWord.classify_eq (by simp [small]) e listed, small]

end IsWord

theorem isWord_of_mem_wordsOf {chars word : List Char} (listed : word ∈ wordsOf chars) :
    IsWord word := by
  induction chars generalizing word with
  | nil => cases listed
  | cons c rest ih =>
      by_cases part : classify c = .separator
      · rw [wordsOf_separator part] at listed
        exact ih listed
      · cases joined : joins c rest with
        | false =>
            rw [wordsOf_parted part joined] at listed
            cases listed with
            | head => exact .alike part (by simp) (by simp)
            | tail _ later => exact ih later
        | true =>
            cases rest with
            | nil => cases joined
            | cons d rest =>
                obtain ⟨next, unbroken⟩ := joins_cons_iff.mp joined
                obtain ⟨tail, words, split, leads⟩ := @exists_wordsOf_cons d rest next
                rw [wordsOf_joined part joined, split, prepend] at listed
                cases listed with
                | tail _ later => exact ih (split ▸ List.mem_cons_of_mem _ later)
                | head =>
                    apply IsWord.cons (ih (split ▸ List.mem_cons_self)) part next
                    exact unbroken_of_prefix leads unbroken

theorem prepend_append (c : Char) {words : List (List Char)} (nonempty : words ≠ [])
    (others : List (List Char)) : prepend c (words ++ others) = prepend c words ++ others := by
  cases words with
  | nil => exact absurd rfl nonempty
  | cons word words => rfl

theorem joins_append_separator {c separator : Char} (parts : classify separator = .separator)
    (rest after : List Char) : joins c (rest ++ separator :: after) = joins c rest := by
  cases rest with
  | nil => simp [joins, parts]
  | cons d rest =>
      cases rest with
      | nil => simp [joins, parts, breaks_separator]
      | cons e rest => rfl

theorem wordsOf_append_separator {separator : Char} (parts : classify separator = .separator)
    (before after : List Char) :
    wordsOf (before ++ separator :: after) = wordsOf before ++ wordsOf after := by
  induction before with
  | nil => rw [List.nil_append, wordsOf_separator parts, wordsOf_nil, List.nil_append]
  | cons c rest ih =>
      rw [List.cons_append]
      by_cases part : classify c = .separator
      · rw [wordsOf_separator part, wordsOf_separator part, ih]
      · cases joined : joins c rest with
        | false =>
            rw [wordsOf_parted part joined, wordsOf_parted part, ih, List.cons_append]
            rw [joins_append_separator parts, joined]
        | true =>
            rw [wordsOf_joined part joined, wordsOf_joined part, ih, prepend_append]
            · cases rest with
              | nil => cases joined
              | cons d rest =>
                  obtain ⟨tail, words, split, -⟩ :=
                    @exists_wordsOf_cons d rest (joins_cons_iff.mp joined).1
                  simp [split]
            · rw [joins_append_separator parts, joined]

theorem toList_join_words (s : String) :
    (String.join (words s)).toList = (wordsOf s.toList).flatten := by
  simp [String.toList_join, words, List.flatMap_map]

/-- The words of a name are the name without its separators, each of them is a word, and separators
part them. -/
theorem words_without_separators :
    (∀ s, String.join (words s) = String.ofList (s.toList.filter (classify · ≠ .separator))) ∧
      (∀ s, ∀ word ∈ words s, IsWord word.toList) ∧
      ∀ before separator after, classify separator = .separator →
        words (before ++ String.singleton separator ++ after) = words before ++ words after := by
  refine ⟨?_, ?_, ?_⟩
  · intro s
    apply String.toList_injective
    rw [toList_join_words, flatten_wordsOf, String.toList_ofList]
  · intro s word listed
    obtain ⟨chars, known, rfl⟩ := List.mem_map.mp listed
    rw [String.toList_ofList]
    exact isWord_of_mem_wordsOf known
  · intro before separator after parts
    rw [words, words, words, ← List.map_append, ← wordsOf_append_separator parts]
    simp

theorem words_parser_v2 :
    classify '_' = .separator ∧ "HTML" ∈ words "HTMLParser" ∧ IsWord "HTML".toList ∧
      words ("HTMLParser" ++ String.singleton '_' ++ "v2") = words "HTMLParser" ++ words "v2" := by
  have parts : classify '_' = .separator := by decide
  have listed : "HTML" ∈ words "HTMLParser" := by decide +kernel
  exact ⟨parts, listed, words_without_separators.2.1 _ _ listed,
    words_without_separators.2.2 _ _ _ parts⟩

end Modelwright.Naming
