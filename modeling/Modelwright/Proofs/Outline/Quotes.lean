import Modelwright.Proofs.Outline.Line

namespace Modelwright.Outline

open Modelwright.Text

/-! Triple quotes in a text of several parts. -/

def triple (quote : Char) : List Char :=
  List.replicate 3 quote

theorem mem_tripleQuotes_iff {part : List Char} :
    part ∈ tripleQuotes ↔ ∃ quote, isQuote quote = true ∧ part = triple quote := by
  simp [tripleQuotes, triple, isQuote_iff]

/-- No run of the quote goes from the first text into the second. -/
def Apart (quote : Char) (first second : List Char) : Prop :=
  first.getLast? ≠ some quote ∨ second.head? ≠ some quote

namespace Apart

variable {quote : Char} {first second : List Char}

theorem tail {c : Char} (apart : Apart quote (c :: first) second) : Apart quote first second := by
  rcases apart with last | next
  · cases first with
    | nil => exact .inl (by simp)
    | cons d rest => exact .inl (by simpa using last)
  · exact .inr next

theorem append_left (before : List Char) (apart : Apart quote first second)
    (something : first ≠ []) : Apart quote (before ++ first) second := by
  rcases apart with last | next
  · refine .inl ?_
    rwa [List.getLast?_append, List.getLast?_eq_some_getLast something, Option.some_or,
      ← List.getLast?_eq_some_getLast something]
  · exact .inr next

theorem append_right (after : List Char) (apart : Apart quote first second)
    (something : second ≠ []) : Apart quote first (second ++ after) := by
  rcases apart with last | next
  · exact .inl last
  · refine .inr ?_
    rwa [List.head?_append, List.head?_eq_some_head something, Option.some_or,
      ← List.head?_eq_some_head something]

end Apart

section Occurrences

variable {quote : Char} {first second : List Char}

theorem startsWith_append (apart : Apart quote first second) (something : first ≠ []) :
    startsWith (triple quote) (first ++ second) = startsWith (triple quote) first := by
  rw [Bool.eq_iff_iff, startsWith_iff, startsWith_iff]
  refine ⟨fun starts => ?_, fun starts => starts.trans (List.prefix_append first second)⟩
  by_cases short : (triple quote).length ≤ first.length
  · exact List.prefix_of_prefix_length_le starts (List.prefix_append first second) short
  · -- The triple quote would end in the second text.
    obtain ⟨rest, split⟩ := List.prefix_of_prefix_length_le (List.prefix_append first second)
      starts (Nat.le_of_not_le short)
    have same : ∀ c ∈ first ++ rest, c = quote := fun c member =>
      List.eq_of_mem_replicate (split ▸ member)
    rw [← split, List.prefix_append_right_inj] at starts
    have last : first.getLast? = some quote := by
      rw [List.getLast?_eq_some_getLast something,
        same _ (List.mem_append_left rest (List.getLast_mem something))]
    cases rest with
    | nil => simp [← split] at short
    | cons c more =>
        obtain ⟨after, rfl⟩ := starts
        have next : c = quote := same c (List.mem_append_right first List.mem_cons_self)
        rcases apart with other | other
        · exact absurd last other
        · exact absurd (congrArg some next) other

theorem indexOf?_append (apart : Apart quote first second) :
    indexOf? (triple quote) (first ++ second) =
      (indexOf? (triple quote) first).or
        ((indexOf? (triple quote) second).map (· + first.length)) := by
  induction first with
  | nil => simp [indexOf?, triple]
  | cons c rest ih =>
      rw [List.cons_append, indexOf?, ← List.cons_append,
        startsWith_append apart (List.cons_ne_nil c rest), ih apart.tail, indexOf?]
      cases startsWith (triple quote) (c :: rest) with
      | true => rfl
      | false =>
          cases indexOf? (triple quote) rest with
          | some index => rfl
          | none =>
              cases indexOf? (triple quote) second with
              | some index => simp [Nat.add_assoc]
              | none => rfl

theorem occurrencesFrom_append (apart : Apart quote first second) {skip : Nat}
    (within : skip ≤ first.length) :
    occurrencesFrom (triple quote) skip (first ++ second) =
      occurrencesFrom (triple quote) skip first + occurrences (triple quote) second := by
  induction first generalizing skip with
  | nil =>
      obtain rfl := Nat.le_zero.mp within
      simp [occurrencesFrom, occurrences]
  | cons c rest ih =>
      cases skip with
      | succ k =>
          exact ih apart.tail (Nat.le_of_succ_le_succ within)
      | zero =>
          have same := startsWith_append apart (List.cons_ne_nil c rest)
          rw [List.cons_append] at same ⊢
          rw [occurrencesFrom, same, occurrencesFrom]
          cases starts : startsWith (triple quote) (c :: rest) with
          | false => simpa using ih apart.tail (Nat.zero_le _)
          | true =>
              -- A whole triple quote lies in the first text.
              have long := (startsWith_iff.mp starts).length_le
              have enough : (triple quote).length - 1 ≤ rest.length := by
                simp only [triple, List.length_replicate, List.length_cons] at long ⊢
                omega
              simp only [if_true, ih apart.tail enough]
              omega

theorem occurrences_append (apart : Apart quote first second) :
    occurrences (triple quote) (first ++ second) =
      occurrences (triple quote) first + occurrences (triple quote) second :=
  occurrencesFrom_append apart (Nat.zero_le _)

end Occurrences

theorem not_holds_of_inside {part text inner : List Char} (absent : holds part text = false)
    (inside : inner <:+: text) : holds part inner = false := by
  rw [← Bool.not_eq_true, holds_iff] at absent ⊢
  exact fun found => absent (found.trans inside)

theorem not_holds_of_starts {part text start : List Char} (absent : holds part text = false)
    (starts : start <+: text) : holds part start = false :=
  not_holds_of_inside absent starts.isInfix

theorem not_holds_of_later {part before later : List Char} {c : Char}
    (absent : holds part (before ++ c :: later) = false) : holds part later = false :=
  not_holds_of_inside absent ((List.suffix_cons c later).trans (List.suffix_append _ _)).isInfix

theorem occurrences_of_not_holds {part text : List Char} (absent : holds part text = false) :
    occurrences part text = 0 := by
  unfold occurrences
  induction text with
  | nil => rfl
  | cons c rest ih =>
      rw [holds, indexOf?] at absent
      rw [occurrencesFrom]
      cases starts : startsWith part (c :: rest) with
      | true => simp [starts] at absent
      | false =>
          have later : holds part rest = false := by simpa [starts, holds] using absent
          simpa using ih later

theorem indexOf?_of_not_holds {part text : List Char} (absent : holds part text = false) :
    indexOf? part text = none := by
  simpa [holds] using absent

theorem indexOf?_lt {part text : List Char} {index : Nat} (something : part ≠ [])
    (found : indexOf? part text = some index) : index < text.length := by
  induction text generalizing index with
  | nil => simp [indexOf?, something] at found
  | cons c rest ih =>
      rw [indexOf?] at found
      split at found
      · cases found
        exact Nat.zero_lt_succ _
      · obtain ⟨before, later, rfl⟩ := Option.map_eq_some_iff.mp found
        exact Nat.succ_lt_succ (ih later)

theorem openQuote?_eq_none_iff {text : List Char} :
    openQuote? text = none ↔ ∀ part ∈ tripleQuotes, occurrences part text % 2 = 0 := by
  have even : (∀ part ∈ tripleQuotes, occurrences part text % 2 = 0) ↔
      tripleQuotes.filter (fun part => occurrences part text % 2 == 1) = [] := by
    simp [List.filter_eq_nil_iff]
  rw [even, openQuote?]
  split
  · simp_all
  · simp_all
  · next both =>
      rw [both]
      split
      · simp
      · simp

theorem openQuote?_of_only {text quote : List Char} (listed : quote ∈ tripleQuotes)
    (odd : occurrences quote text % 2 = 1)
    (others : ∀ other ∈ tripleQuotes, other ≠ quote → occurrences other text % 2 = 0) :
    openQuote? text = some quote := by
  have once : ∀ part ∈ tripleQuotes, tripleQuotes.filter (· == part) = [part] := by decide
  have only : tripleQuotes.filter (fun part => occurrences part text % 2 == 1) = [quote] := by
    rw [← once quote listed]
    refine List.filter_congr fun part member => ?_
    by_cases same : part = quote
    · simp [same, odd]
    · simp [same, others part member same]
  rw [openQuote?, only]

/-- Of two places, each before a border or at a distance behind it, the order does not depend on
where the border is. -/
theorem lt_iff_of_border {early other late last : Option Nat} {border next : Nat}
    (earlyBefore : ∀ place ∈ early, place < border ∧ place < next)
    (otherBefore : ∀ place ∈ other, place < border ∧ place < next)
    (inside : 0 < border ∧ 0 < next) :
    (early.or (late.map (· + border))).getD 0 < (other.or (last.map (· + border))).getD 0 ↔
      (early.or (late.map (· + next))).getD 0 < (other.or (last.map (· + next))).getD 0 := by
  cases early with
  | some place =>
      have before := earlyBefore place rfl
      cases other with
      | some second => rfl
      | none =>
          cases last with
          | none => rfl
          | some distance =>
              simp only [Option.some_or, Option.none_or, Option.map_some, Option.getD_some]
              omega
  | none =>
      cases other with
      | some second =>
          have before := otherBefore second rfl
          cases late with
          | none => rfl
          | some distance =>
              simp only [Option.some_or, Option.none_or, Option.map_some, Option.getD_some]
              omega
      | none =>
          cases late with
          | none =>
              cases last with
              | none => rfl
              | some distance =>
                  simp only [Option.none_or, Option.map_some, Option.map_none, Option.getD_some,
                    Option.getD_none]
                  omega
          | some distance =>
              cases last with
              | none =>
                  simp only [Option.none_or, Option.map_some, Option.map_none, Option.getD_some,
                    Option.getD_none]
                  omega
              | some beyond =>
                  simp only [Option.none_or, Option.map_some, Option.getD_some]
                  omega

/-- A text with a part in the middle that no run of quotes leads into or out of. -/
structure Bordered (before middle after : List Char) : Prop where
  something : middle ≠ []
  enters : ∀ quote, isQuote quote = true → Apart quote before middle
  leaves : ∀ quote, isQuote quote = true → Apart quote middle after

namespace Bordered

variable {before middle after part : List Char}

theorem occurrences_eq (bordered : Bordered before middle after) (listed : part ∈ tripleQuotes) :
    occurrences part (before ++ middle ++ after) =
      occurrences part before + occurrences part middle + occurrences part after := by
  obtain ⟨quote, quoted, rfl⟩ := mem_tripleQuotes_iff.mp listed
  rw [occurrences_append ((bordered.leaves quote quoted).append_left before bordered.something),
    occurrences_append (bordered.enters quote quoted)]

theorem indexOf?_eq (bordered : Bordered before middle after) (listed : part ∈ tripleQuotes) :
    indexOf? part (before ++ middle ++ after) =
      ((indexOf? part before).or ((indexOf? part middle).map (· + before.length))).or
        ((indexOf? part after).map (· + (before ++ middle).length)) := by
  obtain ⟨quote, quoted, rfl⟩ := mem_tripleQuotes_iff.mp listed
  rw [indexOf?_append ((bordered.leaves quote quoted).append_left before bordered.something),
    indexOf?_append (bordered.enters quote quoted)]

theorem early_lt (listed : part ∈ tripleQuotes) {place : Nat}
    (early : place ∈ (indexOf? part before).or ((indexOf? part middle).map (· + before.length))) :
    place < (before ++ middle).length := by
  obtain ⟨quote, -, rfl⟩ := mem_tripleQuotes_iff.mp listed
  have something : triple quote ≠ [] := List.cons_ne_nil _ _
  rw [List.length_append]
  rcases Option.or_eq_some_iff.mp early with first | ⟨-, second⟩
  · have := indexOf?_lt something first
    omega
  · obtain ⟨index, found, rfl⟩ := Option.map_eq_some_iff.mp second
    have := indexOf?_lt something found
    omega

theorem indexOf?_lt_iff {first second earlier later : List Char}
    (one : Bordered before first after) (other : Bordered before second after)
    (index : ∀ part ∈ tripleQuotes, indexOf? part first = indexOf? part second)
    (earlierListed : earlier ∈ tripleQuotes) (laterListed : later ∈ tripleQuotes) :
    (indexOf? later (before ++ first ++ after)).getD 0 <
        (indexOf? earlier (before ++ first ++ after)).getD 0 ↔
      (indexOf? later (before ++ second ++ after)).getD 0 <
        (indexOf? earlier (before ++ second ++ after)).getD 0 := by
  have inside : ∀ part ∈ tripleQuotes, ∀ place ∈ (indexOf? part before).or
      ((indexOf? part second).map (· + before.length)),
      place < (before ++ first).length ∧ place < (before ++ second).length := by
    intro part listed place early
    refine ⟨?_, early_lt listed early⟩
    rw [← index part listed] at early
    exact early_lt listed early
  have something : 0 < (before ++ first).length ∧ 0 < (before ++ second).length :=
    ⟨List.length_pos_iff.mpr (List.append_ne_nil_of_right_ne_nil before one.something),
      List.length_pos_iff.mpr (List.append_ne_nil_of_right_ne_nil before other.something)⟩
  rw [one.indexOf?_eq laterListed, one.indexOf?_eq earlierListed, other.indexOf?_eq laterListed,
    other.indexOf?_eq earlierListed, index later laterListed, index earlier earlierListed]
  exact lt_iff_of_border (inside later laterListed) (inside earlier earlierListed) something

end Bordered

theorem openQuote?_middle {before first second after : List Char}
    (one : Bordered before first after) (other : Bordered before second after)
    (count : ∀ part ∈ tripleQuotes, occurrences part first = occurrences part second)
    (index : ∀ part ∈ tripleQuotes, indexOf? part first = indexOf? part second) :
    openQuote? (before ++ first ++ after) = openQuote? (before ++ second ++ after) := by
  have parity : tripleQuotes.filter
        (fun part => occurrences part (before ++ first ++ after) % 2 == 1) =
      tripleQuotes.filter
        (fun part => occurrences part (before ++ second ++ after) % 2 == 1) := by
    refine List.filter_congr fun part listed => ?_
    rw [one.occurrences_eq listed, other.occurrences_eq listed, count part listed]
  rw [openQuote?, parity, openQuote?]
  split
  · rfl
  · rfl
  · next earlier later rest both =>
      have kept : ∀ part ∈ earlier :: later :: rest, part ∈ tripleQuotes := fun part member =>
        (List.mem_filter.mp (both ▸ member)).1
      have order := Bordered.indexOf?_lt_iff one other index (kept earlier List.mem_cons_self)
        (kept later (List.mem_cons_of_mem _ List.mem_cons_self))
      exact if_congr order rfl rfl

end Modelwright.Outline
