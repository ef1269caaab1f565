import Modelwright.Proofs.Target.Escapes
import Modelwright.Proofs.Target.Literals
import Modelwright.Proofs.Target.SourceText

namespace Modelwright.Target

open Modelwright.Text
open Modelwright.Outline (trimEnd_starts)

/-! Documentation strings read back. -/

theorem delimiter_long : (singleQuoted true).delimiter = ['\'', '\'', '\''] := rfl

theorem inside_of_quotesAhead {chars : List Char} (few : quotesAhead chars ≤ 2) :
    dropLiteral? (singleQuoted true).delimiter chars = none := by
  refine Option.eq_none_iff_forall_ne_some.mpr fun rest found => ?_
  have split := dropLiteral?_eq_some_iff.mp found
  rw [split, delimiter_long] at few
  simp only [quotesAhead, List.cons_append, List.takeWhile_cons, decide_true, if_true,
    List.length_cons] at few
  omega

theorem quotesAhead_append (chars : List Char) {rest : List Char} (apart : rest.head? ≠ some '\'') :
    quotesAhead (chars ++ rest) = quotesAhead chars := by
  induction chars with
  | nil =>
      cases rest with
      | nil => rfl
      | cons c more =>
          have other : c ≠ '\'' := fun same => apart (congrArg some same)
          simp [quotesAhead, other]
  | cons c more ih =>
      by_cases quote : c = '\''
      · simpa [quotesAhead, quote] using ih
      · simp [quotesAhead, quote]

theorem quotesAhead_docText_le (chars : List Char) :
    quotesAhead (docText chars) ≤ quotesAhead chars := by
  induction chars using breakQuotes.induct with
  | case1 rest ih => simp [docText_quotes, quotesAhead]
  | case2 c rest apart ih =>
      by_cases escape : c = '\\'
      · simp [escape, docText_backslash, quotesAhead]
      · rw [docText_cons escape apart]
        by_cases quote : c = '\''
        · simpa [quotesAhead, quote] using ih
        · simp [quotesAhead, quote]
  | case3 => exact Nat.le_refl _

theorem contents?_plain {chars : List Char} (rest : List Char)
    (plain : ∀ c ∈ chars, c ≠ '\'' ∧ c ≠ '\\') :
    contents? (singleQuoted true) (chars ++ rest) =
      prepend chars (contents? (singleQuoted true) rest) := by
  induction chars with
  | nil => rw [List.nil_append, prepend_nil]
  | cons c more ih =>
      obtain ⟨⟨noQuote, noEscape⟩, others⟩ := List.forall_mem_cons.mp plain
      have inside : dropLiteral? (singleQuoted true).delimiter (c :: (more ++ rest)) = none :=
        inside_of_quotesAhead (by simp [quotesAhead, noQuote])
      rw [List.cons_append, contents?_cons inside noEscape rfl, ih others, prepend_prepend,
        List.singleton_append]

/-- Documentation says what it was written for, unless a quote follows that could close it. -/
theorem contents?_docText (chars : List Char) {rest : List Char}
    (apart : rest.head? ≠ some '\'') :
    contents? (singleQuoted true) (docText chars ++ rest) =
      prepend chars (contents? (singleQuoted true) rest) := by
  induction chars using breakQuotes.induct with
  | case1 more ih =>
      -- The third quote is escaped, so the two before it close nothing.
      have first : dropLiteral? (singleQuoted true).delimiter
          ('\'' :: '\'' :: '\\' :: '\'' :: (docText more ++ rest)) = none := rfl
      have second : dropLiteral? (singleQuoted true).delimiter
          ('\'' :: '\\' :: '\'' :: (docText more ++ rest)) = none := rfl
      have third : escape? ('\'' :: (docText more ++ rest)) =
          some (['\''], docText more ++ rest) := rfl
      rw [docText_quotes]
      simp only [List.cons_append]
      rw [contents?_cons first (by decide) rfl, contents?_cons second (by decide) rfl,
        contents?_escape third, ih, prepend_prepend, prepend_prepend, prepend_prepend]
      rfl
  | case2 c more alone ih =>
      by_cases escape : c = '\\'
      · have pair : escape? ('\\' :: (docText more ++ rest)) =
            some (['\\'], docText more ++ rest) := rfl
        rw [escape, docText_backslash, List.cons_append, List.cons_append, contents?_escape pair,
          ih, prepend_prepend, List.singleton_append]
      · -- Were there three quotes ahead, the third would have been escaped.
        have few : quotesAhead (c :: (docText more ++ rest)) ≤ 2 := by
          by_cases quote : c = '\''
          · have ahead := quotesAhead_docText_le more
            have alone : quotesAhead more ≤ 1 := quotesAhead_le_one (alone · quote)
            have grown : quotesAhead (c :: (docText more ++ rest)) =
                quotesAhead (docText more) + 1 := by
              rw [← quotesAhead_append (docText more) apart]
              simp [quotesAhead, quote]
            omega
          · simp [quotesAhead, quote]
        rw [docText_cons escape alone, List.cons_append,
          contents?_cons (inside_of_quotesAhead few) escape rfl, ih, prepend_prepend,
          List.singleton_append]
  | case3 => exact (prepend_nil _).symm

theorem map_feed_docText (chars : List Char) :
    (docText chars).map feed = docText (chars.map feed) := by
  have quoted {c : Char} : feed c = '\'' ↔ c = '\'' := feed_eq_iff (by decide) (by decide)
  induction chars using breakQuotes.induct with
  | case1 more ih =>
      rw [docText_quotes, List.map_cons, List.map_cons, List.map_cons, List.map_cons, ih]
      exact (docText_quotes _).symm
  | case2 c more alone ih =>
      by_cases escape : c = '\\'
      · rw [escape, docText_backslash, List.map_cons, List.map_cons, ih]
        exact (docText_backslash _).symm
      · have fed : feed c ≠ '\\' := mt (feed_eq_iff (by decide) (by decide)).mp escape
        rw [docText_cons escape alone, List.map_cons, List.map_cons, ih, docText_cons fed]
        intro others first follow
        obtain ⟨second, _, rfl, isQuote, follow⟩ := List.map_eq_cons_iff.mp follow
        obtain ⟨third, rest, rfl, isThird, -⟩ := List.map_eq_cons_iff.mp follow
        rw [quoted.mp isQuote, quoted.mp isThird] at alone
        exact alone rest (quoted.mp first) rfl
  | case3 => rfl

theorem getLast?_docText (chars : List Char) : (docText chars).getLast? = chars.getLast? := by
  induction chars using breakQuotes.induct with
  | case1 more ih => simp only [docText_quotes, List.getLast?_cons, Option.getD_some, ih]
  | case2 c more alone ih =>
      by_cases escape : c = '\\'
      · simp only [escape, docText_backslash, List.getLast?_cons, Option.getD_some, ih]
      · simp only [docText_cons escape alone, List.getLast?_cons, ih]
  | case3 => rfl

theorem mem_docText_iff {c : Char} (other : c ≠ '\\') {chars : List Char} :
    c ∈ docText chars ↔ c ∈ chars := by
  have broken (text : List Char) : c ∈ breakQuotes text ↔ c ∈ text := by
    induction text using breakQuotes.induct with
    | case1 more ih => simp [breakQuotes, ih, other]
    | case2 d more alone ih => simp [breakQuotes, ih]
    | case3 => rfl
  rw [docText, broken]
  induction chars with
  | nil => rfl
  | cons d more ih =>
      have here : (c ∈ if d = '\\' then ['\\', '\\'] else [d]) ↔ c = d := by
        split
        · next escape => simp [escape, other]
        · simp
      exact List.mem_append.trans ((or_congr here ih).trans List.mem_cons.symm)

/-- A part of a documentation string as it is seen in the string: without the white space at its
end, and indented unless nothing is left. -/
def shownLine (margin part : List Char) : List Char :=
  if trimEnd part = [] then [] else margin ++ trimEnd part

/-- What a documentation string says between its first line and its last. -/
def shownLines (margin : List Char) (body : List String) : List (List Char) :=
  (body.flatMap fun text => pieces '\n' text.toList).map (shownLine margin)

def Shows (written shown : List Char) : Prop :=
  ∀ rest, contents? (singleQuoted true) (written ++ '\n' :: rest) =
    prepend shown (contents? (singleQuoted true) ('\n' :: rest))

theorem plain_margin {margin : List Char} (blank : ∀ c ∈ margin, c = ' ') :
    ∀ c ∈ margin, c ≠ '\'' ∧ c ≠ '\\' := by
  intro c member
  rw [blank c member]
  decide

theorem map_feed_margin {margin : List Char} (blank : ∀ c ∈ margin, c = ' ') :
    margin.map feed = margin := by
  have same : ∀ c ∈ margin, feed c = id c := by
    intro c member
    rw [blank c member]
    rfl
  rw [List.map_congr_left same, List.map_id]

theorem docText_ne_nil {chars : List Char} (some : chars ≠ []) : docText chars ≠ [] := by
  induction chars using breakQuotes.induct with
  | case1 more ih =>
      rw [docText_quotes]
      exact List.cons_ne_nil _ _
  | case2 c more apart ih =>
      by_cases escape : c = '\\'
      · rw [escape, docText_backslash]
        exact List.cons_ne_nil _ _
      · rw [docText_cons escape apart]
        exact List.cons_ne_nil _ _
  | case3 => exact absurd rfl some

theorem toList_docLine (margin part : List Char) :
    (docLine (String.ofList margin) part).toList =
      if trimEnd part = [] then [] else margin ++ docText (trimEnd part) := by
  unfold docLine
  dsimp only
  by_cases empty : trimEnd part = []
  · have none : (docText (trimEnd part)).isEmpty = true := by
      rw [empty]
      rfl
    rw [if_pos none, if_pos empty]
    rfl
  · have some : ¬ (docText (trimEnd part)).isEmpty = true := by
      rw [List.isEmpty_iff]
      exact docText_ne_nil empty
    rw [if_neg some, if_neg empty, String.toList_append, String.toList_ofList,
      String.toList_ofList]

theorem mem_docLine_iff {c : Char} (other : c ≠ '\\') {margin part : List Char} :
    c ∈ (docLine (String.ofList margin) part).toList ↔ c ∈ shownLine margin part := by
  rw [toList_docLine, shownLine]
  split
  · rfl
  · rw [List.mem_append, List.mem_append, mem_docText_iff other]

theorem getLast?_docLine_ne_return (margin part : List Char) :
    (docLine (String.ofList margin) part).toList.getLast? ≠ some '\r' := by
  rw [toList_docLine]
  split
  · simp
  · next some =>
      have ends : (margin ++ docText (trimEnd part)).getLast? = (trimEnd part).getLast? := by
        rw [List.getLast?_append_of_ne_nil _ (docText_ne_nil some), getLast?_docText]
      rw [ends]
      intro last
      have blank : isBlank '\r' = false := not_isBlank_of_getLast?_trimEnd last
      exact absurd blank (by decide)

/-- A line is shown as it is read, that is, broken at its carriage returns. -/
theorem shows_docLine {margin : List Char} (blank : ∀ c ∈ margin, c = ' ') (part : List Char) :
    Shows ((docLine (String.ofList margin) part).toList.map feed)
      ((shownLine margin part).map feed) := by
  intro rest
  rw [toList_docLine, shownLine]
  split
  · exact (prepend_nil _).symm
  · rw [List.map_append, List.map_append, map_feed_margin blank, map_feed_docText,
      List.append_assoc, contents?_plain _ (plain_margin blank), contents?_docText _ (by simp),
      prepend_prepend]

theorem contents?_break (rest : List Char) :
    contents? (singleQuoted true) ('\n' :: rest) =
      prepend ['\n'] (contents? (singleQuoted true) rest) :=
  contents?_cons rfl (by decide) rfl

theorem contents?_join {written shown : List (List Char)}
    (shows : List.Forall₂ Shows written shown) {margin : List Char}
    (plain : ∀ c ∈ margin, c ≠ '\'' ∧ c ≠ '\\') (rest : List Char) :
    contents? (singleQuoted true)
        (join '\n' (written ++ [margin ++ (singleQuoted true).delimiter]) ++ rest) =
      some (join '\n' (shown ++ [margin]), rest) := by
  induction shows with
  | nil =>
      simp only [List.nil_append, join_singleton, List.append_assoc]
      rw [contents?_plain _ plain, contents?_close, prepend_some, List.append_nil]
  | cons first others ih =>
      rw [List.cons_append, List.cons_append, join_cons (by simp), join_cons (by simp),
        List.append_assoc, List.cons_append, first, contents?_break, ih]
      simp

theorem shows_docBody {margin : List Char} (blank : ∀ c ∈ margin, c = ' ') (body : List String) :
    List.Forall₂ Shows
      ((docBody (String.ofList margin) body).map fun line => line.toList.map feed)
      ((shownLines margin body).map (List.map feed)) := by
  rw [docBody, shownLines, ← List.map_flatMap, List.map_map, List.map_map,
    List.forall₂_map_left_iff, List.forall₂_map_right_iff, List.forall₂_same]
  exact fun part _ => shows_docLine blank part

theorem mem_docBody {margin : List Char} {body : List String} {line : String}
    (listed : line ∈ docBody (String.ofList margin) body) :
    ∃ part, '\n' ∉ part ∧ shownLine margin part ∈ shownLines margin body ∧
      line = docLine (String.ofList margin) part := by
  obtain ⟨text, known, made⟩ := List.mem_flatMap.mp listed
  obtain ⟨part, piece, rfl⟩ := List.mem_map.mp made
  exact ⟨part, not_mem_of_mem_pieces piece,
    List.mem_map_of_mem (List.mem_flatMap.mpr ⟨text, known, piece⟩), rfl⟩

theorem break_not_mem_shownLine {margin part : List Char} (whole : '\n' ∉ margin)
    (wholePart : '\n' ∉ part) : '\n' ∉ shownLine margin part := by
  unfold shownLine
  split
  · exact List.not_mem_nil
  · intro member
    rcases List.mem_append.mp member with first | later
    · exact whole first
    · exact wholePart ((trimEnd_starts part).subset later)

/-- What the triple-quoted string says that stands at the start of a source text, and the text
behind it. -/
def documentation? (source : List Char) : Option (List Char × List Char) := do
  let chars ← sourceText? source
  let inside ← dropLiteral? (singleQuoted true).delimiter (chars.dropWhile (· = ' '))
  contents? (singleQuoted true) inside

def documentationText (margin : List Char) (body : List String) : List Char :=
  ("\n".intercalate (docLines (String.ofList margin) body)).toList

/-- The lines of a documentation string as characters, without the first. -/
def documentationLines (margin : List Char) (body : List String) : List (List Char) :=
  (docBody (String.ofList margin) body).map String.toList ++
    [margin ++ (singleQuoted true).delimiter]

theorem documentationText_eq_join (margin : List Char) (body : List String) :
    documentationText margin body =
      join '\n' ((margin ++ (singleQuoted true).delimiter) :: documentationLines margin body) := by
  have quotes : (String.ofList margin ++ "'''").toList =
      margin ++ (singleQuoted true).delimiter := by
    rw [String.toList_append, String.toList_ofList]
    rfl
  rw [documentationText, toList_intercalate_newline, docLines, documentationLines, List.map_append,
    List.map_cons, List.map_singleton, quotes, List.cons_append]

section Whole

variable {margin : List Char} {body : List String}

theorem null_mem_documentationText_iff (blank : ∀ c ∈ margin, c = ' ') :
    '\x00' ∈ documentationText margin body ↔ ∃ line ∈ shownLines margin body, '\x00' ∈ line := by
  have quotes : '\x00' ∉ margin ++ (singleQuoted true).delimiter := by
    intro member
    rcases List.mem_append.mp member with first | later
    · exact absurd (blank _ first) (by decide)
    · exact absurd later (by decide)
  rw [documentationText_eq_join, mem_join_iff (by decide), documentationLines]
  constructor
  · rintro ⟨line, listed, member⟩
    rcases List.mem_cons.mp listed with rfl | listed
    · exact absurd member quotes
    rcases List.mem_append.mp listed with listed | listed
    · obtain ⟨written, known, rfl⟩ := List.mem_map.mp listed
      obtain ⟨part, -, shown, rfl⟩ := mem_docBody known
      exact ⟨_, shown, (mem_docLine_iff (by decide)).mp member⟩
    · rw [List.mem_singleton.mp listed] at member
      exact absurd member quotes
  · rintro ⟨line, listed, member⟩
    obtain ⟨part, known, rfl⟩ := List.mem_map.mp listed
    have written : docLine (String.ofList margin) part ∈ docBody (String.ofList margin) body := by
      obtain ⟨text, within, piece⟩ := List.mem_flatMap.mp known
      exact List.mem_flatMap.mpr ⟨text, within, List.mem_map_of_mem piece⟩
    exact ⟨_, .tail _ (List.mem_append_left _ (List.mem_map_of_mem written)),
      (mem_docLine_iff (by decide)).mpr member⟩

theorem lineFeeds_documentationText (blank : ∀ c ∈ margin, c = ' ') (rest : List Char) :
    lineFeeds (documentationText margin body ++ rest) =
      join '\n' (((margin ++ (singleQuoted true).delimiter) ::
        documentationLines margin body).map (List.map feed)) ++ lineFeeds rest := by
  have quotes : '\n' ∉ margin ++ (singleQuoted true).delimiter ∧
      (margin ++ (singleQuoted true).delimiter).getLast? ≠ some '\r' := by
    constructor
    · intro member
      rcases List.mem_append.mp member with first | later
      · exact absurd (blank _ first) (by decide)
      · exact absurd later (by decide)
    · rw [delimiter_long, List.getLast?_append_of_ne_nil _ (by simp)]
      decide
  have sound : ∀ line ∈ (margin ++ (singleQuoted true).delimiter) :: documentationLines margin body,
      '\n' ∉ line ∧ line.getLast? ≠ some '\r' := by
    intro line listed
    rcases List.mem_cons.mp listed with rfl | listed
    · exact quotes
    rcases List.mem_append.mp listed with listed | listed
    · obtain ⟨written, known, rfl⟩ := List.mem_map.mp listed
      obtain ⟨part, whole, -, rfl⟩ := mem_docBody known
      refine ⟨fun member => ?_, getLast?_docLine_ne_return _ _⟩
      have shown := (mem_docLine_iff (by decide)).mp member
      refine break_not_mem_shownLine (fun first => ?_) whole shown
      exact absurd (blank _ first) (by decide)
    · rw [List.mem_singleton.mp listed]
      exact quotes
  rw [documentationText_eq_join]
  exact lineFeeds_join (by simp) (fun line listed => (sound line listed).1)
    (fun line listed => (sound line listed).2) rest

theorem map_feed_documentationLines (blank : ∀ c ∈ margin, c = ' ') :
    (documentationLines margin body).map (List.map feed) =
      ((docBody (String.ofList margin) body).map fun line => line.toList.map feed) ++
        [margin ++ (singleQuoted true).delimiter] := by
  rw [documentationLines, List.map_append, List.map_map, List.map_singleton, List.map_append,
    map_feed_margin blank]
  rfl

theorem documentation?_opening (blank : ∀ c ∈ margin, c = ' ') {source rest : List Char}
    (read : sourceText? source = some (margin ++ (singleQuoted true).delimiter ++ rest)) :
    documentation? source = contents? (singleQuoted true) rest := by
  have opening : dropLiteral? (singleQuoted true).delimiter
      ((margin ++ (singleQuoted true).delimiter ++ rest).dropWhile (· = ' ')) = some rest := by
    rw [List.append_assoc, List.dropWhile_append_of_pos (by simpa using blank)]
    rfl
  simp only [documentation?, read, Option.bind_eq_bind, Option.bind_some, opening]

theorem pieces_shown (blank : ∀ c ∈ margin, c = ' ') :
    pieces '\n' ('\n' :: join '\n' ((shownLines margin body).map (List.map feed) ++ [margin])) =
      [] :: (shownLines margin body).flatMap (pieces '\r') ++ [margin] := by
  have whole : '\n' ∉ margin := fun member => absurd (blank _ member) (by decide)
  have shown (line : List Char) (listed : line ∈ shownLines margin body) :
      pieces '\n' (line.map feed) = pieces '\r' line := by
    obtain ⟨part, known, rfl⟩ := List.mem_map.mp listed
    obtain ⟨text, -, piece⟩ := List.mem_flatMap.mp known
    exact pieces_map_feed (break_not_mem_shownLine whole (not_mem_of_mem_pieces piece))
  have joined : pieces '\n' (join '\n' ([] :: ((shownLines margin body).map (List.map feed) ++
      [margin]))) = _ := pieces_join_eq_flatMap (List.cons_ne_nil _ _)
  rw [join_cons (by simp), List.nil_append] at joined
  rw [joined, List.flatMap_cons, List.flatMap_append, List.flatMap_map, List.flatMap_congr shown,
    List.flatMap_singleton, pieces_of_not_mem whole]
  rfl

/-- The string closes at its last line.  It says between its quotes what it was written for, broken
at the carriage returns as well. -/
theorem documentation?_breaks (blank : ∀ c ∈ margin, c = ' ') {rest : List Char}
    (sound : '\x00' ∉ documentationText margin body ++ rest) :
    (documentation? (documentationText margin body ++ rest)).map (Prod.map (pieces '\n') id) =
      some ([] :: (shownLines margin body).flatMap (pieces '\r') ++ [margin], lineFeeds rest) := by
  have read : sourceText? (documentationText margin body ++ rest) =
      some (margin ++ (singleQuoted true).delimiter ++
        '\n' :: (join '\n' (((docBody (String.ofList margin) body).map
          fun line => line.toList.map feed) ++ [margin ++ (singleQuoted true).delimiter]) ++
            lineFeeds rest)) := by
    rw [sourceText?, if_neg sound, lineFeeds_documentationText blank, List.map_cons,
      map_feed_documentationLines blank, join_cons (by simp), List.map_append,
      map_feed_margin blank, List.append_assoc, List.cons_append]
    rfl
  rw [documentation?_opening blank read, contents?_break,
    contents?_join (shows_docBody blank body) (plain_margin blank), prepend_some, Option.map_some,
    Prod.map_apply, List.singleton_append, pieces_shown blank]
  rfl

theorem documentation?_eq_none {source : List Char} (null : '\x00' ∈ source) :
    documentation? source = none := by
  simp only [documentation?, sourceText?, if_pos null, Option.bind_eq_bind, Option.bind_none]

end Whole

/-- No part of the body shows a character that a source text does not keep. -/
def KeepsParts (body : List String) : Prop :=
  ∀ text ∈ body, ∀ part ∈ pieces '\n' text.toList,
    '\r' ∉ trimEnd part ∧ '\x00' ∉ trimEnd part

instance (body : List String) : Decidable (KeepsParts body) :=
  inferInstanceAs (Decidable (∀ text ∈ body, ∀ part ∈ pieces '\n' text.toList,
    '\r' ∉ trimEnd part ∧ '\x00' ∉ trimEnd part))

theorem keepsParts_iff {margin : List Char} (blank : ∀ c ∈ margin, c = ' ') {body : List String} :
    KeepsParts body ↔ ∀ line ∈ shownLines margin body, '\r' ∉ line ∧ '\x00' ∉ line := by
  have shown {c : Char} (other : c ≠ ' ') (part : List Char) :
      c ∉ shownLine margin part ↔ c ∉ trimEnd part := by
    have outside : c ∉ margin := fun member => other (blank c member)
    unfold shownLine
    split
    · next empty => rw [empty]
    · rw [List.mem_append, not_or]
      exact and_iff_right outside
  simp only [KeepsParts, shownLines, List.forall_mem_map, List.forall_mem_flatMap,
    shown (by decide : '\r' ≠ ' '), shown (by decide : '\x00' ≠ ' ')]

/-- A documentation string in a source text is read line by line as it was written for exactly if
no part of its body shows a carriage return or a null character.  Carriage returns break its lines,
and it still closes at the last of them; with a null character it is not read at all. -/
theorem documentation?_docLines_iff (spaces : Nat) (body : List String) (rest : List Char)
    (sound : '\x00' ∉ rest) :
    let margin := List.replicate spaces ' '
    let text := "\n".intercalate (docLines (String.ofList margin) body)
    let read := (documentation? (text.toList ++ rest)).map (Prod.map (pieces '\n') id)
    (read = some ([] :: shownLines margin body ++ [margin], lineFeeds rest) ↔ KeepsParts body) ∧
      ((∀ line ∈ shownLines margin body, '\x00' ∉ line) →
        read = some ([] :: (shownLines margin body).flatMap (pieces '\r') ++ [margin],
          lineFeeds rest)) ∧
      ((∃ line ∈ shownLines margin body, '\x00' ∈ line) → read = none) := by
  intro margin text read
  have blank : ∀ c ∈ margin, c = ' ' := fun c => List.eq_of_mem_replicate
  have null : '\x00' ∈ text.toList ++ rest ↔ ∃ line ∈ shownLines margin body, '\x00' ∈ line := by
    rw [List.mem_append, or_iff_left sound]
    exact null_mem_documentationText_iff blank
  have broken (kept : ∀ line ∈ shownLines margin body, '\x00' ∉ line) :
      read = some ([] :: (shownLines margin body).flatMap (pieces '\r') ++ [margin],
        lineFeeds rest) := by
    refine documentation?_breaks blank fun member => ?_
    obtain ⟨line, listed, held⟩ := null.mp member
    exact kept line listed held
  have refused (held : ∃ line ∈ shownLines margin body, '\x00' ∈ line) : read = none := by
    show Option.map _ (documentation? _) = none
    rw [documentation?_eq_none (null.mpr held), Option.map_none]
  refine ⟨?_, broken, refused⟩
  rw [keepsParts_iff blank]
  by_cases kept : ∀ line ∈ shownLines margin body, '\x00' ∉ line
  · rw [broken kept, Option.some.injEq, Prod.mk.injEq, and_iff_left rfl, List.cons_append,
      List.cons_append, List.cons.injEq, and_iff_right rfl, List.append_cancel_right_eq,
      flatMap_pieces_eq_self_iff]
    exact forall₂_congr fun line listed => (and_iff_left (kept line listed)).symm
  · rw [refused (by simpa using kept)]
    refine iff_of_false (by simp) fun both => kept fun line listed => (both line listed).2

theorem documentation?_quotes :
    '\x00' ∉ ['\n'] ∧ KeepsParts ["say '''hi''' ", "", "C:\\\nit's\r"] ∧
      (documentation? (("\n".intercalate (docLines "    " ["say '''hi''' ", "",
          "C:\\\nit's\r"])).toList ++ ['\n'])).map (Prod.map (pieces '\n') id) =
        some ([[], "    say '''hi'''".toList, [], "    C:\\".toList, "    it's".toList,
          "    ".toList], ['\n']) := by
  have sound : '\x00' ∉ ['\n'] := by decide
  have keeps : KeepsParts ["say '''hi''' ", "", "C:\\\nit's\r"] := by decide +kernel
  exact ⟨sound, keeps, (documentation?_docLines_iff 4 _ _ sound).1.mpr keeps⟩

/-- A carriage return inside of a part: the source text ends a line there. -/
theorem line_broken_at_return :
    let text := "\n".intercalate (docLines "    " ["a\rb"])
    (documentation? text.toList).map (Prod.map (pieces '\n') id) =
        some ([[], "    a".toList, ['b'], "    ".toList], []) ∧
      [] :: shownLines "    ".toList ["a\rb"] ++ ["    ".toList] =
        [[], "    a\rb".toList, "    ".toList] := by
  intro text
  have blank : ∀ c ∈ "    ".toList, c = ' ' := by simp
  have sound : '\x00' ∉ documentationText "    ".toList ["a\rb"] ++ [] := by
    decide +kernel
  have read := documentation?_breaks blank sound
  rw [List.append_nil] at read
  exact ⟨read, by decide +kernel⟩

end Modelwright.Target
