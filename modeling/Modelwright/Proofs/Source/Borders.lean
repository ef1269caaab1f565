import Modelwright.Proofs.Source.Matching
import Modelwright.Proofs.Text.Slices

namespace Modelwright.Source

open Modelwright.Text

theorem fractionPart_eq_nil_iff {chars : List Char} :
    (fractionPart chars).1 = [] ↔ ∀ d more, chars = '.' :: d :: more → d.isDigit = false := by
  unfold fractionPart
  split
  · next d rest =>
      cases digit : d.isDigit <;> simp [digit]
  · next other =>
      simp only [true_iff]
      intro d more same
      exact (other d more same).elim

/-- What follows a match may be the one text or the other: where the second does not begin as the
first it begins with a gap, no fraction comes up, and behind the end of a line it brings nothing
but a gap into the line. -/
structure MayFollow (rest other : List Char) : Prop where
  first : ∀ c, other.head? = some c → isGap c = true ∨ rest.head? = some c
  fraction : (fractionPart rest).1 = [] → (fractionPart other).1 = []
  line : Stops isInLine rest → ∀ c ∈ other.takeWhile isInLine, isGap c = true

namespace MayFollow

variable {rest other : List Char}

theorem stops (follow : MayFollow rest other) {p : Char → Bool}
    (apart : ∀ c, isGap c = true → p c = false) (stops : Stops p rest) : Stops p other := by
  intro c first
  rcases follow.first c first with gap | same
  · exact apart c gap
  · exact stops c same

theorem head?_ne (follow : MayFollow rest other) {c : Char} (solid : isGap c = false)
    (unlike : rest.head? ≠ some c) : other.head? ≠ some c := by
  intro first
  rcases follow.first c first with gap | same
  · rw [solid] at gap
    cases gap
  · exact unlike same

theorem fractionPart_eq (follow : MayFollow rest other) (read : fractionPart rest = ([], rest)) :
    fractionPart other = ([], other) := by
  have none := follow.fraction (by rw [read])
  have whole := fractionPart_append other
  rw [none, List.nil_append] at whole
  exact Prod.ext none whole

end MayFollow

theorem stops_of_fractionPart {decimals rest : List Char} (more : decimals ≠ [])
    (all : ∀ d ∈ decimals, d.isDigit = true)
    (read : fractionPart ('.' :: decimals ++ rest) = ('.' :: decimals, rest)) :
    Stops Char.isDigit rest := by
  cases decimals with
  | nil => exact absurd rfl more
  | cons d others =>
      have behind := congrArg Prod.snd read
      simp only [List.cons_append, fractionPart, all d List.mem_cons_self, if_true] at behind
      rw [← behind]
      exact stops_dropWhile _ _

theorem MayFollow.number {sign digits fraction rest other : List Char}
    (follow : MayFollow rest other) (signed : sign = [] ∨ sign = ['-']) (nonempty : digits ≠ [])
    (all : ∀ d ∈ digits, d.isDigit = true) (stops : Stops Char.isDigit (fraction ++ rest))
    (read : fractionPart (fraction ++ rest) = (fraction, rest)) :
    Matches (sign ++ digits ++ fraction)
      (some (.number (String.ofList (sign ++ digits ++ fraction)))) other := by
  have apart : ∀ c, isGap c = true → c.isDigit = false :=
    fun c gap => (not_isIdentifierChar_of_isGap gap).2.1
  have parts := fractionPart_cases (fraction ++ rest)
  rw [read] at parts
  rcases parts with none | ⟨decimals, begins, more, others⟩
  · dsimp only at none
    subst none
    exact .number signed nonempty all (follow.stops apart stops) (follow.fractionPart_eq read)
  · dsimp only at begins
    subst begins
    have ends := follow.stops apart (stops_of_fractionPart more others read)
    refine .number signed nonempty all ?_ (fractionPart_decimals ends more others)
    rintro c first
    obtain rfl : '.' = c := by simpa using first
    rfl

/-- A match stays, but for blanks at the end of a comment. -/
theorem Matches.relaid {text rest other : List Char} {token : Option Token}
    (matching : Matches text token rest) (follow : MayFollow rest other) :
    ∃ blank behind, other = blank ++ behind ∧ (∀ c ∈ blank, isGap c = true) ∧
      Matches (text ++ blank) token behind := by
  have kept : ∀ {text token}, Matches text token other → ∃ blank behind, other = blank ++ behind ∧
      (∀ c ∈ blank, isGap c = true) ∧ Matches (text ++ blank) token behind :=
    fun matching => ⟨[], other, rfl, List.forall_mem_nil _, by simpa using matching⟩
  have run {p : Char → Bool} : ∀ c ∈ other.takeWhile p, p c = true :=
    fun c listed => List.mem_takeWhile_imp listed
  cases matching with
  | gap gap all stops =>
      exact ⟨other.takeWhile isGap, other.dropWhile isGap,
        List.takeWhile_append_dropWhile.symm, run,
        .gap gap (List.forall_mem_append.mpr ⟨all, run⟩) (stops_dropWhile _ _)⟩
  | identifier start all stops =>
      exact kept (.identifier start all
        (follow.stops (fun c gap => (not_isIdentifierChar_of_isGap gap).1) stops))
  | number signed nonempty all stops read =>
      exact kept (follow.number signed nonempty all stops read)
  | doc all stops =>
      have ends := follow.line stops
      refine ⟨other.takeWhile isInLine, other.dropWhile isInLine,
        List.takeWhile_append_dropWhile.symm, ends, ?_⟩
      rw [← trim_append_of_blank fun c listed => isBlank_of_isGap (ends c listed)]
      exact .doc (List.forall_mem_append.mpr ⟨all, run⟩) (stops_dropWhile _ _)
  | @comment line _ plain all stops =>
      refine ⟨other.takeWhile isInLine, other.dropWhile isInLine,
        List.takeWhile_append_dropWhile.symm, follow.line stops, ?_⟩
      refine .comment ?_ (List.forall_mem_append.mpr ⟨all, run⟩) (stops_dropWhile _ _)
      rw [List.append_eq, List.append_assoc, List.takeWhile_append_dropWhile]
      cases line with
      | nil => exact follow.head?_ne (by decide) plain
      | cons c more => exact plain
  | text body => exact kept (.text body)
  | doubleAtSign => exact kept .doubleAtSign
  | atSign single => exact kept (.atSign (follow.head?_ne (by decide) single))
  | punctuation stands single => exact kept (.punctuation stands single)

theorem Matches.lexesTo_relaid_iff {text rest other : List Char} {token : Option Token}
    {tokens : List Token} (matching : Matches text token rest) (follow : MayFollow rest other) :
    LexesTo (text ++ other) tokens ↔
      ∃ more, tokens = token.toList ++ more ∧ LexesTo other more := by
  obtain ⟨blank, behind, rfl, gap, again⟩ := matching.relaid follow
  rw [← List.append_assoc, again.lexesTo_iff]
  simp only [lexesTo_gap_iff gap]

/-- The text falls into matches in front of the border and what is behind it. -/
inductive Border : List Char → List Char → Prop
  | start {after : List Char} : Border [] after
  | behind {text before after : List Char} {token : Option Token}
      (matching : Matches text token (before ++ after)) (border : Border before after) :
      Border (text ++ before) after

variable {before after gap : List Char}

theorem mayFollow_insert (blank : ∀ c ∈ gap, isGap c = true) :
    MayFollow (before ++ after) (before ++ (gap ++ after)) := by
  have between : ∀ c, (gap ++ after).head? = some c → isGap c = true ∨ after.head? = some c := by
    intro c first
    cases gap with
    | nil => exact .inr first
    | cons d more =>
        obtain rfl : d = c := by simpa using first
        exact .inl (blank d List.mem_cons_self)
  cases before with
  | nil =>
      refine ⟨between, ?_, ?_⟩
      · simp only [List.nil_append, fractionPart_eq_nil_iff]
        rintro none d more same
        cases gap with
        | nil => exact none d more same
        | cons first others =>
            obtain ⟨rfl, -⟩ := List.cons.inj same
            exact absurd rfl (not_isIdentifierChar_of_isGap (blank _ List.mem_cons_self)).2.2
      · intro stops c listed
        have ends : after.takeWhile isInLine = [] := by
          simpa using @Stops.takeWhile_append _ _ [] _ stops (List.forall_mem_nil _)
        rw [List.nil_append, List.takeWhile_append, ends, List.append_nil] at listed
        split at listed
        · exact blank c listed
        · exact blank c ((List.takeWhile_sublist _).subset listed)
  | cons first others =>
      refine ⟨fun c leads => .inr leads, ?_, ?_⟩
      · simp only [List.cons_append, fractionPart_eq_nil_iff]
        rintro none d more same
        obtain ⟨rfl, behind⟩ := List.cons.inj same
        cases others with
        | nil =>
            rw [List.nil_append] at behind
            rcases between d (by rw [behind]; rfl) with blank | leads
            · exact (not_isIdentifierChar_of_isGap blank).2.1
            · obtain ⟨behind, split⟩ := List.head?_eq_some_iff.mp leads
              exact none d behind (by simp [split])
        | cons second others =>
            obtain ⟨rfl, -⟩ := List.cons.inj behind
            exact none second _ rfl
      · intro stops c listed
        simp [stops first rfl] at listed

theorem Border.lexesTo_insert_iff {tokens : List Token} (border : Border before after)
    (blank : ∀ c ∈ gap, isGap c = true) :
    LexesTo (before ++ (gap ++ after)) tokens ↔ LexesTo (before ++ after) tokens := by
  induction border generalizing tokens with
  | start => exact lexesTo_gap_iff blank
  | behind matching border ih =>
      rw [List.append_assoc, List.append_assoc, matching.lexesTo_iff,
        matching.lexesTo_relaid_iff (mayFollow_insert blank)]
      simp only [ih]

/-- An end of the text or of one of its tokens. -/
def IsBoundary (first last : Nat) (lexemes : List Lexeme) (place : Nat) : Prop :=
  place = first ∨ place = last ∨
    ∃ lexeme ∈ lexemes, place = lexeme.span.start ∨ place = lexeme.span.stop

theorem splits_of_byteLength_le {text rest : List Char} (split : text ++ rest = before ++ after)
    (size : byteLength text ≤ byteLength before) :
    ∃ more, before = text ++ more ∧ rest = more ++ after := by
  rcases List.append_eq_append_iff.mp split with behind | ⟨more, rfl, rfl⟩
  · exact behind
  · rw [byteLength_append] at size
    have none : more = [] := by
      by_contra some
      have := byteLength_pos some
      omega
    exact ⟨[], by simp [none], by simp [none]⟩

theorem spans_of_lexFrom {offset : Nat} {chars : List Char} {lexemes : List Lexeme}
    (lexed : lexFrom offset chars = .ok lexemes) :
    ∀ lexeme ∈ lexemes, offset ≤ lexeme.span.start ∧ offset ≤ lexeme.span.stop := by
  induction offset, chars using lexFrom.induct generalizing lexemes with
  | case1 offset =>
      rw [lexFrom] at lexed
      cases lexed
      exact List.forall_mem_nil _
  | case2 offset c rest missed =>
      rw [lexFrom, missed] at lexed
      cases lexed
  | case3 offset c rest found matched stop shorter =>
      rename_i ih
      rw [lexFrom, matched] at lexed
      obtain ⟨more, lexedMore, made⟩ := Outcome.bind_eq_ok_iff.mp lexed
      have later : ∀ lexeme ∈ more, offset ≤ lexeme.span.start ∧ offset ≤ lexeme.span.stop := by
        intro lexeme listed
        have bounds := ih lexedMore lexeme listed
        omega
      cases kept : found.value.token with
      | none =>
          simp only [kept, Outcome.pure_eq_ok_iff] at made
          rwa [← made]
      | some t =>
          simp only [kept, Outcome.pure_eq_ok_iff] at made
          rw [← made]
          exact List.forall_mem_cons.mpr ⟨⟨Nat.le_refl _, Nat.le_add_right _ _⟩, later⟩

theorem IsBoundary.behind {start stop last place : Nat} {more lexemes : List Lexeme}
    (bounds : IsBoundary start last lexemes place) (far : start < place)
    (parts : lexemes = more ∨ ∃ t, lexemes = ⟨t, ⟨start, stop⟩⟩ :: more) :
    IsBoundary stop last more place := by
  rcases bounds with here | here | ⟨lexeme, listed, here⟩
  · omega
  · exact .inr (.inl here)
  · rcases parts with rfl | ⟨t, rfl⟩
    · exact .inr (.inr ⟨lexeme, listed, here⟩)
    · rcases List.mem_cons.mp listed with rfl | listed
      · rcases here with here | here
        · exact absurd here (Nat.ne_of_gt far)
        · exact .inl here
      · exact .inr (.inr ⟨lexeme, listed, here⟩)

theorem border_of_isBoundary {offset : Nat} {chars : List Char} {lexemes : List Lexeme}
    (lexed : lexFrom offset chars = .ok lexemes) (split : chars = before ++ after)
    (bounds : IsBoundary offset (offset + byteLength chars) lexemes (offset + byteLength before)) :
    Border before after := by
  induction offset, chars using lexFrom.induct generalizing lexemes before with
  | case1 offset =>
      obtain ⟨rfl, rfl⟩ := List.append_eq_nil_iff.mp split.symm
      exact .start
  | case2 offset c rest missed =>
      rw [lexFrom, missed] at lexed
      cases lexed
  | case3 offset c rest found matched stop shorter =>
      rename_i ih
      by_cases first : before = []
      · rw [first]
        exact .start
      have far := byteLength_pos first
      rw [lexFrom, matched] at lexed
      obtain ⟨more, lexedMore, made⟩ := Outcome.bind_eq_ok_iff.mp lexed
      obtain ⟨run, text, whole, matching⟩ := matches_of_match? matched
      have size : byteLength (c :: rest) = byteLength found.value.text + byteLength found.rest := by
        rw [text, ← byteLength_append, List.cons_append, ← whole]
      have parts : lexemes = more ∨ ∃ t, lexemes = ⟨t, ⟨offset, stop⟩⟩ :: more := by
        cases kept : found.value.token with
        | none =>
            simp only [kept, Outcome.pure_eq_ok_iff] at made
            exact .inl made.symm
        | some t =>
            simp only [kept, Outcome.pure_eq_ok_iff] at made
            exact .inr ⟨t, made.symm⟩
      have later := bounds.behind (by omega) parts
      rw [size, ← Nat.add_assoc] at later
      have beyond : stop ≤ offset + byteLength before := by
        rcases later with here | here | ⟨lexeme, listed, here⟩
        · omega
        · omega
        · have bounds := spans_of_lexFrom lexedMore lexeme listed
          omega
      have parted : (c :: run) ++ found.rest = before ++ after := by
        rw [List.cons_append, ← whole, split]
      have size : byteLength (c :: run) ≤ byteLength before := by
        rw [← text]
        omega
      obtain ⟨inside, rfl, left⟩ := splits_of_byteLength_le parted size
      rw [left] at matching
      refine .behind matching (ih lexedMore left ?_)
      rw [byteLength_append, ← text, ← Nat.add_assoc] at later
      exact later

end Modelwright.Source
