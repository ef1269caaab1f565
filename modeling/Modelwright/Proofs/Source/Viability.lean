import Modelwright.Proofs.Source.Chains

namespace Modelwright.Source

/-- The token may go on with what could end in front of it. -/
def Extends (token : Token) : Prop :=
  token ∈ [Token.dot, .leftParen, .leftBracket, .question, .atSign, .colon]

instance : DecidablePred Extends :=
  fun _ => inferInstanceAs (Decidable (_ ∈ _))

/-- The other lexemes go on with what is in front only as the rest does. -/
def NoFurther (rest other : List Lexeme) : Prop :=
  ∀ token, Extends token → nextToken other = some token → nextToken rest = some token

/-- The lexemes do not go on with what is in front. -/
def Closes (rest : List Lexeme) : Prop :=
  NoFurther [] rest

theorem NoFurther.of_nextToken_eq {rest other : List Lexeme}
    (same : nextToken other = nextToken rest) : NoFurther rest other :=
  fun _ _ next => same ▸ next

theorem NoFurther.of_closes {rest other : List Lexeme} (closes : Closes other) :
    NoFurther rest other :=
  fun token goesOn next => nomatch closes token goesOn next

theorem NoFurther.ne {rest other : List Lexeme} (noFurther : NoFurther rest other) {token : Token}
    (goesOn : Extends token) (single : nextToken rest ≠ some token) :
    nextToken other ≠ some token :=
  fun next => single (noFurther token goesOn next)

theorem closes_nil : Closes [] :=
  .of_nextToken_eq rfl

theorem closes_cons {lexeme : Lexeme} (plain : ¬ Extends lexeme.token) (rest : List Lexeme) :
    Closes (lexeme :: rest) := by
  rintro token goesOn next
  obtain rfl := Option.some.inj next
  exact absurd goesOn plain

theorem NoFurther.append {rest other : List Lexeme} (noFurther : NoFurther rest other)
    (front : List Lexeme) : NoFurther (front ++ rest) (front ++ other) := by
  cases front with
  | nil => exact noFurther
  | cons lexeme more => exact .of_nextToken_eq rfl

theorem nextToken_append_of_head? {after other : List Lexeme} (same : other.head? = after.head?)
    (before : List Lexeme) : nextToken (before ++ other) = nextToken (before ++ after) := by
  rw [nextToken, nextToken, List.head?_append, List.head?_append, same]

section Tracks

variable {α β : Type}

/-- Behind the lexemes there can be more, with which the reader has a value whatever closes it. -/
def Completes (p : Reader α) (before : List Lexeme) : Prop :=
  ∃ completion value, ∀ rest, Closes rest →
    Closes (completion ++ rest) ∧ p (before ++ (completion ++ rest)) = .ok (value, rest)

/-- What the reader takes does not depend on what follows unless that goes on with it.  What it
refuses is the first lexeme with which there is no completion. -/
structure Tracks (p : Reader α) (tokens : List Lexeme) : Prop where
  taken : ∀ {value rest}, p tokens = .ok (value, rest) →
    ∃ taken, tokens = taken ++ rest ∧
      ∀ other, NoFurther rest other → p (taken ++ other) = .ok (value, other)
  refused : ∀ {mismatch}, p tokens = .error mismatch →
    ∃ before after, tokens = before ++ after ∧ mismatch.found = after.head? ∧
      (∀ other, other.head? = after.head? → p (before ++ other) = .error mismatch) ∧
      Completes p before

namespace Tracks

variable {p : Reader α} {tokens rest : List Lexeme}

theorem completes (tracks : Tracks p []) : Completes p [] := by
  cases read : p [] with
  | error mismatch =>
      obtain ⟨before, after, split, -, -, completes⟩ := tracks.refused read
      obtain ⟨rfl, -⟩ := List.append_eq_nil_iff.mp split.symm
      exact completes
  | ok found =>
      obtain ⟨value, rest⟩ := found
      obtain ⟨taken, split, again⟩ := tracks.taken read
      obtain ⟨rfl, rfl⟩ := List.append_eq_nil_iff.mp split.symm
      exact ⟨[], value, fun rest closes => ⟨closes, again rest closes⟩⟩

theorem absent {value : α}
    (holds : ∀ other, NoFurther tokens other → p other = .ok (value, other)) :
    Tracks p tokens where
  taken {_ rest} read := by
    rw [holds tokens (.of_nextToken_eq rfl)] at read
    cases read
    exact ⟨[], rfl, holds⟩
  refused {_} read := by
    rw [holds tokens (.of_nextToken_eq rfl)] at read
    cases read

theorem pure (value : α) : Tracks (pure value) tokens :=
  absent fun _ _ => rfl

theorem refusedHere (wanted : Expectation)
    (here : ∀ other, other.head? = tokens.head? → p other = .error ⟨wanted, tokens.head?⟩)
    (completes : Completes p []) : Tracks p tokens where
  taken {_ _} read := by
    rw [here tokens rfl] at read
    cases read
  refused {_} read := by
    rw [here tokens rfl] at read
    cases read
    exact ⟨[], tokens, rfl, rfl, here, completes⟩

theorem behind {q : Reader α} (front : List Lexeme) (tracks : Tracks q rest)
    (same : ∀ other, p (front ++ other) = q other) : Tracks p (front ++ rest) where
  taken {value left} read := by
    rw [same] at read
    obtain ⟨taken, rfl, again⟩ := tracks.taken read
    refine ⟨front ++ taken, (List.append_assoc ..).symm, fun other noFurther => ?_⟩
    rw [List.append_assoc, same, again other noFurther]
  refused {mismatch} read := by
    rw [same] at read
    obtain ⟨before, after, rfl, found, again, completion, value, completes⟩ := tracks.refused read
    refine ⟨front ++ before, after, (List.append_assoc ..).symm, found, fun other head => ?_,
      completion, value, fun rest closes => ?_⟩
    · rw [List.append_assoc, same, again other head]
    · rw [List.append_assoc, same]
      exact completes rest closes

theorem cons {q : Reader α} {lexeme : Lexeme} (tracks : Tracks q rest)
    (same : ∀ other, p (lexeme :: other) = q other) : Tracks p (lexeme :: rest) :=
  tracks.behind [lexeme] same

theorem bind_eq_ok {q : α → Reader β} {value : α} (read : p tokens = .ok (value, rest)) :
    (p >>= q) tokens = q value rest := by
  simp [Bind.bind, StateT.bind, Except.bind, read]

theorem bind_eq_error {q : α → Reader β} {mismatch : Mismatch} (read : p tokens = .error mismatch) :
    (p >>= q) tokens = .error mismatch := by
  simp [Bind.bind, StateT.bind, Except.bind, read]

/-- What is refused is refused by the first reader, or by the second behind what the first takes. -/
theorem bind {q : α → Reader β} (tracks : Tracks p tokens)
    (more : ∀ value rest, p tokens = .ok (value, rest) → Tracks (q value) rest)
    (fresh : ∀ value, Tracks (q value) []) : Tracks (p >>= q) tokens := by
  cases first : p tokens with
  | error mismatch =>
      obtain ⟨before, after, rfl, found, again, front, value, completes⟩ := tracks.refused first
      obtain ⟨completion, whole, completesMore⟩ := (fresh value).completes
      refine ⟨fun read => ?_, fun {other} read => ?_⟩
      · rw [bind_eq_error first] at read
        cases read
      · rw [bind_eq_error first] at read
        cases read
        -- What completes the first is followed by what the second makes of nothing.
        refine ⟨before, after, rfl, found, fun other head => bind_eq_error (again other head),
          front ++ completion, whole, fun rest closes => ?_⟩
        obtain ⟨closesMore, readMore⟩ := completesMore rest closes
        obtain ⟨closesFirst, readFirst⟩ := completes _ closesMore
        rw [List.append_assoc, bind_eq_ok readFirst]
        exact ⟨closesFirst, readMore⟩
  | ok found =>
      obtain ⟨value, rest⟩ := found
      have tracksMore := more value rest first
      obtain ⟨front, rfl, again⟩ := tracks.taken first
      refine ⟨fun {whole left} read => ?_, fun {mismatch} read => ?_⟩
      · rw [bind_eq_ok first] at read
        obtain ⟨taken, rfl, againMore⟩ := tracksMore.taken read
        refine ⟨front ++ taken, (List.append_assoc ..).symm, fun other noFurther => ?_⟩
        rw [List.append_assoc, bind_eq_ok (again _ (noFurther.append taken)),
          againMore other noFurther]
      · rw [bind_eq_ok first] at read
        obtain ⟨before, after, rfl, found, againMore, completion, whole, completes⟩ :=
          tracksMore.refused read
        -- The first takes the same again: what follows begins as it did, or closes what is taken.
        refine ⟨front ++ before, after, (List.append_assoc ..).symm, found, fun other head => ?_,
          completion, whole, fun left closes => ?_⟩
        · have same := NoFurther.of_nextToken_eq (nextToken_append_of_head? head before)
          rw [List.append_assoc, bind_eq_ok (again _ same), againMore other head]
        · obtain ⟨closesMore, readMore⟩ := completes left closes
          have closesAfter : NoFurther after (completion ++ left) := .of_closes closesMore
          have same := closesAfter.append before
          rw [List.append_assoc, bind_eq_ok (again _ same)]
          exact ⟨closesMore, readMore⟩

theorem chain {q : α → Reader β} (tracks : ∀ tokens, Tracks p tokens)
    (more : ∀ value tokens, Tracks (q value) tokens) (tokens : List Lexeme) :
    Tracks (p >>= q) tokens :=
  (tracks tokens).bind (fun value rest _ => more value rest) fun value => more value []

theorem map {f : α → β} (tracks : Tracks p tokens) :
    Tracks (do return f (← p)) tokens :=
  tracks.bind (fun _ _ _ => pure _) fun _ => pure _

/-- The readers agree where the next token is as given, and the one takes nothing elsewhere. -/
theorem of_agree {q : Reader α} (starts : Option Token → Prop) (tracks : Tracks q tokens)
    (here : starts (nextToken tokens))
    (agrees : ∀ other, starts (nextToken other) → p other = q other)
    (only : ∀ {other value rest}, q other = .ok (value, rest) → starts (nextToken other)) :
    Tracks p tokens where
  taken {value rest} read := by
    rw [agrees _ here] at read
    obtain ⟨taken, split, again⟩ := tracks.taken read
    refine ⟨taken, split, fun other noFurther => ?_⟩
    have read := again other noFurther
    rw [agrees _ (only read), read]
  refused {mismatch} read := by
    rw [agrees _ here] at read
    obtain ⟨before, after, rfl, found, again, completion, value, completes⟩ := tracks.refused read
    refine ⟨before, after, rfl, found, fun other head => ?_,
      completion, value, fun rest closes => ?_⟩
    · rw [agrees _ (nextToken_append_of_head? head before ▸ here), again other head]
    · obtain ⟨closesMore, read⟩ := completes rest closes
      rw [agrees _ (only read)]
      exact ⟨closesMore, read⟩

/-- Lexeme by lexeme: the first is taken and another reader goes on, or the first is refused. -/
theorem step {wanted : Expectation} (ends : p [] = .error ⟨wanted, none⟩)
    (each : ∀ lexeme rest, tokens = lexeme :: rest →
      (∃ q : Reader α, Tracks q rest ∧ ∀ other, p (lexeme :: other) = q other) ∨
        ∃ wanted, ∀ other, p (lexeme :: other) = .error ⟨wanted, some lexeme⟩)
    (completes : Completes p []) : Tracks p tokens := by
  cases tokens with
  | nil =>
      refine refusedHere wanted (fun other none => ?_) completes
      rw [List.head?_eq_none_iff.mp none]
      exact ends
  | cons lexeme rest =>
      rcases each lexeme rest rfl with ⟨q, tracks, same⟩ | ⟨wanted, refuses⟩
      · exact tracks.cons same
      · refine refusedHere wanted (fun other first => ?_) completes
        obtain ⟨more, rfl⟩ := List.head?_eq_some_iff.mp first
        exact refuses more

end Tracks

theorem completes_of_cons {p : Reader α} {value : α} (lexeme : Lexeme)
    (plain : ¬ Extends lexeme.token) (reads : ∀ rest, p (lexeme :: rest) = .ok (value, rest)) :
    Completes p [] :=
  ⟨[lexeme], value, fun rest _ => ⟨closes_cons plain rest, reads rest⟩⟩

end Tracks

end Modelwright.Source
