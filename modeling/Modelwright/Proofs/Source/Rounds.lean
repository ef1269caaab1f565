import Modelwright.Proofs.Source.Refusals

namespace Modelwright.Source

/-! Loops of readers, round by round.  A round takes a lexeme or leaves the loop, so a loop is over
after one round more than there are lexemes. -/

/-- The rest begins at least so many lexemes further on, and at the end at most. -/
def Takes (least : Nat) (tokens rest : List Lexeme) : Prop :=
  ∃ taken, least ≤ taken ∧ taken ≤ tokens.length ∧ rest = tokens.drop taken

namespace Takes

variable {m n : Nat} {tokens between rest : List Lexeme}

theorem refl (tokens : List Lexeme) : Takes 0 tokens tokens :=
  ⟨0, Nat.le_refl 0, Nat.zero_le _, rfl⟩

theorem append {taken : List Lexeme} (least : n ≤ taken.length) (rest : List Lexeme) :
    Takes n (taken ++ rest) rest :=
  ⟨taken.length, least, by simp, List.drop_left.symm⟩

theorem cons (lexeme : Lexeme) (rest : List Lexeme) : Takes 1 (lexeme :: rest) rest :=
  ⟨1, Nat.le_refl 1, Nat.succ_pos _, rfl⟩

theorem trans (first : Takes m tokens between) (more : Takes n between rest) :
    Takes (m + n) tokens rest := by
  obtain ⟨front, leastFront, within, rfl⟩ := first
  obtain ⟨taken, least, inside, rfl⟩ := more
  rw [List.length_drop] at inside
  exact ⟨front + taken, Nat.add_le_add leastFront least, by omega, List.drop_drop⟩

theorem mono (takes : Takes n tokens rest) (le : m ≤ n) : Takes m tokens rest := by
  obtain ⟨taken, least, within, same⟩ := takes
  exact ⟨taken, Nat.le_trans le least, within, same⟩

theorem length_le (takes : Takes n tokens rest) : n + rest.length ≤ tokens.length := by
  obtain ⟨taken, least, within, rfl⟩ := takes
  rw [List.length_drop]
  omega

theorem cons_trans (lexeme : Lexeme) (takes : Takes n tokens rest) :
    Takes 1 (lexeme :: tokens) rest :=
  ((cons lexeme tokens).trans takes).mono (Nat.le_add_right 1 n)

theorem trans_zero (first : Takes 0 tokens between) (more : Takes n between rest) :
    Takes n tokens rest :=
  Nat.zero_add n ▸ first.trans more

theorem afterDocs (tokens : List Lexeme) : Takes 0 tokens (afterDocs tokens) := by
  obtain ⟨docs, ahead, rfl, all, plain⟩ := exists_docs tokens
  rw [afterDocs_append all plain]
  exact append (Nat.zero_le _) ahead

end Takes

section Loops

variable {α β σ : Type}

/-- A reader goes on by at least so many lexemes, or refuses what it has come to. -/
structure Advances (least : Nat) (p : Reader α) : Prop where
  taken : ∀ {tokens value rest}, p tokens = .ok (value, rest) → Takes least tokens rest
  refused : ∀ {tokens mismatch}, p tokens = .error mismatch →
    ∃ rest, Takes 0 tokens rest ∧ mismatch.found = rest.head?

theorem Advances.of_tracks {least : Nat} {p : Reader α} (tracks : ∀ tokens, Tracks p tokens)
    (shortens : ∀ {tokens value rest}, p tokens = .ok (value, rest) →
      least + rest.length ≤ tokens.length) : Advances least p where
  taken {tokens value rest} read := by
    have shorter := shortens read
    obtain ⟨taken, rfl, -⟩ := (tracks tokens).taken read
    rw [List.length_append] at shorter
    exact .append (by omega) rest
  refused {tokens mismatch} read := by
    obtain ⟨before, after, rfl, found, -⟩ := (tracks tokens).refused read
    exact ⟨after, .append (Nat.zero_le _) after, found⟩

theorem Advances.bind {m n : Nat} {p : Reader α} {q : α → Reader β} (advances : Advances m p)
    (more : ∀ value, Advances n (q value)) : Advances (m + n) (p >>= q) where
  taken {tokens value rest} read := by
    obtain ⟨first, between, taken, readMore⟩ := exists_of_bind_eq_ok read
    exact (advances.taken taken).trans ((more first).taken readMore)
  refused {tokens mismatch} read := by
    cases first : p tokens with
    | error same =>
        rw [Tracks.bind_eq_error first] at read
        cases read
        exact advances.refused first
    | ok found =>
        obtain ⟨value, between⟩ := found
        rw [Tracks.bind_eq_ok first] at read
        obtain ⟨rest, takes, same⟩ := (more value).refused read
        exact ⟨rest, ((advances.taken first).trans takes).mono (Nat.zero_le _), same⟩

theorem advances_reader {p : (tokens : List Lexeme) → Parsed α tokens.length}
    (tracks : ∀ tokens, Tracks (reader p) tokens) : Advances 1 (reader p) :=
  .of_tracks tracks fun read => Nat.one_add_le_iff.mpr (shorter_of_reader read)

theorem advances_optional {p : (tokens : List Lexeme) → Parsed α (tokens.length + 1)}
    (tracks : ∀ tokens, Tracks (reader p) tokens) : Advances 0 (reader p) :=
  .of_tracks tracks fun {tokens value rest} read => by
    obtain ⟨taken, rfl, -⟩ := (tracks tokens).taken read
    simp

theorem bind_eq_bind {p q : Reader α} {tokens ahead : List Lexeme} (same : p tokens = q ahead)
    (more : α → Reader β) : (p >>= more) tokens = (q >>= more) ahead := by
  simp [Bind.bind, StateT.bind, same]

/-- A reader that may not come to an end: there is no outcome then. -/
abbrev Trial (α : Type) := StateT (List Lexeme) (ExceptT Mismatch Option) α

def tried (p : Reader α) : Trial α :=
  fun tokens => some (p tokens)

/-- Here the one comes to an end as the other does. -/
def Agrees (trial : Trial α) (p : Reader α) (tokens : List Lexeme) : Prop :=
  trial tokens = some (p tokens)

section Trials

variable {p : Reader α} {trial : Trial α} {tokens rest : List Lexeme} {value : α}

theorem agrees_tried (p : Reader α) (tokens : List Lexeme) : Agrees (tried p) p tokens := rfl

theorem Agrees.ended {outcome : Except Mismatch (α × List Lexeme)} (agrees : Agrees trial p tokens)
    (read : p tokens = outcome) : trial tokens = some outcome :=
  agrees.trans (congrArg some read)

theorem bind_eq_of_taken {more : α → Trial β} (ended : trial tokens = some (.ok (value, rest))) :
    (trial >>= more) tokens = more value rest := by
  simp [bind, StateT.bind, ExceptT.bind, ExceptT.mk, ExceptT.bindCont, ended]

theorem bind_eq_of_refused {more : α → Trial β} {mismatch : Mismatch}
    (ended : trial tokens = some (.error mismatch)) :
    (trial >>= more) tokens = some (.error mismatch) := by
  simp [bind, StateT.bind, ExceptT.bind, ExceptT.mk, ExceptT.bindCont, ended, pure]

theorem Agrees.bind {more : α → Trial β} {q : α → Reader β} (agrees : Agrees trial p tokens)
    (goesOn : ∀ value rest, p tokens = .ok (value, rest) → Agrees (more value) (q value) rest) :
    Agrees (trial >>= more) (p >>= q) tokens := by
  cases read : p tokens with
  | error mismatch =>
      rw [Agrees, bind_eq_of_refused (agrees.ended read), Tracks.bind_eq_error read]
  | ok found =>
      obtain ⟨value, rest⟩ := found
      rw [Agrees, bind_eq_of_taken (agrees.ended read), Tracks.bind_eq_ok read]
      exact goesOn value rest read

end Trials

/-- How a round ends: another follows from a new state, or the loop is left with its result. -/
inductive Turn (σ β : Type) where
  | again (state : σ)
  | leave (result : β)

/-- A loop that is cut off after so many rounds. -/
def inRounds (round : σ → Trial (Turn σ β)) : Nat → σ → Trial β
  | 0, _ => fun _ => none
  | bound + 1, state => do
    match ← round state with
    | .again next => inRounds round bound next
    | .leave result => return result

/-- What one round comes to when the loop comes to `whole`. -/
inductive Goes (whole : σ → Reader β) (state : σ) (tokens : List Lexeme) :
    Option (Except Mismatch (Turn σ β × List Lexeme)) → Prop
  | refused {mismatch : Mismatch} (same : whole state tokens = .error mismatch) :
      Goes whole state tokens (some (.error mismatch))
  | leave {result : β} {rest : List Lexeme} (takes : Takes 0 tokens rest)
      (same : whole state tokens = .ok (result, rest)) :
      Goes whole state tokens (some (.ok (.leave result, rest)))
  | again {next : σ} {rest : List Lexeme} (takes : Takes 1 tokens rest)
      (same : whole state tokens = whole next rest) :
      Goes whole state tokens (some (.ok (.again next, rest)))

/-- Every round takes a lexeme or leaves, and the loop is over before the rounds run out. -/
structure IsLoop (round : σ → Trial (Turn σ β)) (whole : σ → Reader β) : Prop where
  goes : ∀ state tokens, Goes whole state tokens (round state tokens)
  ends : ∀ state tokens bound, tokens.length < bound →
    Agrees (inRounds round bound state) (whole state) tokens

section Rounds

variable {round : σ → Trial (Turn σ β)} {whole : σ → Reader β} {state : σ}
  {tokens ahead : List Lexeme}

theorem Goes.bind {trial : Trial α} {p : Reader α} {more : α → Trial (Turn σ β)}
    {q : α → Reader β} (agrees : Agrees trial p ahead)
    (same : whole state tokens = (p >>= q) ahead)
    (goesOn : ∀ value rest, p ahead = .ok (value, rest) → whole state tokens = q value rest →
      Goes whole state tokens (more value rest)) :
    Goes whole state tokens ((trial >>= more) ahead) := by
  cases read : p ahead with
  | error mismatch =>
      rw [bind_eq_of_refused (agrees.ended read)]
      exact .refused (same.trans (Tracks.bind_eq_error read))
  | ok found =>
      obtain ⟨value, rest⟩ := found
      rw [bind_eq_of_taken (agrees.ended read)]
      exact goesOn value rest read (same.trans (Tracks.bind_eq_ok read))

theorem Goes.bind_again {trial : Trial α} {p : Reader α} {next : α → σ}
    (agrees : Agrees trial p ahead)
    (same : whole state tokens = (p >>= fun value => whole (next value)) ahead)
    (takes : ∀ {value rest}, p ahead = .ok (value, rest) → Takes 1 tokens rest) :
    Goes whole state tokens ((do return Turn.again (next (← trial)) : Trial (Turn σ β)) ahead) :=
  .bind agrees same fun _ _ read same => .again (takes read) same

/-- By induction on the rounds: those that follow one begin behind what it has taken. -/
theorem inRounds_of_goes {start : List Lexeme}
    (goes : ∀ state ahead, Takes 0 start ahead → Goes whole state ahead (round state ahead))
    (bound : Nat) (state : σ) (ahead : List Lexeme) (reached : Takes 0 start ahead)
    (enough : ahead.length < bound) : Agrees (inRounds round bound state) (whole state) ahead := by
  induction bound generalizing state ahead with
  | zero => exact absurd enough (Nat.not_lt_zero _)
  | succ bound ih =>
      rw [Agrees, inRounds]
      generalize ended : round state ahead = outcome
      cases ended ▸ goes state ahead reached with
      | refused same => rw [same, bind_eq_of_refused ended]
      | leave takes same =>
          rw [same, bind_eq_of_taken ended]
          rfl
      | again takes same =>
          have shorter := takes.length_le
          rw [same, bind_eq_of_taken ended]
          exact ih _ _ ((reached.trans takes).mono (Nat.zero_le _)) (by omega)

theorem isLoop_of_goes (goes : ∀ state tokens, Goes whole state tokens (round state tokens)) :
    IsLoop round whole :=
  ⟨goes, fun state tokens bound enough => inRounds_of_goes
    (fun state ahead (_ : Takes 0 tokens ahead) => goes state ahead) bound state tokens
    (.refl tokens) enough⟩

end Rounds

end Loops

end Modelwright.Source
