import Modelwright.Proofs.Text.Pieces

namespace Modelwright.Target

open Modelwright.Text

/-! How the language reads a source text before it looks for anything in it.  A carriage return ends
a line, together with a line feed behind it; a text with a null character is refused. -/

def lineFeeds : List Char → List Char
  | '\r' :: '\n' :: rest => '\n' :: lineFeeds rest
  | '\r' :: rest => '\n' :: lineFeeds rest
  | c :: rest => c :: lineFeeds rest
  | [] => []

def sourceText? (chars : List Char) : Option (List Char) :=
  if '\x00' ∈ chars then none else some (lineFeeds chars)

/-- What a character is read as where no line feed follows. -/
def feed (c : Char) : Char :=
  if c = '\r' then '\n' else c

theorem feed_eq_iff {c d : Char} (noFeed : d ≠ '\n') (noReturn : d ≠ '\r') :
    feed c = d ↔ c = d := by
  by_cases returned : c = '\r'
  · rw [feed, if_pos returned, returned]
    exact iff_of_false noFeed.symm noReturn.symm
  · rw [feed, if_neg returned]

@[simp] theorem lineFeeds_break (rest : List Char) :
    lineFeeds ('\n' :: rest) = '\n' :: lineFeeds rest := rfl

theorem lineFeeds_cons {c : Char} {rest : List Char} (alone : c = '\r' → rest.head? ≠ some '\n') :
    lineFeeds (c :: rest) = feed c :: lineFeeds rest := by
  by_cases returned : c = '\r'
  · subst returned
    cases rest with
    | nil => rfl
    | cons d more =>
        have other : d ≠ '\n' := fun same => alone rfl (congrArg some same)
        rw [lineFeeds]
        · rfl
        · rintro _ ⟨⟩
          exact other rfl
  · rw [lineFeeds, feed, if_neg returned]
    · intro _ same
      exact absurd same returned
    · exact returned

/-- A carriage return at the end of a line would end it twice. -/
theorem lineFeeds_append {chars rest : List Char} (whole : '\n' ∉ chars)
    (last : chars.getLast? ≠ some '\r') :
    lineFeeds (chars ++ rest) = chars.map feed ++ lineFeeds rest := by
  induction chars with
  | nil => rfl
  | cons c more ih =>
      have alone : c = '\r' → (more ++ rest).head? ≠ some '\n' := by
        rintro rfl
        cases more with
        | nil => exact absurd rfl last
        | cons d others => exact fun follows => whole (by simp [Option.some.inj follows])
      have ends : more.getLast? ≠ some '\r' := by
        cases more with
        | nil => simp
        | cons d others => exact last
      rw [List.cons_append, lineFeeds_cons alone, ih (fun later => whole (.tail _ later)) ends]
      rfl

theorem lineFeeds_join {lines : List (List Char)} (nonempty : lines ≠ [])
    (whole : ∀ line ∈ lines, '\n' ∉ line) (last : ∀ line ∈ lines, line.getLast? ≠ some '\r')
    (rest : List Char) :
    lineFeeds (join '\n' lines ++ rest) =
      join '\n' (lines.map (List.map feed)) ++ lineFeeds rest := by
  induction lines with
  | nil => exact absurd rfl nonempty
  | cons first others ih =>
      obtain ⟨wholeHere, wholeLater⟩ := List.forall_mem_cons.mp whole
      obtain ⟨lastHere, lastLater⟩ := List.forall_mem_cons.mp last
      cases others with
      | nil => exact lineFeeds_append wholeHere lastHere
      | cons second more =>
          rw [join_cons_cons, List.append_assoc, lineFeeds_append wholeHere lastHere,
            List.cons_append, lineFeeds_break, ih (by simp) wholeLater lastLater]
          simp [join_cons_cons]

theorem pieces_map_feed {chars : List Char} (whole : '\n' ∉ chars) :
    pieces '\n' (chars.map feed) = pieces '\r' chars := by
  induction chars with
  | nil => rfl
  | cons c more ih =>
      obtain ⟨here, later⟩ := List.ne_and_not_mem_of_not_mem_cons whole
      rw [List.map_cons, pieces, ih later, pieces]
      by_cases returned : c = '\r'
      · rw [feed, if_pos returned, if_pos rfl, if_pos returned]
      · rw [feed, if_neg returned, if_neg here.symm, if_neg returned]

end Modelwright.Target
