import Modelwright.Files.Staging
import Modelwright.Proofs.Text.Pieces

namespace Modelwright.Path

open Modelwright.Text

/-! The names in a path. -/

def named (segments : List (List Char)) : List (List Char) :=
  segments.filter fun segment => !isIdle segment

def trail (path : List Char) : List (List Char) :=
  named (pieces '/' path)

@[simp] theorem named_append (first second : List (List Char)) :
    named (first ++ second) = named first ++ named second :=
  List.filter_append ..

theorem named_singleton {segment : List Char} (solid : isIdle segment = false) :
    named [segment] = [segment] := by
  simp [named, solid]

theorem named_dropIdleEnd (segments : List (List Char)) :
    named (dropIdleEnd segments) = named segments := by
  induction segments using List.reverseRecOn with
  | nil => rfl
  | append_singleton front last ih =>
      cases idle : isIdle last with
      | true =>
          have dropped : dropIdleEnd (front ++ [last]) = dropIdleEnd front := by
            simp [dropIdleEnd, idle]
          rw [dropped, ih]
          simp [named, idle]
      | false =>
          have kept : dropIdleEnd (front ++ [last]) = front ++ [last] := by
            simp [dropIdleEnd, idle]
          rw [kept]

theorem joinSegments_eq_join (parts : List (List Char)) :
    joinSegments parts = Text.join '/' parts := by
  induction parts with
  | nil => rfl
  | cons first rest ih =>
      cases rest with
      | nil => simp [joinSegments]
      | cons second others =>
          rw [join_cons_cons, ← ih]
          simp [joinSegments]

theorem trail_slash (path : List Char) : trail ('/' :: path) = trail path := by
  simp [trail, pieces, named, isIdle]

theorem trail_append_slash (first second : List Char) :
    trail (first ++ '/' :: second) = trail first ++ trail second := by
  rw [trail, pieces_append_separator, named_append]
  rfl

theorem trail_of_not_mem {segment : List Char} (whole : '/' ∉ segment) :
    trail segment = named [segment] := by
  rw [trail, pieces_of_not_mem whole]

theorem trail_join {base name : String} (whole : '/' ∉ name.toList)
    (solid : isIdle name.toList = false) :
    trail (join base name).toList = trail base.toList ++ [name.toList] := by
  have relative : isAbsolute name = false := by
    rw [isAbsolute, beq_eq_false_iff_ne]
    exact fun first => whole (List.mem_of_mem_head? first)
  have alone : trail name.toList = [name.toList] := by
    rw [trail_of_not_mem whole, named_singleton solid]
  rw [join, relative, Bool.false_or]
  split
  · next none =>
      rw [String.isEmpty_iff.mp none, alone]
      rfl
  split
  · next last =>
      obtain ⟨front, ended⟩ := List.getLast?_eq_some_iff.mp last
      rw [String.toList_append, ended, List.append_assoc, List.singleton_append, trail_append_slash,
        trail_append_slash, alone]
      simp [trail, named, isIdle]
  · simpa [alone] using trail_append_slash base.toList name.toList

theorem trail_eq_named_segments (path : List Char) : trail path = named (segments path) := by
  rw [segments, named_dropIdleEnd]
  unfold start
  split
  · exact trail_slash _
  · rfl
  · next rest =>
      exact (trail_append_slash ['.'] rest).trans (by simp [trail, pieces, named, isIdle])
  · rfl

theorem trail_joinSegments {parts : List (List Char)} (whole : ∀ part ∈ parts, '/' ∉ part) :
    trail (joinSegments parts) = named parts := by
  cases parts with
  | nil => rfl
  | cons first rest =>
      rw [joinSegments_eq_join, trail, pieces_join (List.cons_ne_nil _ _) whole]

theorem dropIdleEnd_isPrefix (segments : List (List Char)) : dropIdleEnd segments <+: segments :=
  List.rdropWhile_prefix isIdle segments

theorem segments_isPrefix (path : List Char) :
    segments path <+: pieces '/' (path.drop (start path).length) :=
  dropIdleEnd_isPrefix _

theorem whole_of_mem_segments {path segment : List Char} (listed : segment ∈ segments path) :
    '/' ∉ segment :=
  not_mem_of_mem_pieces ((segments_isPrefix path).subset listed)

theorem trail_dot_joinSegments {parts : List (List Char)} (whole : ∀ part ∈ parts, '/' ∉ part)
    (begins : parts <+: [] :: parts.tail) : trail ('.' :: joinSegments parts) = named parts := by
  cases parts with
  | nil => rfl
  | cons first rest =>
      obtain ⟨rfl, -⟩ := List.cons_prefix_cons.mp begins
      rw [joinSegments_eq_join]
      cases rest with
      | nil => rfl
      | cons second others =>
          have later := trail_joinSegments (List.forall_mem_cons.mp whole).2
          rw [joinSegments_eq_join] at later
          rw [join_cons_cons, List.nil_append]
          exact (trail_append_slash ['.'] _).trans (by rw [later]; rfl)

theorem trail_start_append {path : List Char} {parts : List (List Char)}
    (front : parts <+: segments path) :
    trail (start path ++ joinSegments parts) = named parts := by
  have whole : ∀ part ∈ parts, '/' ∉ part := fun part listed =>
    whole_of_mem_segments (front.subset listed)
  have within := front.trans (segments_isPrefix path)
  have behindDot : ∀ {rest}, parts <+: pieces '/' ('/' :: rest) → parts <+: [] :: parts.tail := by
    intro rest within
    cases parts with
    | nil => exact List.nil_prefix
    | cons first others =>
        obtain ⟨rfl, -⟩ := List.cons_prefix_cons.mp within
        exact List.prefix_refl _
  revert within
  unfold start
  split
  · intro _
    rw [List.singleton_append, trail_slash, trail_joinSegments whole]
  · intro within
    exact trail_dot_joinSegments whole (@behindDot [] (within.trans ⟨[[]], rfl⟩))
  · exact fun within => trail_dot_joinSegments whole (behindDot within)
  · intro _
    rw [List.nil_append, trail_joinSegments whole]

theorem solid_of_getLast? {path last : List Char} (found : (segments path).getLast? = some last) :
    isIdle last = false := by
  have some : segments path ≠ [] := by
    rintro none
    simp [none] at found
  have solid : isIdle ((segments path).getLast some) ≠ true :=
    List.rdropWhile_last_not isIdle _ some
  rw [List.getLast?_eq_some_getLast some] at found
  simpa [Option.some.inj found] using solid

theorem fileName?_eq_some {path name : String} (ends : fileName? path = some name) :
    ∃ front, segments path.toList = front ++ [name.toList] ∧ isIdle name.toList = false := by
  rw [fileName?] at ends
  split at ends
  · cases ends
  · next last found =>
      split at ends
      · cases ends
      · obtain rfl := Option.some.inj ends
        obtain ⟨front, split⟩ := List.getLast?_eq_some_iff.mp found
        rw [String.toList_ofList]
        exact ⟨front, split, solid_of_getLast? found⟩

theorem exists_parent {path name : String} (ends : fileName? path = some name) :
    ∃ parts, parent? path = some (String.ofList (start path.toList ++ joinSegments parts)) ∧
      parts <+: segments path.toList ∧
      named (segments path.toList) = named parts ++ [name.toList] := by
  obtain ⟨front, split, solid⟩ := fileName?_eq_some ends
  refine ⟨dropIdleEnd front, by simp [parent?, split], ?_, ?_⟩
  · exact (dropIdleEnd_isPrefix front).trans (split ▸ List.prefix_append front _)
  · rw [split, named_append, named_singleton solid, named_dropIdleEnd]

theorem trail_of_fileName? {path name : String} (ends : fileName? path = some name) :
    trail path.toList = trail ((parent? path).getD "").toList ++ [name.toList] := by
  obtain ⟨parts, parent, within, split⟩ := exists_parent ends
  rw [parent, Option.getD_some, String.toList_ofList, trail_start_append within,
    trail_eq_named_segments, split]

theorem isAbsolute_join {base name : String} (whole : '/' ∉ name.toList) :
    isAbsolute (join base name) = isAbsolute base := by
  have relative : isAbsolute name = false := by
    rw [isAbsolute, beq_eq_false_iff_ne]
    exact fun first => whole (List.mem_of_mem_head? first)
  rw [join, relative, Bool.false_or]
  split
  · next none => rw [relative, String.isEmpty_iff.mp none]; rfl
  have some : base.toList ≠ [] := by simpa using ‹¬ base.isEmpty = true›
  split
  · simp [isAbsolute, List.head?_append_of_ne_nil _ some]
  · simp [isAbsolute, List.head?_append_of_ne_nil _ some]

theorem head?_pieces {c : Char} {rest : List Char} (solid : c ≠ '/') :
    ∃ more others, pieces '/' (c :: rest) = (c :: more) :: others := by
  rw [pieces, if_neg solid]
  cases found : pieces '/' rest with
  | nil => exact absurd found (pieces_ne_nil '/' rest)
  | cons first others => exact ⟨first, others, rfl⟩

/-- Fewer segments leave a path at its root, or away from it. -/
theorem head?_start_append {path : List Char} {parts : List (List Char)}
    (front : parts <+: segments path) :
    (start path ++ joinSegments parts).head? = some '/' ↔ path.head? = some '/' := by
  have within := front.trans (segments_isPrefix path)
  revert within
  unfold start
  split
  · simp
  · simp
  · simp
  · next relative _ _ =>
      intro within
      rw [joinSegments_eq_join, List.nil_append]
      cases path with
      | nil =>
          cases parts with
          | nil => rfl
          | cons first others =>
              obtain ⟨rfl, none⟩ := List.cons_prefix_cons.mp within
              rw [List.prefix_nil.mp none]
              rfl
      | cons c rest =>
          have solid : c ≠ '/' := fun same => relative rest (by rw [same])
          obtain ⟨more, last, found⟩ := @head?_pieces c rest solid
          rw [List.length_nil, List.drop_zero, found] at within
          cases parts with
          | nil => simp [solid]
          | cons first others =>
              obtain ⟨rfl, -⟩ := List.cons_prefix_cons.mp within
              cases others with
              | nil => simp
              | cons second more => simp [join_cons_cons]

theorem isAbsolute_parent {path name : String} (ends : fileName? path = some name) :
    isAbsolute ((parent? path).getD "") = isAbsolute path := by
  obtain ⟨parts, parent, within, -⟩ := exists_parent ends
  have same := head?_start_append within
  rw [parent, Option.getD_some, isAbsolute, isAbsolute, String.toList_ofList, Bool.eq_iff_iff,
    beq_iff_eq, beq_iff_eq, same]

theorem withFileName_eq_join {path name : String} (ends : fileName? path = some name)
    (other : String) : withFileName path other = join ((parent? path).getD "") other := by
  rw [withFileName, ends]

theorem trail_withFileName {path name other : String} (ends : fileName? path = some name)
    (whole : '/' ∉ other.toList) (solid : isIdle other.toList = false) :
    trail (withFileName path other).toList =
      trail ((parent? path).getD "").toList ++ [other.toList] := by
  rw [withFileName_eq_join ends, trail_join whole solid]

theorem getLast?_segments (path : List Char) :
    (segments path).getLast? = (trail path).getLast? := by
  rw [trail_eq_named_segments]
  cases found : (segments path).getLast? with
  | none => rw [List.getLast?_eq_none_iff.mp found]; rfl
  | some last =>
      obtain ⟨front, split⟩ := List.getLast?_eq_some_iff.mp found
      rw [split, named_append, named_singleton (solid_of_getLast? found), List.getLast?_concat]

theorem fileName?_eq_of_trail_eq {first second : String}
    (same : trail first.toList = trail second.toList) : fileName? first = fileName? second := by
  rw [fileName?, fileName?, getLast?_segments, getLast?_segments, same]

theorem fileName?_of_trail {path name : String} {front : List (List Char)}
    (ends : trail path.toList = front ++ [name.toList]) (plain : name ≠ "..") :
    fileName? path = some name := by
  have other : name.toList ≠ ['.', '.'] := fun same => plain (String.toList_injective same)
  rw [fileName?, getLast?_segments, ends, List.getLast?_concat]
  simp [other]

def temporaryName (name : String) : String :=
  "." ++ name ++ ".tmp"

theorem toList_temporaryName (name : String) :
    (temporaryName name).toList = '.' :: (name.toList ++ ['.', 't', 'm', 'p']) := by
  rw [temporaryName, String.toList_append, String.toList_append]
  rfl

theorem temporaryName_injective {first second : String}
    (same : temporaryName first = temporaryName second) : first = second := by
  have chars := congrArg String.toList same
  rw [toList_temporaryName, toList_temporaryName] at chars
  exact String.toList_injective (List.append_cancel_right (List.cons.inj chars).2)

theorem ne_temporaryName (name : String) : temporaryName name ≠ name := by
  intro same
  have longer := congrArg (fun text => text.toList.length) same
  simp only [toList_temporaryName, List.length_cons, List.length_append] at longer
  omega

/-- A temporary has a longer name in the same directory. -/
theorem trail_temporary {path temporary : String} (waits : temporaryPath? path = some temporary) :
    ∃ name, fileName? path = some name ∧ fileName? temporary = some (temporaryName name) ∧
      isAbsolute temporary = isAbsolute path ∧
      trail temporary.toList =
        trail ((parent? path).getD "").toList ++ [(temporaryName name).toList] := by
  obtain ⟨name, ends, rfl⟩ := Option.map_eq_some_iff.mp waits
  obtain ⟨front, split, solid⟩ := fileName?_eq_some ends
  have whole : '/' ∉ (temporaryName name).toList := by
    have last : name.toList ∈ segments path.toList := by simp [split]
    have inside : '/' ∉ name.toList := whole_of_mem_segments last
    simp [toList_temporaryName, inside]
  have names := trail_withFileName ends whole (by simp [toList_temporaryName, isIdle])
  refine ⟨name, ends, fileName?_of_trail names ?_, ?_, names⟩
  · intro short
    have length := congrArg (fun text => text.toList.length) short
    simp [toList_temporaryName] at length
  · rw [withFileName_eq_join ends, ← temporaryName, isAbsolute_join whole, isAbsolute_parent ends]

end Modelwright.Path
