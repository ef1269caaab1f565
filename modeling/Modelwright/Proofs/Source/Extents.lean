import Modelwright.Proofs.Source.Blocks

namespace Modelwright.Source

/-- Where the last of the lexemes ends, or the given place if there are none. -/
def endOf (place : Nat) (lexemes : List Lexeme) : Nat :=
  (lexemes.getLast?.map (·.span.stop)).getD place

/-- The lexemes stand one behind the other, and behind the place. -/
def Behind (place : Nat) : List Lexeme → Prop
  | [] => True
  | lexeme :: more =>
    place ≤ lexeme.span.start ∧ lexeme.span.start < lexeme.span.stop ∧ Behind lexeme.span.stop more

@[simp] theorem endOf_nil (place : Nat) : endOf place [] = place := rfl

@[simp] theorem endOf_cons (place : Nat) (lexeme : Lexeme) (more : List Lexeme) :
    endOf place (lexeme :: more) = endOf lexeme.span.stop more := by
  simp only [endOf, List.getLast?_cons, Option.map_some, Option.getD_some]
  cases more.getLast? with
  | none => rfl
  | some last => rfl

theorem endOf_append (place : Nat) (first second : List Lexeme) :
    endOf place (first ++ second) = endOf (endOf place first) second := by
  induction first generalizing place with
  | nil => rfl
  | cons lexeme more ih => rw [List.cons_append, endOf_cons, endOf_cons, ih]

theorem endOf_concat (place : Nat) (lexemes : List Lexeme) (last : Lexeme) :
    endOf place (lexemes ++ [last]) = last.span.stop := by
  rw [endOf_append, endOf_cons, endOf_nil]

namespace Behind

variable {place : Nat} {lexemes first second : List Lexeme}

theorem append_iff : Behind place (first ++ second) ↔
    Behind place first ∧ Behind (endOf place first) second := by
  induction first generalizing place with
  | nil => simp [Behind]
  | cons lexeme more ih => simp only [List.cons_append, Behind, ih, endOf_cons, and_assoc]

theorem le_endOf (behind : Behind place lexemes) : place ≤ endOf place lexemes := by
  induction lexemes generalizing place with
  | nil => exact Nat.le_refl _
  | cons lexeme more ih =>
      obtain ⟨starts, proper, others⟩ := behind
      have ends := ih others
      rw [endOf_cons]
      omega

theorem mono {earlier : Nat} (behind : Behind place lexemes) (le : earlier ≤ place) :
    Behind earlier lexemes := by
  cases lexemes with
  | nil => trivial
  | cons lexeme more => exact ⟨Nat.le_trans le behind.1, behind.2⟩

theorem taken (behind : Behind place (first ++ second)) :
    place ≤ endOf place first ∧ Behind (endOf place first) second := by
  obtain ⟨inside, others⟩ := append_iff.mp behind
  exact ⟨inside.le_endOf, others⟩

theorem of_suffix (behind : Behind place lexemes) (suffix : second <:+ lexemes) :
    Behind place second := by
  obtain ⟨front, rfl⟩ := suffix
  obtain ⟨le, others⟩ := behind.taken
  exact others.mono le

end Behind

/-- What is taken in front of the rest ends at the stop, or nothing is and the stop is the place. -/
def TakenTo (place : Nat) (tokens : List Lexeme) (stop : Nat) (rest : List Lexeme) : Prop :=
  ∃ taken, tokens = taken ++ rest ∧ stop = endOf place taken

namespace TakenTo

variable {place between stop : Nat} {tokens middle rest : List Lexeme}

theorem nothing : TakenTo place rest place rest :=
  ⟨[], rfl, rfl⟩

theorem cons {lexeme : Lexeme} (taken : TakenTo lexeme.span.stop tokens stop rest) :
    TakenTo place (lexeme :: tokens) stop rest := by
  obtain ⟨more, rfl, rfl⟩ := taken
  exact ⟨lexeme :: more, rfl, (endOf_cons ..).symm⟩

theorem trans (first : TakenTo place tokens between middle)
    (second : TakenTo between middle stop rest) : TakenTo place tokens stop rest := by
  obtain ⟨front, rfl, rfl⟩ := first
  obtain ⟨more, rfl, rfl⟩ := second
  exact ⟨front ++ more, (List.append_assoc ..).symm, (endOf_append ..).symm⟩

theorem of_closing {closing : Lexeme} (suffix : closing :: rest <:+ tokens) :
    TakenTo place tokens closing.span.stop rest := by
  obtain ⟨front, rfl⟩ := suffix
  exact ⟨front ++ [closing], by simp, (endOf_concat ..).symm⟩

theorem suffix (taken : TakenTo place tokens stop rest) : rest <:+ tokens := by
  obtain ⟨front, rfl, -⟩ := taken
  exact List.suffix_append _ _

theorem le (taken : TakenTo place tokens stop rest) (behind : Behind place tokens) :
    place ≤ stop := by
  obtain ⟨front, rfl, rfl⟩ := taken
  exact behind.taken.1

theorem behind (taken : TakenTo place tokens stop rest) (behind : Behind place tokens) :
    Behind stop rest := by
  obtain ⟨front, rfl, rfl⟩ := taken
  exact behind.taken.2

end TakenTo

mutual

theorem ReadsExpr.suffix {tokens rest : List Lexeme} {value : Expr}
    (read : ReadsExpr tokens value rest) : rest <:+ tokens := by
  cases read with
  | text | number | yes | no | constant plain ends => exact List.suffix_cons _ _
  | call plain read =>
      obtain ⟨closing, inside, -⟩ := read.suffix
      exact (((List.suffix_cons _ _).trans inside).trans (List.suffix_cons _ _)).trans
        (List.suffix_cons _ _)
  | array read => exact read.suffix.trans (List.suffix_cons _ _)

theorem ReadsItems.suffix {tokens rest : List Lexeme} {values : List Expr}
    (read : ReadsItems tokens values rest) : rest <:+ tokens := by
  cases read with
  | close => exact List.suffix_cons _ _
  | last read => exact (List.suffix_cons _ _).trans read.suffix
  | more read others => exact (others.suffix.trans (List.suffix_cons _ _)).trans read.suffix

theorem ReadsArgument.suffix {tokens rest : List Lexeme} {value : Argument}
    (read : ReadsArgument tokens value rest) : rest <:+ tokens := by
  cases read with
  | named read =>
      exact (read.suffix.trans (List.suffix_cons _ _)).trans (List.suffix_cons _ _)
  | positional unnamed read => exact read.suffix

theorem ReadsArguments.suffix {tokens rest : List Lexeme} {values : List Argument} {stop : Nat}
    (read : ReadsArguments tokens values stop rest) :
    ∃ closing : Lexeme, closing :: rest <:+ tokens ∧ stop = closing.span.stop := by
  cases read with
  | close => exact ⟨_, List.suffix_refl _, rfl⟩
  | last read => exact ⟨_, read.suffix, rfl⟩
  | more read others =>
      obtain ⟨closing, inside, ends⟩ := others.suffix
      exact ⟨closing, (inside.trans (List.suffix_cons _ _)).trans read.suffix, ends⟩

end

section Extents

variable {tokens rest : List Lexeme}

theorem ReadsDotted.takenTo {name whole : Name} (read : ReadsDotted name tokens whole rest)
    (behind : Behind name.span.stop tokens) (proper : name.span.start ≤ name.span.stop) :
    whole.span.start = name.span.start ∧
      TakenTo name.span.stop tokens whole.span.stop rest := by
  induction read with
  | stop ends => exact ⟨rfl, .nothing⟩
  | @part name whole part dot span inside rest read ih =>
      obtain ⟨afterName, dotProper, afterDot, partProper, others⟩ := behind
      dsimp only at afterName dotProper afterDot partProper others
      have merged : name.span.merge span = ⟨name.span.start, span.stop⟩ := by
        rw [Span.merge, Nat.min_eq_left (by omega), Nat.max_eq_right (by omega)]
      rw [merged] at ih
      obtain ⟨starts, taken⟩ := ih others (by dsimp only; omega)
      exact ⟨starts, taken.cons.cons⟩

theorem ReadsOptionalArguments.takenTo {stop last : Nat} {values : List Argument}
    (read : ReadsOptionalArguments stop tokens values last rest) :
    TakenTo stop tokens last rest := by
  cases read with
  | absent ends => exact .nothing
  | present read =>
      obtain ⟨closing, suffix, rfl⟩ := read.suffix
      exact (TakenTo.of_closing suffix).cons

theorem ReadsMark.takenTo {sign : Span} {mark : Attribute} (read : ReadsMark sign tokens mark rest)
    (behind : Behind sign.stop tokens) :
    mark.span.start = sign.start ∧ TakenTo sign.stop tokens mark.span.stop rest ∧
      sign.stop ≤ mark.name.span.start ∧ mark.name.span.stop ≤ mark.span.stop := by
  cases read with
  | mk named read =>
      obtain ⟨afterSign, proper, others⟩ := behind
      obtain ⟨starts, dotted⟩ := named.takenTo others (Nat.le_of_lt proper)
      have opened := read.takenTo
      exact ⟨rfl, (dotted.trans opened).cons, starts ▸ afterSign, opened.le (dotted.behind others)⟩

theorem endOfAttributes_cons (stop : Nat) (mark : Attribute) (marks : List Attribute) :
    endOfAttributes stop (mark :: marks) = endOfAttributes mark.span.stop marks := by
  simp only [endOfAttributes, List.getLast?_cons, Option.map_some, Option.getD_some]
  cases marks.getLast? with
  | none => rfl
  | some last => rfl

theorem ReadsUnsupported.takenTo {name : Name} {unsupported : Option String} {stop : Nat}
    (read : ReadsUnsupported name tokens unsupported stop rest) :
    TakenTo name.span.stop tokens stop rest := by
  cases read with
  | absent ends => exact .nothing
  | present announced => exact ⟨[_, _, _], rfl, rfl⟩

theorem ReadsArity.takenTo {stop last : Nat} {arity : Arity}
    (read : ReadsArity stop tokens arity last rest) : TakenTo stop tokens last rest := by
  cases read with
  | required single certain => exact .nothing
  | optional => exact ⟨[_], rfl, rfl⟩
  | list => exact ⟨[_, _], rfl, rfl⟩

theorem ReadsTypeRef.takenTo {type : TypeRef} {stop : Nat}
    (read : ReadsTypeRef tokens type stop rest) :
    ∃ inside, tokens = ⟨.identifier type.name.text, type.name.span⟩ :: inside ∧
      TakenTo type.name.span.stop inside stop rest := by
  cases read with
  | mk typed read => exact ⟨_, rfl, typed.takenTo.trans read.takenTo⟩

theorem afterDocs_suffix (tokens : List Lexeme) : afterDocs tokens <:+ tokens :=
  List.dropWhile_suffix _

theorem ReadsBraces.suffix {depth : Nat} (read : ReadsBraces depth tokens rest) :
    rest <:+ tokens := by
  induction read with
  | done => exact List.suffix_cons _ _
  | closed read ih | opened read ih | passed other read ih => exact ih.trans (List.suffix_cons _ _)

end Extents

end Modelwright.Source
