import Modelwright.Proofs.Outcome
import Modelwright.Source.Parser

namespace Modelwright.Source

/-! The grammar of values: which lexemes stand for one, and what may follow it. -/

def nextToken (tokens : List Lexeme) : Option Token :=
  tokens.head?.map (·.token)

def IsPlainName (name : String) : Prop :=
  name ≠ "true" ∧ name ≠ "false"

/-- The first lexeme is a name that the second makes the name of an argument. -/
def StartsNamed (tokens : List Lexeme) : Prop :=
  ∃ name, nextToken tokens = some (.identifier name) ∧ nextToken tokens.tail = some .colon

mutual

inductive ReadsExpr : List Lexeme → Expr → List Lexeme → Prop
  | text {value : String} {span : Span} {rest : List Lexeme} :
      ReadsExpr (⟨.text value, span⟩ :: rest) (.text value) rest
  | number {digits : String} {span : Span} {rest : List Lexeme} :
      ReadsExpr (⟨.number digits, span⟩ :: rest) (.number digits) rest
  | yes {span : Span} {rest : List Lexeme} :
      ReadsExpr (⟨.identifier "true", span⟩ :: rest) (.boolean true) rest
  | no {span : Span} {rest : List Lexeme} :
      ReadsExpr (⟨.identifier "false", span⟩ :: rest) (.boolean false) rest
  | constant {name : String} {span : Span} {rest : List Lexeme} (plain : IsPlainName name)
      (ends : nextToken rest ≠ some .leftParen) :
      ReadsExpr (⟨.identifier name, span⟩ :: rest) (.constant name) rest
  | call {name : String} {span opening : Span} {inside rest : List Lexeme}
      {arguments : List Argument} {stop : Nat} (plain : IsPlainName name)
      (read : ReadsArguments inside arguments stop rest) :
      ReadsExpr (⟨.identifier name, span⟩ :: ⟨.leftParen, opening⟩ :: inside)
        (.call name arguments) rest
  | array {opening : Span} {inside rest : List Lexeme} {items : List Expr}
      (read : ReadsItems inside items rest) :
      ReadsExpr (⟨.leftBracket, opening⟩ :: inside) (.array items) rest

inductive ReadsItems : List Lexeme → List Expr → List Lexeme → Prop
  | close {span : Span} {rest : List Lexeme} : ReadsItems (⟨.rightBracket, span⟩ :: rest) [] rest
  | last {tokens rest : List Lexeme} {item : Expr} {span : Span}
      (read : ReadsExpr tokens item (⟨.rightBracket, span⟩ :: rest)) : ReadsItems tokens [item] rest
  | more {tokens between rest : List Lexeme} {item : Expr} {items : List Expr} {span : Span}
      (read : ReadsExpr tokens item (⟨.comma, span⟩ :: between))
      (others : ReadsItems between items rest) : ReadsItems tokens (item :: items) rest

inductive ReadsArgument : List Lexeme → Argument → List Lexeme → Prop
  | named {name : String} {span colon : Span} {inside rest : List Lexeme} {value : Expr}
      (read : ReadsExpr inside value rest) :
      ReadsArgument (⟨.identifier name, span⟩ :: ⟨.colon, colon⟩ :: inside)
        (.mk (some name) value) rest
  | positional {tokens rest : List Lexeme} {value : Expr} (unnamed : ¬ StartsNamed tokens)
      (read : ReadsExpr tokens value rest) : ReadsArgument tokens (.mk none value) rest

inductive ReadsArguments : List Lexeme → List Argument → Nat → List Lexeme → Prop
  | close {span : Span} {rest : List Lexeme} :
      ReadsArguments (⟨.rightParen, span⟩ :: rest) [] span.stop rest
  | last {tokens rest : List Lexeme} {argument : Argument} {span : Span}
      (read : ReadsArgument tokens argument (⟨.rightParen, span⟩ :: rest)) :
      ReadsArguments tokens [argument] span.stop rest
  | more {tokens between rest : List Lexeme} {argument : Argument} {arguments : List Argument}
      {span : Span} {stop : Nat} (read : ReadsArgument tokens argument (⟨.comma, span⟩ :: between))
      (others : ReadsArguments between arguments stop rest) :
      ReadsArguments tokens (argument :: arguments) stop rest

end

/-- The reader takes the value and leaves the rest. -/
def Reads {α : Type} {n : Nat} (x : Parsed α n) (value : α) (rest : List Lexeme) : Prop :=
  ∃ shorter, x = .ok ⟨value, rest, shorter⟩

theorem reads_bind_iff {α β : Type} {n m : Nat} {x : Parsed α n}
    {f : Reading Lexeme n α → Parsed β m} {value : β} {rest : List Lexeme} :
    Reads (x >>= f) value rest ↔
      ∃ first between shorter, x = .ok ⟨first, between, shorter⟩ ∧
        Reads (f ⟨first, between, shorter⟩) value rest := by
  cases x with
  | error mismatch => simp [Reads, bind, Except.bind]
  | ok first =>
      constructor
      · exact fun reads => ⟨first.value, first.rest, first.shorter, rfl, reads⟩
      · rintro ⟨_, _, _, same, reads⟩
        cases same
        exact reads

@[simp] theorem reads_ok_iff {α : Type} {n : Nat} {r : Reading Lexeme n α} {value : α}
    {rest : List Lexeme} : Reads (.ok r) value rest ↔ value = r.value ∧ rest = r.rest := by
  obtain ⟨given, left, shorter⟩ := r
  simp only [Reads, Except.ok.injEq, Reading.mk.injEq]
  constructor
  · rintro ⟨-, rfl, rfl⟩
    exact ⟨rfl, rfl⟩
  · rintro ⟨rfl, rfl⟩
    exact ⟨shorter, rfl, rfl⟩

@[simp] theorem reads_pure_iff {α : Type} {n : Nat} {r : Reading Lexeme n α} {value : α}
    {rest : List Lexeme} :
    Reads (pure r) value rest ↔ value = r.value ∧ rest = r.rest :=
  reads_ok_iff

@[simp] theorem not_reads_error {α : Type} {n : Nat} {mismatch : Mismatch} {value : α}
    {rest : List Lexeme} : ¬ Reads (.error mismatch : Parsed α n) value rest := by
  simp [Reads]

theorem reads_expectToken_iff {token : Token} {tokens rest : List Lexeme} {span : Span} :
    Reads (expectToken token tokens) span rest ↔ tokens = ⟨token, span⟩ :: rest := by
  cases tokens with
  | nil => simp [expectToken]
  | cons found more =>
      obtain ⟨kind, place⟩ := found
      by_cases same : kind = token
      · simp [expectToken, same, eq_comm]
      · simp [expectToken, same]

theorem reads_expectName_iff {wanted : Expectation} {tokens rest : List Lexeme} {name : Name} :
    Reads (expectName wanted tokens) name rest ↔
      tokens = ⟨.identifier name.text, name.span⟩ :: rest := by
  unfold expectName
  split
  · simp
  · next text span more =>
      obtain ⟨given, place⟩ := name
      simp [eq_comm, and_assoc]
  · next found more other =>
      simp only [not_reads_error, List.cons.injEq, false_iff, not_and]
      rintro rfl
      exact absurd rfl (other _ _)

theorem reads_name (wanted : Expectation) (name : String) (span : Span) (rest : List Lexeme) :
    Reads (expectName wanted (⟨.identifier name, span⟩ :: rest)) ⟨name, span⟩ rest :=
  reads_expectName_iff.mpr rfl

theorem reads_expectText_iff {tokens rest : List Lexeme} {value : String} :
    Reads (expectText tokens) value rest ↔ ∃ span, tokens = ⟨.text value, span⟩ :: rest := by
  unfold expectText
  split
  · simp
  · next text span more =>
      simp [eq_comm]
  · next found more other =>
      simp only [not_reads_error, List.cons.injEq, false_iff, not_exists, not_and]
      rintro span rfl
      exact absurd rfl (other _ _)

theorem not_readsExpr_rightBracket {tokens rest left : List Lexeme} {span : Span} {value : Expr}
    (start : tokens = ⟨.rightBracket, span⟩ :: rest) : ¬ ReadsExpr tokens value left := by
  rintro (_ | _ | _ | _ | _ | _ | _)
  all_goals cases start

theorem not_readsArgument_rightParen {tokens rest left : List Lexeme} {span : Span}
    {value : Argument} (start : tokens = ⟨.rightParen, span⟩ :: rest) :
    ¬ ReadsArgument tokens value left := by
  rintro (_ | ⟨_, _ | _ | _ | _ | _ | _ | _⟩)
  all_goals cases start

theorem nextToken_ne_iff {token : Token} {tokens : List Lexeme} :
    nextToken tokens ≠ some token ↔
      ∀ span inside, tokens = ⟨token, span⟩ :: inside → False := by
  constructor
  · rintro ends span inside rfl
    exact ends rfl
  · intro other first
    match tokens with
    | [] => cases first
    | ⟨kind, span⟩ :: inside =>
        obtain rfl := Option.some.inj first
        exact other span inside rfl

mutual

theorem reads_expr {tokens rest : List Lexeme} {value : Expr}
    (derived : ReadsExpr tokens value rest) : Reads (expr tokens) value rest := by
  cases derived with
  | text => simp [expr]
  | number => simp [expr]
  | yes =>
      rw [expr.eq_def]
      simp
  | no =>
      rw [expr.eq_def]
      simp
  | constant plain ends =>
      rw [expr.eq_5 _ _ _ (nextToken_ne_iff.mp ends), if_neg plain.1, if_neg plain.2]
      simp
  | call plain read =>
      obtain ⟨shorter, made⟩ := reads_arguments read
      rw [expr.eq_4, if_neg plain.1, if_neg plain.2, reads_bind_iff]
      exact ⟨_, _, shorter, made, by simp⟩
  | array read =>
      obtain ⟨shorter, made⟩ := reads_items read
      rw [expr, reads_bind_iff]
      exact ⟨_, _, shorter, made, by simp⟩

theorem reads_items {tokens rest : List Lexeme} {values : List Expr}
    (derived : ReadsItems tokens values rest) : Reads (items tokens) values rest := by
  cases derived with
  | close => simp [items]
  | last read =>
      obtain ⟨shorter, made⟩ := reads_expr read
      rw [items.eq_2 _ fun span rest start => not_readsExpr_rightBracket start read, reads_bind_iff]
      refine ⟨_, _, shorter, made, ?_⟩
      simp [expectToken, bind, Except.bind]
  | more read others =>
      obtain ⟨shorter, made⟩ := reads_expr read
      obtain ⟨less, madeOthers⟩ := reads_items others
      rw [items.eq_2 _ fun span rest start => not_readsExpr_rightBracket start read, reads_bind_iff]
      refine ⟨_, _, shorter, made, ?_⟩
      simp [madeOthers, bind, Except.bind]

theorem reads_argument {tokens rest : List Lexeme} {value : Argument}
    (derived : ReadsArgument tokens value rest) : Reads (argument tokens) value rest := by
  cases derived with
  | named read =>
      obtain ⟨shorter, made⟩ := reads_expr read
      rw [argument, reads_bind_iff]
      exact ⟨_, _, shorter, made, by simp⟩
  | positional unnamed read =>
      obtain ⟨shorter, made⟩ := reads_expr read
      rw [argument.eq_2, reads_bind_iff]
      · exact ⟨_, _, shorter, made, by simp⟩
      · rintro name span colon inside rfl
        exact unnamed ⟨name, rfl, rfl⟩

theorem reads_arguments {tokens rest : List Lexeme} {values : List Argument} {stop : Nat}
    (derived : ReadsArguments tokens values stop rest) :
    Reads (arguments tokens) (values, stop) rest := by
  cases derived with
  | close => simp [arguments]
  | last read =>
      obtain ⟨shorter, made⟩ := reads_argument read
      rw [arguments.eq_2 _ fun span rest start => not_readsArgument_rightParen start read,
        reads_bind_iff]
      refine ⟨_, _, shorter, made, ?_⟩
      simp [expectToken, bind, Except.bind]
  | more read others =>
      obtain ⟨shorter, made⟩ := reads_argument read
      obtain ⟨less, madeOthers⟩ := reads_arguments others
      rw [arguments.eq_2 _ fun span rest start => not_readsArgument_rightParen start read,
        reads_bind_iff]
      refine ⟨_, _, shorter, made, ?_⟩
      simp [madeOthers, bind, Except.bind]

end

theorem not_startsNamed {tokens : List Lexeme}
    (other : ∀ name span colon inside,
      tokens = ⟨.identifier name, span⟩ :: ⟨.colon, colon⟩ :: inside → False) :
    ¬ StartsNamed tokens := by
  rintro ⟨name, first, second⟩
  match tokens with
  | [] => cases first
  | [_] => cases second
  | ⟨kind, span⟩ :: ⟨next, colon⟩ :: inside =>
      obtain rfl := Option.some.inj first
      obtain rfl := Option.some.inj second
      exact other name span colon inside rfl

mutual

theorem readsExpr_of_reads {tokens rest : List Lexeme} {value : Expr}
    (reads : Reads (expr tokens) value rest) : ReadsExpr tokens value rest := by
  match tokens with
  | [] => simp [expr] at reads
  | ⟨.text text, span⟩ :: more =>
      simp only [expr, reads_ok_iff] at reads
      obtain ⟨rfl, rfl⟩ := reads
      exact .text
  | ⟨.number digits, span⟩ :: more =>
      simp only [expr, reads_ok_iff] at reads
      obtain ⟨rfl, rfl⟩ := reads
      exact .number
  | ⟨.identifier name, span⟩ :: more =>
      rw [expr.eq_def] at reads
      dsimp only at reads
      split at reads
      · next same =>
          obtain ⟨rfl, rfl⟩ := reads_ok_iff.mp reads
          rw [same]
          exact .yes
      split at reads
      · next same =>
          obtain ⟨rfl, rfl⟩ := reads_ok_iff.mp reads
          rw [same]
          exact .no
      next yes no =>
        split at reads
        · next opening inside =>
            obtain ⟨⟨values, stop⟩, between, shorter, made, finished⟩ := reads_bind_iff.mp reads
            obtain ⟨rfl, rfl⟩ := reads_pure_iff.mp finished
            exact .call ⟨yes, no⟩ (readsArguments_of_reads ⟨shorter, made⟩)
        · next other =>
            obtain ⟨rfl, rfl⟩ := reads_ok_iff.mp reads
            exact .constant ⟨yes, no⟩ (nextToken_ne_iff.mpr other)
  | ⟨.leftBracket, span⟩ :: inside =>
      rw [expr] at reads
      obtain ⟨values, between, shorter, made, finished⟩ := reads_bind_iff.mp reads
      obtain ⟨rfl, rfl⟩ := reads_pure_iff.mp finished
      exact .array (readsItems_of_reads ⟨shorter, made⟩)
  | ⟨.doc _, _⟩ :: _ | ⟨.doubleAtSign, _⟩ :: _ | ⟨.atSign, _⟩ :: _ | ⟨.dot, _⟩ :: _
  | ⟨.comma, _⟩ :: _ | ⟨.colon, _⟩ :: _ | ⟨.equals, _⟩ :: _ | ⟨.question, _⟩ :: _
  | ⟨.leftParen, _⟩ :: _ | ⟨.rightParen, _⟩ :: _ | ⟨.leftBrace, _⟩ :: _ | ⟨.rightBrace, _⟩ :: _
  | ⟨.rightBracket, _⟩ :: _ => simp [expr] at reads
termination_by (tokens.length, 0)

theorem readsItems_of_reads {tokens rest : List Lexeme} {values : List Expr}
    (reads : Reads (items tokens) values rest) : ReadsItems tokens values rest := by
  rw [items.eq_def] at reads
  split at reads
  · obtain ⟨rfl, rfl⟩ := reads_ok_iff.mp reads
    exact .close
  · next open_ =>
      obtain ⟨item, between, shorter, made, finished⟩ := reads_bind_iff.mp reads
      have first := readsExpr_of_reads ⟨shorter, made⟩
      dsimp only at finished
      split at finished
      · next span after =>
          have progress : after.length < tokens.length :=
            Nat.lt_of_le_of_lt (Nat.le_succ _) shorter
          obtain ⟨others, left, less, madeOthers, finished⟩ := reads_bind_iff.mp finished
          obtain ⟨rfl, rfl⟩ := reads_pure_iff.mp finished
          exact .more first (readsItems_of_reads ⟨less, madeOthers⟩)
      · obtain ⟨span, left, less, closed, finished⟩ := reads_bind_iff.mp finished
        obtain ⟨rfl, rfl⟩ := reads_pure_iff.mp finished
        rw [reads_expectToken_iff.mp ⟨less, closed⟩] at first
        exact .last first
termination_by (tokens.length, 1)

theorem readsArgument_of_reads {tokens rest : List Lexeme} {value : Argument}
    (reads : Reads (argument tokens) value rest) : ReadsArgument tokens value rest := by
  by_cases named : ∃ name span colon inside,
      tokens = ⟨.identifier name, span⟩ :: ⟨.colon, colon⟩ :: inside
  · obtain ⟨name, span, colon, inside, same⟩ := named
    have progress : inside.length < tokens.length := by
      simp only [same, List.length_cons]
      omega
    rw [same, argument.eq_1, reads_bind_iff] at reads
    obtain ⟨value, between, shorter, made, finished⟩ := reads
    obtain ⟨rfl, rfl⟩ := reads_pure_iff.mp finished
    rw [same]
    exact .named (readsExpr_of_reads ⟨shorter, made⟩)
  · have unnamed : ∀ name span colon inside,
        tokens = ⟨.identifier name, span⟩ :: ⟨.colon, colon⟩ :: inside → False :=
      fun name span colon inside same => named ⟨name, span, colon, inside, same⟩
    rw [argument.eq_2 _ unnamed, reads_bind_iff] at reads
    obtain ⟨value, between, shorter, made, finished⟩ := reads
    obtain ⟨rfl, rfl⟩ := reads_pure_iff.mp finished
    exact .positional (not_startsNamed unnamed) (readsExpr_of_reads ⟨shorter, made⟩)
termination_by (tokens.length, 1)

theorem readsArguments_of_reads {tokens rest : List Lexeme} {values : List Argument} {stop : Nat}
    (reads : Reads (arguments tokens) (values, stop) rest) :
    ReadsArguments tokens values stop rest := by
  rw [arguments.eq_def] at reads
  split at reads
  · obtain ⟨same, rfl⟩ := reads_ok_iff.mp reads
    cases same
    exact .close
  · next open_ =>
      obtain ⟨argument, between, shorter, made, finished⟩ := reads_bind_iff.mp reads
      have first := readsArgument_of_reads ⟨shorter, made⟩
      dsimp only at finished
      split at finished
      · next span after =>
          have progress : after.length < tokens.length :=
            Nat.lt_of_le_of_lt (Nat.le_succ _) shorter
          obtain ⟨⟨others, last⟩, left, less, madeOthers, finished⟩ := reads_bind_iff.mp finished
          obtain ⟨same, rfl⟩ := reads_pure_iff.mp finished
          cases same
          exact .more first (readsArguments_of_reads ⟨less, madeOthers⟩)
      · obtain ⟨span, left, less, closed, finished⟩ := reads_bind_iff.mp finished
        obtain ⟨same, rfl⟩ := reads_pure_iff.mp finished
        cases same
        rw [reads_expectToken_iff.mp ⟨less, closed⟩] at first
        exact .last first
termination_by (tokens.length, 2)

end

theorem reads_expr_iff {tokens rest : List Lexeme} {value : Expr} :
    Reads (expr tokens) value rest ↔ ReadsExpr tokens value rest :=
  ⟨readsExpr_of_reads, reads_expr⟩

theorem reads_arguments_iff {tokens rest : List Lexeme} {values : List Argument} {stop : Nat} :
    Reads (arguments tokens) (values, stop) rest ↔ ReadsArguments tokens values stop rest :=
  ⟨readsArguments_of_reads, reads_arguments⟩

end Modelwright.Source
