import Modelwright.Proofs.Source.Printing

namespace Modelwright.Source

open Modelwright.Text

/-! Values and declarations that are read off a text have proper tokens, and from their canonical
tokens they are read back. -/

def AllProper (tokens : List Token) : Prop :=
  ∀ t ∈ tokens, t.Proper

@[simp] theorem allProper_nil : AllProper [] :=
  List.forall_mem_nil _

@[simp] theorem allProper_cons {t : Token} {tokens : List Token} :
    AllProper (t :: tokens) ↔ t.Proper ∧ AllProper tokens :=
  List.forall_mem_cons

@[simp] theorem allProper_append {first second : List Token} :
    AllProper (first ++ second) ↔ AllProper first ∧ AllProper second :=
  List.forall_mem_append

theorem allProper_flatMap {α : Type} {items : List α} {tokens : α → List Token} :
    AllProper (items.flatMap tokens) ↔ ∀ item ∈ items, AllProper (tokens item) := by
  simp only [AllProper, List.mem_flatMap, forall_exists_index, and_imp]
  exact ⟨fun all item listed t found => all t item listed found,
    fun all t item listed found => all item listed t found⟩

def Spelled (tokens : List Lexeme) : Prop :=
  ∀ lexeme ∈ tokens, lexeme.token.Proper

@[simp] theorem spelled_cons {token : Token} {span : Span} {rest : List Lexeme} :
    Spelled (⟨token, span⟩ :: rest) ↔ token.Proper ∧ Spelled rest :=
  List.forall_mem_cons

theorem spelled_afterDocs {tokens : List Lexeme} (spelled : Spelled tokens) :
    Spelled (afterDocs tokens) :=
  fun lexeme listed => spelled lexeme ((List.dropWhile_sublist isDoc).subset listed)

theorem spelled_behindDocs {tokens inside : List Lexeme} {token : Token} {span : Span}
    (spelled : Spelled tokens) (start : afterDocs tokens = ⟨token, span⟩ :: inside) :
    token.Proper ∧ Spelled inside := by
  have behind := spelled_afterDocs spelled
  rw [start] at behind
  exact spelled_cons.mp behind

def bare (tokens : List Token) : List Lexeme :=
  tokens.map fun token => ⟨token, origin⟩

@[simp] theorem bare_nil : bare [] = [] := rfl

@[simp] theorem bare_cons (token : Token) (tokens : List Token) :
    bare (token :: tokens) = ⟨token, origin⟩ :: bare tokens := rfl

@[simp] theorem bare_append (first second : List Token) :
    bare (first ++ second) = bare first ++ bare second :=
  List.map_append

@[simp] theorem nextToken_cons (token : Token) (span : Span) (rest : List Lexeme) :
    nextToken (⟨token, span⟩ :: rest) = some token := rfl

theorem not_startsNamed_tokens {value : Expr} {after : List Lexeme}
    (ends : nextToken after ≠ some .colon) : ¬ StartsNamed (bare value.tokens ++ after) := by
  rintro ⟨name, first, second⟩
  cases value with
  | boolean value => cases value <;> exact ends second
  | constant name => exact ends second
  | call function arguments => cases second
  | _ => cases first

mutual

theorem ReadsExpr.spelled {tokens rest : List Lexeme} {value : Expr}
    (read : ReadsExpr tokens value rest) (spelled : Spelled tokens) :
    AllProper value.tokens ∧ Spelled rest := by
  cases read with
  | call plain read =>
      obtain ⟨named, opened⟩ := spelled_cons.mp spelled
      obtain ⟨proper, behind⟩ := read.spelled (spelled_cons.mp opened).2
      exact ⟨allProper_cons.mpr ⟨named, by simpa using proper⟩, behind⟩
  | array read =>
      obtain ⟨proper, behind⟩ := read.spelled (spelled_cons.mp spelled).2
      exact ⟨by simp [Expr.tokens, proper], behind⟩
  | _ => simpa [Expr.tokens] using spelled

theorem ReadsItems.spelled {tokens rest : List Lexeme} {values : List Expr}
    (read : ReadsItems tokens values rest) (spelled : Spelled tokens) :
    AllProper (itemsTokens values) ∧ Spelled rest := by
  cases read with
  | close => simpa [itemsTokens] using spelled
  | last read =>
      obtain ⟨proper, closed⟩ := read.spelled spelled
      exact ⟨by simp [itemsTokens, proper], (spelled_cons.mp closed).2⟩
  | @more _ _ _ item items _ read others =>
      obtain ⟨proper, parted⟩ := read.spelled spelled
      obtain ⟨more, behind⟩ := others.spelled (spelled_cons.mp parted).2
      refine ⟨?_, behind⟩
      cases items with
      | nil => simp [itemsTokens, proper]
      | cons second items => simp [itemsTokens.eq_3, proper, more]

theorem ReadsArgument.spelled {tokens rest : List Lexeme} {value : Argument}
    (read : ReadsArgument tokens value rest) (spelled : Spelled tokens) :
    AllProper value.tokens ∧ Spelled rest := by
  cases read with
  | named read =>
      obtain ⟨named, parted⟩ := spelled_cons.mp spelled
      obtain ⟨proper, behind⟩ := read.spelled (spelled_cons.mp parted).2
      exact ⟨allProper_cons.mpr ⟨named, by simpa using proper⟩, behind⟩
  | positional unnamed read => exact read.spelled spelled

theorem ReadsArguments.spelled {tokens rest : List Lexeme} {values : List Argument} {stop : Nat}
    (read : ReadsArguments tokens values stop rest) (spelled : Spelled tokens) :
    AllProper (argumentsTokens values) ∧ Spelled rest := by
  cases read with
  | close => simpa [argumentsTokens] using spelled
  | last read =>
      obtain ⟨proper, closed⟩ := read.spelled spelled
      exact ⟨by simp [argumentsTokens, proper], (spelled_cons.mp closed).2⟩
  | @more _ _ _ argument arguments _ _ read others =>
      obtain ⟨proper, parted⟩ := read.spelled spelled
      obtain ⟨more, behind⟩ := others.spelled (spelled_cons.mp parted).2
      refine ⟨?_, behind⟩
      cases arguments with
      | nil => simp [argumentsTokens, proper]
      | cons second arguments => simp [argumentsTokens.eq_3, proper, more]

end

mutual

theorem ReadsExpr.again {tokens rest : List Lexeme} {value : Expr}
    (read : ReadsExpr tokens value rest) {after : List Lexeme}
    (ends : nextToken after ≠ some .leftParen) :
    ReadsExpr (bare value.tokens ++ after) value after := by
  cases read with
  | text => exact .text
  | number => exact .number
  | yes => exact .yes
  | no => exact .no
  | constant plain => exact .constant plain ends
  | call plain read => exact .call plain (read.again after)
  | array read => exact .array (read.again after)

theorem ReadsItems.again {tokens rest : List Lexeme} {values : List Expr}
    (read : ReadsItems tokens values rest) (after : List Lexeme) :
    ReadsItems (bare (itemsTokens values) ++ after) values after := by
  cases read with
  | close => exact .close
  | last read =>
      rw [itemsTokens, bare_append, List.append_assoc]
      exact .last (read.again (by simp))
  | @more _ _ _ item items _ read others =>
      cases items with
      | nil =>
          rw [itemsTokens, bare_append, List.append_assoc]
          exact .last (read.again (by simp))
      | cons second items =>
          rw [itemsTokens.eq_3 _ _ (by simp), bare_append, List.append_assoc]
          exact .more (read.again (by simp)) (others.again after)

theorem ReadsArgument.again {tokens rest : List Lexeme} {value : Argument}
    (read : ReadsArgument tokens value rest) {after : List Lexeme}
    (ends : nextToken after ≠ some .leftParen) (unnamed : nextToken after ≠ some .colon) :
    ReadsArgument (bare value.tokens ++ after) value after := by
  cases read with
  | named read => exact .named (read.again ends)
  | positional _ read => exact .positional (not_startsNamed_tokens unnamed) (read.again ends)

theorem ReadsArguments.again {tokens rest : List Lexeme} {values : List Argument} {stop : Nat}
    (read : ReadsArguments tokens values stop rest) (after : List Lexeme) :
    ReadsArguments (bare (argumentsTokens values) ++ after) values origin.stop after := by
  cases read with
  | close => exact .close
  | last read =>
      rw [argumentsTokens, bare_append, List.append_assoc]
      exact .last (read.again (by simp) (by simp))
  | @more _ _ _ argument arguments _ _ read others =>
      cases arguments with
      | nil =>
          rw [argumentsTokens, bare_append, List.append_assoc]
          exact .last (read.again (by simp) (by simp))
      | cons second arguments =>
          rw [argumentsTokens.eq_3 _ _ (by simp), bare_append, List.append_assoc]
          exact .more (read.again (by simp) (by simp)) (others.again after)

end

theorem pieces_identifier {name : String} (proper : (Token.identifier name).Proper) :
    pieces '.' name.toList = [name.toList] := by
  refine pieces_of_not_mem fun listed => ?_
  obtain ⟨c, more, spelled, start, others⟩ := proper
  have part : isIdentifierChar '.' = true := by
    rw [spelled] at listed
    rcases List.mem_cons.mp listed with rfl | listed
    · exact isIdentifierChar_of_start start
    · exact others '.' listed
  exact absurd part (by decide)

theorem ReadsDotted.again {name whole : Name} {tokens rest : List Lexeme}
    (read : ReadsDotted name tokens whole rest) (spelled : Spelled tokens) :
    ∃ parts, pieces '.' whole.text.toList = pieces '.' name.text.toList ++ parts ∧
      AllProper (dotTokens parts) ∧ Spelled rest ∧
      ∀ after, nextToken after ≠ some .dot →
        ReadsDotted (atOrigin name) (bare (dotTokens parts) ++ after) (atOrigin whole) after := by
  induction read with
  | stop ends => exact ⟨[], by simp, by simp [dotTokens], spelled, fun after => .stop⟩
  | @part name whole part dot span inside rest read ih =>
      obtain ⟨named, inside⟩ := spelled_cons.mp (spelled_cons.mp spelled).2
      obtain ⟨parts, whole, proper, behind, again⟩ := ih inside
      refine ⟨part.toList :: parts, ?_, ?_, behind, ?_⟩
      · rw [whole, String.toList_append, String.toList_append, List.append_assoc]
        rw [show ".".toList ++ part.toList = '.' :: part.toList from rfl, pieces_append_separator,
          pieces_identifier named, List.append_assoc, List.singleton_append]
      · simpa [dotTokens] using ⟨named, proper⟩
      · intro after ends
        have spelledBack : String.ofList part.toList = part := String.ofList_toList
        simp only [dotTokens, List.flatMap_cons, List.cons_append, List.nil_append, bare_cons,
          spelledBack]
        exact .part (again after ends)

theorem ReadsOptionalArguments.spelled {stop last : Nat} {values : List Argument}
    {tokens rest : List Lexeme} (read : ReadsOptionalArguments stop tokens values last rest)
    (spelled : Spelled tokens) : AllProper (optionalArgumentsTokens values) ∧ Spelled rest := by
  cases read with
  | absent ends => exact ⟨allProper_nil, spelled⟩
  | present read =>
      obtain ⟨proper, behind⟩ := read.spelled (spelled_cons.mp spelled).2
      refine ⟨?_, behind⟩
      cases values with
      | nil => exact allProper_nil
      | cons first values => simpa [optionalArgumentsTokens] using proper

theorem ReadsOptionalArguments.again {stop last : Nat} {values : List Argument}
    {tokens rest after : List Lexeme} (read : ReadsOptionalArguments stop tokens values last rest)
    (ends : nextToken after ≠ some .leftParen) :
    ReadsOptionalArguments origin.stop (bare (optionalArgumentsTokens values) ++ after) values
      origin.stop after := by
  cases read with
  | absent => exact .absent ends
  | present read =>
      cases values with
      | nil => exact .absent ends
      | cons first values => exact .present (read.again after)

namespace Attribute

/-- Behind a sign the attribute is read back from its tokens. -/
structure Reprints (mark : Attribute) : Prop where
  proper : AllProper mark.tokens
  again : ∀ after, nextToken after ≠ some .leftParen → nextToken after ≠ some .dot →
    ReadsMark origin (bare mark.tokens ++ after) mark.withoutSpans after

end Attribute

theorem nextToken_optionalArguments {arguments : List Argument} {after : List Lexeme}
    (undotted : nextToken after ≠ some .dot) :
    nextToken (bare (optionalArgumentsTokens arguments) ++ after) ≠ some .dot := by
  cases arguments with
  | nil => exact undotted
  | cons first arguments => simp [optionalArgumentsTokens]

theorem ReadsMark.reprints {sign : Span} {mark : Attribute} {tokens rest : List Lexeme}
    (read : ReadsMark sign tokens mark rest) (spelled : Spelled tokens) :
    mark.Reprints ∧ Spelled rest := by
  cases read with
  | @mk first span inside between _ name arguments stop named read =>
      obtain ⟨begun, inside⟩ := spelled_cons.mp spelled
      obtain ⟨parts, whole, proper, between, again⟩ := named.again inside
      obtain ⟨properArguments, behind⟩ := read.spelled between
      have tokens : (⟨name, arguments, ⟨sign.start, stop⟩⟩ : Attribute).tokens =
          .identifier first :: dotTokens parts ++ optionalArgumentsTokens arguments := by
        rw [Attribute.tokens, dottedTokens, whole, pieces_identifier begun]
        simp
      refine ⟨⟨?_, ?_⟩, behind⟩
      · rw [tokens]
        exact allProper_append.mpr ⟨allProper_cons.mpr ⟨begun, proper⟩, properArguments⟩
      · intro after ends undotted
        rw [tokens, bare_append, List.append_assoc]
        exact .mk (again _ (nextToken_optionalArguments undotted)) (read.again ends)

theorem ReadsMarks.reprints {marks : List Attribute} {tokens rest : List Lexeme}
    (read : ReadsMarks tokens marks rest) (spelled : Spelled tokens) :
    (∀ mark ∈ marks, mark.Reprints) ∧ Spelled rest := by
  induction read with
  | none ends => exact ⟨List.forall_mem_nil _, spelled⟩
  | more read others ih =>
      obtain ⟨first, between⟩ := read.reprints (spelled_cons.mp spelled).2
      obtain ⟨all, behind⟩ := ih between
      exact ⟨List.forall_mem_cons.mpr ⟨first, all⟩, behind⟩

theorem allProper_marksTokens {sign : Token} {marks : List Attribute} (signed : sign.Proper)
    (reprints : ∀ mark ∈ marks, mark.Reprints) : AllProper (marksTokens sign marks) :=
  allProper_flatMap.mpr fun mark listed =>
    allProper_cons.mpr ⟨signed, (reprints mark listed).proper⟩

theorem nextToken_marks (sign : Token) (marks : List Attribute) (after : List Lexeme) :
    nextToken (bare (marksTokens sign marks) ++ after) = some sign ∨
      nextToken (bare (marksTokens sign marks) ++ after) = nextToken after := by
  cases marks with
  | nil => exact .inr rfl
  | cons mark others => exact .inl rfl

/-- Nothing goes on with a declaration in front. -/
def EndsDeclaration (after : List Lexeme) : Prop :=
  ∀ t, nextToken after = some t → t ∉ [.dot, .leftParen, .leftBracket, .question, .atSign]

theorem EndsDeclaration.ne {after : List Lexeme} (ends : EndsDeclaration after) {t : Token}
    (goesOn : t ∈ [.dot, .leftParen, .leftBracket, .question, .atSign]) :
    nextToken after ≠ some t :=
  fun first => ends t first goesOn

theorem EndsDeclaration.marks_ne {after : List Lexeme} (ends : EndsDeclaration after)
    (marks : List Attribute) {t : Token}
    (goesOn : t ∈ [.dot, .leftParen, .leftBracket, .question]) :
    nextToken (bare (marksTokens .atSign marks) ++ after) ≠ some t := by
  rcases nextToken_marks .atSign marks after with sign | behind
  · rw [sign]
    rintro ⟨⟩
    exact absurd goesOn (by decide)
  · rw [behind]
    exact ends.ne (by simp at goesOn ⊢; tauto)

theorem readsMarks_again {marks : List Attribute} (reprints : ∀ mark ∈ marks, mark.Reprints)
    {after : List Lexeme} (ends : EndsDeclaration after) :
    ReadsMarks (bare (marksTokens .atSign marks) ++ after) (marks.map (·.withoutSpans)) after := by
  induction marks with
  | nil => exact .none (ends.ne (by simp))
  | cons mark others ih =>
      obtain ⟨first, reprints⟩ := List.forall_mem_cons.mp reprints
      rw [marksTokens, List.flatMap_cons, ← marksTokens, bare_append, List.append_assoc]
      exact .more (first.again _ (ends.marks_ne others (by simp)) (ends.marks_ne others (by simp)))
        (ih reprints)

theorem ReadsUnsupported.spelled {name : Name} {unsupported : Option String} {stop : Nat}
    {tokens rest : List Lexeme} (read : ReadsUnsupported name tokens unsupported stop rest)
    (spelled : Spelled tokens) : Spelled rest := by
  cases read with
  | absent ends => exact spelled
  | present announced => simpa using spelled

theorem ReadsUnsupported.again {name : Name} {unsupported : Option String} {stop : Nat}
    {tokens rest after : List Lexeme} (read : ReadsUnsupported name tokens unsupported stop rest)
    (closed : nextToken after ≠ some .leftParen) :
    ReadsUnsupported (atOrigin name) (bare (unsupportedTokens unsupported) ++ after) unsupported
      origin.stop after := by
  cases read with
  | absent ends => exact .absent fun _ => closed
  | present announced => exact .present announced

theorem ReadsArity.spelled {stop last : Nat} {arity : Arity} {tokens rest : List Lexeme}
    (read : ReadsArity stop tokens arity last rest) (spelled : Spelled tokens) : Spelled rest := by
  cases read with
  | required single certain => exact spelled
  | optional => exact (spelled_cons.mp spelled).2
  | list => simpa using spelled

theorem readsArity_again (arity : Arity) {after : List Lexeme}
    (single : nextToken after ≠ some .leftBracket) (certain : nextToken after ≠ some .question) :
    ReadsArity origin.stop (bare arity.tokens ++ after) arity origin.stop after := by
  cases arity with
  | required => exact .required single certain
  | optional => exact .optional
  | list => exact .list

theorem ReadsTypeRef.spelled {type : TypeRef} {stop : Nat} {tokens rest : List Lexeme}
    (read : ReadsTypeRef tokens type stop rest) (spelled : Spelled tokens) :
    AllProper type.tokens ∧ Spelled rest := by
  cases read with
  | @mk name span inside between _ unsupported behind _ arity typed read =>
      obtain ⟨named, inside⟩ := spelled_cons.mp spelled
      refine ⟨?_, read.spelled (typed.spelled inside)⟩
      have database : AllProper (unsupportedTokens unsupported) := by
        cases unsupported <;> simp [unsupportedTokens]
      have suffix : AllProper arity.tokens := by
        cases arity <;> simp [Arity.tokens]
      exact allProper_append.mpr ⟨allProper_cons.mpr ⟨named, database⟩, suffix⟩

theorem ReadsTypeRef.again {type : TypeRef} {stop : Nat} {tokens rest after : List Lexeme}
    (read : ReadsTypeRef tokens type stop rest) (single : nextToken after ≠ some .leftBracket)
    (certain : nextToken after ≠ some .question) (closed : nextToken after ≠ some .leftParen) :
    ReadsTypeRef (bare type.tokens ++ after) type.withoutSpans origin.stop after := by
  cases read with
  | @mk name span inside between _ unsupported behind _ arity typed read =>
      have behind : nextToken (bare arity.tokens ++ after) ≠ some .leftParen := by
        cases arity with
        | required => exact closed
        | _ => simp [Arity.tokens]
      rw [TypeRef.tokens, bare_append, List.append_assoc]
      exact .mk (typed.again behind) (readsArity_again arity single certain)

end Modelwright.Source
