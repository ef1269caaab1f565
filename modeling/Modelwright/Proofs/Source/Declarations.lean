import Modelwright.Proofs.Source.Grammar

namespace Modelwright.Source

inductive ReadsDotted : Name → List Lexeme → Name → List Lexeme → Prop
  | stop {name : Name} {rest : List Lexeme} (ends : nextToken rest ≠ some .dot) :
      ReadsDotted name rest name rest
  | part {name whole : Name} {part : String} {dot span : Span} {inside rest : List Lexeme}
      (read : ReadsDotted ⟨name.text ++ "." ++ part, name.span.merge span⟩ inside whole rest) :
      ReadsDotted name (⟨.dot, dot⟩ :: ⟨.identifier part, span⟩ :: inside) whole rest

inductive ReadsOptionalArguments (stop : Nat) :
    List Lexeme → List Argument → Nat → List Lexeme → Prop
  | absent {rest : List Lexeme} (ends : nextToken rest ≠ some .leftParen) :
      ReadsOptionalArguments stop rest [] stop rest
  | present {opening : Span} {inside rest : List Lexeme} {arguments : List Argument} {last : Nat}
      (read : ReadsArguments inside arguments last rest) :
      ReadsOptionalArguments stop (⟨.leftParen, opening⟩ :: inside) arguments last rest

inductive ReadsMark (sign : Span) : List Lexeme → Attribute → List Lexeme → Prop
  | mk {first : String} {span : Span} {inside between rest : List Lexeme} {name : Name}
      {arguments : List Argument} {stop : Nat}
      (named : ReadsDotted ⟨first, span⟩ inside name between)
      (read : ReadsOptionalArguments name.span.stop between arguments stop rest) :
      ReadsMark sign (⟨.identifier first, span⟩ :: inside)
        ⟨name, arguments, ⟨sign.start, stop⟩⟩ rest

inductive ReadsMarks : List Lexeme → List Attribute → List Lexeme → Prop
  | none {rest : List Lexeme} (ends : nextToken rest ≠ some .atSign) : ReadsMarks rest [] rest
  | more {sign : Span} {inside between rest : List Lexeme} {mark : Attribute}
      {marks : List Attribute} (read : ReadsMark sign inside mark between)
      (others : ReadsMarks between marks rest) :
      ReadsMarks (⟨.atSign, sign⟩ :: inside) (mark :: marks) rest

inductive ReadsUnsupported (name : Name) :
    List Lexeme → Option String → Nat → List Lexeme → Prop
  | absent {rest : List Lexeme}
      (ends : name.text = "Unsupported" → nextToken rest ≠ some .leftParen) :
      ReadsUnsupported name rest none name.span.stop rest
  | present {type : String} {opening span closing : Span} {rest : List Lexeme}
      (announced : name.text = "Unsupported") :
      ReadsUnsupported name
        (⟨.leftParen, opening⟩ :: ⟨.text type, span⟩ :: ⟨.rightParen, closing⟩ :: rest)
        (some type) closing.stop rest

inductive ReadsArity (stop : Nat) : List Lexeme → Arity → Nat → List Lexeme → Prop
  | required {rest : List Lexeme} (single : nextToken rest ≠ some .leftBracket)
      (certain : nextToken rest ≠ some .question) : ReadsArity stop rest .required stop rest
  | optional {span : Span} {rest : List Lexeme} :
      ReadsArity stop (⟨.question, span⟩ :: rest) .optional span.stop rest
  | list {opening closing : Span} {rest : List Lexeme} :
      ReadsArity stop (⟨.leftBracket, opening⟩ :: ⟨.rightBracket, closing⟩ :: rest) .list
        closing.stop rest

inductive ReadsTypeRef : List Lexeme → TypeRef → Nat → List Lexeme → Prop
  | mk {name : String} {span : Span} {inside between rest : List Lexeme}
      {unsupported : Option String} {behind stop : Nat} {arity : Arity}
      (typed : ReadsUnsupported ⟨name, span⟩ inside unsupported behind between)
      (read : ReadsArity behind between arity stop rest) :
      ReadsTypeRef (⟨.identifier name, span⟩ :: inside) ⟨⟨name, span⟩, arity, unsupported⟩ stop rest

inductive ReadsField (documentation : Option String) :
    List Lexeme → FieldDecl → List Lexeme → Prop
  | mk {name : String} {span : Span} {inside between rest : List Lexeme} {type : TypeRef}
      {stop : Nat} {marks : List Attribute} (typed : ReadsTypeRef inside type stop between)
      (marked : ReadsMarks between marks rest) :
      ReadsField documentation (⟨.identifier name, span⟩ :: inside)
        ⟨⟨name, span⟩, type, marks, documentation, ⟨span.start, endOfAttributes stop marks⟩⟩ rest

inductive ReadsEnumValue (documentation : Option String) :
    List Lexeme → EnumValueDecl → List Lexeme → Prop
  | mk {name : String} {span : Span} {inside rest : List Lexeme} {marks : List Attribute}
      (marked : ReadsMarks inside marks rest) :
      ReadsEnumValue documentation (⟨.identifier name, span⟩ :: inside)
        ⟨⟨name, span⟩, documentation, marks⟩ rest

theorem reads_dotted_iff {name whole : Name} {tokens rest : List Lexeme} :
    Reads (dotted name tokens) whole rest ↔ ReadsDotted name tokens whole rest := by
  constructor
  · intro reads
    induction name, tokens using dotted.induct with
    | case1 name dot part span inside ih =>
        rw [dotted, reads_bind_iff] at reads
        obtain ⟨found, between, shorter, made, finished⟩ := reads
        obtain ⟨rfl, rfl⟩ := reads_pure_iff.mp finished
        exact .part (ih ⟨shorter, made⟩)
    | case2 name dot inside other =>
        rw [dotted.eq_2 _ _ _ other] at reads
        exact absurd reads not_reads_error
    | case3 name tokens unnamed other =>
        rw [dotted.eq_3 _ _ unnamed other] at reads
        obtain ⟨rfl, rfl⟩ := reads_ok_iff.mp reads
        exact .stop (nextToken_ne_iff.mpr other)
  · intro derived
    induction derived with
    | stop ends =>
        have other := nextToken_ne_iff.mp ends
        rw [dotted.eq_3 _ _ (fun dot part span inside same => other _ _ same) other]
        simp
    | part read ih =>
        obtain ⟨shorter, made⟩ := ih
        rw [dotted, reads_bind_iff]
        exact ⟨_, _, shorter, made, by simp⟩

theorem reads_optionalArguments_iff {stop last : Nat} {tokens rest : List Lexeme}
    {values : List Argument} :
    Reads (optionalArguments stop tokens) (values, last) rest ↔
      ReadsOptionalArguments stop tokens values last rest := by
  constructor
  · intro reads
    rw [optionalArguments.eq_def] at reads
    split at reads
    · obtain ⟨found, between, shorter, made, finished⟩ := reads_bind_iff.mp reads
      obtain ⟨rfl, rfl⟩ := reads_pure_iff.mp finished
      exact .present (reads_arguments_iff.mp ⟨shorter, made⟩)
    · next other =>
        obtain ⟨same, rfl⟩ := reads_ok_iff.mp reads
        cases same
        exact .absent (nextToken_ne_iff.mpr other)
  · intro derived
    cases derived with
    | absent ends =>
        rw [optionalArguments.eq_2 _ _ (nextToken_ne_iff.mp ends)]
        simp
    | present read =>
        obtain ⟨shorter, made⟩ := reads_arguments_iff.mpr read
        rw [optionalArguments, reads_bind_iff]
        exact ⟨_, _, shorter, made, by simp⟩

theorem reads_markAfter_iff {sign : Span} {tokens rest : List Lexeme} {mark : Attribute} :
    Reads (markAfter sign tokens) mark rest ↔ ReadsMark sign tokens mark rest := by
  simp only [markAfter, reads_bind_iff, reads_pure_iff]
  constructor
  · rintro ⟨first, inside, _, begun, name, between, _, named, ⟨values, stop⟩, left, _, read,
      rfl, rfl⟩
    rw [reads_expectName_iff.mp ⟨_, begun⟩]
    exact .mk (reads_dotted_iff.mp ⟨_, named⟩) (reads_optionalArguments_iff.mp ⟨_, read⟩)
  · rintro (@⟨first, span, inside, between, _, name, values, stop, named, read⟩)
    obtain ⟨begunShorter, begun⟩ := reads_name .attributeName first span inside
    obtain ⟨namedShorter, named⟩ := reads_dotted_iff.mpr named
    obtain ⟨readShorter, read⟩ := reads_optionalArguments_iff.mpr read
    exact ⟨_, _, begunShorter, begun, _, _, namedShorter, named, _, _, readShorter, read, rfl, rfl⟩

theorem reads_attributes_iff {tokens rest : List Lexeme} {marks : List Attribute} :
    Reads (attributes tokens) marks rest ↔ ReadsMarks tokens marks rest := by
  constructor
  · intro reads
    induction tokens using attributes.induct generalizing marks with
    | case1 sign inside ih =>
        rw [attributes, reads_bind_iff] at reads
        obtain ⟨mark, between, shorter, made, continued⟩ := reads
        obtain ⟨others, left, less, madeOthers, finished⟩ := reads_bind_iff.mp continued
        obtain ⟨rfl, rfl⟩ := reads_pure_iff.mp finished
        exact .more (reads_markAfter_iff.mp ⟨shorter, made⟩)
          (ih ⟨mark, between, shorter⟩ ⟨less, madeOthers⟩)
    | case2 tokens other =>
        rw [attributes.eq_2 _ other] at reads
        obtain ⟨rfl, rfl⟩ := reads_ok_iff.mp reads
        exact .none (nextToken_ne_iff.mpr other)
  · intro derived
    induction derived with
    | none ends =>
        rw [attributes.eq_2 _ (nextToken_ne_iff.mp ends)]
        simp
    | more read others ih =>
        obtain ⟨shorter, made⟩ := reads_markAfter_iff.mpr read
        obtain ⟨less, madeOthers⟩ := ih
        rw [attributes, reads_bind_iff]
        refine ⟨_, _, shorter, made, ?_⟩
        rw [reads_bind_iff]
        exact ⟨_, _, less, madeOthers, by simp⟩

theorem reads_unsupportedType_iff {name : Name} {tokens rest : List Lexeme}
    {unsupported : Option String} {stop : Nat} :
    Reads (unsupportedType name tokens) (unsupported, stop) rest ↔
      ReadsUnsupported name tokens unsupported stop rest := by
  constructor
  · intro reads
    rw [unsupportedType.eq_def] at reads
    split at reads
    · split at reads
      · next announced =>
          obtain ⟨type, between, less, typed, continued⟩ := reads_bind_iff.mp reads
          obtain ⟨closing, left, shorter, closed, finished⟩ := reads_bind_iff.mp continued
          obtain ⟨same, rfl⟩ := reads_pure_iff.mp finished
          cases same
          obtain ⟨span, rfl⟩ := reads_expectText_iff.mp ⟨less, typed⟩
          have ends := reads_expectToken_iff.mp ⟨shorter, closed⟩
          dsimp only at ends ⊢
          rw [ends]
          exact .present announced
      · next other =>
          obtain ⟨same, rfl⟩ := reads_ok_iff.mp reads
          cases same
          exact .absent fun announced => absurd announced other
    · next other =>
        obtain ⟨same, rfl⟩ := reads_ok_iff.mp reads
        cases same
        exact .absent fun _ => nextToken_ne_iff.mpr other
  · intro derived
    cases derived with
    | absent ends =>
        rw [unsupportedType.eq_def]
        split
        · next span inside =>
            rw [if_neg fun announced => ends announced rfl]
            simp
        · simp
    | present announced =>
        rw [unsupportedType, if_pos announced]
        simp [expectText, expectToken, bind, Except.bind]

theorem reads_arity_iff {stop last : Nat} {tokens rest : List Lexeme} {found : Arity} :
    Reads (arity stop tokens) (found, last) rest ↔ ReadsArity stop tokens found last rest := by
  constructor
  · intro reads
    rw [arity.eq_def] at reads
    split at reads
    · obtain ⟨closing, left, shorter, closed, finished⟩ := reads_bind_iff.mp reads
      obtain ⟨same, rfl⟩ := reads_pure_iff.mp finished
      cases same
      have ends := reads_expectToken_iff.mp ⟨shorter, closed⟩
      dsimp only
      rw [ends]
      exact .list
    · obtain ⟨same, rfl⟩ := reads_ok_iff.mp reads
      cases same
      exact .optional
    · next single certain =>
        obtain ⟨same, rfl⟩ := reads_ok_iff.mp reads
        cases same
        exact .required (nextToken_ne_iff.mpr single) (nextToken_ne_iff.mpr certain)
  · intro derived
    cases derived with
    | required single certain =>
        rw [arity.eq_3 _ _ (nextToken_ne_iff.mp single) (nextToken_ne_iff.mp certain)]
        simp
    | optional => simp [arity]
    | list => simp [arity, expectToken, bind, Except.bind]

theorem reads_typeRef_iff {tokens rest : List Lexeme} {type : TypeRef} {stop : Nat} :
    Reads (typeRef tokens) (type, stop) rest ↔ ReadsTypeRef tokens type stop rest := by
  simp only [typeRef, reads_bind_iff, reads_pure_iff]
  constructor
  · rintro ⟨name, inside, _, begun, ⟨unsupported, behind⟩, between, _, typed, ⟨arity, last⟩, left,
      _, read, same, rfl⟩
    cases same
    rw [reads_expectName_iff.mp ⟨_, begun⟩]
    exact .mk (reads_unsupportedType_iff.mp ⟨_, typed⟩) (reads_arity_iff.mp ⟨_, read⟩)
  · rintro (@⟨name, span, inside, between, _, unsupported, behind, _, arity, typed, read⟩)
    obtain ⟨begunShorter, begun⟩ := reads_name .identifier name span inside
    obtain ⟨typedShorter, typed⟩ := reads_unsupportedType_iff.mpr typed
    obtain ⟨readShorter, read⟩ := reads_arity_iff.mpr read
    exact ⟨_, _, begunShorter, begun, _, _, typedShorter, typed, _, _, readShorter, read, rfl, rfl⟩

/-- What a reader of declarations takes is a declaration of the given kind. -/
def TakesAs {α : Type}
    (reader : Option String → (tokens : List Lexeme) → Parsed α tokens.length)
    (declares : Option String → List Lexeme → α → List Lexeme → Prop) : Prop :=
  ∀ documentation tokens value rest,
    Reads (reader documentation tokens) value rest ↔ declares documentation tokens value rest

theorem field_takesAs : TakesAs field ReadsField := by
  intro documentation tokens value rest
  simp only [field, reads_bind_iff, reads_pure_iff]
  constructor
  · rintro ⟨name, inside, _, begun, ⟨type, stop⟩, between, _, typed, marks, left, _, marked, rfl,
      rfl⟩
    rw [reads_expectName_iff.mp ⟨_, begun⟩]
    exact .mk (reads_typeRef_iff.mp ⟨_, typed⟩) (reads_attributes_iff.mp ⟨_, marked⟩)
  · rintro (@⟨name, span, inside, between, _, type, stop, marks, typed, marked⟩)
    obtain ⟨begunShorter, begun⟩ := reads_name .identifier name span inside
    obtain ⟨typedShorter, typed⟩ := reads_typeRef_iff.mpr typed
    obtain ⟨markedShorter, marked⟩ := reads_attributes_iff.mpr marked
    exact ⟨_, _, begunShorter, begun, _, _, typedShorter, typed, _, _, markedShorter, marked, rfl,
      rfl⟩

theorem enumValue_takesAs : TakesAs enumValue ReadsEnumValue := by
  intro documentation tokens value rest
  simp only [enumValue, reads_bind_iff, reads_pure_iff]
  constructor
  · rintro ⟨name, inside, _, begun, marks, left, _, marked, rfl, rfl⟩
    rw [reads_expectName_iff.mp ⟨_, begun⟩]
    exact .mk (reads_attributes_iff.mp ⟨_, marked⟩)
  · rintro (@⟨name, span, inside, _, marks, marked⟩)
    obtain ⟨begunShorter, begun⟩ := reads_name .identifier name span inside
    obtain ⟨markedShorter, marked⟩ := reads_attributes_iff.mpr marked
    exact ⟨_, _, begunShorter, begun, _, _, markedShorter, marked, rfl, rfl⟩

end Modelwright.Source
