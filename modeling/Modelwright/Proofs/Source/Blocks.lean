import Modelwright.Proofs.Source.Declarations

namespace Modelwright.Source

/-- Members through the closing brace; what stands for a declaration is given. -/
inductive ReadsMembers {α : Type}
    (declares : Option String → List Lexeme → α → List Lexeme → Prop) :
    List Lexeme → List (Member α) → List Lexeme → Prop
  | close {tokens rest : List Lexeme} {span : Span}
      (start : afterDocs tokens = ⟨.rightBrace, span⟩ :: rest) :
      ReadsMembers declares tokens [] rest
  | mark {tokens inside between rest : List Lexeme} {sign : Span} {mark : Attribute}
      {members : List (Member α)} (start : afterDocs tokens = ⟨.doubleAtSign, sign⟩ :: inside)
      (read : ReadsMark sign inside mark between)
      (others : ReadsMembers declares between members rest) :
      ReadsMembers declares tokens (.mark mark :: members) rest
  | declaration {tokens between rest : List Lexeme} {name : String} {value : α}
      {members : List (Member α)}
      (start : nextToken (afterDocs tokens) = some (.identifier name))
      (read : declares (documentation tokens) (afterDocs tokens) value between)
      (others : ReadsMembers declares between members rest) :
      ReadsMembers declares tokens (.declaration value :: members) rest

inductive ReadsProperties : List Lexeme → List Property → List Lexeme → Prop
  | close {tokens rest : List Lexeme} {span : Span}
      (start : afterDocs tokens = ⟨.rightBrace, span⟩ :: rest) : ReadsProperties tokens [] rest
  | more {tokens inside between rest : List Lexeme} {key : String} {span equals : Span}
      {value : Expr} {properties : List Property}
      (start : afterDocs tokens = ⟨.identifier key, span⟩ :: ⟨.equals, equals⟩ :: inside)
      (read : ReadsExpr inside value between) (others : ReadsProperties between properties rest) :
      ReadsProperties tokens (⟨⟨key, span⟩, value⟩ :: properties) rest

/-- The lexemes through the brace that closes, when `depth` more are open. -/
inductive ReadsBraces : Nat → List Lexeme → List Lexeme → Prop
  | done {span : Span} {rest : List Lexeme} : ReadsBraces 0 (⟨.rightBrace, span⟩ :: rest) rest
  | closed {depth : Nat} {span : Span} {inside rest : List Lexeme}
      (read : ReadsBraces depth inside rest) :
      ReadsBraces (depth + 1) (⟨.rightBrace, span⟩ :: inside) rest
  | opened {depth : Nat} {span : Span} {inside rest : List Lexeme}
      (read : ReadsBraces (depth + 1) inside rest) :
      ReadsBraces depth (⟨.leftBrace, span⟩ :: inside) rest
  | passed {depth : Nat} {lexeme : Lexeme} {inside rest : List Lexeme}
      (other : lexeme.token ≠ .leftBrace ∧ lexeme.token ≠ .rightBrace)
      (read : ReadsBraces depth inside rest) : ReadsBraces depth (lexeme :: inside) rest

/-- What the braces of a block may hold, by its keyword. -/
inductive ReadsBody (documentation : Option String) (name : Name) :
    String → List Lexeme → Block → List Lexeme → Prop
  | datasource {tokens rest : List Lexeme} {properties : List Property}
      (read : ReadsProperties tokens properties rest) :
      ReadsBody documentation name "datasource" tokens (.datasource ⟨name, properties⟩) rest
  | generator {tokens rest : List Lexeme} {properties : List Property}
      (read : ReadsProperties tokens properties rest) :
      ReadsBody documentation name "generator" tokens (.generator ⟨name, properties⟩) rest
  | model {tokens rest : List Lexeme} {members : List (Member FieldDecl)}
      (read : ReadsMembers ReadsField tokens members rest) :
      ReadsBody documentation name "model" tokens
        (.model ⟨name, documentation, members.filterMap Member.declaration?,
          members.filterMap Member.mark?⟩) rest
  | enumeration {tokens rest : List Lexeme} {members : List (Member EnumValueDecl)}
      (read : ReadsMembers ReadsEnumValue tokens members rest) :
      ReadsBody documentation name "enum" tokens
        (.enumeration ⟨name, documentation, members.filterMap Member.declaration?,
          members.filterMap Member.mark?⟩) rest
  | other {keyword : String} {tokens rest : List Lexeme}
      (known : keyword = "type" ∨ keyword = "view") (read : ReadsBraces 0 tokens rest) :
      ReadsBody documentation name keyword tokens (.other keyword name) rest

inductive ReadsBlocks : List Lexeme → List Block → Prop
  | done {tokens : List Lexeme} (ends : afterDocs tokens = []) : ReadsBlocks tokens []
  | more {tokens inside between : List Lexeme} {keyword name : String}
      {keywordSpan nameSpan opening : Span} {block : Block} {blocks : List Block}
      (start : afterDocs tokens = ⟨.identifier keyword, keywordSpan⟩ ::
        ⟨.identifier name, nameSpan⟩ :: ⟨.leftBrace, opening⟩ :: inside)
      (read : ReadsBody (documentation tokens) ⟨name, nameSpan⟩ keyword inside block between)
      (others : ReadsBlocks between blocks) : ReadsBlocks tokens (block :: blocks)

section Members

variable {α : Type} {wanted : Expectation}
  {declaration : Option String → (tokens : List Lexeme) → Parsed α tokens.length}
  {declares : Option String → List Lexeme → α → List Lexeme → Prop}

theorem members_refused {tokens : List Lexeme}
    (closes : nextToken (afterDocs tokens) ≠ some .rightBrace)
    (marks : nextToken (afterDocs tokens) ≠ some .doubleAtSign)
    (names : ∀ name, nextToken (afterDocs tokens) ≠ some (.identifier name)) :
    members wanted declaration tokens = .error ⟨wanted, (afterDocs tokens).head?⟩ := by
  rw [members]
  split
  · next start => exact absurd (by rw [start]; rfl) closes
  · next start => exact absurd (by rw [start]; rfl) marks
  · next start => exact absurd (by rw [start]; rfl) (names _)
  · rfl

theorem readsMembers_of_reads (takes : TakesAs declaration declares) {tokens rest : List Lexeme}
    {found : List (Member α)} (reads : Reads (members wanted declaration tokens) found rest) :
    ReadsMembers declares tokens found rest := by
  rw [members] at reads
  split at reads
  · next start =>
      obtain ⟨rfl, rfl⟩ := reads_ok_iff.mp reads
      exact .close start
  · next sign inside start =>
      obtain ⟨mark, between, shorter, made, continued⟩ := reads_bind_iff.mp reads
      obtain ⟨others, left, less, madeOthers, finished⟩ := reads_bind_iff.mp continued
      obtain ⟨rfl, rfl⟩ := reads_pure_iff.mp finished
      have progress : between.length < tokens.length := by
        have behindDocs := length_afterDocs_le tokens
        rw [start, List.length_cons] at behindDocs
        omega
      exact .mark start (reads_markAfter_iff.mp ⟨shorter, made⟩)
        (readsMembers_of_reads takes ⟨less, madeOthers⟩)
  · next name span inside start =>
      obtain ⟨value, between, shorter, made, continued⟩ := reads_bind_iff.mp reads
      obtain ⟨others, left, less, madeOthers, finished⟩ := reads_bind_iff.mp continued
      obtain ⟨rfl, rfl⟩ := reads_pure_iff.mp finished
      have progress : between.length < tokens.length := by
        have behindDocs := length_afterDocs_le tokens
        rw [start] at behindDocs
        omega
      have first : nextToken (afterDocs tokens) = some (.identifier name) := by
        rw [start]
        rfl
      refine .declaration first ?_ (readsMembers_of_reads takes ⟨less, madeOthers⟩)
      rw [start]
      exact (takes _ _ _ _).mp ⟨shorter, made⟩
  · exact absurd reads not_reads_error
termination_by tokens.length

theorem reads_members (takes : TakesAs declaration declares) {tokens rest : List Lexeme}
    {found : List (Member α)} (derived : ReadsMembers declares tokens found rest) :
    Reads (members wanted declaration tokens) found rest := by
  induction derived with
  | close start =>
      rw [members]
      split
      · next same =>
          rw [start] at same
          cases same
          simp
      all_goals simp_all
  | mark start read others ih =>
      obtain ⟨shorter, made⟩ := reads_markAfter_iff.mpr read
      obtain ⟨less, madeOthers⟩ := ih
      rw [members]
      split
      · simp_all
      · next same =>
          rw [start] at same
          cases same
          refine reads_bind_iff.mpr ⟨_, _, shorter, made, ?_⟩
          exact reads_bind_iff.mpr ⟨_, _, less, madeOthers, by simp⟩
      all_goals simp_all
  | declaration start read others ih =>
      obtain ⟨less, madeOthers⟩ := ih
      rw [members]
      split
      · next same => simp [same, nextToken] at start
      · next same => simp [same, nextToken] at start
      · next name span inside same =>
          rw [same] at read
          obtain ⟨shorter, made⟩ := (takes _ _ _ _).mpr read
          refine reads_bind_iff.mpr ⟨_, _, shorter, made, ?_⟩
          exact reads_bind_iff.mpr ⟨_, _, less, madeOthers, by simp⟩
      · next other => exact absurd start (nextToken_ne_iff.mpr (other _))

end Members

theorem reads_skipBraces_iff {depth : Nat} {tokens rest : List Lexeme} :
    Reads (skipBraces depth tokens) () rest ↔ ReadsBraces depth tokens rest := by
  constructor
  · intro reads
    induction tokens generalizing depth with
    | nil => exact absurd reads not_reads_error
    | cons lexeme inside ih =>
        obtain ⟨token, span⟩ := lexeme
        by_cases opening : token = .leftBrace
        · rw [skipBraces.eq_2 _ _ _ opening, reads_bind_iff] at reads
          obtain ⟨_, between, shorter, made, finished⟩ := reads
          obtain ⟨-, rfl⟩ := reads_pure_iff.mp finished
          rw [opening]
          exact .opened (ih ⟨shorter, made⟩)
        by_cases closing : token = .rightBrace
        · cases depth with
          | zero =>
              rw [skipBraces.eq_3 _ _ closing, reads_pure_iff] at reads
              rw [closing, reads.2]
              exact .done
          | succ depth =>
              rw [skipBraces.eq_4 _ _ _ closing, reads_bind_iff] at reads
              obtain ⟨_, between, shorter, made, finished⟩ := reads
              obtain ⟨-, rfl⟩ := reads_pure_iff.mp finished
              rw [closing]
              exact .closed (ih ⟨shorter, made⟩)
        · rw [skipBraces.eq_5 _ _ _ opening (fun same _ => closing same)
            (fun _ same _ => closing same), reads_bind_iff] at reads
          obtain ⟨_, between, shorter, made, finished⟩ := reads
          obtain ⟨-, rfl⟩ := reads_pure_iff.mp finished
          exact .passed ⟨opening, closing⟩ (ih ⟨shorter, made⟩)
  · intro derived
    induction derived with
    | done => simp [skipBraces]
    | closed read ih =>
        obtain ⟨shorter, made⟩ := ih
        simp [skipBraces, made, bind, Except.bind]
    | opened read ih =>
        obtain ⟨shorter, made⟩ := ih
        simp [skipBraces, made, bind, Except.bind]
    | passed other read ih =>
        obtain ⟨shorter, made⟩ := ih
        rw [skipBraces.eq_5 _ _ _ other.1 (fun same _ => other.2 same)
          (fun _ same _ => other.2 same), reads_bind_iff]
        exact ⟨_, _, shorter, made, by simp⟩

theorem readsProperties_of_reads {tokens rest : List Lexeme} {found : List Property}
    (reads : Reads (properties tokens) found rest) : ReadsProperties tokens found rest := by
  rw [properties] at reads
  split at reads
  · next start =>
      obtain ⟨rfl, rfl⟩ := reads_ok_iff.mp reads
      exact .close start
  · obtain ⟨key, behindKey, keyShorter, keyed, continued⟩ := reads_bind_iff.mp reads
    obtain ⟨equals, inside, equalsShorter, equated, continued⟩ := reads_bind_iff.mp continued
    obtain ⟨value, between, valueShorter, made, continued⟩ := reads_bind_iff.mp continued
    obtain ⟨others, left, less, madeOthers, finished⟩ := reads_bind_iff.mp continued
    obtain ⟨rfl, rfl⟩ := reads_pure_iff.mp finished
    have start := reads_expectName_iff.mp ⟨keyShorter, keyed⟩
    have sign := reads_expectToken_iff.mp ⟨equalsShorter, equated⟩
    dsimp only at sign
    rw [sign] at start
    have progress : between.length < tokens.length := by
      have behindDocs := length_afterDocs_le tokens
      rw [start, List.length_cons, List.length_cons] at behindDocs
      dsimp only at valueShorter
      omega
    exact .more start (reads_expr_iff.mp ⟨valueShorter, made⟩)
      (readsProperties_of_reads ⟨less, madeOthers⟩)
termination_by tokens.length

theorem reads_properties {tokens rest : List Lexeme} {found : List Property}
    (derived : ReadsProperties tokens found rest) : Reads (properties tokens) found rest := by
  induction derived with
  | close start =>
      rw [properties]
      split
      · next same =>
          rw [start] at same
          cases same
          simp
      · next other => exact (other _ _ start).elim
  | @more tokens inside between rest key span equals value found start read others ih =>
      obtain ⟨shorter, made⟩ := reads_expr_iff.mpr read
      obtain ⟨less, madeOthers⟩ := ih
      rw [properties]
      split
      · next same =>
          rw [start] at same
          cases same
      · have keyed : Reads (expectName .identifier (afterDocs tokens)) ⟨key, span⟩
            (⟨.equals, equals⟩ :: inside) := by
          rw [reads_expectName_iff, start]
        have equated : Reads (expectToken .equals (⟨.equals, equals⟩ :: inside)) equals inside :=
          reads_expectToken_iff.mpr rfl
        obtain ⟨keyShorter, keyed⟩ := keyed
        obtain ⟨equalsShorter, equated⟩ := equated
        refine reads_bind_iff.mpr ⟨_, _, keyShorter, keyed, ?_⟩
        refine reads_bind_iff.mpr ⟨_, _, equalsShorter, equated, ?_⟩
        refine reads_bind_iff.mpr ⟨_, _, shorter, made, ?_⟩
        exact reads_bind_iff.mpr ⟨_, _, less, madeOthers, by simp⟩

theorem reads_blockName_iff {tokens rest : List Lexeme} {name : Name} :
    Reads (blockName tokens) name rest ↔
      ∃ opening, tokens = ⟨.identifier name.text, name.span⟩ :: ⟨.leftBrace, opening⟩ :: rest := by
  simp only [blockName, reads_bind_iff, reads_pure_iff]
  constructor
  · rintro ⟨found, inside, shorter, begun, opening, left, less, opened, rfl, rfl⟩
    have start := reads_expectName_iff.mp ⟨shorter, begun⟩
    have brace := reads_expectToken_iff.mp ⟨less, opened⟩
    exact ⟨opening, by rw [start, ← brace]⟩
  · rintro ⟨opening, rfl⟩
    have opened : Reads (expectToken .leftBrace (⟨.leftBrace, opening⟩ :: rest)) opening rest :=
      reads_expectToken_iff.mpr rfl
    obtain ⟨shorter, begun⟩ :=
      reads_name .identifier name.text name.span (⟨.leftBrace, opening⟩ :: rest)
    obtain ⟨less, opened⟩ := opened
    exact ⟨_, _, shorter, begun, _, _, less, opened, rfl, rfl⟩

theorem reads_propertyBlock_iff {tokens rest : List Lexeme} {block : PropertyBlock} :
    Reads (propertyBlock tokens) block rest ↔
      ∃ inside, Reads (blockName tokens) block.name inside ∧
        ReadsProperties inside block.properties rest := by
  simp only [propertyBlock, reads_bind_iff, reads_pure_iff]
  constructor
  · rintro ⟨name, inside, shorter, begun, found, left, less, made, rfl, rfl⟩
    exact ⟨inside, ⟨shorter, begun⟩, readsProperties_of_reads ⟨less, made⟩⟩
  · rintro ⟨inside, ⟨shorter, begun⟩, read⟩
    obtain ⟨less, made⟩ := reads_properties read
    exact ⟨_, _, shorter, begun, _, _, less, made, rfl, rfl⟩

theorem reads_modelBlock_iff {documentation : Option String} {tokens rest : List Lexeme}
    {block : ModelBlock} :
    Reads (modelBlock documentation tokens) block rest ↔
      ∃ name inside found, Reads (blockName tokens) name inside ∧
        ReadsMembers ReadsField inside found rest ∧
        block = ⟨name, documentation, found.filterMap Member.declaration?,
          found.filterMap Member.mark?⟩ := by
  simp only [modelBlock, reads_bind_iff, reads_pure_iff]
  constructor
  · rintro ⟨name, inside, shorter, begun, found, left, less, made, rfl, rfl⟩
    exact ⟨name, inside, found, ⟨shorter, begun⟩,
      readsMembers_of_reads field_takesAs ⟨less, made⟩, rfl⟩
  · rintro ⟨name, inside, found, ⟨shorter, begun⟩, read, rfl⟩
    obtain ⟨less, made⟩ := reads_members field_takesAs read
    exact ⟨_, _, shorter, begun, _, _, less, made, rfl, rfl⟩

theorem reads_enumBlock_iff {documentation : Option String} {tokens rest : List Lexeme}
    {block : EnumBlock} :
    Reads (enumBlock documentation tokens) block rest ↔
      ∃ name inside found, Reads (blockName tokens) name inside ∧
        ReadsMembers ReadsEnumValue inside found rest ∧
        block = ⟨name, documentation, found.filterMap Member.declaration?,
          found.filterMap Member.mark?⟩ := by
  simp only [enumBlock, reads_bind_iff, reads_pure_iff]
  constructor
  · rintro ⟨name, inside, shorter, begun, found, left, less, made, rfl, rfl⟩
    exact ⟨name, inside, found, ⟨shorter, begun⟩,
      readsMembers_of_reads enumValue_takesAs ⟨less, made⟩, rfl⟩
  · rintro ⟨name, inside, found, ⟨shorter, begun⟩, read, rfl⟩
    obtain ⟨less, made⟩ := reads_members enumValue_takesAs read
    exact ⟨_, _, shorter, begun, _, _, less, made, rfl, rfl⟩

theorem reads_otherBlock_iff {keyword : String} {tokens rest : List Lexeme} {block : Block} :
    Reads (otherBlock keyword tokens) block rest ↔
      ∃ name inside, Reads (blockName tokens) name inside ∧ ReadsBraces 0 inside rest ∧
        block = .other keyword name := by
  simp only [otherBlock, reads_bind_iff, reads_pure_iff]
  constructor
  · rintro ⟨name, inside, shorter, begun, _, left, less, made, rfl, rfl⟩
    exact ⟨name, inside, ⟨shorter, begun⟩, reads_skipBraces_iff.mp ⟨less, made⟩, rfl⟩
  · rintro ⟨name, inside, ⟨shorter, begun⟩, read, rfl⟩
    obtain ⟨less, made⟩ := reads_skipBraces_iff.mpr read
    exact ⟨_, _, shorter, begun, _, _, less, made, rfl, rfl⟩

theorem reads_map_iff {α β : Type} {n : Nat} {x : Parsed α n} {f : α → β} {value : β}
    {rest : List Lexeme} :
    Reads (do return (← x).map f) value rest ↔ ∃ first, Reads x first rest ∧ value = f first := by
  rw [reads_bind_iff]
  constructor
  · rintro ⟨first, between, shorter, made, finished⟩
    obtain ⟨rfl, rfl⟩ := reads_pure_iff.mp finished
    exact ⟨first, ⟨shorter, made⟩, rfl⟩
  · rintro ⟨first, ⟨shorter, made⟩, rfl⟩
    exact ⟨first, rest, shorter, made, by simp⟩

theorem readsBody_of_reads {documentation : Option String} {keyword : Name}
    {tokens rest : List Lexeme} {block : Block}
    (reads : Reads (blockAfter documentation keyword tokens) block rest) :
    ∃ name inside, Reads (blockName tokens) name inside ∧
      ReadsBody documentation name keyword.text inside block rest := by
  rw [blockAfter] at reads
  split at reads
  · next known =>
      obtain ⟨first, made, rfl⟩ := reads_map_iff.mp reads
      obtain ⟨inside, named, read⟩ := reads_propertyBlock_iff.mp made
      exact ⟨_, _, named, known ▸ .datasource read⟩
  split at reads
  · next known =>
      obtain ⟨first, made, rfl⟩ := reads_map_iff.mp reads
      obtain ⟨inside, named, read⟩ := reads_propertyBlock_iff.mp made
      exact ⟨_, _, named, known ▸ .generator read⟩
  split at reads
  · next known =>
      obtain ⟨first, made, rfl⟩ := reads_map_iff.mp reads
      obtain ⟨name, inside, found, named, read, rfl⟩ := reads_modelBlock_iff.mp made
      exact ⟨_, _, named, known ▸ .model read⟩
  split at reads
  · next known =>
      obtain ⟨first, made, rfl⟩ := reads_map_iff.mp reads
      obtain ⟨name, inside, found, named, read, rfl⟩ := reads_enumBlock_iff.mp made
      exact ⟨_, _, named, known ▸ .enumeration read⟩
  split at reads
  · next known =>
      obtain ⟨name, inside, named, read, rfl⟩ := reads_otherBlock_iff.mp reads
      exact ⟨_, _, named, .other known read⟩
  · exact absurd reads not_reads_error

theorem reads_blockAfter {documentation : Option String} {keyword name : Name}
    {tokens inside rest : List Lexeme} {block : Block}
    (named : Reads (blockName tokens) name inside)
    (derived : ReadsBody documentation name keyword.text inside block rest) :
    Reads (blockAfter documentation keyword tokens) block rest := by
  obtain ⟨keyword, span⟩ := keyword
  dsimp only at derived
  cases derived with
  | datasource read =>
      exact reads_map_iff.mpr ⟨_, reads_propertyBlock_iff.mpr ⟨_, named, read⟩, rfl⟩
  | generator read =>
      exact reads_map_iff.mpr ⟨_, reads_propertyBlock_iff.mpr ⟨_, named, read⟩, rfl⟩
  | model read =>
      exact reads_map_iff.mpr ⟨_, reads_modelBlock_iff.mpr ⟨_, _, _, named, read, rfl⟩, rfl⟩
  | enumeration read =>
      exact reads_map_iff.mpr ⟨_, reads_enumBlock_iff.mpr ⟨_, _, _, named, read, rfl⟩, rfl⟩
  | other known read =>
      have made : Reads (otherBlock keyword tokens) (.other keyword name) rest :=
        reads_otherBlock_iff.mpr ⟨_, _, named, read, rfl⟩
      rcases known with rfl | rfl
      · exact made
      · exact made

theorem readsBlocks_of_blocks {tokens : List Lexeme} {found : List Block}
    (read : blocks tokens = .ok found) : ReadsBlocks tokens found := by
  rw [blocks] at read
  split at read
  · next ends =>
      cases read
      exact .done ends
  · next first rest start =>
      obtain ⟨⟨keyword, behind, keyShorter⟩, begun, continued⟩ := Outcome.bind_eq_ok_iff.mp read
      obtain ⟨⟨block, between, shorter⟩, made, continued⟩ := Outcome.bind_eq_ok_iff.mp continued
      obtain ⟨others, madeOthers, finished⟩ := Outcome.bind_eq_ok_iff.mp continued
      obtain rfl := Outcome.pure_eq_ok_iff.mp finished
      obtain ⟨name, inside, named, body⟩ := readsBody_of_reads ⟨shorter, made⟩
      obtain ⟨opening, behindKeyword⟩ := reads_blockName_iff.mp named
      have progress : between.length < tokens.length := by
        have behindDocs := length_afterDocs_le tokens
        rw [start] at behindDocs
        dsimp only at shorter
        omega
      have begins := reads_expectName_iff.mp ⟨keyShorter, begun⟩
      dsimp only at behindKeyword
      rw [behindKeyword, ← start] at begins
      exact .more begins body (readsBlocks_of_blocks madeOthers)
termination_by tokens.length

theorem blocks_of_readsBlocks {tokens : List Lexeme} {found : List Block}
    (derived : ReadsBlocks tokens found) : blocks tokens = .ok found := by
  induction derived with
  | done ends =>
      rw [blocks]
      split
      · rfl
      · next same =>
          rw [ends] at same
          cases same
  | @more tokens inside between keyword name keywordSpan nameSpan opening block others start read
      _ ih =>
      have named :
          Reads (blockName (⟨.identifier name, nameSpan⟩ :: ⟨.leftBrace, opening⟩ :: inside))
            ⟨name, nameSpan⟩ inside :=
        reads_blockName_iff.mpr ⟨opening, rfl⟩
      have made :
          Reads (blockAfter (documentation tokens) ⟨keyword, keywordSpan⟩ _) block between :=
        reads_blockAfter named read
      obtain ⟨shorter, made⟩ := made
      rw [blocks]
      split
      · next ends =>
          rw [start] at ends
          cases ends
      · next first rest same =>
          rw [start] at same
          cases same
          obtain ⟨keyShorter, begun⟩ := reads_name .identifier keyword keywordSpan
            (⟨.identifier name, nameSpan⟩ :: ⟨.leftBrace, opening⟩ :: inside)
          refine Outcome.bind_eq_ok_iff.mpr ⟨_, begun, ?_⟩
          refine Outcome.bind_eq_ok_iff.mpr ⟨_, made, ?_⟩
          exact Outcome.bind_eq_ok_iff.mpr ⟨others, ih, rfl⟩

/-- The documents that are read are those of the grammar. -/
theorem parseDocument_eq_ok_iff {tokens : List Lexeme} {d : Document} :
    parseDocument tokens = .ok d ↔ ReadsBlocks tokens d.blocks := by
  rw [parseDocument, Outcome.bind_eq_ok_iff]
  constructor
  · rintro ⟨found, read, finished⟩
    obtain rfl := Outcome.pure_eq_ok_iff.mp finished
    exact readsBlocks_of_blocks read
  · intro derived
    exact ⟨d.blocks, blocks_of_readsBlocks derived, rfl⟩

end Modelwright.Source
