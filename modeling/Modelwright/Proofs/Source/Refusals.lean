import Modelwright.Proofs.Source.Completions
import Modelwright.Proofs.Source.Stability

namespace Modelwright.Source

open Modelwright.Text

/-- No doc comment is next. -/
def IsPlain (next : Option Token) : Prop :=
  ∀ text, next ≠ some (.doc text)

theorem isPlain_identifier (name : String) : IsPlain (some (.identifier name)) := by
  intro text same
  cases same

theorem isDoc_eq_false_of_isPlain {lexeme : Lexeme} {rest : List Lexeme}
    (plain : IsPlain (nextToken (lexeme :: rest))) : isDoc lexeme = false := by
  obtain ⟨token, span⟩ := lexeme
  cases token with
  | doc text => exact absurd rfl (plain text)
  | _ => rfl

theorem isPlain_afterDocs (tokens : List Lexeme) : IsPlain (nextToken (afterDocs tokens)) := by
  intro text next
  obtain ⟨span, rest, start⟩ := exists_of_nextToken next
  have stops := List.head?_dropWhile_not isDoc tokens
  rw [afterDocs] at start
  simp [start, isDoc] at stops

theorem exists_docs (tokens : List Lexeme) :
    ∃ docs ahead, tokens = docs ++ ahead ∧ (∀ lexeme ∈ docs, isDoc lexeme = true) ∧
      IsPlain (nextToken ahead) :=
  ⟨tokens.takeWhile isDoc, afterDocs tokens, List.takeWhile_append_dropWhile.symm,
    fun _ => List.mem_takeWhile_imp, isPlain_afterDocs tokens⟩

theorem Tracks.behindDocs {α : Type} {p : Reader α} {tokens : List Lexeme}
    (each : ∀ docs ahead, tokens = docs ++ ahead → (∀ lexeme ∈ docs, isDoc lexeme = true) →
      IsPlain (nextToken ahead) → Tracks (fun other => p (docs ++ other)) ahead) :
    Tracks p tokens := by
  obtain ⟨docs, ahead, rfl, all, plain⟩ := exists_docs tokens
  exact Tracks.behind docs (each docs ahead rfl all plain) fun _ => rfl

theorem afterDocs_append {docs other : List Lexeme} (all : ∀ lexeme ∈ docs, isDoc lexeme = true)
    (plain : IsPlain (nextToken other)) : afterDocs (docs ++ other) = other := by
  rw [afterDocs, List.dropWhile_append_of_pos all]
  cases other with
  | nil => rfl
  | cons lexeme rest => exact List.dropWhile_cons_of_neg (by simp [isDoc_eq_false_of_isPlain plain])

theorem documentation_append {docs other : List Lexeme}
    (all : ∀ lexeme ∈ docs, isDoc lexeme = true) (plain : IsPlain (nextToken other)) :
    documentation (docs ++ other) = documentation docs := by
  have ends : other.takeWhile isDoc = [] := by
    cases other with
    | nil => rfl
    | cons lexeme rest =>
        exact List.takeWhile_cons_of_neg (by simp [isDoc_eq_false_of_isPlain plain])
  have whole : docs.takeWhile isDoc = docs := List.takeWhile_eq_self_iff.mpr all
  rw [documentation, documentation, List.takeWhile_append_of_pos all, ends, List.append_nil, whole]

section Members

variable {α : Type} {wanted : Expectation}
  {declaration : Option String → (tokens : List Lexeme) → Parsed α tokens.length}

/-- A declaration begins with a name, so what follows it is no part of its documentation. -/
theorem tracks_members_declaration {docs ahead : List Lexeme}
    (all : ∀ lexeme ∈ docs, isDoc lexeme = true)
    (named : ∃ name, nextToken ahead = some (.identifier name))
    (begins : ∀ {text tokens value rest}, reader (declaration text) tokens = .ok (value, rest) →
      ∃ name, nextToken tokens = some (.identifier name))
    (tracks : Tracks (do
      let first ← reader (declaration (documentation docs))
      let more ← reader (members wanted declaration)
      return Member.declaration first :: more) ahead) :
    Tracks (fun other => reader (members wanted declaration) (docs ++ other)) ahead := by
  refine tracks.of_agree (fun next => ∃ name, next = some (.identifier name)) named
    (fun other named => ?_) fun read => ?_
  · obtain ⟨name, first⟩ := named
    have plain : IsPlain (nextToken other) := first ▸ isPlain_identifier name
    have start := afterDocs_append all plain
    rw [reader_members_declaration (start ▸ first), documentation_append all plain, start]
  · obtain ⟨first, between, read, -⟩ := exists_of_bind_eq_ok read
    exact begins read

theorem tracks_members_refused {docs ahead : List Lexeme}
    (all : ∀ lexeme ∈ docs, isDoc lexeme = true) (plain : IsPlain (nextToken ahead))
    (open_ : nextToken ahead ≠ some .rightBrace) (unmarked : nextToken ahead ≠ some .doubleAtSign)
    (unnamed : ∀ name, nextToken ahead ≠ some (.identifier name)) :
    Tracks (fun other => reader (members wanted declaration) (docs ++ other)) ahead := by
  refine .refusedHere wanted (fun other same => ?_)
    (completes_of_cons ⟨.rightBrace, default⟩ (by decide) fun rest =>
      reader_members_close (afterDocs_append all nofun))
  have next : nextToken other = nextToken ahead := nextToken_append_of_head? same []
  have start := afterDocs_append all (next ▸ plain)
  rw [reader_members_refused, start, same]
  all_goals rw [start, next]
  · exact open_
  · exact unmarked
  · exact unnamed

theorem tracks_members (declares : ∀ text tokens, Tracks (reader (declaration text)) tokens)
    (begins : ∀ {text tokens value rest}, reader (declaration text) tokens = .ok (value, rest) →
      ∃ name, nextToken tokens = some (.identifier name)) (tokens : List Lexeme) :
    Tracks (reader (members wanted declaration)) tokens := by
  refine .behindDocs fun docs ahead split all plain => ?_
  have within : ahead.length ≤ tokens.length := by simp [split]
  by_cases closes : nextToken ahead = some .rightBrace
  · obtain ⟨span, rest, rfl⟩ := exists_of_nextToken closes
    exact (Tracks.pure []).cons fun other => reader_members_close (afterDocs_append all nofun)
  by_cases marked : nextToken ahead = some .doubleAtSign
  · obtain ⟨sign, rest, start⟩ := exists_of_nextToken marked
    have inside : rest.length < tokens.length := Nat.lt_of_lt_of_le (by simp [start]) within
    rw [start]
    refine Tracks.cons ?_ fun other => reader_members_mark (afterDocs_append all nofun)
    exact .bind_shorter (tracks_markAfter sign) (fun first left shorter =>
      (tracks_members declares begins left).map) (Nat.le_of_lt inside) (Nat.zero_lt_of_lt inside)
  by_cases named : ∃ name, nextToken ahead = some (.identifier name)
  · have inside : 0 < tokens.length := by
      obtain ⟨name, first⟩ := named
      obtain ⟨span, rest, start⟩ := exists_of_nextToken first
      exact Nat.lt_of_lt_of_le (by simp [start]) within
    exact tracks_members_declaration all named begins
      (.bind_shorter (declares (documentation docs)) (fun first left shorter =>
        (tracks_members declares begins left).map) within inside)
  · exact tracks_members_refused all plain closes marked fun name first => named ⟨name, first⟩
termination_by tokens.length

end Members

theorem begins_of_expectName {β : Type} {wanted : Expectation} {q : Name → Reader β}
    {tokens rest : List Lexeme} {value : β}
    (read : (reader (expectName wanted) >>= q) tokens = .ok (value, rest)) :
    ∃ name, nextToken tokens = some (.identifier name) := by
  obtain ⟨name, between, first, -⟩ := exists_of_bind_eq_ok read
  rw [reads_expectName_iff.mp (result_eq_ok_iff.mp first)]
  exact ⟨name.text, rfl⟩

theorem tracks_fields (tokens : List Lexeme) :
    Tracks (reader (members .modelMember field)) tokens :=
  tracks_members tracks_field (fun read => begins_of_expectName (reader_field _ ▸ read)) tokens

theorem tracks_enumValues (tokens : List Lexeme) :
    Tracks (reader (members .enumMember enumValue)) tokens :=
  tracks_members tracks_enumValue (fun read => begins_of_expectName (reader_enumValue _ ▸ read))
    tokens

theorem tracks_properties (tokens : List Lexeme) : Tracks (reader properties) tokens := by
  refine .behindDocs fun docs ahead split all plain => ?_
  have within : ahead.length ≤ tokens.length := by simp [split]
  by_cases closes : nextToken ahead = some .rightBrace
  · obtain ⟨span, rest, rfl⟩ := exists_of_nextToken closes
    exact (Tracks.pure []).cons fun other => reader_properties_close (afterDocs_append all nofun)
  by_cases ends : ahead = []
  · rw [ends] at plain ⊢
    have nothing := afterDocs_append all plain
    have refused : reader properties (docs ++ []) = .error ⟨.identifier, none⟩ := by
      rw [reader_properties, nothing]
      · exact Tracks.bind_eq_error rfl
      · rw [nothing]
        nofun
    exact .step refused nofun (completes_of_cons ⟨.rightBrace, default⟩ (by decide) fun rest =>
      reader_properties_close (afterDocs_append all nofun))
  have inside : 0 < tokens.length := Nat.lt_of_lt_of_le (List.length_pos_iff.mpr ends) within
  have tracks : Tracks (do
      let key ← reader (expectName .identifier)
      let _ ← reader (expectToken .equals)
      let value ← reader expr
      let more ← reader properties
      return Property.mk key value :: more) ahead :=
    .bind_shorter (fun _ => tracks_expectName) (fun key left shorter =>
      .bind_shorter (fun _ => tracks_expectToken (by decide)) (fun equals left shorter =>
        .bind_shorter tracks_expr (fun value left shorter => (tracks_properties left).map)
          (Nat.le_of_lt shorter) inside) (Nat.le_of_lt shorter) inside) within inside
  refine tracks.of_agree (fun next => IsPlain next ∧ next ≠ some .rightBrace) ⟨plain, closes⟩
    (fun other start => ?_) fun read => ?_
  · obtain ⟨plain, open_⟩ := start
    rw [reader_properties, afterDocs_append all plain]
    rwa [afterDocs_append all plain]
  · obtain ⟨name, first⟩ := begins_of_expectName read
    rw [first]
    exact ⟨nofun, nofun⟩
termination_by tokens.length

theorem completes_skipBraces (depth : Nat) : Completes (reader (skipBraces depth)) [] := by
  induction depth with
  | zero => exact completes_of_cons ⟨.rightBrace, default⟩ (by decide) fun _ => rfl
  | succ depth ih =>
      obtain ⟨completion, value, completes⟩ := ih
      refine ⟨⟨.rightBrace, default⟩ :: completion, value, fun rest closes => ?_⟩
      refine ⟨closes_cons (by decide) _, ?_⟩
      rw [List.nil_append, List.cons_append, reader_skipBraces_close]
      exact (completes rest closes).2

theorem tracks_skipBraces (depth : Nat) (tokens : List Lexeme) :
    Tracks (reader (skipBraces depth)) tokens := by
  induction tokens generalizing depth with
  | nil => exact .step rfl nofun (completes_skipBraces depth)
  | cons lexeme rest ih =>
      rcases reader_skipBraces_cons depth lexeme with done | ⟨left, goesOn⟩
      · exact (Tracks.pure ()).cons done
      · exact (ih left).cons goesOn

theorem tracks_blockName (tokens : List Lexeme) : Tracks (reader blockName) tokens := by
  rw [reader_blockName]
  exact .chain (fun _ => tracks_expectName) (fun name => .chain
    (fun _ => tracks_expectToken (by decide)) fun _ _ => .pure _) tokens

theorem tracks_propertyBlock (tokens : List Lexeme) : Tracks (reader propertyBlock) tokens := by
  rw [reader_propertyBlock]
  exact .chain tracks_blockName (fun name => .chain tracks_properties fun _ _ => .pure _) tokens

theorem tracks_modelBlock (text : Option String) (tokens : List Lexeme) :
    Tracks (reader (modelBlock text)) tokens := by
  rw [reader_modelBlock]
  exact .chain tracks_blockName (fun name => .chain tracks_fields fun _ _ => .pure _) tokens

theorem tracks_enumBlock (text : Option String) (tokens : List Lexeme) :
    Tracks (reader (enumBlock text)) tokens := by
  rw [reader_enumBlock]
  exact .chain tracks_blockName (fun name => .chain tracks_enumValues fun _ _ => .pure _) tokens

theorem tracks_otherBlock (keyword : String) (tokens : List Lexeme) :
    Tracks (reader (otherBlock keyword)) tokens := by
  rw [reader_otherBlock]
  exact .chain tracks_blockName (fun name => .chain (tracks_skipBraces 0) fun _ _ => .pure _) tokens

theorem tracks_map {α β : Type} {p : (tokens : List Lexeme) → Parsed α tokens.length} (f : α → β)
    (tracks : ∀ tokens, Tracks (reader p) tokens) (tokens : List Lexeme) :
    Tracks (reader fun tokens => do return (← p tokens).map f) tokens := by
  have same : (reader fun tokens => do return (← p tokens).map f) =
      (do return f (← reader p) : Reader β) := by
    funext tokens
    exact result_bind rfl fun _ => rfl
  exact same ▸ (tracks tokens).map

/-- Behind a keyword a block is read, or the keyword is refused whatever stands behind it. -/
theorem tracks_blockAfter (text : Option String) (keyword : Name) :
    (∀ tokens, Tracks (reader (blockAfter text keyword)) tokens) ∨
      ∀ tokens, reader (blockAfter text keyword) tokens =
        .error ⟨.blockKeyword, some ⟨.identifier keyword.text, keyword.span⟩⟩ := by
  unfold blockAfter
  by_cases datasource : keyword.text = "datasource"
  · simp only [if_pos datasource]
    exact .inl (tracks_map _ tracks_propertyBlock)
  by_cases generator : keyword.text = "generator"
  · simp only [if_neg datasource, if_pos generator]
    exact .inl (tracks_map _ tracks_propertyBlock)
  by_cases model : keyword.text = "model"
  · simp only [if_neg datasource, if_neg generator, if_pos model]
    exact .inl (tracks_map _ (tracks_modelBlock text))
  by_cases enumeration : keyword.text = "enum"
  · simp only [if_neg datasource, if_neg generator, if_neg model, if_pos enumeration]
    exact .inl (tracks_map _ (tracks_enumBlock text))
  simp only [if_neg datasource, if_neg generator, if_neg model, if_neg enumeration]
  by_cases other : keyword.text = "type" ∨ keyword.text = "view"
  · simp only [if_pos other]
    exact .inl (tracks_otherBlock keyword.text)
  · simp only [if_neg other]
    exact .inr fun _ => rfl

def blockFrom (text : Option String) : Reader Block := do
  let keyword ← reader (expectName .identifier)
  reader (blockAfter text keyword)

theorem completes_blockFrom (text : Option String) : Completes (blockFrom text) [] := by
  refine ⟨[⟨.identifier "type", default⟩, ⟨.identifier "x", default⟩, ⟨.leftBrace, default⟩,
    ⟨.rightBrace, default⟩], .other "type" ⟨"x", default⟩,
    fun rest _ => ⟨closes_cons (by decide) _, ?_⟩⟩
  have named : Reads (blockName (⟨.identifier "x", default⟩ :: ⟨.leftBrace, default⟩ ::
      ⟨.rightBrace, default⟩ :: rest)) ⟨"x", default⟩ (⟨.rightBrace, default⟩ :: rest) :=
    reads_blockName_iff.mpr ⟨default, rfl⟩
  have body : ReadsBody text ⟨"x", default⟩ "type" (⟨.rightBrace, default⟩ :: rest)
      (.other "type" ⟨"x", default⟩) rest := .other (.inl rfl) .done
  have read := reader_expectName_cons .identifier "type" default (⟨.identifier "x", default⟩ ::
    ⟨.leftBrace, default⟩ :: ⟨.rightBrace, default⟩ :: rest)
  exact (Tracks.bind_eq_ok read).trans (result_eq_ok_iff.mpr (reads_blockAfter named body))

theorem tracks_blockFrom (text : Option String) (tokens : List Lexeme) :
    Tracks (blockFrom text) tokens := by
  refine .step (Tracks.bind_eq_error rfl) (fun lexeme rest _ => ?_) (completes_blockFrom text)
  obtain ⟨token, span⟩ := lexeme
  cases token with
  | identifier name =>
      have begun (other : List Lexeme) : blockFrom text (⟨.identifier name, span⟩ :: other) =
          reader (blockAfter text ⟨name, span⟩) other :=
        Tracks.bind_eq_ok (reader_expectName_cons .identifier name span other)
      rcases tracks_blockAfter text ⟨name, span⟩ with tracks | refused
      · exact .inl ⟨_, tracks rest, begun⟩
      · exact .inr ⟨_, fun other => (begun other).trans (refused other)⟩
  | _ => exact .inr ⟨.identifier, fun other => Tracks.bind_eq_error rfl⟩

theorem blocks_append {docs ahead : List Lexeme} (all : ∀ lexeme ∈ docs, isDoc lexeme = true)
    (plain : IsPlain (nextToken ahead)) (goesOn : ahead ≠ []) :
    blocks (docs ++ ahead) = (do
      let found ← blockFrom (documentation docs) ahead
      return found.1 :: (← blocks found.2)) := by
  have start := afterDocs_append all plain
  rw [blocks]
  split
  · next ends => exact absurd (start.symm.trans ends) goesOn
  · next first rest same =>
      rw [start] at same
      subst same
      rw [documentation_append all plain]
      cases named : expectName .identifier (first :: rest) with
      | error mismatch =>
          have refused : reader (expectName .identifier) (first :: rest) = .error mismatch := by
            rw [reader, named]
            rfl
          rw [blockFrom, Tracks.bind_eq_error refused]
          rfl
      | ok keyword =>
          have read : reader (expectName .identifier) (first :: rest) =
              .ok (keyword.value, keyword.rest) := by
            rw [reader, named]
            rfl
          rw [blockFrom, Tracks.bind_eq_ok read, reader]
          cases made : blockAfter (documentation docs) keyword.value keyword.rest with
          | error mismatch => simp [made, bind, Except.bind]
          | ok block => simp [made, bind, Except.bind]

/-- A block begins with its keyword, so the doc comments in front of it are its documentation. -/
theorem blocks_of_blockFrom {docs ahead rest : List Lexeme} {block : Block}
    (all : ∀ lexeme ∈ docs, isDoc lexeme = true)
    (read : blockFrom (documentation docs) ahead = .ok (block, rest)) :
    blocks (docs ++ ahead) = (do return block :: (← blocks rest)) := by
  obtain ⟨name, first⟩ := begins_of_expectName read
  have goesOn : ahead ≠ [] := by
    rintro rfl
    cases first
  rw [blocks_append all (first ▸ isPlain_identifier name) goesOn, read]
  rfl

theorem blocks_docs {docs : List Lexeme} (all : ∀ lexeme ∈ docs, isDoc lexeme = true) :
    blocks docs = .ok [] := by
  have nothing : afterDocs docs = [] := List.dropWhile_eq_nil_iff.mpr all
  rw [blocks]
  split
  · rfl
  · next same => exact nomatch nothing.symm.trans same

theorem shorter_of_blockFrom {text : Option String} {tokens rest : List Lexeme} {block : Block}
    (read : blockFrom text tokens = .ok (block, rest)) : rest.length < tokens.length := by
  obtain ⟨keyword, between, named, made⟩ := exists_of_bind_eq_ok read
  exact Nat.lt_trans (shorter_of_reader made) (shorter_of_reader named)

/-- Blocks are refused at a lexeme, or at the end, with which no document goes on, but there is one
that goes on behind the lexemes in front. -/
def RefusedWithin (tokens : List Lexeme) (mismatch : Mismatch) : Prop :=
  ∃ before after, tokens = before ++ after ∧ mismatch.found = after.head? ∧
    (∀ other, other.head? = after.head? → blocks (before ++ other) = .error mismatch) ∧
    ∃ completion found, Closes completion ∧ blocks (before ++ completion) = .ok found

section Blocks

variable {docs ahead rest : List Lexeme} {mismatch : Mismatch} {block : Block}

theorem refusedWithin_first (all : ∀ lexeme ∈ docs, isDoc lexeme = true)
    (plain : IsPlain (nextToken ahead)) (goesOn : ahead ≠ [])
    (first : blockFrom (documentation docs) ahead = .error mismatch) :
    RefusedWithin (docs ++ ahead) mismatch := by
  obtain ⟨before, after, rfl, found, again, completion, block, completes⟩ :=
    (tracks_blockFrom _ ahead).refused first
  refine ⟨docs ++ before, after, (List.append_assoc ..).symm, found, fun other head => ?_,
    completion, [block], ?_, ?_⟩
  · have next := nextToken_append_of_head? head before
    have something : before ++ other ≠ [] := by
      intro nothing
      obtain ⟨rfl, rfl⟩ := List.append_eq_nil_iff.mp nothing
      exact goesOn (List.head?_eq_none_iff.mp head.symm)
    rw [List.append_assoc, blocks_append all (next ▸ plain) something, again other head]
    rfl
  · exact List.append_nil completion ▸ (completes [] closes_nil).1
  · have read := (completes [] closes_nil).2
    rw [List.append_nil] at read
    rw [List.append_assoc, blocks_of_blockFrom all read, blocks_docs (List.forall_mem_nil _)]
    rfl

theorem refusedWithin_later (all : ∀ lexeme ∈ docs, isDoc lexeme = true)
    (first : blockFrom (documentation docs) ahead = .ok (block, rest))
    (later : RefusedWithin rest mismatch) : RefusedWithin (docs ++ ahead) mismatch := by
  obtain ⟨front, rfl, againFirst⟩ := (tracks_blockFrom _ _).taken first
  obtain ⟨before, after, rfl, found, again, completion, others, closes, read⟩ := later
  refine ⟨docs ++ (front ++ before), after, by simp, found, fun other head => ?_,
    completion, block :: others, closes, ?_⟩
  · have same := NoFurther.of_nextToken_eq (nextToken_append_of_head? head before)
    rw [List.append_assoc, List.append_assoc, blocks_of_blockFrom all (againFirst _ same),
      again other head]
    rfl
  · have closesAfter : NoFurther after completion := .of_closes closes
    rw [List.append_assoc, List.append_assoc,
      blocks_of_blockFrom all (againFirst _ (closesAfter.append before)), read]
    rfl

end Blocks

theorem blocks_refused {tokens : List Lexeme} {mismatch : Mismatch}
    (refused : blocks tokens = .error mismatch) : RefusedWithin tokens mismatch := by
  obtain ⟨docs, ahead, split, all, plain⟩ := exists_docs tokens
  have within : ahead.length ≤ tokens.length := by simp [split]
  rw [split] at refused ⊢
  by_cases ends : ahead = []
  · rw [ends, List.append_nil, blocks_docs all] at refused
    cases refused
  rw [blocks_append all plain ends] at refused
  cases first : blockFrom (documentation docs) ahead with
  | error same =>
      rw [first] at refused
      cases refused
      exact refusedWithin_first all plain ends first
  | ok found =>
      obtain ⟨block, rest⟩ := found
      have shorter := shorter_of_blockFrom first
      rw [first] at refused
      have refusedMore : blocks rest = .error mismatch := by
        cases more : blocks rest with
        | error other =>
            simp only [more, bind, Except.bind] at refused
            exact refused
        | ok others =>
            simp only [more, bind, Except.bind] at refused
            cases refused
      exact refusedWithin_later all first (blocks_refused refusedMore)
termination_by tokens.length

/-- Lexemes with the tokens, wherever they stand, are read as a document. -/
def IsDocument (tokens : List Token) : Prop :=
  ∃ lexemes d, lexemes.map (·.token) = tokens ∧ parseDocument lexemes = .ok d

theorem isDocument_of_blocks {lexemes : List Lexeme} {found : List Block}
    (read : blocks lexemes = .ok found) : IsDocument (lexemes.map (·.token)) :=
  ⟨lexemes, ⟨found⟩, rfl, Outcome.bind_eq_ok_iff.mpr ⟨found, read, rfl⟩⟩

theorem not_isDocument_of_blocks {lexemes : List Lexeme} {mismatch : Mismatch}
    (refused : blocks lexemes = .error mismatch) : ¬ IsDocument (lexemes.map (·.token)) := by
  rintro ⟨others, d, same, read⟩
  have refusedDocument : parseDocument lexemes = .error mismatch := by
    rw [parseDocument, refused]
    rfl
  obtain ⟨other, refusedOthers, -⟩ := refusedAlike_parseDocument same.symm _ refusedDocument
  rw [read] at refusedOthers
  cases refusedOthers

theorem exists_blocks_refused {source : String} {lexemes : List Lexeme} {error : ParseError}
    (lexed : tokenize source = .ok lexemes) (refused : parse source = .error error) :
    ∃ mismatch, blocks lexemes = .error mismatch ∧
      error = mismatch.error (byteLength source.toList) := by
  simp only [parse, lexed, parseDocument, bind, Except.bind] at refused
  cases read : blocks lexemes with
  | error mismatch =>
      simp only [read] at refused
      exact ⟨mismatch, rfl, (Except.error.inj refused).symm⟩
  | ok found =>
      simp only [read] at refused
      cases refused

/-- The span is that of the first lexeme with which no document goes on, or it is empty at the end
and there are documents that go on behind all lexemes. -/
def MarksFirstRefused (lexemes : List Lexeme) (stop : Nat) (span : Span) : Prop :=
  (∃ before lexeme after, lexemes = before ++ lexeme :: after ∧ span = lexeme.span ∧
      (∃ more, IsDocument (before.map (·.token) ++ more)) ∧
      ∀ more, ¬ IsDocument (before.map (·.token) ++ lexeme.token :: more)) ∨
    span = ⟨stop, stop⟩ ∧ ∃ more, more ≠ [] ∧ IsDocument (lexemes.map (·.token) ++ more)

theorem marksFirstRefused_of_parse {source : String} {lexemes : List Lexeme} {error : ParseError}
    (lexed : tokenize source = .ok lexemes) (refused : parse source = .error error) :
    MarksFirstRefused lexemes (byteLength source.toList) error.span := by
  obtain ⟨mismatch, refusedBlocks, rfl⟩ := exists_blocks_refused lexed refused
  obtain ⟨before, after, rfl, found, again, completion, others, -, read⟩ :=
    blocks_refused refusedBlocks
  have document := isDocument_of_blocks read
  rw [List.map_append] at document
  cases after with
  | nil =>
      refine .inr ⟨by simp [Mismatch.error, found], completion.map (·.token), fun nothing => ?_, ?_⟩
      · rw [List.map_eq_nil_iff.mp nothing, refusedBlocks] at read
        cases read
      · rwa [List.append_nil]
  | cons lexeme rest =>
      refine .inl ⟨before, lexeme, rest, rfl, by simp [Mismatch.error, found], ⟨_, document⟩,
        fun more => ?_⟩
      have refusedMore := not_isDocument_of_blocks (again (lexeme :: bare more) rfl)
      simpa [bare, Function.comp_def] using refusedMore

/-- Behind a name in parentheses a colon could stand, a comma or what closes them. -/
def juxtaposedSource : String := "model A \x7b f T @id(x y) \x7d"

theorem marksFirstRefused_of_parse_juxtaposed :
    ∃ lexemes error, tokenize juxtaposedSource = .ok lexemes ∧
      parse juxtaposedSource = .error error ∧ error.span = ⟨20, 21⟩ ∧
      MarksFirstRefused lexemes (byteLength juxtaposedSource.toList) error.span := by
  have refused : parse juxtaposedSource =
      .error ⟨.mismatch (.token .rightParen) (some (.identifier "y")), ⟨20, 21⟩⟩ := by cbv
  have lexes : (tokenize juxtaposedSource).toOption.isSome = true := by cbv
  cases lexed : tokenize juxtaposedSource with
  | error error => simp [lexed, Except.toOption] at lexes
  | ok lexemes =>
      exact ⟨lexemes, _, rfl, refused, rfl, marksFirstRefused_of_parse lexed refused⟩

end Modelwright.Source
