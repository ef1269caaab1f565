import Modelwright.Proofs.Source.Matching
import Modelwright.Proofs.Source.Reprinting

namespace Modelwright.Source

open Modelwright.Text

/-! A document that is read off a text is read again, apart from its spans, from each text that has
its canonical tokens. -/

/-- Documentation is trimmed text of trimmed lines. -/
structure IsDocumentation (text : List Char) : Prop where
  some : text ≠ []
  trimmed : IsTrimmed text
  lines : ∀ line ∈ pieces '\n' text, IsTrimmed line

def IsDocumented (documentation : Option String) : Prop :=
  ∀ text, documentation = some text → IsDocumentation text.toList

theorem isTrimmedLine_of_docText? {tokens : List Lexeme} (spelled : Spelled tokens) {line : String}
    (listed : line ∈ (tokens.takeWhile isDoc).filterMap docText?) : IsTrimmedLine line.toList := by
  obtain ⟨⟨token, span⟩, found, read⟩ := List.mem_filterMap.mp listed
  have proper := spelled _ ((List.takeWhile_sublist isDoc).subset found)
  cases token with
  | doc text =>
      obtain rfl : text = line := Option.some.inj read
      exact proper
  | _ => cases read

theorem isDocumented_documentation {tokens : List Lexeme} (spelled : Spelled tokens) :
    IsDocumented (documentation tokens) := by
  intro text found
  have all : ∀ line ∈ ((tokens.takeWhile isDoc).filterMap docText?).map String.toList,
      IsTrimmedLine line := by
    intro line listed
    obtain ⟨comment, known, rfl⟩ := List.mem_map.mp listed
    exact isTrimmedLine_of_docText? spelled known
  obtain ⟨kept, same, within⟩ := trim_join fun line listed => (all line listed).trimmed
  rw [← toList_intercalate_newline] at same
  rw [documentation] at found
  split at found
  · cases found
  · next given =>
      obtain rfl := Option.some.inj found
      have nonempty : trim ("\n".intercalate ((tokens.takeWhile isDoc).filterMap docText?)).toList ≠
          [] := by
        simpa [trimText, String.isEmpty_iff, ← String.toList_inj] using given
      have stands : kept ≠ [] := by
        rintro rfl
        exact nonempty same
      rw [trimText, String.toList_ofList]
      refine ⟨nonempty, isTrimmed_trim _, ?_⟩
      rw [same, pieces_join stands fun line listed => (all line (within line listed)).line]
      exact fun line listed => (all line (within line listed)).trimmed

theorem allProper_docTokens {documentation : Option String}
    (documented : IsDocumented documentation) : AllProper (docTokens documentation) := by
  cases documentation with
  | none => exact allProper_nil
  | some text =>
      intro t listed
      obtain ⟨line, known, rfl⟩ := List.mem_map.mp listed
      rw [Token.Proper, String.toList_ofList]
      exact ⟨not_mem_of_mem_pieces known, (documented text rfl).lines line known⟩

theorem isDoc_docTokens (given : Option String) :
    ∀ lexeme ∈ bare (docTokens given), isDoc lexeme = true := by
  cases given with
  | none => exact List.forall_mem_nil _
  | some text =>
      intro lexeme listed
      obtain ⟨token, known, rfl⟩ := List.mem_map.mp listed
      obtain ⟨line, -, rfl⟩ := List.mem_map.mp known
      rfl

theorem docTexts_docTokens (text : String) :
    (bare (docTokens (some text))).filterMap docText? =
      (pieces '\n' text.toList).map String.ofList := by
  rw [bare, docTokens, List.map_map, List.filterMap_map, ← List.filterMap_eq_map]
  rfl

theorem nextToken_docTokens (given : Option String) (rest : List Lexeme) :
    (∃ line, nextToken (bare (docTokens given) ++ rest) = some (.doc line)) ∨
      nextToken (bare (docTokens given) ++ rest) = nextToken rest := by
  cases given with
  | none => exact .inr rfl
  | some text =>
      rw [docTokens]
      cases found : pieces '\n' text.toList with
      | nil => exact absurd found (pieces_ne_nil _ _)
      | cons line lines => exact .inl ⟨String.ofList line, rfl⟩

theorem documentation_docTokens {given : Option String} (documented : IsDocumented given)
    {after : List Lexeme} (stops : Stops isDoc after) :
    documentation (bare (docTokens given) ++ after) = given ∧
      afterDocs (bare (docTokens given) ++ after) = after := by
  rw [documentation, afterDocs, stops.takeWhile_append (isDoc_docTokens given),
    stops.dropWhile_append (isDoc_docTokens given)]
  refine ⟨?_, rfl⟩
  cases given with
  | none => rfl
  | some text =>
      obtain ⟨nonempty, trimmed, -⟩ := documented text rfl
      have whole : "\n".intercalate ((pieces '\n' text.toList).map String.ofList) = text := by
        rw [← String.toList_inj, toList_intercalate_newline, List.map_map]
        simp [Function.comp_def, join_pieces]
      rw [docTexts_docTokens, whole, trimText, trim_eq_self_of_isTrimmed trimmed,
        String.ofList_toList, if_neg]
      rwa [String.isEmpty_iff, ← String.toList_inj]

/-- A kind of declaration, with what is written of one. -/
structure Kind (α : Type) where
  declares : Option String → List Lexeme → α → List Lexeme → Prop
  documentation : α → Option String
  tokens : α → List Token
  withoutSpans : α → α

def fieldKind : Kind FieldDecl where
  declares := ReadsField
  documentation := (·.documentation)
  tokens := (·.tokens)
  withoutSpans := (·.withoutSpans)

def enumValueKind : Kind EnumValueDecl where
  declares := ReadsEnumValue
  documentation := (·.documentation)
  tokens := (·.tokens)
  withoutSpans := (·.withoutSpans)

namespace Kind

variable {α : Type} (kind : Kind α)

structure Reprints (value : α) : Prop where
  documented : IsDocumented (kind.documentation value)
  proper : AllProper (kind.tokens value)
  named : ∃ name more, kind.tokens value = .identifier name :: more
  again : ∀ after, EndsDeclaration after →
    kind.declares (kind.documentation value) (bare (kind.tokens value) ++ after)
      (kind.withoutSpans value) after

/-- What is read is read back. -/
def IsStable : Prop :=
  ∀ documentation tokens value rest, kind.declares documentation tokens value rest →
    IsDocumented documentation → Spelled tokens → kind.Reprints value ∧ Spelled rest

end Kind

theorem endOfAttributes_withoutSpans (marks : List Attribute) :
    endOfAttributes origin.stop (marks.map (·.withoutSpans)) = origin.stop := by
  rw [endOfAttributes, List.getLast?_map]
  cases marks.getLast? <;> rfl

theorem fieldKind_isStable : fieldKind.IsStable := by
  intro documentation tokens value rest read documented spelled
  cases read with
  | @mk name span inside between _ type stop marks typed marked =>
      obtain ⟨named, inside⟩ := spelled_cons.mp spelled
      obtain ⟨proper, between⟩ := typed.spelled inside
      obtain ⟨reprints, behind⟩ := marked.reprints between
      refine ⟨⟨documented, ?_, ⟨name, _, rfl⟩, ?_⟩, behind⟩
      · exact allProper_append.mpr
          ⟨allProper_cons.mpr ⟨named, proper⟩, allProper_marksTokens trivial reprints⟩
      · intro after ends
        have again := @ReadsField.mk documentation name origin _ _ after _ _ _
          (typed.again (ends.marks_ne marks (by simp)) (ends.marks_ne marks (by simp))
            (ends.marks_ne marks (by simp))) (readsMarks_again reprints ends)
        rw [endOfAttributes_withoutSpans] at again
        simp only [fieldKind, FieldDecl.tokens, bare_append, List.append_assoc]
        exact again

theorem enumValueKind_isStable : enumValueKind.IsStable := by
  intro documentation tokens value rest read documented spelled
  cases read with
  | @mk name span inside _ marks marked =>
      obtain ⟨named, inside⟩ := spelled_cons.mp spelled
      obtain ⟨reprints, behind⟩ := marked.reprints inside
      refine ⟨⟨documented, ?_, ⟨name, _, rfl⟩, ?_⟩, behind⟩
      · exact allProper_cons.mpr ⟨named, allProper_marksTokens trivial reprints⟩
      · intro after ends
        exact .mk (readsMarks_again reprints ends)

def Kind.membersTokens {α : Type} (kind : Kind α) (values : List α) (marks : List Attribute) :
    List Token :=
  (values.flatMap fun value => docTokens (kind.documentation value) ++ kind.tokens value) ++
    marksTokens .doubleAtSign marks

def canonicalMembers {α : Type} (values : List α) (marks : List Attribute) : List (Member α) :=
  values.map .declaration ++ marks.map .mark

@[simp] theorem declarations_canonicalMembers {α : Type} (values : List α)
    (marks : List Attribute) :
    (canonicalMembers values marks).filterMap Member.declaration? = values := by
  rw [canonicalMembers, List.filterMap_append, List.filterMap_map, List.filterMap_map]
  simp [Function.comp_def, Member.declaration?]

@[simp] theorem marks_canonicalMembers {α : Type} (values : List α) (marks : List Attribute) :
    (canonicalMembers values marks).filterMap Member.mark? = marks := by
  rw [canonicalMembers, List.filterMap_append, List.filterMap_map, List.filterMap_map]
  simp [Function.comp_def, Member.mark?]

section Members

variable {α : Type} {kind : Kind α} {tokens rest : List Lexeme}

theorem ReadsMembers.reprints (stable : kind.IsStable) {members : List (Member α)}
    (read : ReadsMembers kind.declares tokens members rest) (spelled : Spelled tokens) :
    (∀ value ∈ members.filterMap Member.declaration?, kind.Reprints value) ∧
      (∀ mark ∈ members.filterMap Member.mark?, mark.Reprints) ∧ Spelled rest := by
  induction read with
  | close start =>
      exact ⟨List.forall_mem_nil _, List.forall_mem_nil _, (spelled_behindDocs spelled start).2⟩
  | mark start read others ih =>
      obtain ⟨first, between⟩ := read.reprints (spelled_behindDocs spelled start).2
      obtain ⟨values, marks, behind⟩ := ih between
      exact ⟨values, List.forall_mem_cons.mpr ⟨first, marks⟩, behind⟩
  | declaration start read others ih =>
      obtain ⟨first, between⟩ := stable _ _ _ _ read (isDocumented_documentation spelled)
        (spelled_afterDocs spelled)
      obtain ⟨values, marks, behind⟩ := ih between
      exact ⟨List.forall_mem_cons.mpr ⟨first, values⟩, marks, behind⟩

variable {values : List α} {marks : List Attribute}

theorem allProper_membersTokens (valuesReprint : ∀ value ∈ values, kind.Reprints value)
    (marksReprint : ∀ mark ∈ marks, mark.Reprints) :
    AllProper (kind.membersTokens values marks) := by
  refine allProper_append.mpr ⟨allProper_flatMap.mpr fun value listed => ?_,
    allProper_marksTokens trivial marksReprint⟩
  have reprints := valuesReprint value listed
  exact allProper_append.mpr ⟨allProper_docTokens reprints.documented, reprints.proper⟩

theorem readsMembers_marks (marksReprint : ∀ mark ∈ marks, mark.Reprints) (after : List Lexeme) :
    ReadsMembers kind.declares
      (bare (marksTokens .doubleAtSign marks) ++ ⟨.rightBrace, origin⟩ :: after)
      (canonicalMembers [] (marks.map (·.withoutSpans))) after := by
  induction marks with
  | nil => exact .close rfl
  | cons mark others ih =>
      obtain ⟨first, marksReprint⟩ := List.forall_mem_cons.mp marksReprint
      have follows := nextToken_marks .doubleAtSign others (⟨.rightBrace, origin⟩ :: after)
      rw [marksTokens, List.flatMap_cons, ← marksTokens, bare_append, List.append_assoc]
      refine .mark rfl (first.again _ ?_ ?_) (ih marksReprint)
      all_goals
        rcases follows with next | next
        all_goals simp [next]

theorem endsDeclaration_marks (marks : List Attribute) (after : List Lexeme) :
    EndsDeclaration (bare (marksTokens .doubleAtSign marks) ++ ⟨.rightBrace, origin⟩ :: after) := by
  intro t first
  rcases nextToken_marks .doubleAtSign marks (⟨.rightBrace, origin⟩ :: after) with next | next
  all_goals
    rw [next] at first
    cases first
    decide

theorem endsDeclaration_members (valuesReprint : ∀ value ∈ values, kind.Reprints value)
    (marks : List Attribute) (after : List Lexeme) :
    EndsDeclaration (bare (kind.membersTokens values marks) ++ ⟨.rightBrace, origin⟩ :: after) := by
  cases values with
  | nil => exact endsDeclaration_marks marks after
  | cons value others =>
      obtain ⟨name, more, named⟩ := (valuesReprint value List.mem_cons_self).named
      intro t first
      rw [Kind.membersTokens, List.flatMap_cons, named] at first
      simp only [List.append_assoc, List.cons_append, bare_append, bare_cons] at first
      rcases nextToken_docTokens (kind.documentation value) _ with ⟨line, doc⟩ | undocumented
      · rw [doc] at first
        cases first
        simp
      · rw [undocumented] at first
        cases first
        simp

theorem readsMembers_again (valuesReprint : ∀ value ∈ values, kind.Reprints value)
    (marksReprint : ∀ mark ∈ marks, mark.Reprints) (after : List Lexeme) :
    ReadsMembers kind.declares
      (bare (kind.membersTokens values marks) ++ ⟨.rightBrace, origin⟩ :: after)
      (canonicalMembers (values.map kind.withoutSpans) (marks.map (·.withoutSpans))) after := by
  induction values with
  | nil => exact readsMembers_marks marksReprint after
  | cons value others ih =>
      obtain ⟨first, valuesReprint⟩ := List.forall_mem_cons.mp valuesReprint
      obtain ⟨name, more, named⟩ := first.named
      have stops (behind : List Lexeme) : Stops isDoc (bare (kind.tokens value) ++ behind) := by
        rw [named]
        rintro lexeme ⟨⟩
        rfl
      obtain ⟨documented, behind⟩ := documentation_docTokens first.documented (stops _)
      rw [Kind.membersTokens, List.flatMap_cons, List.append_assoc, List.append_assoc,
        ← Kind.membersTokens, bare_append, bare_append, List.append_assoc, List.append_assoc]
      refine @ReadsMembers.declaration _ _ _ _ _ name _ _ ?_ ?_ (ih valuesReprint)
      · rw [behind, named]
        rfl
      · rw [documented, behind]
        exact first.again _ (endsDeclaration_members valuesReprint marks after)

end Members

section Properties

variable {tokens rest : List Lexeme} {properties : List Property}

theorem ReadsProperties.spelled (read : ReadsProperties tokens properties rest)
    (spelled : Spelled tokens) :
    AllProper (properties.flatMap (·.tokens)) ∧ Spelled rest := by
  induction read with
  | close start =>
      exact ⟨allProper_nil, (spelled_behindDocs spelled start).2⟩
  | more start read others ih =>
      obtain ⟨named, behind⟩ := spelled_behindDocs spelled start
      obtain ⟨proper, between⟩ := read.spelled (spelled_cons.mp behind).2
      obtain ⟨more, behind⟩ := ih between
      refine ⟨?_, behind⟩
      rw [List.flatMap_cons, allProper_append]
      exact ⟨allProper_cons.mpr ⟨named, by simpa using proper⟩, more⟩

theorem nextToken_properties (properties : List Property) (after : List Lexeme) :
    nextToken (bare (properties.flatMap (·.tokens)) ++ ⟨.rightBrace, origin⟩ :: after) ≠
      some .leftParen := by
  cases properties with
  | nil => simp
  | cons property others => simp [Property.tokens]

theorem ReadsProperties.again (read : ReadsProperties tokens properties rest)
    (after : List Lexeme) :
    ReadsProperties (bare (properties.flatMap (·.tokens)) ++ ⟨.rightBrace, origin⟩ :: after)
      (properties.map (·.withoutSpans)) after := by
  induction read with
  | close start => exact .close rfl
  | @more _ _ _ _ _ _ _ _ properties start read others ih =>
      rw [List.flatMap_cons, bare_append, List.append_assoc]
      exact .more rfl (read.again (nextToken_properties properties after)) ih

end Properties

namespace Block

structure Reprints (block : Block) : Prop where
  proper : AllProper block.tokens
  again : ∀ after blocks, ReadsBlocks after blocks →
    ReadsBlocks (bare block.tokens ++ after) (block.withoutSpans :: blocks)

end Block

theorem allProper_blockTokens {keyword name : String} {body : List Token}
    (begun : (Token.identifier keyword).Proper) (named : (Token.identifier name).Proper)
    (proper : AllProper body) : AllProper (blockTokens keyword name body) := by
  have closed : AllProper (.leftBrace :: body ++ [.rightBrace]) := by
    simpa using proper
  exact allProper_cons.mpr ⟨begun, allProper_cons.mpr ⟨named, closed⟩⟩

theorem readsBlocks_cons {given : Option String} (documented : IsDocumented given)
    {keyword name : String} {body : List Token} {after : List Lexeme} {block : Block}
    {blocks : List Block}
    (read : ReadsBody given ⟨name, origin⟩ keyword (bare body ++ ⟨.rightBrace, origin⟩ :: after)
      block after)
    (others : ReadsBlocks after blocks) :
    ReadsBlocks (bare (docTokens given ++ blockTokens keyword name body) ++ after)
      (block :: blocks) := by
  have stops : Stops isDoc (bare (blockTokens keyword name body) ++ after) := by
    rintro lexeme ⟨⟩
    rfl
  obtain ⟨same, behind⟩ := documentation_docTokens documented stops
  have start :
      afterDocs (bare (docTokens given) ++ (bare (blockTokens keyword name body) ++ after)) =
      ⟨.identifier keyword, origin⟩ :: ⟨.identifier name, origin⟩ :: ⟨.leftBrace, origin⟩ ::
        (bare body ++ ⟨.rightBrace, origin⟩ :: after) := by
    rw [behind]
    simp [blockTokens]
  rw [bare_append, List.append_assoc]
  exact .more start (same.symm ▸ read) others

theorem ReadsBraces.spelled {depth : Nat} {tokens rest : List Lexeme}
    (read : ReadsBraces depth tokens rest) (spelled : Spelled tokens) : Spelled rest := by
  induction read with
  | done => exact (spelled_cons.mp spelled).2
  | closed read ih => exact ih (spelled_cons.mp spelled).2
  | opened read ih => exact ih (spelled_cons.mp spelled).2
  | passed other read ih => exact ih (List.forall_mem_cons.mp spelled).2

theorem ReadsBody.reprints {given : Option String} {name : Name} {keyword : String} {block : Block}
    {tokens rest : List Lexeme} (read : ReadsBody given name keyword tokens block rest)
    (documented : IsDocumented given) (begun : (Token.identifier keyword).Proper)
    (named : (Token.identifier name.text).Proper) (spelled : Spelled tokens) :
    block.Reprints ∧ Spelled rest := by
  have undocumented : IsDocumented none := fun text found => by cases found
  cases read with
  | datasource read =>
      obtain ⟨proper, behind⟩ := read.spelled spelled
      refine ⟨⟨allProper_blockTokens begun named proper, fun after blocks others => ?_⟩, behind⟩
      exact readsBlocks_cons undocumented (.datasource (read.again after)) others
  | generator read =>
      obtain ⟨proper, behind⟩ := read.spelled spelled
      refine ⟨⟨allProper_blockTokens begun named proper, fun after blocks others => ?_⟩, behind⟩
      exact readsBlocks_cons undocumented (.generator (read.again after)) others
  | model read =>
      obtain ⟨values, marks, behind⟩ := ReadsMembers.reprints fieldKind_isStable read spelled
      refine ⟨⟨?_, fun after blocks others => ?_⟩, behind⟩
      · exact allProper_append.mpr ⟨allProper_docTokens documented,
          allProper_blockTokens begun named (allProper_membersTokens values marks)⟩
      · have body : ReadsBody given ⟨name.text, origin⟩ "model" _ _ after :=
          .model (readsMembers_again values marks after)
        rw [declarations_canonicalMembers, marks_canonicalMembers] at body
        exact readsBlocks_cons documented body others
  | enumeration read =>
      obtain ⟨values, marks, behind⟩ := ReadsMembers.reprints enumValueKind_isStable read spelled
      refine ⟨⟨?_, fun after blocks others => ?_⟩, behind⟩
      · exact allProper_append.mpr ⟨allProper_docTokens documented,
          allProper_blockTokens begun named (allProper_membersTokens values marks)⟩
      · have body : ReadsBody given ⟨name.text, origin⟩ "enum" _ _ after :=
          .enumeration (readsMembers_again values marks after)
        rw [declarations_canonicalMembers, marks_canonicalMembers] at body
        exact readsBlocks_cons documented body others
  | other known read =>
      refine ⟨⟨allProper_blockTokens begun named allProper_nil, fun after blocks others => ?_⟩,
        read.spelled spelled⟩
      exact readsBlocks_cons undocumented (.other known .done) others

theorem ReadsBlocks.reprints {tokens : List Lexeme} {blocks : List Block}
    (read : ReadsBlocks tokens blocks) (spelled : Spelled tokens) :
    ∀ block ∈ blocks, block.Reprints := by
  induction read with
  | done ends => exact List.forall_mem_nil _
  | more start read others ih =>
      obtain ⟨begun, behind⟩ := spelled_behindDocs spelled start
      obtain ⟨named, behind⟩ := spelled_cons.mp behind
      obtain ⟨first, between⟩ := read.reprints (isDocumented_documentation spelled) begun named
        (spelled_cons.mp behind).2
      exact List.forall_mem_cons.mpr ⟨first, ih between⟩

theorem readsBlocks_again {blocks : List Block} (reprints : ∀ block ∈ blocks, block.Reprints) :
    ReadsBlocks (bare (blocks.flatMap (·.tokens))) (blocks.map (·.withoutSpans)) := by
  induction blocks with
  | nil => exact .done rfl
  | cons block others ih =>
      obtain ⟨first, reprints⟩ := List.forall_mem_cons.mp reprints
      rw [List.flatMap_cons, bare_append]
      exact first.again _ _ (ih reprints)

theorem parse_eq_ok_iff {source : String} {d : Document} :
    parse source = .ok d ↔
      ∃ lexemes, tokenize source = .ok lexemes ∧ ReadsBlocks lexemes d.blocks := by
  simp only [parse, Outcome.bind_eq_ok_iff]
  refine exists_congr fun lexemes => and_congr_right fun _ => ?_
  rw [← parseDocument_eq_ok_iff]
  cases parseDocument lexemes with
  | ok found => simp
  | error mismatch => simp [throw, throwThe, MonadExceptOf.throw]

theorem spelled_of_tokenize {source : String} {lexemes : List Lexeme}
    (lexed : tokenize source = .ok lexemes) : Spelled lexemes :=
  fun _ listed => proper_of_lexesTo (lexesTo_of_lexFrom lexed) _ (List.mem_map_of_mem listed)

/-- A parsed document prints as its canonical text, and each text that it prints as is parsed to the
same document, apart from spans. -/
theorem parse_of_printsAs {source : String} {d : Document} (read : parse source = .ok d) :
    d.PrintsAs d.print ∧ ∀ text, d.PrintsAs text →
      ∃ again, parse text = .ok again ∧ again.withoutSpans = d.withoutSpans := by
  refine ⟨d.printsAs_print, fun text printed => ?_⟩
  obtain ⟨lexemes, lexed, derived⟩ := parse_eq_ok_iff.mp read
  have reprints := derived.reprints (spelled_of_tokenize lexed)
  have proper : AllProper d.tokens :=
    allProper_flatMap.mpr fun block listed => (reprints block listed).proper
  obtain ⟨found, foundLexed, sameTokens⟩ :=
    lexFrom_of_lexesTo (lexesTo_of_laidOut printed proper) 0
  -- The canonical tokens are read at the origin, and so at the places where they stand.
  have alike : Alike (bare d.tokens) found := by
    rw [Alike, sameTokens, bare, List.map_map]
    exact List.map_id _
  obtain ⟨blocks, derivedAgain, same⟩ := (readsBlocks_again reprints).moved alike
  refine ⟨⟨blocks⟩, parse_eq_ok_iff.mpr ⟨found, foundLexed, derivedAgain⟩, ?_⟩
  rw [Document.withoutSpans, Document.withoutSpans, same, List.map_map]
  simp [Function.comp_def]

/-- A block attribute in front of a field, a comma behind the last item, a comment, and a block
whose members are passed over. -/
def tokenSource : String :=
  "///  P\nmodel T \x7b\n  @@map(to: f())\n" ++
    "  raw Unsupported(\"a\\nb\")? @db.Raw([1,])// none\n\x7d\ntype U \x7b x \x7d"

def tokenText : String :=
  "/// P\nmodel T \x7b raw Unsupported ( \"a\\nb\" ) ? @ db . Raw ( [ 1 ] ) " ++
    "@@ map ( to : f ( ) ) \x7d type U \x7b \x7d "

set_option maxRecDepth 4000 in
theorem parse_of_printsAs_token :
    ∃ d, parse tokenSource = .ok d ∧ d.print = tokenText ∧
      ∃ again, parse tokenText = .ok again ∧ again.withoutSpans = d.withoutSpans := by
  have printed : (parse tokenSource).toOption.map (·.print) = some tokenText := by cbv
  cases read : parse tokenSource with
  | error error => simp [read, Except.toOption] at printed
  | ok d =>
      have same : d.print = tokenText := by simpa [read, Except.toOption] using printed
      obtain ⟨prints, again⟩ := parse_of_printsAs read
      exact ⟨d, rfl, same, again tokenText (same ▸ prints)⟩

end Modelwright.Source
