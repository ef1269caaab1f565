import Mathlib.Data.List.Pairwise
import Modelwright.Proofs.Source.Extents
import Modelwright.Proofs.Source.Stability
import Modelwright.Proofs.Source.Tiling

namespace Modelwright

open Modelwright.Text

namespace Span

def Contains (outer inner : Span) : Prop :=
  outer.start ≤ inner.start ∧ inner.stop ≤ outer.stop

def Precedes (first second : Span) : Prop :=
  first.stop ≤ second.start

def Apart (first second : Span) : Prop :=
  first.Precedes second ∨ second.Precedes first

end Span

def Name.IsWritten (source : List Char) (name : Name) : Prop :=
  String.ofList (slice name.span source) = name.text

namespace Source

/-- The attribute goes from its sign to the end of the last lexeme that its reader takes. -/
structure Attribute.IsPlaced (lexemes : List Lexeme) (sign : Token) (mark : Attribute) : Prop where
  extent : ∃ place taken rest, ⟨sign, place⟩ :: (taken ++ rest) <:+ lexemes ∧
    Reads (markAfter place (taken ++ rest)) mark rest ∧
    mark.span = ⟨place.start, endOf place.stop taken⟩
  name : mark.span.Contains mark.name.span

/-- The field goes from its name to the end of the last lexeme that its reader takes. -/
structure FieldDecl.IsPlaced (source : List Char) (lexemes : List Lexeme) (value : FieldDecl) :
    Prop where
  name : value.name.IsWritten source
  extent : ∃ taken rest,
    ⟨.identifier value.name.text, value.name.span⟩ :: (taken ++ rest) <:+ lexemes ∧
    Reads (field value.documentation
      (⟨.identifier value.name.text, value.name.span⟩ :: (taken ++ rest))) value rest ∧
    value.span = ⟨value.name.span.start, endOf value.name.span.stop taken⟩
  typeName : value.type.name.IsWritten source ∧ value.span.Contains value.type.name.span
  attributes : ∀ mark ∈ value.attributes,
    mark.IsPlaced lexemes .atSign ∧ value.span.Contains mark.span

structure EnumValueDecl.IsPlaced (source : List Char) (lexemes : List Lexeme)
    (value : EnumValueDecl) : Prop where
  name : value.name.IsWritten source
  attributes : ∀ mark ∈ value.attributes, mark.IsPlaced lexemes .atSign

structure PropertyBlock.IsPlaced (source : List Char) (block : PropertyBlock) : Prop where
  name : block.name.IsWritten source
  keys : ∀ property ∈ block.properties, property.key.IsWritten source

structure ModelBlock.IsPlaced (source : List Char) (lexemes : List Lexeme) (model : ModelBlock) :
    Prop where
  name : model.name.IsWritten source
  fields : ∀ value ∈ model.fields, value.IsPlaced source lexemes
  attributes : ∀ mark ∈ model.attributes, mark.IsPlaced lexemes .doubleAtSign
  fieldsIncrease : model.fields.Pairwise fun first second => first.span.Precedes second.span
  attributesIncrease : model.attributes.Pairwise fun first second => first.span.Precedes second.span
  apart : ∀ value ∈ model.fields, ∀ mark ∈ model.attributes, value.span.Apart mark.span

structure EnumBlock.IsPlaced (source : List Char) (lexemes : List Lexeme) (block : EnumBlock) :
    Prop where
  name : block.name.IsWritten source
  values : ∀ value ∈ block.values, value.IsPlaced source lexemes
  attributes : ∀ mark ∈ block.attributes, mark.IsPlaced lexemes .doubleAtSign

def Block.IsPlaced (source : List Char) (lexemes : List Lexeme) : Block → Prop
  | .datasource block => block.IsPlaced source
  | .generator block => block.IsPlaced source
  | .model block => block.IsPlaced source lexemes
  | .enumeration block => block.IsPlaced source lexemes
  | .other _ name => name.IsWritten source

def AllWritten (source : List Char) (lexemes : List Lexeme) : Prop :=
  ∀ name : Name, ⟨.identifier name.text, name.span⟩ ∈ lexemes → name.IsWritten source

theorem punctuation?_ne_identifier (c : Char) (name : String) :
    Token.punctuation? c ≠ some (.identifier name) := by
  unfold Token.punctuation?
  split
  all_goals simp

theorem Fits.identifier_text {text : List Char} {token : Option Token} {name : String}
    (fits : Fits text token) (same : token = some (.identifier name)) :
    String.ofList text = name := by
  cases fits with
  | identifier identifier =>
      cases same
      rfl
  | @punctuation c t stands =>
      cases same
      exact absurd stands (punctuation?_ne_identifier c name)
  | gap | comment | doc | text | number | doubleAtSign => cases same

theorem Accounts.allWritten {source : List Char} {lexemes : List Lexeme} {stop : Nat}
    (accounts : Accounts source lexemes stop) : AllWritten source lexemes :=
  fun _ listed => (accounts.longest _ listed).fits.identifier_text rfl

theorem behind_of_pairwise {place : Nat} {lexemes : List Lexeme}
    (nonempty : ∀ lexeme ∈ lexemes, lexeme.span.start < lexeme.span.stop)
    (increasing : lexemes.Pairwise fun first second => first.span.stop ≤ second.span.start)
    (after : ∀ lexeme ∈ lexemes, place ≤ lexeme.span.start) : Behind place lexemes := by
  induction lexemes generalizing place with
  | nil => trivial
  | cons lexeme more ih =>
      obtain ⟨next, increasing⟩ := List.pairwise_cons.mp increasing
      obtain ⟨proper, nonempty⟩ := List.forall_mem_cons.mp nonempty
      exact ⟨after _ List.mem_cons_self, proper, ih nonempty increasing next⟩

theorem Accounts.behind {source : List Char} {lexemes : List Lexeme} {stop : Nat}
    (accounts : Accounts source lexemes stop) : Behind 0 lexemes :=
  behind_of_pairwise accounts.nonempty accounts.increasing fun _ _ => Nat.zero_le _

section Placement

variable {source : List Char} {lexemes tokens rest : List Lexeme} {place : Nat}

theorem AllWritten.first {name : Name} (written : AllWritten source lexemes)
    (inside : ⟨.identifier name.text, name.span⟩ :: rest <:+ lexemes) : name.IsWritten source :=
  written _ (inside.subset List.mem_cons_self)

theorem ReadsMark.isPlaced {sign : Token} {span : Span} {mark : Attribute}
    (read : ReadsMark span tokens mark rest) (inside : ⟨sign, span⟩ :: tokens <:+ lexemes)
    (behind : Behind place (⟨sign, span⟩ :: tokens)) :
    mark.IsPlaced lexemes sign ∧ place ≤ mark.span.start ∧
      TakenTo place (⟨sign, span⟩ :: tokens) mark.span.stop rest := by
  obtain ⟨after, proper, behind⟩ := behind
  obtain ⟨starts, takenTo, begins, ends⟩ := read.takenTo behind
  have within : mark.span.Contains mark.name.span :=
    ⟨starts ▸ Nat.le_trans (Nat.le_of_lt proper) begins, ends⟩
  refine ⟨⟨?_, within⟩, starts ▸ after, takenTo.cons⟩
  obtain ⟨taken, rfl, stops⟩ := takenTo
  exact ⟨span, taken, rest, inside, reads_markAfter_iff.mpr read, by rw [← starts, ← stops]⟩

theorem ReadsMarks.placed {marks : List Attribute} (read : ReadsMarks tokens marks rest)
    (inside : tokens <:+ lexemes) (behind : Behind place tokens) :
    TakenTo place tokens (endOfAttributes place marks) rest ∧
      ∀ mark ∈ marks, mark.IsPlaced lexemes .atSign ∧ place ≤ mark.span.start ∧
        mark.span.stop ≤ endOfAttributes place marks := by
  induction read generalizing place with
  | none ends => exact ⟨.nothing, List.forall_mem_nil _⟩
  | more read others ih =>
      obtain ⟨placed, begins, taken⟩ := read.isPlaced inside behind
      have others := taken.behind behind
      obtain ⟨takenLater, each⟩ := ih (taken.suffix.trans inside) others
      rw [endOfAttributes_cons]
      refine ⟨taken.trans takenLater,
        List.forall_mem_cons.mpr ⟨⟨placed, begins, takenLater.le others⟩, fun later listed => ?_⟩⟩
      obtain ⟨placedLater, beginsLater, within⟩ := each later listed
      exact ⟨placedLater, Nat.le_trans (taken.le behind) beginsLater, within⟩

theorem ReadsField.isPlaced {documentation : Option String} {value : FieldDecl}
    (read : ReadsField documentation tokens value rest) (written : AllWritten source lexemes)
    (inside : tokens <:+ lexemes) (behind : Behind place tokens) :
    value.IsPlaced source lexemes ∧ place ≤ value.span.start ∧
      TakenTo place tokens value.span.stop rest := by
  have reads := (field_takesAs _ _ _ _).mpr read
  cases read with
  | @mk name span _ between _ type stop marks typed marked =>
      obtain ⟨more, rfl, typeTaken⟩ := typed.takenTo
      obtain ⟨after, proper, afterName, typeProper, others⟩ := behind
      dsimp only at after proper afterName typeProper others
      have insideType := (List.suffix_cons _ _).trans inside
      have insideMarks := typeTaken.suffix.trans ((List.suffix_cons _ _).trans insideType)
      obtain ⟨marksTaken, each⟩ := marked.placed insideMarks (typeTaken.behind others)
      have endsType := typeTaken.le others
      have endsMarks := marksTaken.le (typeTaken.behind others)
      have takenTo : TakenTo span.stop (⟨.identifier type.name.text, type.name.span⟩ :: more)
          (endOfAttributes stop marks) rest := TakenTo.cons (typeTaken.trans marksTaken)
      refine ⟨⟨written.first inside, ?_, ⟨written.first insideType, ?_⟩, ?_⟩, after, takenTo.cons⟩
      · obtain ⟨taken, split, stops⟩ := takenTo
        rw [split] at inside reads
        exact ⟨taken, rest, inside, reads, by rw [stops]⟩
      · exact ⟨by dsimp only; omega, Nat.le_trans endsType endsMarks⟩
      · intro mark listed
        obtain ⟨placed, begins, within⟩ := each mark listed
        exact ⟨placed, by dsimp only; omega, within⟩

theorem ReadsEnumValue.isPlaced {documentation : Option String} {value : EnumValueDecl}
    (read : ReadsEnumValue documentation tokens value rest) (written : AllWritten source lexemes)
    (inside : tokens <:+ lexemes) (behind : Behind place tokens) :
    value.IsPlaced source lexemes ∧ place ≤ value.name.span.start ∧
      TakenTo place tokens (endOfAttributes value.name.span.stop value.attributes) rest := by
  cases read with
  | mk marked =>
      obtain ⟨after, -, others⟩ := behind
      obtain ⟨taken, each⟩ := marked.placed ((List.suffix_cons _ _).trans inside) others
      exact ⟨⟨written.first inside, fun mark listed => (each mark listed).1⟩, after, taken.cons⟩

/-- A declaration that is read from the lexemes is in place, and its extent is what is taken. -/
def PlacesEach {α : Type} (declares : Option String → List Lexeme → α → List Lexeme → Prop)
    (placed : α → Prop) (extent : α → Span) (lexemes : List Lexeme) : Prop :=
  ∀ documentation tokens value rest place, declares documentation tokens value rest →
    tokens <:+ lexemes → Behind place tokens →
      placed value ∧ place ≤ (extent value).start ∧ TakenTo place tokens (extent value).stop rest

def Member.IsPlaced {α : Type} (placed : α → Prop) (lexemes : List Lexeme) : Member α → Prop
  | .declaration value => placed value
  | .mark value => value.IsPlaced lexemes .doubleAtSign

def Member.extent {α : Type} (extent : α → Span) : Member α → Span
  | .declaration value => extent value
  | .mark value => value.span

/-- The members are in place, one behind the other and all behind the place. -/
structure StandInOrder {α : Type} (placed : α → Prop) (extent : α → Span) (lexemes : List Lexeme)
    (place : Nat) (members : List (Member α)) : Prop where
  each : ∀ member ∈ members,
    member.IsPlaced placed lexemes ∧ place ≤ (member.extent extent).start
  ordered : members.Pairwise fun first second =>
    (first.extent extent).Precedes (second.extent extent)

namespace StandInOrder

variable {α : Type} {placed : α → Prop} {extent : α → Span} {members : List (Member α)}

theorem nil : StandInOrder placed extent lexemes place ([] : List (Member α)) :=
  ⟨List.forall_mem_nil _, .nil⟩

theorem cons {first : Member α} (inPlace : first.IsPlaced placed lexemes)
    (begins : place ≤ (first.extent extent).start) (later : place ≤ (first.extent extent).stop)
    (more : StandInOrder placed extent lexemes (first.extent extent).stop members) :
    StandInOrder placed extent lexemes place (first :: members) where
  each := List.forall_mem_cons.mpr
    ⟨⟨inPlace, begins⟩, fun member listed => (more.each member listed).imp_right later.trans⟩
  ordered := .cons (fun member listed => (more.each member listed).2) more.ordered

end StandInOrder

theorem ReadsMembers.placed {α : Type}
    {declares : Option String → List Lexeme → α → List Lexeme → Prop} {placed : α → Prop}
    {extent : α → Span} (each : PlacesEach declares placed extent lexemes)
    {members : List (Member α)} (read : ReadsMembers declares tokens members rest)
    (inside : tokens <:+ lexemes) (behind : Behind place tokens) :
    StandInOrder placed extent lexemes place members ∧ rest <:+ tokens := by
  induction read generalizing place with
  | @close tokens rest span start =>
      have closing : ⟨.rightBrace, span⟩ :: rest <:+ tokens := start ▸ afterDocs_suffix tokens
      exact ⟨.nil, (List.suffix_cons _ _).trans closing⟩
  | @mark tokens _ _ _ _ _ _ start read others ih =>
      have behindDocs := behind.of_suffix (afterDocs_suffix tokens)
      have insideDocs := (afterDocs_suffix tokens).trans inside
      rw [start] at behindDocs insideDocs
      obtain ⟨first, begins, taken⟩ := read.isPlaced insideDocs behindDocs
      obtain ⟨more, suffix⟩ := ih (taken.suffix.trans insideDocs) (taken.behind behindDocs)
      exact ⟨.cons first begins (taken.le behindDocs) more,
        suffix.trans (taken.suffix.trans (start ▸ afterDocs_suffix tokens))⟩
  | @declaration tokens _ _ _ _ _ start read others ih =>
      have behindDocs := behind.of_suffix (afterDocs_suffix tokens)
      have insideDocs := (afterDocs_suffix tokens).trans inside
      obtain ⟨first, begins, taken⟩ := each _ _ _ _ _ read insideDocs behindDocs
      obtain ⟨more, suffix⟩ := ih (taken.suffix.trans insideDocs) (taken.behind behindDocs)
      exact ⟨.cons first begins (taken.le behindDocs) more,
        suffix.trans (taken.suffix.trans (afterDocs_suffix tokens))⟩

theorem ReadsProperties.placed {properties : List Property}
    (read : ReadsProperties tokens properties rest) (written : AllWritten source lexemes)
    (inside : tokens <:+ lexemes) :
    (∀ property ∈ properties, property.key.IsWritten source) ∧ rest <:+ tokens := by
  induction read with
  | @close tokens rest span start =>
      have closing : ⟨.rightBrace, span⟩ :: rest <:+ tokens := start ▸ afterDocs_suffix tokens
      exact ⟨List.forall_mem_nil _, (List.suffix_cons _ _).trans closing⟩
  | @more tokens _ between _ key span _ _ _ start read others ih =>
      have begins := afterDocs_suffix tokens
      rw [start] at begins
      have behind : between <:+ tokens := ((read.suffix.trans (List.suffix_cons _ _)).trans
        (List.suffix_cons _ _)).trans begins
      obtain ⟨keys, suffix⟩ := ih (behind.trans inside)
      have first : Name.IsWritten source ⟨key, span⟩ := written.first (begins.trans inside)
      exact ⟨List.forall_mem_cons.mpr ⟨first, keys⟩, suffix.trans behind⟩

@[simp] theorem Member.declaration?_eq_some_iff {α : Type} {member : Member α} {value : α} :
    member.declaration? = some value ↔ member = .declaration value := by
  cases member with
  | declaration found => simp [declaration?]
  | mark found => simp [declaration?]

@[simp] theorem Member.mark?_eq_some_iff {α : Type} {member : Member α} {value : Attribute} :
    member.mark? = some value ↔ member = .mark value := by
  cases member with
  | declaration found => simp [mark?]
  | mark found => simp [mark?]

theorem mem_declarations_iff {α : Type} {members : List (Member α)} {value : α} :
    value ∈ members.filterMap Member.declaration? ↔ .declaration value ∈ members := by
  simp [List.mem_filterMap]

theorem mem_marks_iff {α : Type} {members : List (Member α)} {value : Attribute} :
    value ∈ members.filterMap Member.mark? ↔ .mark value ∈ members := by
  simp [List.mem_filterMap]

namespace StandInOrder

variable {α : Type} {placed : α → Prop} {extent : α → Span} {members : List (Member α)}

theorem declaration (stand : StandInOrder placed extent lexemes place members) {value : α}
    (listed : value ∈ members.filterMap Member.declaration?) : placed value :=
  (stand.each _ (mem_declarations_iff.mp listed)).1

theorem mark (stand : StandInOrder placed extent lexemes place members) {value : Attribute}
    (listed : value ∈ members.filterMap Member.mark?) : value.IsPlaced lexemes .doubleAtSign :=
  (stand.each _ (mem_marks_iff.mp listed)).1

theorem declarations_increase (stand : StandInOrder placed extent lexemes place members) :
    (members.filterMap Member.declaration?).Pairwise fun first second =>
      (extent first).Precedes (extent second) := by
  refine List.pairwise_filterMap.mpr (stand.ordered.imp fun precedes => ?_)
  intro first isFirst second isSecond
  rw [Member.declaration?_eq_some_iff] at isFirst isSecond
  rwa [isFirst, isSecond] at precedes

theorem marks_increase (stand : StandInOrder placed extent lexemes place members) :
    (members.filterMap Member.mark?).Pairwise fun first second =>
      first.span.Precedes second.span := by
  refine List.pairwise_filterMap.mpr (stand.ordered.imp fun precedes => ?_)
  intro first isFirst second isSecond
  rw [Member.mark?_eq_some_iff] at isFirst isSecond
  rwa [isFirst, isSecond] at precedes

theorem apart (stand : StandInOrder placed extent lexemes place members) {value : α}
    {mark : Attribute} (listed : value ∈ members.filterMap Member.declaration?)
    (marked : mark ∈ members.filterMap Member.mark?) : (extent value).Apart mark.span := by
  have symmetric : Std.Symm fun first second : Member α =>
      (first.extent extent).Apart (second.extent extent) := ⟨fun _ _ => Or.symm⟩
  have apart := stand.ordered.imp (S := fun first second : Member α =>
      (first.extent extent).Apart (second.extent extent)) Or.inl
  exact apart.forall (mem_declarations_iff.mp listed) (mem_marks_iff.mp marked) nofun

end StandInOrder

theorem ReadsBody.placed {documentation : Option String} {name : Name} {keyword : String}
    {block : Block} (read : ReadsBody documentation name keyword tokens block rest)
    (named : name.IsWritten source) (written : AllWritten source lexemes)
    (ordered : Behind 0 lexemes) (inside : tokens <:+ lexemes) :
    block.IsPlaced source lexemes ∧ rest <:+ tokens := by
  have behind := ordered.of_suffix inside
  cases read with
  | datasource read | generator read =>
      obtain ⟨keys, suffix⟩ := read.placed written inside
      exact ⟨⟨named, keys⟩, suffix⟩
  | model read =>
      have fields : PlacesEach ReadsField (FieldDecl.IsPlaced source lexemes) (·.span) lexemes :=
        fun _ _ _ _ _ read inside behind => read.isPlaced written inside behind
      obtain ⟨stand, suffix⟩ := read.placed fields inside behind
      exact ⟨⟨named, fun _ => stand.declaration, fun _ => stand.mark, stand.declarations_increase,
        stand.marks_increase, fun _ listed _ => stand.apart listed⟩, suffix⟩
  | enumeration read =>
      have values : PlacesEach ReadsEnumValue (EnumValueDecl.IsPlaced source lexemes)
          (fun value => ⟨value.name.span.start,
            endOfAttributes value.name.span.stop value.attributes⟩) lexemes :=
        fun _ _ _ _ _ read inside behind => read.isPlaced written inside behind
      obtain ⟨stand, suffix⟩ := read.placed values inside behind
      exact ⟨⟨named, fun _ => stand.declaration, fun _ => stand.mark⟩, suffix⟩
  | other known read => exact ⟨named, read.suffix⟩

theorem ReadsBlocks.placed {blocks : List Block} (read : ReadsBlocks tokens blocks)
    (written : AllWritten source lexemes) (ordered : Behind 0 lexemes)
    (inside : tokens <:+ lexemes) : ∀ block ∈ blocks, block.IsPlaced source lexemes := by
  induction read with
  | done ends => exact List.forall_mem_nil _
  | @more tokens _ _ _ _ _ _ _ _ _ start read others ih =>
      have begins := (afterDocs_suffix tokens).trans inside
      rw [start] at begins
      have named := (List.suffix_cons _ _).trans begins
      have body := ((List.suffix_cons _ _).trans (List.suffix_cons _ _)).trans named
      obtain ⟨first, suffix⟩ := read.placed (written.first named) written ordered body
      exact List.forall_mem_cons.mpr ⟨first, ih (suffix.trans body)⟩

end Placement

/-- Names are written where their spans say, attributes and fields go from their first lexeme to
their last, and those of one model do not overlap. -/
theorem isPlaced_of_parse {source : String} {d : Document} (read : parse source = .ok d) :
    ∃ lexemes, tokenize source = .ok lexemes ∧
      ∀ block ∈ d.blocks, block.IsPlaced source.toList lexemes := by
  obtain ⟨lexemes, lexed, derived⟩ := parse_eq_ok_iff.mp read
  have accounts := accounts_of_tokenize lexed
  exact ⟨lexemes, lexed,
    derived.placed accounts.allWritten accounts.behind (List.suffix_refl _)⟩

/-- A block attribute between two fields, and behind a type all that may stand there. -/
def crowdedSource : String :=
  "enum E \x7b A @map(\"é\") \x7d\nmodel T \x7b\n  k E[]\n  @@map(to: f())\n" ++
    "  raw Unsupported(\"t\")? @db . Raw([1,]) // none\n\x7d"

def Block.fieldSpans : Block → List Span
  | .model block => block.fields.map (·.span)
  | _ => []

set_option maxRecDepth 4000 in
theorem isPlaced_of_parse_crowded :
    ∃ d, parse crowdedSource = .ok d ∧ d.blocks.flatMap (·.fieldSpans) = [⟨36, 41⟩, ⟨61, 98⟩] ∧
      ∃ lexemes, tokenize crowdedSource = .ok lexemes ∧
        ∀ block ∈ d.blocks, block.IsPlaced crowdedSource.toList lexemes := by
  have spans : (parse crowdedSource).toOption.map (·.blocks.flatMap (·.fieldSpans)) =
      some [⟨36, 41⟩, ⟨61, 98⟩] := by cbv
  cases read : parse crowdedSource with
  | error error => simp [read, Except.toOption] at spans
  | ok d =>
      have same : d.blocks.flatMap (·.fieldSpans) = [⟨36, 41⟩, ⟨61, 98⟩] := by
        simpa [read, Except.toOption] using spans
      exact ⟨d, rfl, same, isPlaced_of_parse read⟩

end Source

end Modelwright
