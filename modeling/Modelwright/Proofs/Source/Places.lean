import Modelwright.Proofs.Source.Blocks

namespace Modelwright.Source

/-! What is read depends on the tokens only: where they stand changes nothing but the spans of the
document. -/

def origin : Span := ⟨0, 0⟩

def atOrigin (name : Name) : Name := ⟨name.text, origin⟩

namespace Attribute

def withoutSpans (mark : Attribute) : Attribute :=
  ⟨atOrigin mark.name, mark.arguments, origin⟩

end Attribute

namespace TypeRef

def withoutSpans (type : TypeRef) : TypeRef :=
  { type with name := atOrigin type.name }

end TypeRef

namespace FieldDecl

def withoutSpans (field : FieldDecl) : FieldDecl where
  name := atOrigin field.name
  type := field.type.withoutSpans
  attributes := field.attributes.map (·.withoutSpans)
  documentation := field.documentation
  span := origin

end FieldDecl

namespace Property

def withoutSpans (property : Property) : Property :=
  { property with key := atOrigin property.key }

end Property

namespace PropertyBlock

def withoutSpans (block : PropertyBlock) : PropertyBlock :=
  ⟨atOrigin block.name, block.properties.map (·.withoutSpans)⟩

end PropertyBlock

namespace ModelBlock

def withoutSpans (block : ModelBlock) : ModelBlock where
  name := atOrigin block.name
  documentation := block.documentation
  fields := block.fields.map (·.withoutSpans)
  attributes := block.attributes.map (·.withoutSpans)

end ModelBlock

namespace EnumValueDecl

def withoutSpans (value : EnumValueDecl) : EnumValueDecl where
  name := atOrigin value.name
  documentation := value.documentation
  attributes := value.attributes.map (·.withoutSpans)

end EnumValueDecl

namespace EnumBlock

def withoutSpans (block : EnumBlock) : EnumBlock where
  name := atOrigin block.name
  documentation := block.documentation
  values := block.values.map (·.withoutSpans)
  attributes := block.attributes.map (·.withoutSpans)

end EnumBlock

namespace Block

def withoutSpans : Block → Block
  | datasource block => datasource block.withoutSpans
  | generator block => generator block.withoutSpans
  | model block => model block.withoutSpans
  | enumeration block => enumeration block.withoutSpans
  | other keyword name => other keyword (atOrigin name)

end Block

namespace Document

def withoutSpans (d : Document) : Document :=
  ⟨d.blocks.map (·.withoutSpans)⟩

end Document

@[simp] theorem FieldDecl.withoutSpans_withoutSpans (field : FieldDecl) :
    field.withoutSpans.withoutSpans = field.withoutSpans := by
  simp [FieldDecl.withoutSpans, Attribute.withoutSpans, TypeRef.withoutSpans, atOrigin]

@[simp] theorem EnumValueDecl.withoutSpans_withoutSpans (value : EnumValueDecl) :
    value.withoutSpans.withoutSpans = value.withoutSpans := by
  simp [EnumValueDecl.withoutSpans, Attribute.withoutSpans, atOrigin]

@[simp] theorem Block.withoutSpans_withoutSpans (block : Block) :
    block.withoutSpans.withoutSpans = block.withoutSpans := by
  cases block with
  | datasource block =>
      simp [withoutSpans, PropertyBlock.withoutSpans, Property.withoutSpans, atOrigin]
  | generator block =>
      simp [withoutSpans, PropertyBlock.withoutSpans, Property.withoutSpans, atOrigin]
  | model block => simp [withoutSpans, ModelBlock.withoutSpans, Attribute.withoutSpans, atOrigin]
  | enumeration block =>
      simp [withoutSpans, EnumBlock.withoutSpans, Attribute.withoutSpans, atOrigin]
  | other keyword name => rfl

def Alike (first second : List Lexeme) : Prop :=
  first.map (·.token) = second.map (·.token)

namespace Alike

variable {first second : List Lexeme}

theorem cons_left {token : Token} {span : Span} {inside : List Lexeme}
    (alike : Alike (⟨token, span⟩ :: inside) second) :
    ∃ other rest, second = ⟨token, other⟩ :: rest ∧ Alike inside rest := by
  cases second with
  | nil => cases alike
  | cons lexeme rest =>
      obtain ⟨found, other⟩ := lexeme
      obtain ⟨same, others⟩ := List.cons.inj alike
      dsimp only at same
      subst same
      exact ⟨other, rest, rfl, others⟩

theorem nextToken_eq (alike : Alike first second) : nextToken first = nextToken second := by
  simpa [nextToken, ← List.head?_map] using congrArg List.head? alike

theorem tail (alike : Alike first second) : Alike first.tail second.tail := by
  simpa [Alike] using congrArg List.tail alike

theorem startsNamed_iff (alike : Alike first second) : StartsNamed first ↔ StartsNamed second := by
  rw [StartsNamed, StartsNamed, alike.nextToken_eq, alike.tail.nextToken_eq]

theorem isDoc_eq {lexeme other : Lexeme} (same : lexeme.token = other.token) :
    isDoc lexeme = isDoc other ∧ docText? lexeme = docText? other := by
  rw [isDoc, isDoc, docText?, docText?, same]
  exact ⟨rfl, rfl⟩

theorem docs (alike : Alike first second) :
    (first.takeWhile isDoc).filterMap docText? = (second.takeWhile isDoc).filterMap docText? ∧
      Alike (afterDocs first) (afterDocs second) := by
  induction first generalizing second with
  | nil =>
      obtain rfl : second = [] := List.map_eq_nil_iff.mp alike.symm
      exact ⟨rfl, rfl⟩
  | cons lexeme rest ih =>
      obtain ⟨token, span⟩ := lexeme
      obtain ⟨other, more, rfl, others⟩ := alike.cons_left
      have same := @isDoc_eq ⟨token, span⟩ ⟨token, other⟩ rfl
      cases doc : isDoc ⟨token, span⟩ with
      | false =>
          rw [doc] at same
          refine ⟨?_, ?_⟩
          · simp [doc, ← same.1]
          · rw [afterDocs, afterDocs, List.dropWhile_cons_of_neg (by simp [doc]),
              List.dropWhile_cons_of_neg (by simp [← same.1])]
            exact congrArg (token :: ·) others
      | true =>
          rw [doc] at same
          obtain ⟨texts, behind⟩ := ih others
          refine ⟨?_, ?_⟩
          · rw [List.takeWhile_cons_of_pos doc, List.takeWhile_cons_of_pos same.1.symm,
              List.filterMap_cons, List.filterMap_cons, texts, same.2]
          · rw [afterDocs, afterDocs, List.dropWhile_cons_of_pos doc,
              List.dropWhile_cons_of_pos same.1.symm]
            exact behind

theorem documentation_eq (alike : Alike first second) :
    documentation first = documentation second := by
  rw [documentation, documentation, alike.docs.1]

theorem afterDocs (alike : Alike first second) : Alike (afterDocs first) (afterDocs second) :=
  alike.docs.2

end Alike

mutual

theorem ReadsExpr.moved {tokens rest other : List Lexeme} {value : Expr}
    (read : ReadsExpr tokens value rest) (alike : Alike tokens other) :
    ∃ left, ReadsExpr other value left ∧ Alike rest left := by
  cases read with
  | text =>
      obtain ⟨_, left, rfl, behind⟩ := alike.cons_left
      exact ⟨left, .text, behind⟩
  | number =>
      obtain ⟨_, left, rfl, behind⟩ := alike.cons_left
      exact ⟨left, .number, behind⟩
  | yes =>
      obtain ⟨_, left, rfl, behind⟩ := alike.cons_left
      exact ⟨left, .yes, behind⟩
  | no =>
      obtain ⟨_, left, rfl, behind⟩ := alike.cons_left
      exact ⟨left, .no, behind⟩
  | constant plain ends =>
      obtain ⟨_, left, rfl, behind⟩ := alike.cons_left
      exact ⟨left, .constant plain (behind.nextToken_eq ▸ ends), behind⟩
  | call plain read =>
      obtain ⟨_, _, rfl, behind⟩ := alike.cons_left
      obtain ⟨_, _, rfl, inside⟩ := behind.cons_left
      obtain ⟨_, left, read, behind⟩ := read.moved inside
      exact ⟨left, .call plain read, behind⟩
  | array read =>
      obtain ⟨_, _, rfl, inside⟩ := alike.cons_left
      obtain ⟨left, read, behind⟩ := read.moved inside
      exact ⟨left, .array read, behind⟩

theorem ReadsItems.moved {tokens rest other : List Lexeme} {values : List Expr}
    (read : ReadsItems tokens values rest) (alike : Alike tokens other) :
    ∃ left, ReadsItems other values left ∧ Alike rest left := by
  cases read with
  | close =>
      obtain ⟨_, left, rfl, behind⟩ := alike.cons_left
      exact ⟨left, .close, behind⟩
  | last read =>
      obtain ⟨_, read, closed⟩ := read.moved alike
      obtain ⟨_, left, rfl, behind⟩ := closed.cons_left
      exact ⟨left, .last read, behind⟩
  | more read others =>
      obtain ⟨_, read, parted⟩ := read.moved alike
      obtain ⟨_, _, rfl, between⟩ := parted.cons_left
      obtain ⟨left, others, behind⟩ := others.moved between
      exact ⟨left, .more read others, behind⟩

theorem ReadsArgument.moved {tokens rest other : List Lexeme} {value : Argument}
    (read : ReadsArgument tokens value rest) (alike : Alike tokens other) :
    ∃ left, ReadsArgument other value left ∧ Alike rest left := by
  cases read with
  | named read =>
      obtain ⟨_, _, rfl, behind⟩ := alike.cons_left
      obtain ⟨_, _, rfl, inside⟩ := behind.cons_left
      obtain ⟨left, read, behind⟩ := read.moved inside
      exact ⟨left, .named read, behind⟩
  | positional unnamed read =>
      obtain ⟨left, read, behind⟩ := read.moved alike
      exact ⟨left, .positional (mt alike.startsNamed_iff.mpr unnamed) read, behind⟩

theorem ReadsArguments.moved {tokens rest other : List Lexeme} {values : List Argument}
    {stop : Nat} (read : ReadsArguments tokens values stop rest) (alike : Alike tokens other) :
    ∃ last left, ReadsArguments other values last left ∧ Alike rest left := by
  cases read with
  | close =>
      obtain ⟨span, left, rfl, behind⟩ := alike.cons_left
      exact ⟨span.stop, left, .close, behind⟩
  | last read =>
      obtain ⟨_, read, closed⟩ := read.moved alike
      obtain ⟨span, left, rfl, behind⟩ := closed.cons_left
      exact ⟨span.stop, left, .last read, behind⟩
  | more read others =>
      obtain ⟨_, read, parted⟩ := read.moved alike
      obtain ⟨_, _, rfl, between⟩ := parted.cons_left
      obtain ⟨last, left, others, behind⟩ := others.moved between
      exact ⟨last, left, .more read others, behind⟩

end

section Moved

variable {tokens rest other : List Lexeme}

theorem ReadsDotted.moved {name whole start : Name} (read : ReadsDotted name tokens whole rest)
    (same : name.text = start.text) (alike : Alike tokens other) :
    ∃ found left, ReadsDotted start other found left ∧ found.text = whole.text ∧
      Alike rest left := by
  induction read generalizing start other with
  | stop ends =>
      exact ⟨start, other, .stop (alike.nextToken_eq ▸ ends), same.symm, alike⟩
  | part read ih =>
      obtain ⟨_, _, rfl, behind⟩ := alike.cons_left
      obtain ⟨span, _, rfl, inside⟩ := behind.cons_left
      obtain ⟨found, left, read, text, behind⟩ :=
        @ih _ ⟨start.text ++ "." ++ _, start.span.merge span⟩ (by rw [same]) inside
      exact ⟨found, left, .part read, text, behind⟩

theorem ReadsOptionalArguments.moved {stop last start : Nat} {values : List Argument}
    (read : ReadsOptionalArguments stop tokens values last rest) (alike : Alike tokens other) :
    ∃ found left, ReadsOptionalArguments start other values found left ∧ Alike rest left := by
  cases read with
  | absent ends => exact ⟨start, other, .absent (alike.nextToken_eq ▸ ends), alike⟩
  | present read =>
      obtain ⟨_, _, rfl, inside⟩ := alike.cons_left
      obtain ⟨found, left, read, behind⟩ := read.moved inside
      exact ⟨found, left, .present read, behind⟩

theorem ReadsMark.moved {sign place : Span} {mark : Attribute}
    (read : ReadsMark sign tokens mark rest) (alike : Alike tokens other) :
    ∃ found left, ReadsMark place other found left ∧ found.withoutSpans = mark.withoutSpans ∧
      Alike rest left := by
  cases read with
  | @mk first span _ _ _ _ _ _ named read =>
      obtain ⟨there, _, rfl, inside⟩ := alike.cons_left
      obtain ⟨name, _, named, text, between⟩ := @ReadsDotted.moved _ _ _ _ _ ⟨first, there⟩ named
        rfl inside
      obtain ⟨stop, left, read, behind⟩ := read.moved between
      exact ⟨_, left, .mk named read, by simp [Attribute.withoutSpans, atOrigin, text], behind⟩

theorem ReadsMarks.moved {marks : List Attribute} (read : ReadsMarks tokens marks rest)
    (alike : Alike tokens other) :
    ∃ found left, ReadsMarks other found left ∧
      found.map (·.withoutSpans) = marks.map (·.withoutSpans) ∧ Alike rest left := by
  induction read generalizing other with
  | none ends => exact ⟨[], other, .none (alike.nextToken_eq ▸ ends), rfl, alike⟩
  | more read others ih =>
      obtain ⟨place, _, rfl, inside⟩ := alike.cons_left
      obtain ⟨mark, _, read, same, between⟩ := read.moved inside
      obtain ⟨marks, left, others, sames, behind⟩ := ih between
      exact ⟨mark :: marks, left, .more read others, by simp [same, sames], behind⟩

theorem ReadsUnsupported.moved {name start : Name} {unsupported : Option String} {stop : Nat}
    (read : ReadsUnsupported name tokens unsupported stop rest) (same : name.text = start.text)
    (alike : Alike tokens other) :
    ∃ last left, ReadsUnsupported start other unsupported last left ∧ Alike rest left := by
  cases read with
  | absent ends =>
      exact ⟨_, other, .absent (by rwa [← same, ← alike.nextToken_eq]), alike⟩
  | present announced =>
      obtain ⟨_, _, rfl, opened⟩ := alike.cons_left
      obtain ⟨_, _, rfl, typed⟩ := opened.cons_left
      obtain ⟨closing, left, rfl, behind⟩ := typed.cons_left
      exact ⟨closing.stop, left, .present (same ▸ announced), behind⟩

theorem ReadsArity.moved {stop last start : Nat} {arity : Arity}
    (read : ReadsArity stop tokens arity last rest) (alike : Alike tokens other) :
    ∃ found left, ReadsArity start other arity found left ∧ Alike rest left := by
  cases read with
  | required single certain =>
      exact ⟨start, other,
        .required (alike.nextToken_eq ▸ single) (alike.nextToken_eq ▸ certain), alike⟩
  | optional =>
      obtain ⟨span, left, rfl, behind⟩ := alike.cons_left
      exact ⟨span.stop, left, .optional, behind⟩
  | list =>
      obtain ⟨_, _, rfl, opened⟩ := alike.cons_left
      obtain ⟨closing, left, rfl, behind⟩ := opened.cons_left
      exact ⟨closing.stop, left, .list, behind⟩

theorem ReadsTypeRef.moved {type : TypeRef} {stop : Nat}
    (read : ReadsTypeRef tokens type stop rest) (alike : Alike tokens other) :
    ∃ found last left, ReadsTypeRef other found last left ∧
      found.withoutSpans = type.withoutSpans ∧ Alike rest left := by
  cases read with
  | @mk name span _ _ _ _ _ _ _ typed read =>
      obtain ⟨there, _, rfl, inside⟩ := alike.cons_left
      obtain ⟨behind, _, typed, between⟩ := @ReadsUnsupported.moved _ _ _ _ ⟨name, there⟩ _ _ typed
        rfl inside
      obtain ⟨last, left, read, behind⟩ := read.moved between
      exact ⟨_, last, left, .mk typed read, rfl, behind⟩

def Moves {α : Type} (declares : Option String → List Lexeme → α → List Lexeme → Prop)
    (erase : α → α) : Prop :=
  ∀ documentation tokens value rest other, declares documentation tokens value rest →
    Alike tokens other →
      ∃ found left, declares documentation other found left ∧ erase found = erase value ∧
        Alike rest left

theorem readsField_moves : Moves ReadsField FieldDecl.withoutSpans := by
  intro documentation tokens value rest other read alike
  cases read with
  | mk typed marked =>
      obtain ⟨there, _, rfl, inside⟩ := alike.cons_left
      obtain ⟨type, stop, _, typed, sameType, between⟩ := typed.moved inside
      obtain ⟨marks, left, marked, sameMarks, behind⟩ := marked.moved between
      exact ⟨_, left, .mk typed marked,
        by simp [FieldDecl.withoutSpans, atOrigin, sameType, sameMarks], behind⟩

theorem readsEnumValue_moves : Moves ReadsEnumValue EnumValueDecl.withoutSpans := by
  intro documentation tokens value rest other read alike
  cases read with
  | mk marked =>
      obtain ⟨there, _, rfl, inside⟩ := alike.cons_left
      obtain ⟨marks, left, marked, sameMarks, behind⟩ := marked.moved inside
      exact ⟨_, left, .mk marked, by simp [EnumValueDecl.withoutSpans, atOrigin, sameMarks], behind⟩

def Member.erase {α : Type} (erase : α → α) : Member α → Member α
  | declaration value => declaration (erase value)
  | mark found => mark found.withoutSpans

theorem declarations_erase {α : Type} (erase : α → α) (members : List (Member α)) :
    (members.map (Member.erase erase)).filterMap Member.declaration? =
      (members.filterMap Member.declaration?).map erase := by
  induction members with
  | nil => rfl
  | cons member others ih =>
      cases member with
      | declaration value => simpa [Member.erase, Member.declaration?] using ih
      | mark mark =>
          rw [List.map_cons, List.filterMap_cons_none rfl, List.filterMap_cons_none rfl, ih]

theorem marks_erase {α : Type} (erase : α → α) (members : List (Member α)) :
    (members.map (Member.erase erase)).filterMap Member.mark? =
      (members.filterMap Member.mark?).map (·.withoutSpans) := by
  induction members with
  | nil => rfl
  | cons member others ih =>
      cases member with
      | declaration value =>
          rw [List.map_cons, List.filterMap_cons_none rfl, List.filterMap_cons_none rfl, ih]
      | mark mark => simpa [Member.erase, Member.mark?] using ih

theorem ReadsMembers.moved {α : Type}
    {declares : Option String → List Lexeme → α → List Lexeme → Prop} {erase : α → α}
    (moves : Moves declares erase) {members : List (Member α)}
    (read : ReadsMembers declares tokens members rest) (alike : Alike tokens other) :
    ∃ found left, ReadsMembers declares other found left ∧
      found.map (Member.erase erase) = members.map (Member.erase erase) ∧ Alike rest left := by
  induction read generalizing other with
  | close start =>
      obtain ⟨_, left, start, behind⟩ := (start ▸ alike.afterDocs).cons_left
      exact ⟨[], left, .close start, rfl, behind⟩
  | mark start read others ih =>
      obtain ⟨place, _, start, inside⟩ := (start ▸ alike.afterDocs).cons_left
      obtain ⟨mark, _, read, same, between⟩ := read.moved inside
      obtain ⟨members, left, others, sames, behind⟩ := ih between
      exact ⟨.mark mark :: members, left, .mark start read others,
        by simp [Member.erase, same, sames], behind⟩
  | declaration start read others ih =>
      obtain ⟨value, _, read, same, between⟩ := moves _ _ _ _ _ read alike.afterDocs
      obtain ⟨members, left, others, sames, behind⟩ := ih between
      rw [alike.documentation_eq] at read
      exact ⟨.declaration value :: members, left,
        .declaration (alike.afterDocs.nextToken_eq ▸ start) read others,
        by simp [Member.erase, same, sames], behind⟩

theorem ReadsProperties.moved {properties : List Property}
    (read : ReadsProperties tokens properties rest) (alike : Alike tokens other) :
    ∃ found left, ReadsProperties other found left ∧
      found.map (·.withoutSpans) = properties.map (·.withoutSpans) ∧ Alike rest left := by
  induction read generalizing other with
  | close start =>
      obtain ⟨_, left, start, behind⟩ := (start ▸ alike.afterDocs).cons_left
      exact ⟨[], left, .close start, rfl, behind⟩
  | more start read others ih =>
      obtain ⟨place, _, start, keyed⟩ := (start ▸ alike.afterDocs).cons_left
      obtain ⟨_, _, rfl, inside⟩ := keyed.cons_left
      obtain ⟨_, read, between⟩ := read.moved inside
      obtain ⟨properties, left, others, sames, behind⟩ := ih between
      refine ⟨_ :: properties, left, .more start read others, ?_, behind⟩
      rw [List.map_cons, List.map_cons, sames]
      rfl

theorem ReadsBraces.moved {depth : Nat} (read : ReadsBraces depth tokens rest)
    (alike : Alike tokens other) : ∃ left, ReadsBraces depth other left ∧ Alike rest left := by
  induction read generalizing other with
  | done =>
      obtain ⟨_, left, rfl, behind⟩ := alike.cons_left
      exact ⟨left, .done, behind⟩
  | closed read ih =>
      obtain ⟨_, _, rfl, inside⟩ := alike.cons_left
      obtain ⟨left, read, behind⟩ := ih inside
      exact ⟨left, .closed read, behind⟩
  | opened read ih =>
      obtain ⟨_, _, rfl, inside⟩ := alike.cons_left
      obtain ⟨left, read, behind⟩ := ih inside
      exact ⟨left, .opened read, behind⟩
  | @passed depth lexeme inside rest unlike read ih =>
      obtain ⟨_, _, rfl, inside⟩ := alike.cons_left
      obtain ⟨left, read, behind⟩ := ih inside
      exact ⟨left, .passed unlike read, behind⟩

theorem ReadsBody.moved {documentation : Option String} {name start : Name} {keyword : String}
    {block : Block} (read : ReadsBody documentation name keyword tokens block rest)
    (same : name.text = start.text) (alike : Alike tokens other) :
    ∃ found left, ReadsBody documentation start keyword other found left ∧
      found.withoutSpans = block.withoutSpans ∧ Alike rest left := by
  have place : atOrigin start = atOrigin name := by rw [atOrigin, atOrigin, same]
  cases read with
  | datasource read =>
      obtain ⟨properties, left, read, sames, behind⟩ := read.moved alike
      exact ⟨_, left, .datasource read,
        by simp [Block.withoutSpans, PropertyBlock.withoutSpans, place, sames], behind⟩
  | generator read =>
      obtain ⟨properties, left, read, sames, behind⟩ := read.moved alike
      exact ⟨_, left, .generator read,
        by simp [Block.withoutSpans, PropertyBlock.withoutSpans, place, sames], behind⟩
  | model read =>
      obtain ⟨members, left, read, sames, behind⟩ := read.moved readsField_moves alike
      refine ⟨_, left, .model read, ?_, behind⟩
      simp only [Block.withoutSpans, ModelBlock.withoutSpans, place, ← declarations_erase,
        ← @marks_erase _ FieldDecl.withoutSpans, sames]
  | enumeration read =>
      obtain ⟨members, left, read, sames, behind⟩ := read.moved readsEnumValue_moves alike
      refine ⟨_, left, .enumeration read, ?_, behind⟩
      simp only [Block.withoutSpans, EnumBlock.withoutSpans, place, ← declarations_erase,
        ← @marks_erase _ EnumValueDecl.withoutSpans, sames]
  | other known read =>
      obtain ⟨left, read, behind⟩ := read.moved alike
      exact ⟨_, left, .other known read, by simp [Block.withoutSpans, place], behind⟩

theorem ReadsBlocks.moved {blocks : List Block} (read : ReadsBlocks tokens blocks)
    (alike : Alike tokens other) :
    ∃ found, ReadsBlocks other found ∧
      found.map (·.withoutSpans) = blocks.map (·.withoutSpans) := by
  induction read generalizing other with
  | done ends =>
      have behind := alike.afterDocs
      rw [ends] at behind
      exact ⟨[], .done (List.map_eq_nil_iff.mp behind.symm), rfl⟩
  | @more tokens inside between keyword name keywordSpan nameSpan opening block blocks start read
      others ih =>
      obtain ⟨_, _, start, named⟩ := (start ▸ alike.afterDocs).cons_left
      obtain ⟨there, _, rfl, opened⟩ := named.cons_left
      obtain ⟨_, _, rfl, inside⟩ := opened.cons_left
      obtain ⟨found, _, read, same, between⟩ := @ReadsBody.moved _ _ _ _ _ ⟨name, there⟩ _ _ read
        rfl inside
      obtain ⟨blocks, others, sames⟩ := ih between
      rw [alike.documentation_eq] at read
      exact ⟨found :: blocks, .more start read others, by simp [same, sames]⟩

end Moved

end Modelwright.Source
