import Modelwright.Proofs.Source.Resolution

namespace Modelwright.Source

/-! Blocks in another order. -/

/-- Type names mean the same in both scopes. -/
def Scope.Agrees (first second : Scope) : Prop :=
  ∀ name, first.resolveName? name = second.resolveName? name

section Agreement

variable {first second : Scope} (agrees : first.Agrees second)

include agrees

theorem resolve_congr : first.resolve = second.resolve := by
  funext owner field
  simp only [Scope.resolve, agrees field.type.name.text]

theorem keyField?_congr : keyField? first = keyField? second := by
  funext model name
  simp only [keyField?, resolve_congr agrees]

theorem ownedRelation_congr : ownedRelation first = ownedRelation second := by
  funext model field target opposite mark keys
  simp only [ownedRelation, keyField?_congr agrees]

theorem relation?_congr : relation? first = relation? second := by
  funext model field target
  simp only [relation?, ownedRelation_congr agrees]

theorem fieldResult_congr : fieldResult first = fieldResult second := by
  funext model decl
  simp only [fieldResult, resolve_congr agrees, relation?_congr agrees]

theorem entity_congr : entity first = entity second := by
  funext model
  simp only [entity, fieldResult_congr agrees]

end Agreement

def Scope.entityOf (scope : Scope) (model : ModelBlock) : Entity :=
  Outcome.value (entity scope model).outcome

def enumOf (block : EnumBlock) : Enumeration :=
  Outcome.value (enumeration block).outcome

/-- The schema holds what each model and each enumeration of the document becomes, in their
order. -/
structure HoldsAll (become : ModelBlock → Entity) (becomeEnum : EnumBlock → Enumeration)
    (document : Document) (schema : Schema) : Prop where
  entities : schema.entities = document.scope.models.map become
  enums : schema.enums = document.scope.enums.map becomeEnum
  entityNames : ∀ model ∈ document.scope.models, (become model).name = model.name.text
  enumNames : ∀ block ∈ document.scope.enums, (becomeEnum block).name = block.name.text

/-- Whether a document is accepted depends on each of its blocks alone. -/
structure Lowers (document : Document) : Prop where
  generators : ∀ block ∈ document.blocks, (generator? block).outcome.isOk = true
  enums : ∀ block ∈ document.scope.enums, (enumeration block).outcome.isOk = true
  models : ∀ model ∈ document.scope.models, (entity document.scope model).outcome.isOk = true

theorem lower_eq_ok_iff {document : Document} {declared : Declarations} :
    (lower document).outcome = .ok declared ↔ Lowers document ∧
      declared =
        ⟨⟨document.scope.enums.map enumOf, document.scope.models.map document.scope.entityOf⟩,
          (document.blocks.map fun block =>
            Outcome.value (generator? block).outcome).filterMap id⟩ := by
  simp only [lower, Logged.outcome_bind, Outcome.bind_eq_ok_iff, Logged.outcome_mapM,
    Outcome.mapM_eq_ok_iff_value, Logged.outcome_pure, Except.ok.injEq]
  constructor
  · rintro ⟨generators, ⟨generatorsRun, rfl⟩, enums, ⟨enumsRun, rfl⟩, entities,
      ⟨entitiesRun, rfl⟩, rfl⟩
    exact ⟨⟨generatorsRun, enumsRun, entitiesRun⟩, rfl⟩
  · rintro ⟨⟨generatorsRun, enumsRun, entitiesRun⟩, rfl⟩
    exact ⟨_, ⟨generatorsRun, rfl⟩, _, ⟨enumsRun, rfl⟩, _, ⟨entitiesRun, rfl⟩, rfl⟩

theorem exists_lower_iff {document : Document} :
    (∃ declared, (lower document).outcome = .ok declared) ↔ Lowers document := by
  simp only [lower_eq_ok_iff, exists_and_left, exists_eq, and_true]

theorem name_entityOf {scope : Scope} {model : ModelBlock}
    (lowers : (entity scope model).outcome.isOk = true) :
    (scope.entityOf model).name = model.name.text := by
  obtain ⟨results, lowersTo⟩ := lowersTo_of_entity (Outcome.eq_ok_iff_value.mpr ⟨lowers, rfl⟩)
  exact lowersTo.name

theorem holdsAll_of_lower {document : Document} {declared : Declarations}
    (lowered : (lower document).outcome = .ok declared) :
    HoldsAll document.scope.entityOf enumOf document declared.schema := by
  obtain ⟨lowers, rfl⟩ := lower_eq_ok_iff.mp lowered
  refine ⟨rfl, rfl, fun model member => name_entityOf (lowers.models model member), ?_⟩
  intro block member
  exact name_of_enumeration (Outcome.eq_ok_iff_value.mpr ⟨lowers.enums block member, rfl⟩)

section Reordered

variable {first second : Document} (reordered : first.blocks.Perm second.blocks)

include reordered

theorem models_perm : first.scope.models.Perm second.scope.models :=
  reordered.filterMap Block.model?

theorem enums_perm : first.scope.enums.Perm second.scope.enums :=
  reordered.filterMap Block.enum?

theorem agrees_of_perm (models : (first.scope.models.map (·.name.text)).Nodup)
    (enums : (first.scope.enums.map (·.name.text)).Nodup) : first.scope.Agrees second.scope := by
  intro name
  have enumFound := Arrangement.find?_key_of_perm (enums_perm reordered) enums name
  have modelFound := Arrangement.find?_key_of_perm (models_perm reordered) models name
  simp only [Scope.resolveName?, Scope.model?, enumFound, modelFound]

theorem lowers_of_perm (agrees : first.scope.Agrees second.scope) (lowers : Lowers first) :
    Lowers second where
  generators block member := lowers.generators block (reordered.mem_iff.mpr member)
  enums block member := lowers.enums block ((enums_perm reordered).mem_iff.mpr member)
  models model member := by
    rw [← entity_congr agrees]
    exact lowers.models model ((models_perm reordered).mem_iff.mpr member)

end Reordered

/-- The order of its blocks does not decide whether a document is accepted, nor what a model or an
enumeration of it becomes.  The two schemas hold the same in two orders. -/
theorem lower_of_reordered {first second : Document} (reordered : first.blocks.Perm second.blocks)
    (models : (first.scope.models.map (·.name.text)).Nodup)
    (enums : (first.scope.enums.map (·.name.text)).Nodup) :
    ((∃ declared, (lower first).outcome = .ok declared) ↔
      ∃ declared, (lower second).outcome = .ok declared) ∧
    ∀ declared other, (lower first).outcome = .ok declared →
      (lower second).outcome = .ok other →
        (∃ become becomeEnum, HoldsAll become becomeEnum first declared.schema ∧
          HoldsAll become becomeEnum second other.schema) ∧
        declared.schema.entities.Perm other.schema.entities ∧
        declared.schema.enums.Perm other.schema.enums := by
  have agrees : first.scope.Agrees second.scope := agrees_of_perm reordered models enums
  have agreesBack : second.scope.Agrees first.scope := fun name => (agrees name).symm
  constructor
  · rw [exists_lower_iff, exists_lower_iff]
    exact ⟨lowers_of_perm reordered agrees, lowers_of_perm reordered.symm agreesBack⟩
  · intro declared other lowered loweredOther
    have here := holdsAll_of_lower lowered
    have there := holdsAll_of_lower loweredOther
    have same : second.scope.entityOf = first.scope.entityOf := by
      funext model
      rw [Scope.entityOf, Scope.entityOf, entity_congr agrees]
    rw [same] at there
    refine ⟨⟨_, _, here, there⟩, ?_, ?_⟩
    · rw [here.entities, there.entities]
      exact (models_perm reordered).map _
    · rw [here.enums, there.enums]
      exact (enums_perm reordered).map _

def genreBlock : EnumBlock :=
  ⟨⟨"Genre", ⟨5, 10⟩⟩, none, [⟨⟨"PROSE", ⟨13, 18⟩⟩, none, []⟩, ⟨⟨"VERSE", ⟨19, 24⟩⟩, none, []⟩], []⟩

def authorBlock : ModelBlock where
  name := ⟨"Author", ⟨33, 39⟩⟩
  documentation := none
  fields := [
    ⟨⟨"id", ⟨42, 44⟩⟩, ⟨⟨"Int", ⟨45, 48⟩⟩, .required, none⟩,
      [⟨⟨"id", ⟨50, 52⟩⟩, [], ⟨49, 52⟩⟩], none, ⟨42, 52⟩⟩,
    ⟨⟨"books", ⟨53, 58⟩⟩, ⟨⟨"Book", ⟨59, 63⟩⟩, .list, none⟩, [], none, ⟨53, 65⟩⟩]
  attributes := []

def bookBlock : ModelBlock where
  name := ⟨"Book", ⟨74, 78⟩⟩
  documentation := some "What is on the shelf."
  fields := [
    ⟨⟨"id", ⟨81, 83⟩⟩, ⟨⟨"Int", ⟨84, 87⟩⟩, .required, none⟩,
      [⟨⟨"id", ⟨89, 91⟩⟩, [], ⟨88, 91⟩⟩], none, ⟨81, 91⟩⟩,
    ⟨⟨"genre", ⟨92, 97⟩⟩, ⟨⟨"Genre", ⟨98, 103⟩⟩, .optional, none⟩, [], none, ⟨92, 104⟩⟩,
    ⟨⟨"by", ⟨105, 107⟩⟩, ⟨⟨"Int", ⟨108, 111⟩⟩, .required, none⟩, [], none, ⟨105, 111⟩⟩,
    ⟨⟨"author", ⟨112, 118⟩⟩, ⟨⟨"Author", ⟨119, 125⟩⟩, .required, none⟩,
      [⟨⟨"relation", ⟨127, 135⟩⟩,
        [⟨some "fields", .array [.constant "by"]⟩, ⟨some "references", .array [.constant "id"]⟩],
        ⟨126, 167⟩⟩],
      none, ⟨112, 167⟩⟩]
  attributes := []

def shelf : Document := ⟨[.enumeration genreBlock, .model authorBlock, .model bookBlock]⟩

def shelfBackwards : Document := ⟨[.model bookBlock, .model authorBlock, .enumeration genreBlock]⟩

theorem lower_of_reordered_shelf :
    shelf.blocks.Perm shelfBackwards.blocks ∧
    (shelf.scope.models.map (·.name.text)).Nodup ∧ (shelf.scope.enums.map (·.name.text)).Nodup ∧
    ∃ declared other, (lower shelf).outcome = .ok declared ∧
      (lower shelfBackwards).outcome = .ok other ∧
      (∃ become becomeEnum, HoldsAll become becomeEnum shelf declared.schema ∧
        HoldsAll become becomeEnum shelfBackwards other.schema) ∧
      declared.schema.entities.Perm other.schema.entities ∧
      declared.schema.enums.Perm other.schema.enums := by
  have reordered : shelf.blocks.Perm shelfBackwards.blocks :=
    (List.reverse_perm shelf.blocks).symm
  have models : (shelf.scope.models.map (·.name.text)).Nodup := by decide
  have enums : (shelf.scope.enums.map (·.name.text)).Nodup := by decide
  obtain ⟨accepted, alike⟩ := lower_of_reordered reordered models enums
  have succeeds : (lower shelf).outcome.isOk = true := by rfl
  obtain ⟨declared, lowered⟩ := Outcome.exists_of_isOk succeeds
  obtain ⟨other, loweredOther⟩ := accepted.mp ⟨declared, lowered⟩
  exact ⟨reordered, models, enums, declared, other, lowered, loweredOther,
    alike declared other lowered loweredOther⟩

end Modelwright.Source
