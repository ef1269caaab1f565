import Modelwright.Proofs.Source.Folding
import Modelwright.Proofs.Source.Resolution

namespace Modelwright.Source

/-! The two sides of a relation: the field that holds the key, and the field that it shows on the
other model. -/

/-- The candidate could be the other side of the same relations as the field: it holds no key, and
its type and its relation's name are the same. -/
def sharesAccess (field candidate : FieldDecl) : Bool :=
  candidate.type.name.text = field.type.name.text &&
    relationName? candidate = relationName? field && (keyFields? candidate).isNone

/-- A field of the same name and arity is the first that shares its relations, and the name of the
model is none of a scalar type. -/
def Leading (model : ModelBlock) (field : FieldDecl) : Prop :=
  ScalarType.ofSourceName? model.name.text = none ∧
    ∃ first, first.name.text = field.name.text ∧
      first.type.name.text = field.type.name.text ∧
      (first.type.arity = .list ↔ field.type.arity = .list) ∧
      model.fields.find? (sharesAccess first) = some first

/-- The relations from one entity to another that show the name there. -/
def shownAs (schema : Schema) (owner target name : String) : List ReverseRelation :=
  (schema.reverseRelations target).filter fun reverse =>
    reverse.owner.name = owner && reverse.relation.relatedName = some name

structure PairsUp (scope : Scope) (schema : Schema) (model : ModelBlock) (entity : Entity) :
    Prop where
  declared : ∀ {field target}, field ∈ model.fields →
    scope.resolve model field = .ok (.model target) → (keyFields? field).isSome = true →
      ∃ relation, entity.relations.filter (·.name = field.name.text) = [relation]
  shown : ∀ {field target}, field ∈ model.fields →
    scope.resolve model field = .ok (.model target) → keyFields? field = none →
      ((∃ reverse, shownAs schema target.name.text entity.name field.name.text = [reverse] ∧
          (reverse.relation.kind = .foreignKey ↔ field.type.arity = .list)) ↔
        Leading model field)
  related : ∀ relation ∈ entity.relations,
    (∃ target ∈ scope.models, target.name.text = relation.target ∧ ∃ field ∈ target.fields,
        relation.relatedName = some field.name.text ∧
          scope.resolve target field = .ok (.model model) ∧ keyFields? field = none) ↔
      ScalarType.ofSourceName? model.name.text = none

theorem isOpposite_iff {model target : ModelBlock} {field candidate : FieldDecl} :
    isOpposite model field target candidate = true ↔
      candidate.type.name.text = model.name.text ∧
        ¬(model.name.text = target.name.text ∧ candidate.name.text = field.name.text) ∧
          relationName? candidate = relationName? field := by
  simp only [isOpposite, Bool.and_eq_true, Bool.not_eq_true', Bool.and_eq_false_iff,
    decide_eq_true_eq, decide_eq_false_iff_not, not_and_or, and_assoc]

theorem sharesAccess_iff {field candidate : FieldDecl} :
    sharesAccess field candidate = true ↔
      candidate.type.name.text = field.type.name.text ∧
        relationName? candidate = relationName? field ∧ keyFields? candidate = none := by
  simp [sharesAccess, and_assoc]

theorem relation?_of_keyless {scope : Scope} {model target : ModelBlock} {decls : List FieldDecl}
    {results : List FieldResult} (become : List.Forall₂ (Becomes scope model) decls results)
    {field : FieldDecl} (member : field ∈ decls)
    (resolved : scope.resolve model field = .ok (.model target))
    (keyless : keyFields? field = none) : relation? scope model field target = .ok none := by
  obtain ⟨lowering, lowered⟩ := relation?_of_mem become member resolved
  cases lowering with
  | none => exact lowered
  | some relation =>
      obtain ⟨opposite, keyField, -, declares⟩ := declares_of_relation? lowered
      have key := keyFields?_isSome_of_declares declares
      simp [keyless] at key

namespace Accepted

variable {scope : Scope} {schema : Schema} {model owner : ModelBlock} {entity : Entity}
  {results : List FieldResult}

theorem relation_of_key (accepted : Accepted scope schema) (known : entity ∈ schema.entities)
    (lowersTo : LowersTo scope model entity results) {field : FieldDecl} {target : ModelBlock}
    (member : field ∈ model.fields) (resolved : scope.resolve model field = .ok (.model target))
    (key : (keyFields? field).isSome = true) :
    ∃ relation, relation? scope model field target = .ok (some relation) ∧
      entity.relations.filter (·.name = field.name.text) = [relation] := by
  obtain ⟨lowering, lowered⟩ := relation?_of_mem lowersTo.become member resolved
  cases lowering with
  | none =>
      obtain ⟨keyless, -⟩ := opposite?_of_relation?_none lowered
      simp [keyless] at key
  | some relation =>
      obtain ⟨opposite, keyField, -, declares⟩ := declares_of_relation? lowered
      have declared : relation ∈ entity.relations := by
        rw [lowersTo.relations]
        exact (mem_relations_iff lowersTo.become).mpr ⟨field, member, target, resolved, lowered⟩
      refine ⟨relation, lowered, ?_⟩
      apply Arrangement.filter_eq_singleton (accepted.valid.entities entity known).relations_nodup
        declared
      · simp [declares.name]
      · intro other same
        rw [of_decide_eq_true same, declares.name]

theorem mem_relations_iff (lowersTo : LowersTo scope model entity results) {relation : Relation} :
    relation ∈ entity.relations ↔
      ∃ field ∈ model.fields, ∃ target, scope.resolve model field = .ok (.model target) ∧
        relation? scope model field target = .ok (some relation) := by
  rw [lowersTo.relations]
  exact Source.mem_relations_iff lowersTo.become

theorem field_of_reverse (accepted : Accepted scope schema) (modelMember : model ∈ scope.models)
    {reverse : ReverseRelation} (seen : reverse ∈ schema.reverseRelations model.name.text) :
    ∃ owner ∈ scope.models, owner.name.text = reverse.owner.name ∧ ∃ field ∈ owner.fields,
      scope.resolve owner field = .ok (.model model) ∧
        relation? scope owner field model = .ok (some reverse.relation) := by
  obtain ⟨ownerKnown, declared, target⟩ := Schema.mem_reverseRelations.mp seen
  obtain ⟨owner, ownerMember, results, lowersTo⟩ := accepted.exists_model ownerKnown
  obtain ⟨field, member, reached, resolved, lowered⟩ := (mem_relations_iff lowersTo).mp declared
  obtain ⟨opposite, key, -, declares⟩ := declares_of_relation? lowered
  obtain ⟨-, reachedMember, -⟩ := Scope.typeName_of_resolve resolved
  obtain rfl := accepted.distinct.model_eq reachedMember modelMember
    (declares.target.symm.trans target)
  exact ⟨owner, ownerMember, lowersTo.name.symm, field, member, resolved, lowered⟩

theorem reverse_of_field (accepted : Accepted scope schema) (ownerMember : owner ∈ scope.models)
    {field : FieldDecl} {relation : Relation} (member : field ∈ owner.fields)
    (resolved : scope.resolve owner field = .ok (.model model))
    (lowered : relation? scope owner field model = .ok (some relation)) :
    ∃ reverse ∈ schema.reverseRelations model.name.text,
      reverse.owner.name = owner.name.text ∧ reverse.relation = relation := by
  obtain ⟨entity, known, results, lowersTo⟩ := accepted.exists_entity ownerMember
  obtain ⟨opposite, key, -, declares⟩ := declares_of_relation? lowered
  have declared := (mem_relations_iff lowersTo).mpr ⟨field, member, model, resolved, lowered⟩
  exact ⟨⟨entity, relation⟩, Schema.mem_reverseRelations.mpr ⟨known, declared, declares.target⟩,
    lowersTo.name, rfl⟩

/-- The field that a relation shows on the other model, as that model declares it. -/
structure Shows (scope : Scope) (owner : ModelBlock) (field : FieldDecl) (model : ModelBlock)
    (opposite : FieldDecl) (relation : Relation) : Prop where
  found : model.fields.find? (isOpposite owner field model) = some opposite
  keyless : keyFields? opposite = none
  resolved : scope.resolve model opposite = .ok (.model owner)
  relatedName : relation.relatedName = some opposite.name.text
  kind : relation.kind = .foreignKey ↔ opposite.type.arity = .list

/-- The other side of a relation holds no key, or a relation of its own would have the name of the
accessor. -/
theorem shows_of_relation? (accepted : Accepted scope schema) (ownerMember : owner ∈ scope.models)
    (modelMember : model ∈ scope.models)
    (noScalar : ScalarType.ofSourceName? owner.name.text = none) {field : FieldDecl}
    {relation : Relation} (member : field ∈ owner.fields)
    (resolved : scope.resolve owner field = .ok (.model model))
    (lowered : relation? scope owner field model = .ok (some relation)) :
    ∃ opposite, Shows scope owner field model opposite relation := by
  obtain ⟨opposite, key, found, declares⟩ := declares_of_relation? lowered
  have oppositeMember := List.mem_of_find?_eq_some found
  obtain ⟨typeName, -, -⟩ := isOpposite_iff.mp (List.find?_some found)
  have oppositeResolved :=
    accepted.resolve_eq_model modelMember oppositeMember ownerMember noScalar typeName
  refine ⟨opposite, found, ?_, oppositeResolved, declares.relatedName, declares.kind⟩
  cases holds : keyFields? opposite with
  | none => rfl
  | some keys =>
      exfalso
      obtain ⟨entity, known, results, lowersTo⟩ := accepted.exists_entity modelMember
      obtain ⟨other, -, only⟩ := accepted.relation_of_key known lowersTo oppositeMember
        oppositeResolved (by rw [holds]; rfl)
      obtain ⟨otherDeclared, otherName⟩ := List.mem_filter.mp (only ▸ List.mem_singleton_self other)
      obtain ⟨reverse, seen, -, rfl⟩ :=
        accepted.reverse_of_field ownerMember member resolved lowered
      refine (accepted.valid.entities entity known).relation_ne_reverse otherDeclared
        (lowersTo.name ▸ seen) ?_
      rw [ReverseRelation.name, Relation.reverseName, declares.relatedName, Option.getD_some,
        of_decide_eq_true otherName]

/-- The field whose key a field without one relies on, and the relation that it declares. -/
theorem holder_of_keyless (accepted : Accepted scope schema) (modelMember : model ∈ scope.models)
    (lowersTo : LowersTo scope model entity results)
    (noScalar : ScalarType.ofSourceName? model.name.text = none) {field : FieldDecl}
    {target : ModelBlock} (member : field ∈ model.fields)
    (resolved : scope.resolve model field = .ok (.model target))
    (keyless : keyFields? field = none) :
    ∃ holder ∈ target.fields, isOpposite model field target holder = true ∧
      scope.resolve target holder = .ok (.model model) ∧
      ∃ relation, relation? scope target holder model = .ok (some relation) := by
  obtain ⟨-, targetMember, -⟩ := Scope.typeName_of_resolve resolved
  have lowered := relation?_of_keyless lowersTo.become member resolved keyless
  obtain ⟨-, holder, found, key⟩ := opposite?_of_relation?_none lowered
  have holderMember := List.mem_of_find?_eq_some found
  have leadsBack := List.find?_some found
  obtain ⟨typeName, -, -⟩ := isOpposite_iff.mp leadsBack
  obtain ⟨targetEntity, known, targetResults, targetLowers⟩ := accepted.exists_entity targetMember
  have holderResolved :=
    accepted.resolve_eq_model targetMember holderMember modelMember noScalar typeName
  obtain ⟨relation, relationRun, -⟩ :=
    accepted.relation_of_key known targetLowers holderMember holderResolved key
  exact ⟨holder, holderMember, leadsBack, holderResolved, relation, relationRun⟩

theorem shown_of_leading (accepted : Accepted scope schema) (known : entity ∈ schema.entities)
    (modelMember : model ∈ scope.models) (lowersTo : LowersTo scope model entity results)
    {field : FieldDecl} {target : ModelBlock}
    (resolved : scope.resolve model field = .ok (.model target)) (leading : Leading model field) :
    ∃ reverse, shownAs schema target.name.text entity.name field.name.text = [reverse] ∧
      (reverse.relation.kind = .foreignKey ↔ field.type.arity = .list) := by
  obtain ⟨noScalar, first, name, typeName, arity, found⟩ := leading
  obtain ⟨typeNoScalar, targetMember, fieldType⟩ := Scope.typeName_of_resolve resolved
  have firstMember := List.mem_of_find?_eq_some found
  have firstType := typeName.trans fieldType
  obtain ⟨-, -, keyless⟩ := sharesAccess_iff.mp (List.find?_some found)
  have firstResolved := accepted.resolve_eq_model modelMember firstMember targetMember
    (fieldType ▸ typeNoScalar) firstType
  obtain ⟨holder, holderMember, leadsBack, holderResolved, relation, relationRun⟩ :=
    accepted.holder_of_keyless modelMember lowersTo noScalar firstMember firstResolved keyless
  obtain ⟨holderType, apart, holderName⟩ := isOpposite_iff.mp leadsBack
  obtain ⟨opposite, shows⟩ := accepted.shows_of_relation? targetMember modelMember
    (fieldType ▸ typeNoScalar) holderMember holderResolved relationRun
  obtain ⟨oppositeType, -, oppositeName⟩ := isOpposite_iff.mp (List.find?_some shows.found)
  -- Both searches accept what the other finds, so the relation shows the leading field.
  have same : opposite = first := by
    refine Arrangement.find?_agree shows.found found ?_ ?_
    · exact sharesAccess_iff.mpr
        ⟨oppositeType.trans firstType.symm, oppositeName.trans holderName, shows.keyless⟩
    · exact isOpposite_iff.mpr
        ⟨firstType, fun ⟨names, fields⟩ => apart ⟨names.symm, fields.symm⟩, holderName.symm⟩
  subst same
  obtain ⟨reverse, seen, ownerName, rfl⟩ :=
    accepted.reverse_of_field targetMember holderMember holderResolved relationRun
  refine ⟨reverse, ?_, shows.kind.trans arity⟩
  apply Arrangement.filter_eq_singleton
    (accepted.valid.entities entity known).reverseNames_nodup (lowersTo.name ▸ seen)
  · simp [ownerName, shows.relatedName, name]
  · intro other selected
    simp only [Bool.and_eq_true, decide_eq_true_eq] at selected
    simp [ReverseRelation.name, Relation.reverseName, selected.2, shows.relatedName, name]

theorem leading_of_shown (accepted : Accepted scope schema) (modelMember : model ∈ scope.models)
    (lowersTo : LowersTo scope model entity results) {field : FieldDecl} {target : ModelBlock}
    (resolved : scope.resolve model field = .ok (.model target)) {reverse : ReverseRelation}
    (shown : shownAs schema target.name.text entity.name field.name.text = [reverse])
    (kind : reverse.relation.kind = .foreignKey ↔ field.type.arity = .list) :
    Leading model field := by
  obtain ⟨typeNoScalar, targetMember, fieldType⟩ := Scope.typeName_of_resolve resolved
  obtain ⟨seen, selected⟩ := List.mem_filter.mp (shown ▸ List.mem_singleton_self reverse)
  simp only [Bool.and_eq_true, decide_eq_true_eq] at selected
  obtain ⟨owner, ownerMember, ownerName, holder, holderMember, holderResolved, relationRun⟩ :=
    accepted.field_of_reverse modelMember (lowersTo.name ▸ seen)
  obtain rfl := accepted.distinct.model_eq ownerMember targetMember (ownerName.trans selected.1)
  obtain ⟨holderNoScalar, -, holderType⟩ := Scope.typeName_of_resolve holderResolved
  obtain ⟨opposite, shows⟩ := accepted.shows_of_relation? ownerMember modelMember
    (fieldType ▸ typeNoScalar) holderMember holderResolved relationRun
  obtain ⟨oppositeType, -, oppositeName⟩ := isOpposite_iff.mp (List.find?_some shows.found)
  have name : opposite.name.text = field.name.text :=
    Option.some.inj (shows.relatedName.symm.trans selected.2)
  refine ⟨holderType ▸ holderNoScalar, opposite, name, oppositeType.trans fieldType.symm,
    shows.kind.symm.trans kind, ?_⟩
  have shares : sharesAccess opposite opposite = true :=
    sharesAccess_iff.mpr ⟨rfl, rfl, shows.keyless⟩
  cases found : model.fields.find? (sharesAccess opposite) with
  | none =>
      exact absurd shares (List.find?_eq_none.mp found _ (List.mem_of_find?_eq_some shows.found))
  | some first =>
      obtain ⟨firstType, firstName, keyless⟩ := sharesAccess_iff.mp (List.find?_some found)
      refine congrArg some (Arrangement.find?_agree found shows.found ?_ shares)
      refine isOpposite_iff.mpr
        ⟨firstType.trans oppositeType, ?_, firstName.trans oppositeName⟩
      -- In a self relation the first field could have the holder's name. Its own search would then
      -- be the holder's, and find a field without a key.
      rintro ⟨sameModel, sameField⟩
      obtain rfl := accepted.distinct.model_eq ownerMember modelMember sameModel
      have firstMember := List.mem_of_find?_eq_some found
      have firstResolved := accepted.resolve_eq_model ownerMember firstMember ownerMember
        (fieldType ▸ typeNoScalar) (firstType.trans oppositeType)
      have lowered := relation?_of_keyless lowersTo.become firstMember firstResolved keyless
      obtain ⟨-, partner, partnerFound, key⟩ := opposite?_of_relation?_none lowered
      have sameSearch : isOpposite owner first owner = isOpposite owner holder owner := by
        funext candidate
        simp only [isOpposite, sameField, firstName.trans oppositeName]
      rw [opposite?, sameSearch, shows.found] at partnerFound
      obtain rfl := Option.some.inj partnerFound
      simp [shows.keyless] at key

theorem related_iff (accepted : Accepted scope schema) (modelMember : model ∈ scope.models)
    (lowersTo : LowersTo scope model entity results) {relation : Relation}
    (declared : relation ∈ entity.relations) :
    (∃ target ∈ scope.models, target.name.text = relation.target ∧ ∃ field ∈ target.fields,
        relation.relatedName = some field.name.text ∧
          scope.resolve target field = .ok (.model model) ∧ keyFields? field = none) ↔
      ScalarType.ofSourceName? model.name.text = none := by
  constructor
  · rintro ⟨target, -, -, field, -, -, resolved, -⟩
    obtain ⟨noScalar, -, typeName⟩ := Scope.typeName_of_resolve resolved
    exact typeName ▸ noScalar
  · intro noScalar
    obtain ⟨holder, member, target, resolved, lowered⟩ := (mem_relations_iff lowersTo).mp declared
    obtain ⟨-, targetMember, -⟩ := Scope.typeName_of_resolve resolved
    obtain ⟨opposite, key, -, declares⟩ := declares_of_relation? lowered
    obtain ⟨shown, shows⟩ := accepted.shows_of_relation? modelMember targetMember noScalar member
      resolved lowered
    exact ⟨target, targetMember, declares.target.symm, shown,
      List.mem_of_find?_eq_some shows.found, shows.relatedName, shows.resolved, shows.keyless⟩

end Accepted

/-- In an accepted source each relation field with a key is one relation; a field without one is
the accessor of one relation exactly if it leads the fields that could be; and a relation's accessor
is such a field unless its owner is named like a scalar type. -/
theorem pairsUp_of_accepted {source : String} {declared : Declarations}
    (accepted : (declarations source).outcome = .ok declared)
    (valid : declared.schema.validate = .ok ()) :
    ∃ document, parse source = .ok document ∧
      List.Forall₂ (PairsUp document.scope declared.schema)
        document.scope.models declared.schema.entities := by
  obtain ⟨document, parsed, lowered⟩ := exists_of_declarations accepted
  refine ⟨document, parsed, ?_⟩
  have accepted := accepted_of_lower lowered valid
  refine (Arrangement.forall₂_and_mem accepted.entities).imp ?_
  rintro model entity ⟨⟨results, lowersTo⟩, modelMember, known⟩
  refine ⟨?_, ?_, fun relation => accepted.related_iff modelMember lowersTo⟩
  · intro field target member resolved key
    obtain ⟨relation, -, only⟩ := accepted.relation_of_key known lowersTo member resolved key
    exact ⟨relation, only⟩
  · intro field target member resolved keyless
    constructor
    · rintro ⟨reverse, shown, kind⟩
      exact accepted.leading_of_shown modelMember lowersTo resolved shown kind
    · exact accepted.shown_of_leading known modelMember lowersTo resolved

/-- A relation of a model to itself, and one between two models. -/
def threadSource : String :=
  "model P \x7b\n id Int @id\n up Int?\n by Int\n" ++
    " parent P? @relation(fields: [up], references: [id])\n replies P[]\n" ++
    " author U @relation(fields: [by], references: [id])\n\x7d\n" ++
    "model U \x7b\n id Int @id\n posts P[]\n\x7d"

set_option maxRecDepth 4000 in
theorem pairsUp_thread :
    ∃ declared, (declarations threadSource).outcome = .ok declared ∧
      declared.schema.validate = .ok () ∧
      ∃ document, parse threadSource = .ok document ∧
        List.Forall₂ (PairsUp document.scope declared.schema)
          document.scope.models declared.schema.entities := by
  have checked : (declarations threadSource).outcome.toOption.map
      (fun declared => declared.schema.validate.isOk) = some true := by cbv
  obtain ⟨declared, accepted, valid⟩ := Option.map_eq_some_iff.mp checked
  cases outcome : (declarations threadSource).outcome with
  | error error => simp [outcome, Except.toOption] at accepted
  | ok found =>
      obtain rfl : found = declared := by simpa [outcome, Except.toOption] using accepted
      obtain ⟨_, valid⟩ := Outcome.exists_of_isOk valid
      exact ⟨found, rfl, valid, pairsUp_of_accepted outcome valid⟩

def surplusSource : String :=
  "model U \x7b\n  id Int @id\n  a P[]\n  b P[]\n\x7d\n" ++
    "model P \x7b\n  id Int @id\n  u Int\n  by U @relation(fields: [u], references: [id])\n\x7d\n"

def surplusKey (start : Nat) : FieldDecl where
  name := ⟨"id", ⟨start, start + 2⟩⟩
  type := ⟨⟨"Int", ⟨start + 3, start + 6⟩⟩, .required, none⟩
  attributes := [⟨⟨"id", ⟨start + 8, start + 10⟩⟩, [], ⟨start + 7, start + 10⟩⟩]
  documentation := none
  span := ⟨start, start + 10⟩

def surplusList (name : String) (start : Nat) : FieldDecl where
  name := ⟨name, ⟨start, start + 1⟩⟩
  type := ⟨⟨"P", ⟨start + 2, start + 3⟩⟩, .list, none⟩
  attributes := []
  documentation := none
  span := ⟨start, start + 5⟩

def surplusOwner : ModelBlock where
  name := ⟨"U", ⟨6, 7⟩⟩
  documentation := none
  fields := [surplusKey 12, surplusList "a" 25, surplusList "b" 33]
  attributes := []

def surplusHolder : ModelBlock where
  name := ⟨"P", ⟨47, 48⟩⟩
  documentation := none
  fields := [surplusKey 53,
    ⟨⟨"u", ⟨66, 67⟩⟩, ⟨⟨"Int", ⟨68, 71⟩⟩, .required, none⟩, [], none, ⟨66, 71⟩⟩,
    ⟨⟨"by", ⟨74, 76⟩⟩, ⟨⟨"U", ⟨77, 78⟩⟩, .required, none⟩,
      [⟨⟨"relation", ⟨80, 88⟩⟩,
        [⟨some "fields", .array [.constant "u"]⟩, ⟨some "references", .array [.constant "id"]⟩],
        ⟨79, 119⟩⟩],
      none, ⟨74, 119⟩⟩]
  attributes := []

def surplusSchema : Schema where
  enums := []
  entities := [
    ⟨"U", none, none, [{ Field.plain "id" (.scalar .int) with primaryKey := true }], []⟩,
    ⟨"P", none, none, [{ Field.plain "id" (.scalar .int) with primaryKey := true }],
      [⟨"by", .foreignKey, "U", false, some "u", some "id", none, some "a", none⟩]⟩]

theorem accessor_lost_beside_another :
    parse surplusSource = .ok ⟨[.model surplusOwner, .model surplusHolder]⟩ ∧
      (lower ⟨[.model surplusOwner, .model surplusHolder]⟩).outcome = .ok ⟨surplusSchema, []⟩ ∧
      surplusSchema.validate = .ok () ∧
      ¬ ∀ field ∈ surplusOwner.fields, ∀ target,
          (Document.scope ⟨[.model surplusOwner, .model surplusHolder]⟩).resolve surplusOwner
              field = .ok (.model target) →
            keyFields? field = none →
              ∃ reverse, shownAs surplusSchema target.name.text surplusOwner.name.text
                field.name.text = [reverse] := by
  refine ⟨by cbv, by rfl, by decide +kernel, fun claimed => ?_⟩
  obtain ⟨reverse, shown⟩ := claimed (surplusList "b" 33) (by simp [surplusOwner])
    surplusHolder (by rfl) (by rfl)
  have none : shownAs surplusSchema surplusHolder.name.text surplusOwner.name.text
      (surplusList "b" 33).name.text = [] := by rfl
  rw [none] at shown
  cases shown

end Modelwright.Source
