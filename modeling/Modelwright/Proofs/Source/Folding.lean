import Modelwright.Proofs.Arrangement
import Modelwright.Proofs.Source.Lowered

namespace Modelwright.Source

/-! Columns through lowering: kept as fields, or folded into the relations whose keys they hold. -/

def Kept (entity : Entity) (decl : FieldDecl) : Prop :=
  ∃ field ∈ entity.fields, field.name = decl.name.text

/-- A relation that names the declaration as its key has become a relation of the entity and has
the declaration's column. -/
def FoldedInto (scope : Scope) (model : ModelBlock) (entity : Entity) (decl : FieldDecl) : Prop :=
  ∃ owner ∈ model.fields, decl.name.text ∈ owner.keyNames ∧
    ∃ target relation, scope.resolve model owner = .ok (.model target) ∧
      relation? scope model owner target = .ok (some relation) ∧
      relation ∈ entity.relations ∧
      ∃ column, decl.column? = some column ∧ relation.column = some column

/-- If any field names the declaration as a key, then a relation field does, and the declaration's
column is that of the first field of its name. -/
def Accountable (scope : Scope) (model : ModelBlock) (decl : FieldDecl) : Prop :=
  decl.name.text ∈ foreignKeys model →
    (∃ owner ∈ model.fields, decl.name.text ∈ owner.keyNames ∧
      ∃ target, scope.resolve model owner = .ok (.model target)) ∧
    (model.field? decl.name.text).bind FieldDecl.column? = decl.column?

theorem isColumn_of_resolve {scope : Scope} {model : ModelBlock} {decl : FieldDecl}
    {target : ModelBlock} (resolved : scope.resolve model decl = .ok (.model target)) :
    scope.isColumn model decl = false := by
  simp [Scope.isColumn, resolved]

theorem target_eq_of_resolve {scope : Scope} {model : ModelBlock} {decl : FieldDecl}
    {target other : ModelBlock} (resolved : scope.resolve model decl = .ok (.model target))
    (otherResolved : scope.resolve model decl = .ok (.model other)) : target = other :=
  Resolved.model.inj (Except.ok.inj (resolved.symm.trans otherResolved))

theorem fieldNames_of_become {scope : Scope} {model : ModelBlock} {decls : List FieldDecl}
    {results : List FieldResult} (become : List.Forall₂ (Becomes scope model) decls results) :
    (results.filterMap FieldResult.field?).map (·.name) =
      (decls.filter fun decl =>
        scope.isColumn model decl && decide (decl.name.text ∉ foreignKeys model)).map
          (·.name.text) := by
  induction become with
  | nil => rfl
  | cons first rest ih =>
      cases first with
      | relation resolved lowered =>
          simpa [List.filterMap_cons, FieldResult.field?, isColumn_of_resolve resolved] using ih
      | accessor resolved lowered =>
          simpa [List.filterMap_cons, FieldResult.field?, isColumn_of_resolve resolved] using ih
      | column column free name =>
          simpa [List.filterMap_cons, FieldResult.field?, column, free, name] using ih
      | key column taken =>
          simpa [List.filterMap_cons, FieldResult.field?, column, taken] using ih

theorem mem_relations_iff {scope : Scope} {model : ModelBlock} {decls : List FieldDecl}
    {results : List FieldResult} {relation : Relation}
    (become : List.Forall₂ (Becomes scope model) decls results) :
    relation ∈ results.filterMap FieldResult.relation? ↔
      ∃ decl ∈ decls, ∃ target, scope.resolve model decl = .ok (.model target) ∧
        relation? scope model decl target = .ok (some relation) := by
  induction become with
  | nil => simp
  | cons first rest ih =>
      rw [List.exists_mem_cons_iff, ← ih]
      cases first with
      | relation resolved lowered =>
          simp only [List.filterMap_cons, FieldResult.relation?, List.mem_cons]
          refine or_congr ⟨?_, ?_⟩ Iff.rfl
          · rintro rfl
            exact ⟨_, resolved, lowered⟩
          · rintro ⟨target, sameResolved, sameLowered⟩
            obtain rfl := target_eq_of_resolve resolved sameResolved
            exact Option.some.inj (Except.ok.inj (sameLowered.symm.trans lowered))
      | accessor resolved lowered =>
          simp only [List.filterMap_cons, FieldResult.relation?]
          refine (or_iff_right ?_).symm
          rintro ⟨target, sameResolved, sameLowered⟩
          obtain rfl := target_eq_of_resolve resolved sameResolved
          simp [lowered] at sameLowered
      | column column free name =>
          simp only [List.filterMap_cons, FieldResult.relation?]
          refine (or_iff_right ?_).symm
          rintro ⟨target, resolved, -⟩
          simp [isColumn_of_resolve resolved] at column
      | key column taken =>
          simp only [List.filterMap_cons, FieldResult.relation?]
          refine (or_iff_right ?_).symm
          rintro ⟨target, resolved, -⟩
          simp [isColumn_of_resolve resolved] at column

theorem relation?_of_mem {scope : Scope} {model target : ModelBlock} {decls : List FieldDecl}
    {results : List FieldResult} (become : List.Forall₂ (Becomes scope model) decls results)
    {decl : FieldDecl} (member : decl ∈ decls)
    (resolved : scope.resolve model decl = .ok (.model target)) :
    ∃ relation, relation? scope model decl target = .ok relation := by
  obtain ⟨result, -, becomes⟩ := Arrangement.exists_of_forall₂ become member
  cases becomes with
  | relation sameResolved lowered =>
      obtain rfl := target_eq_of_resolve resolved sameResolved
      exact ⟨_, lowered⟩
  | accessor sameResolved lowered =>
      obtain rfl := target_eq_of_resolve resolved sameResolved
      exact ⟨_, lowered⟩
  | column column free name => simp [isColumn_of_resolve resolved] at column
  | key column taken => simp [isColumn_of_resolve resolved] at column

theorem kept_iff {scope : Scope} {model : ModelBlock} {entity : Entity}
    {results : List FieldResult} (lowersTo : LowersTo scope model entity results)
    {decl : FieldDecl} (member : decl ∈ model.fields)
    (column : scope.isColumn model decl = true) :
    Kept entity decl ↔ decl.name.text ∉ foreignKeys model := by
  have names := fieldNames_of_become lowersTo.become
  rw [← lowersTo.fields] at names
  rw [Kept, ← List.mem_map (f := Field.name), names, List.mem_map]
  constructor
  · rintro ⟨other, kept, same⟩
    simp only [List.mem_filter, Bool.and_eq_true, decide_eq_true_eq] at kept
    exact same ▸ kept.2.2
  · intro free
    exact ⟨decl, by simp [member, column, free], rfl⟩

theorem column_of_named {scope : Scope} {model target : ModelBlock} {field : FieldDecl}
    {name : String} {relation : Relation} (named : name ∈ field.keyNames)
    (lowered : relation? scope model field target = .ok (some relation)) :
    ∃ column, relation.column = some column ∧
      (model.field? name).bind FieldDecl.column? = some column := by
  obtain ⟨opposite, key, -, declares⟩ := declares_of_relation? lowered
  rw [declares.keyNames, List.mem_singleton] at named
  obtain ⟨column, found⟩ := Option.isSome_iff_exists.mp declares.column_isSome
  have first := (Option.filter_eq_some_iff.mp declares.keyField).1
  refine ⟨column, declares.column.trans found, ?_⟩
  rw [named, first, Option.bind_some, found]

theorem foldedInto_iff {scope : Scope} {model : ModelBlock} {entity : Entity}
    {results : List FieldResult} (lowersTo : LowersTo scope model entity results)
    {decl : FieldDecl} :
    FoldedInto scope model entity decl ↔
      (∃ owner ∈ model.fields, decl.name.text ∈ owner.keyNames ∧
        ∃ target, scope.resolve model owner = .ok (.model target)) ∧
      (model.field? decl.name.text).bind FieldDecl.column? = decl.column? := by
  constructor
  · rintro ⟨owner, member, named, target, relation, resolved, lowered, -, column, declared, held⟩
    refine ⟨⟨owner, member, named, target, resolved⟩, ?_⟩
    obtain ⟨first, firstHeld, found⟩ := column_of_named named lowered
    rw [found, declared, ← held, firstHeld]
  · rintro ⟨⟨owner, member, named, target, resolved⟩, same⟩
    obtain ⟨lowering, lowered⟩ := relation?_of_mem lowersTo.become member resolved
    cases lowering with
    | none =>
        obtain ⟨keyless, -⟩ := opposite?_of_relation?_none lowered
        simp [FieldDecl.keyNames, keyless] at named
    | some relation =>
        obtain ⟨column, held, found⟩ := column_of_named named lowered
        refine ⟨owner, member, named, target, relation, resolved, lowered, ?_, column,
          same.symm.trans found, held⟩
        rw [lowersTo.relations]
        exact (mem_relations_iff lowersTo.become).mpr ⟨owner, member, target, resolved, lowered⟩

/-- An entity has the columns that no relation names, in their order; and a column is kept or
folded into a relation exactly if it is accountable. -/
theorem columns_accounted_iff {document : Document} {declarations : Declarations}
    (lowered : (lower document).outcome = .ok declarations) :
    List.Forall₂ (fun model entity =>
        entity.fields.map (·.name) =
            (model.fields.filter fun decl => document.scope.isColumn model decl &&
              decide (decl.name.text ∉ foreignKeys model)).map (·.name.text) ∧
          ∀ decl ∈ model.fields, document.scope.isColumn model decl = true →
            (Kept entity decl ∨ FoldedInto document.scope model entity decl ↔
              Accountable document.scope model decl))
      document.scope.models declarations.schema.entities := by
  refine (entities_of_lower lowered).imp ?_
  rintro model entity ⟨results, lowersTo⟩
  refine ⟨?_, fun decl member column => ?_⟩
  · rw [lowersTo.fields]
    exact fieldNames_of_become lowersTo.become
  · rw [kept_iff lowersTo member column, foldedInto_iff lowersTo, Accountable]
    exact imp_iff_not_or.symm

def guestbookSource : String :=
  "model E \x7b\n id Int @id\n key Int @map(\"k\")\n" ++
    " by G @relation(fields: [key], references: [id])\n\x7d\n" ++
    "model G \x7b\n id Int @id\n es E[]\n\x7d"

theorem columns_accounted_guestbook :
    ∃ document declared, parse guestbookSource = .ok document ∧
      (lower document).outcome = .ok declared ∧
      List.Forall₂ (fun model entity =>
          entity.fields.map (·.name) =
              (model.fields.filter fun decl => document.scope.isColumn model decl &&
                decide (decl.name.text ∉ foreignKeys model)).map (·.name.text) ∧
            ∀ decl ∈ model.fields, document.scope.isColumn model decl = true →
              (Kept entity decl ∨ FoldedInto document.scope model entity decl ↔
                Accountable document.scope model decl))
        document.scope.models declared.schema.entities := by
  have accepted : (declarations guestbookSource).outcome.isOk = true := by cbv
  obtain ⟨declared, run⟩ := Outcome.exists_of_isOk accepted
  obtain ⟨document, parsed, lowered⟩ := exists_of_declarations run
  exact ⟨document, declared, parsed, lowered, columns_accounted_iff lowered⟩

def strayKeySource : String :=
  "model A \x7b\n  id Int @id\n  b Int\n  c Int @relation(fields: [b], references: [id])\n\x7d\n"

def strayKeyList : Attribute where
  name := ⟨"relation", ⟨40, 48⟩⟩
  arguments := [⟨some "fields", .array [.constant "b"]⟩,
    ⟨some "references", .array [.constant "id"]⟩]
  span := ⟨39, 79⟩

def strayKeyModel : ModelBlock where
  name := ⟨"A", ⟨6, 7⟩⟩
  documentation := none
  fields := [
    ⟨⟨"id", ⟨12, 14⟩⟩, ⟨⟨"Int", ⟨15, 18⟩⟩, .required, none⟩,
      [⟨⟨"id", ⟨20, 22⟩⟩, [], ⟨19, 22⟩⟩], none, ⟨12, 22⟩⟩,
    ⟨⟨"b", ⟨25, 26⟩⟩, ⟨⟨"Int", ⟨27, 30⟩⟩, .required, none⟩, [], none, ⟨25, 30⟩⟩,
    ⟨⟨"c", ⟨33, 34⟩⟩, ⟨⟨"Int", ⟨35, 38⟩⟩, .required, none⟩, [strayKeyList], none, ⟨33, 79⟩⟩]
  attributes := []

def strayKeyEntity : Entity where
  name := "A"
  table := none
  description := none
  fields := [{ Field.plain "id" (.scalar .int) with primaryKey := true },
    Field.plain "c" (.scalar .int)]
  relations := []

theorem column_lost_at_stray_key :
    parse strayKeySource = .ok ⟨[.model strayKeyModel]⟩ ∧
      ¬ ∀ declared, (lower ⟨[.model strayKeyModel]⟩).outcome = .ok declared →
        List.Forall₂ (fun model entity => ∀ decl ∈ model.fields,
            (Document.scope ⟨[.model strayKeyModel]⟩).isColumn model decl = true →
              Kept entity decl ∨
                FoldedInto (Document.scope ⟨[.model strayKeyModel]⟩) model entity decl)
          [strayKeyModel] declared.schema.entities := by
  refine ⟨by cbv, fun claimed => ?_⟩
  have lowered : (lower ⟨[.model strayKeyModel]⟩).outcome =
      .ok ⟨⟨[], [strayKeyEntity]⟩, []⟩ := by rfl
  have accounted := (List.forall₂_cons.mp (claimed _ lowered)).1 _
    (List.mem_cons_of_mem _ List.mem_cons_self) (by rfl)
  rcases accounted with ⟨field, member, name⟩ | ⟨owner, -, -, target, relation, -, -, member, -⟩
  · revert name
    revert field
    decide
  · simp [strayKeyEntity] at member

end Modelwright.Source
