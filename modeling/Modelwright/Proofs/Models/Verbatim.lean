import Modelwright.Proofs.Models.Scopes
import Modelwright.Proofs.Schema.WellFormed

namespace Modelwright

open Modelwright.Target

/-! Refusals of names that are kept as the schema spells them. -/

inductive Claimant where
  | member (member : Member)
  | key (relation : Relation)

namespace Claimant

def name : Claimant → String
  | member m => m.sourceName
  | key r => Naming.foreignKeyAttribute r.name

def label : Claimant → String
  | member m => m.label
  | key r => r.name ++ " (key attribute)"

def isKey : Claimant → Bool
  | member _ => false
  | key _ => true

def claim (claimant : Claimant) : String × String :=
  (claimant.name, claimant.label)

end Claimant

namespace Member

def keys : Member → List Claimant
  | relation r => [.key r]
  | _ => []

def claimants (member : Member) : List Claimant :=
  .member member :: member.keys

theorem claims_verbatim (pascal : Bool) (member : Member) :
    member.claims ⟨pascal, false⟩ = member.claimants.map Claimant.claim := by
  cases member with
  | field f => rfl
  | relation r => rfl
  | reverse r => rfl

end Member

/-- What takes names in the class of an entity, in order. -/
def Schema.claimants (schema : Schema) (entity : Entity) : List Claimant :=
  (schema.members entity).flatMap Member.claimants

/-- An unusable name, a class with the name of an import, or a key with the name of a member. -/
inductive Schema.RefusedVerbatim (schema : Schema) : ExportError → Prop
  | invalidIdentifier {owner name : String} (rejected : isIdentifier name = false) :
      RefusedVerbatim schema (.invalidIdentifier owner name)
  | classNameCollision {name first : String} (reserved : (name, first) ∈ reservedClaims)
      (declared : name ∈ schema.classSources) :
      RefusedVerbatim schema (.classNameCollision name first name)
  | memberNameCollision {entity : Entity} {first second : Claimant}
      {before middle after : List Claimant} (member : entity ∈ schema.entities)
      (claimants : schema.claimants entity = before ++ first :: (middle ++ second :: after))
      (same : first.name = second.name) (oneKey : first.isKey ≠ second.isKey) :
      RefusedVerbatim schema
        (.memberNameCollision entity.name first.name first.label second.label)

namespace NameScope

variable {scope : NameScope} {error : ExportError}

theorem FailsFirst.exists_split {seen checks : List NameCheck}
    (failed : scope.FailsFirst seen checks error) :
    ∃ passed check rest, checks = passed ++ check :: rest ∧
      scope.Fails (seen ++ passed) check error := by
  induction failed with
  | @here seen rest check error fails =>
      exact ⟨[], check, rest, rfl, (List.append_nil seen).symm ▸ fails⟩
  | @later seen rest check error passes failed ih =>
      obtain ⟨passed, failing, rest, rfl, fails⟩ := ih
      refine ⟨check :: passed, failing, rest, rfl, ?_⟩
      rw [List.append_assoc] at fails
      exact fails

theorem FirstFailure.cases_claims (failed : scope.FirstFailure error) :
    (∃ owner name, error = .invalidIdentifier owner name ∧ isIdentifier name = false) ∨
      ∃ name first claimant earlier later rest,
        error = scope.collision name first claimant ∧
          scope.taken scope.checks =
            earlier ++ (name, first) :: (later ++ (name, claimant) :: rest) := by
  obtain ⟨passed, check, rest, split, fails⟩ := failed.exists_split
  rw [List.nil_append] at fails
  cases fails with
  | @unusable owner name rejected => exact .inl ⟨owner, name, rfl, rejected⟩
  | @taken name claimant first earlier later claims earliest =>
      refine .inr ⟨name, first, claimant, earlier, later, rest.flatMap NameCheck.claims, rfl, ?_⟩
      rw [NameScope.taken] at claims
      rw [NameScope.taken, split, List.flatMap_append, ← List.append_assoc, claims]
      simp

end NameScope

theorem FirstViolation.exists_failure {scopes : List NameScope} {error : ExportError}
    (violated : FirstViolation scopes error) : ∃ scope ∈ scopes, scope.FirstFailure error := by
  induction violated with
  | here fails => exact ⟨_, List.mem_cons_self, fails⟩
  | later passes fails ih =>
      obtain ⟨scope, listed, failed⟩ := ih
      exact ⟨scope, List.mem_cons_of_mem _ listed, failed⟩

theorem foreignKeyAttribute_injective : Function.Injective Naming.foreignKeyAttribute := by
  intro first second same
  apply String.toList_injective
  have spelled := congrArg String.toList same
  rw [Naming.foreignKeyAttribute, Naming.foreignKeyAttribute, String.toList_append,
    String.toList_append] at spelled
  exact List.append_cancel_right spelled

namespace Schema

variable {schema : Schema}

theorem WellFormed.classSources_nodup (valid : schema.WellFormed) :
    schema.classSources.Nodup := by
  apply List.nodup_append.mpr
  refine ⟨valid.enums_nodup, valid.entities_nodup, ?_⟩
  intro name declared other known same
  obtain ⟨e, listed, rfl⟩ := List.mem_map.mp declared
  exact (valid.enums e listed).noEntity (same ▸ known)

theorem sourceNames_members (schema : Schema) (entity : Entity) :
    (schema.members entity).map Member.sourceName = schema.attributeSources entity := by
  simp only [members, attributeSources, Entity.memberNames, List.map_append, List.map_map]
  rfl

theorem keys_members (schema : Schema) (entity : Entity) :
    (schema.members entity).flatMap Member.keys = entity.relations.map .key :=
  flatMap_members (fun _ => rfl) (fun _ => rfl) (fun _ => rfl) schema entity

theorem claimants_perm (schema : Schema) (entity : Entity) :
    (schema.claimants entity).Perm
      ((schema.members entity).map .member ++ entity.relations.map .key) := by
  rw [← keys_members]
  exact (List.map_append_flatMap_perm _ _ _).symm

/-- Two classes never share a name, so a shared one belongs to an import. -/
theorem WellFormed.classClaims_apart (valid : schema.WellFormed) :
    (reservedClaims ++ schema.classSources.map fun name => (name, name)).Pairwise
      fun first second => first.1 = second.1 →
        first ∈ reservedClaims ∧ second ∈ schema.classSources.map fun name => (name, name) := by
  rw [List.pairwise_append]
  refine ⟨?_, ?_, ?_⟩
  · refine (List.pairwise_map.mp reservedNames_nodup).imp ?_
    intro first second apart same
    exact absurd same apart
  · rw [List.pairwise_map]
    refine valid.classSources_nodup.imp ?_
    intro first second apart same
    exact absurd same apart
  · intro first reserved second declared _
    exact ⟨reserved, declared⟩

theorem WellFormedEntity.claimants_apart {entity : Entity}
    (valid : schema.WellFormedEntity entity) :
    (schema.claimants entity).Pairwise fun first second =>
      first.name = second.name → first.isKey ≠ second.isKey := by
  have symmetric : ∀ {first second : Claimant},
      (first.name = second.name → first.isKey ≠ second.isKey) →
        second.name = first.name → second.isKey ≠ first.isKey :=
    fun apart same => (apart same.symm).symm
  rw [(schema.claimants_perm entity).pairwise_iff symmetric, List.pairwise_append]
  refine ⟨?_, ?_, ?_⟩
  · have nodup := valid.attributeSources_nodup
    rw [← sourceNames_members] at nodup
    rw [List.pairwise_map]
    refine (List.pairwise_map.mp nodup).imp ?_
    intro first second apart same
    exact absurd same apart
  · rw [List.pairwise_map]
    refine (List.pairwise_map.mp valid.relations_nodup).imp ?_
    intro first second apart same
    exact absurd (foreignKeyAttribute_injective same) apart
  · intro first listed second keyed _ kind
    obtain ⟨member, -, rfl⟩ := List.mem_map.mp listed
    obtain ⟨relation, -, rfl⟩ := List.mem_map.mp keyed
    cases kind

theorem taken_entityScope_verbatim (schema : Schema) (pascal : Bool) (entity : Entity) :
    (schema.entityScope ⟨pascal, false⟩ entity).taken
        (schema.entityScope ⟨pascal, false⟩ entity).checks =
      (schema.claimants entity).map Claimant.claim := by
  rw [taken_entityScope, claimants, List.map_flatMap]
  exact List.flatMap_congr fun member _ => member.claims_verbatim pascal

theorem rel_of_pairwise {R : α → α → Prop} {before middle after : List α} {first second : α}
    (pairwise : (before ++ first :: (middle ++ second :: after)).Pairwise R) : R first second := by
  have behind := (List.pairwise_append.mp pairwise).2.1
  apply (List.pairwise_cons.mp behind).1
  exact List.mem_append_right _ List.mem_cons_self

theorem WellFormed.refused_module (valid : schema.WellFormed) {snake : Bool} {error : ExportError}
    (failed : (schema.moduleScope ⟨false, snake⟩).FirstFailure error) :
    schema.RefusedVerbatim error := by
  cases failed.cases_claims with
  | inl unusable =>
      obtain ⟨owner, name, rfl, rejected⟩ := unusable
      exact .invalidIdentifier rejected
  | inr repeated =>
      obtain ⟨name, first, claimant, earlier, later, rest, rfl, claims⟩ := repeated
      have apart := valid.classClaims_apart
      rw [taken_moduleScope] at claims
      simp only [Casing.className_verbatim] at claims
      rw [claims] at apart
      obtain ⟨reserved, listed⟩ := rel_of_pairwise apart rfl
      obtain ⟨other, declared, same⟩ := List.mem_map.mp listed
      cases same
      exact .classNameCollision reserved declared

theorem WellFormed.refused_entity (valid : schema.WellFormed) {entity : Entity}
    (member : entity ∈ schema.entities) {pascal : Bool} {error : ExportError}
    (failed : (schema.entityScope ⟨pascal, false⟩ entity).FirstFailure error) :
    schema.RefusedVerbatim error := by
  cases failed.cases_claims with
  | inl unusable =>
      obtain ⟨owner, name, rfl, rejected⟩ := unusable
      exact .invalidIdentifier rejected
  | inr repeated =>
      obtain ⟨name, label, claimant, earlier, later, rest, rfl, claims⟩ := repeated
      rw [taken_entityScope_verbatim] at claims
      obtain ⟨before, behind, split, -, claims⟩ := List.map_eq_append_iff.mp claims
      obtain ⟨first, behind, rfl, firstClaim, claims⟩ := List.map_eq_cons_iff.mp claims
      obtain ⟨middle, behind, rfl, -, claims⟩ := List.map_eq_append_iff.mp claims
      obtain ⟨second, after, rfl, secondClaim, -⟩ := List.map_eq_cons_iff.mp claims
      have apart := (valid.entities entity member).claimants_apart
      rw [split] at apart
      cases firstClaim
      have same : second.name = first.name := congrArg Prod.fst secondClaim
      have labelled : second.label = claimant := congrArg Prod.snd secondClaim
      subst labelled
      exact .memberNameCollision member split same.symm (rel_of_pairwise apart same.symm)

end Schema

/-- Where a valid schema's names are kept as they are, a module is refused only for a name that is
no identifier, for a class that an import hides and for a key with the name of a member. -/
theorem refused_verbatim {schema : Schema} (valid : schema.validate = .ok ()) {settings : Settings}
    (classes : settings.pascalClassNames = false) (values : settings.snakeValueNames = false)
    {extension : Option ExtensionModule} {error : ExportError}
    (refused : (modelsModule schema settings extension).outcome = .error error) :
    schema.RefusedVerbatim error := by
  have wellFormed := Schema.validate_eq_ok_iff_wellFormed.mp valid
  have casing : Casing.ofSettings settings = ⟨false, false⟩ := by
    rw [Casing.ofSettings, classes, values]
  rw [outcome_modelsModule_eq_error_iff, casing, forM_run_eq_error_iff held_nodup] at refused
  obtain ⟨scope, listed, first⟩ := refused.exists_failure
  cases listed with
  | head => exact wellFormed.refused_module first
  | tail _ listed =>
      obtain ⟨entity, member, rfl⟩ := List.mem_map.mp listed
      exact wellFormed.refused_entity member first

def loan : Entity :=
  ⟨"Loan", none, none,
    [{ Field.plain "id" (.scalar .int) with primaryKey := true },
      Field.plain "book_id" (.scalar .int)],
    [⟨"book", .foreignKey, "Loan", true, none, none, none, none, none⟩]⟩

def loans : Schema := ⟨[], [loan]⟩

def verbatimNames : Settings :=
  { Settings.standard with pascalClassNames := false, snakeValueNames := false }

theorem refused_verbatim_loans :
    loans.validate = .ok () ∧ verbatimNames.pascalClassNames = false ∧
      verbatimNames.snakeValueNames = false ∧
      (modelsModule loans verbatimNames none).outcome =
        .error (.memberNameCollision "Loan" "book_id" "book_id" "book (key attribute)") ∧
      loans.RefusedVerbatim
        (.memberNameCollision "Loan" "book_id" "book_id" "book (key attribute)") := by
  have valid : loans.validate = .ok () := by decide +kernel
  have refused : (modelsModule loans verbatimNames none).outcome =
      .error (.memberNameCollision "Loan" "book_id" "book_id" "book (key attribute)") := by
    have failed : forM (loans.nameScopes (.ofSettings verbatimNames)) NameScope.run =
        .error (.memberNameCollision "Loan" "book_id" "book_id" "book (key attribute)") := by
      decide +kernel
    exact outcome_modelsModule_eq_error_iff.mpr failed
  exact ⟨valid, rfl, rfl, refused, refused_verbatim valid rfl rfl refused⟩

end Modelwright
