import Modelwright.Proofs.Schema.Consistency
import Modelwright.Proofs.Source.Columns

namespace Modelwright.Source

/-! Primary keys through lowering. -/

section Keys

variable {scope : Scope} {model : ModelBlock} {fields : List Field}

theorem keys_of_makes
    (columns : List.Forall₂ (scope.Makes model) (model.fields.filter (scope.keeps model)) fields) :
    List.Forall₂ (scope.Makes model)
      ((model.fields.filter FieldDecl.isMarkedKey).filter (scope.keeps model))
      (fields.filter (·.primaryKey)) := by
  rw [List.filter_comm]
  refine List.rel_filter (fun decl field makes => ?_) columns
  exact iff_of_eq (congrArg (· = true) makes.primaryKey_eq.symm)

theorem key_of_kept {decl : FieldDecl}
    (columns : List.Forall₂ (scope.Makes model) (model.fields.filter (scope.keeps model)) fields)
    (marked : model.fields.filter FieldDecl.isMarkedKey = [decl])
    (kept : scope.keeps model decl = true) :
    ∃ key, fields.filter (·.primaryKey) = [key] ∧ key.name = decl.name.text := by
  have keys := keys_of_makes columns
  rw [marked, List.filter_singleton, kept, cond_true, List.forall₂_cons_left_iff] at keys
  obtain ⟨key, rest, makes, nothing, found⟩ := keys
  rw [List.forall₂_nil_left_iff.mp nothing] at found
  exact ⟨key, found, makes.name_eq⟩

theorem noKey_of_dropped {decl : FieldDecl}
    (columns : List.Forall₂ (scope.Makes model) (model.fields.filter (scope.keeps model)) fields)
    (marked : model.fields.filter FieldDecl.isMarkedKey = [decl])
    (dropped : scope.keeps model decl = false) : fields.filter (·.primaryKey) = [] := by
  have keys := keys_of_makes columns
  rw [marked, List.filter_singleton, dropped, cond_false] at keys
  exact List.forall₂_nil_left_iff.mp keys

end Keys

/-- An entity whose model marks one key has one exactly if the marked field is a column that no
relation of the model takes.  Then the key is not reported to be missing; otherwise there is none
and the schema is refused. -/
theorem key_kept_iff {document : Document} {declared : Declarations}
    (lowered : (lower document).outcome = .ok declared) :
    List.Forall₂ (fun model entity => ∀ decl,
        model.fields.filter FieldDecl.isMarkedKey = [decl] →
          ((∃ key, entity.fields.filter (·.primaryKey) = [key]) ↔
            document.scope.keeps model decl = true) ∧
          (document.scope.keeps model decl = true →
            declared.schema.validate ≠ .error (.missingPrimaryKey entity.name)) ∧
          (document.scope.keeps model decl = false →
            entity.fields.filter (·.primaryKey) = [] ∧ declared.schema.validate ≠ .ok ()))
      document.scope.models declared.schema.entities := by
  refine (Arrangement.forall₂_and_mem (columns_of_lower lowered)).imp ?_
  rintro model entity ⟨columns, -, member⟩ decl marked
  cases kept : document.scope.keeps model decl with
  | true =>
      obtain ⟨key, found, -⟩ := key_of_kept columns marked kept
      refine ⟨iff_of_true ⟨key, found⟩ rfl, fun _ missing => ?_, fun dropped => nomatch dropped⟩
      have listed : key ∈ entity.fields.filter (·.primaryKey) := found ▸ List.mem_cons_self
      obtain ⟨known, primary⟩ := List.mem_filter.mp listed
      rw [Schema.noKey_of_missingPrimaryKey member missing key known] at primary
      cases primary
  | false =>
      have none := noKey_of_dropped columns marked kept
      have keyless : ¬ ∃ key, entity.fields.filter (·.primaryKey) = [key] := by simp [none]
      refine ⟨iff_of_false keyless Bool.false_ne_true,
        fun kept => absurd kept Bool.false_ne_true, fun _ => ⟨none, fun valid => ?_⟩⟩
      have wellFormed := Schema.validate_eq_ok_iff_wellFormed.mp valid
      exact keyless (wellFormed.entities entity member).primaryKey

def profileSource : String :=
  "model Profile \x7b\n  id Int @id\n  user User @relation(fields: [id], references: [id])\n" ++
    "\x7d\nmodel User \x7b\n  id Int @id\n  profile Profile?\n\x7d\n"

def profileKey : FieldDecl :=
  ⟨⟨"id", ⟨18, 20⟩⟩, ⟨⟨"Int", ⟨21, 24⟩⟩, .required, none⟩, [⟨⟨"id", ⟨26, 28⟩⟩, [], ⟨25, 28⟩⟩],
    none, ⟨18, 28⟩⟩

def profileOwner : FieldDecl :=
  ⟨⟨"user", ⟨31, 35⟩⟩, ⟨⟨"User", ⟨36, 40⟩⟩, .required, none⟩,
    [⟨⟨"relation", ⟨42, 50⟩⟩, [⟨some "fields", .array [.constant "id"]⟩,
      ⟨some "references", .array [.constant "id"]⟩], ⟨41, 82⟩⟩], none, ⟨31, 82⟩⟩

def userKey : FieldDecl :=
  ⟨⟨"id", ⟨100, 102⟩⟩, ⟨⟨"Int", ⟨103, 106⟩⟩, .required, none⟩,
    [⟨⟨"id", ⟨108, 110⟩⟩, [], ⟨107, 110⟩⟩], none, ⟨100, 110⟩⟩

def userProfile : FieldDecl :=
  ⟨⟨"profile", ⟨113, 120⟩⟩, ⟨⟨"Profile", ⟨121, 128⟩⟩, .optional, none⟩, [], none, ⟨113, 129⟩⟩

def profileDocument : Document :=
  ⟨[.model ⟨⟨"Profile", ⟨6, 13⟩⟩, none, [profileKey, profileOwner], []⟩,
    .model ⟨⟨"User", ⟨91, 95⟩⟩, none, [userKey, userProfile], []⟩]⟩

def profileEntity : Entity :=
  ⟨"Profile", none, none, [],
    [⟨"user", .oneToOne, "User", false, some "id", some "id", none, some "profile", none⟩]⟩

def userEntity : Entity :=
  ⟨"User", none, none, [{ Field.plain "id" (.scalar .int) with primaryKey := true }], []⟩

theorem key_kept_user :
    (lower profileDocument).outcome = .ok ⟨⟨[], [profileEntity, userEntity]⟩, []⟩ ∧
      [userKey, userProfile].filter FieldDecl.isMarkedKey = [userKey] ∧
      (∃ key, userEntity.fields.filter (·.primaryKey) = [key]) ∧
      Schema.validate ⟨[], [profileEntity, userEntity]⟩ ≠ .error (.missingPrimaryKey "User") := by
  have lowered : (lower profileDocument).outcome =
      .ok ⟨⟨[], [profileEntity, userEntity]⟩, []⟩ := by rfl
  have marked : [userKey, userProfile].filter FieldDecl.isMarkedKey = [userKey] := by rfl
  obtain ⟨-, others⟩ := List.forall₂_cons.mp (key_kept_iff lowered)
  obtain ⟨exactly, present, -⟩ := (List.forall₂_cons.mp others).1 userKey marked
  exact ⟨lowered, marked, exactly.mpr (by rfl), present (by rfl)⟩

/-- The key of a profile is lost to its relation, and then found to be missing. -/
theorem key_lost_profile :
    parse profileSource = .ok profileDocument ∧
      (lower profileDocument).outcome = .ok ⟨⟨[], [profileEntity, userEntity]⟩, []⟩ ∧
      [profileKey, profileOwner].filter FieldDecl.isMarkedKey = [profileKey] ∧
      profileEntity.fields.filter (·.primaryKey) = [] ∧
      Schema.validate ⟨[], [profileEntity, userEntity]⟩ =
        .error (.missingPrimaryKey "Profile") := by
  refine ⟨by cbv, by rfl, by rfl, by rfl, by decide +kernel⟩

end Modelwright.Source
