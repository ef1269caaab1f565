import Mathlib.Data.List.Perm.Basic
import Modelwright.Proofs.Models.Generated

namespace Modelwright

open Modelwright.Target

/-! The checks of a module's names. -/

/-- A check that a name is an identifier, or that no earlier claim has taken it. -/
inductive NameCheck where
  | usable (owner name : String)
  | free (name claimant : String)

namespace NameCheck

def claims : NameCheck → List (String × String)
  | usable _ _ => []
  | free name claimant => [(name, claimant)]

@[simp] theorem claims_usable (owner name : String) : (usable owner name).claims = [] := rfl

@[simp] theorem claims_free (name claimant : String) :
    (free name claimant).claims = [(name, claimant)] := rfl

end NameCheck

structure NameScope where
  /-- The names that are taken before the first check, with what takes them. -/
  held : List (String × String)
  checks : List NameCheck
  /-- The error for a name with its earlier and its later claimant. -/
  collision : String → String → String → ExportError

namespace NameScope

/-- The names that are taken behind the checks seen so far, in the order of their claims. -/
def taken (scope : NameScope) (seen : List NameCheck) : Registry :=
  scope.held ++ seen.flatMap NameCheck.claims

/-- The check fails behind the checks seen so far.  A name that is not free is reported with the
earliest claimant. -/
inductive Fails (scope : NameScope) (seen : List NameCheck) : NameCheck → ExportError → Prop
  | unusable {owner name : String} (rejected : isIdentifier name = false) :
      Fails scope seen (.usable owner name) (.invalidIdentifier owner name)
  | taken {name claimant first : String} {earlier later : List (String × String)}
      (claims : scope.taken seen = earlier ++ (name, first) :: later)
      (earliest : ∀ claim ∈ earlier, claim.1 ≠ name) :
      Fails scope seen (.free name claimant) (scope.collision name first claimant)

inductive FailsFirst (scope : NameScope) :
    List NameCheck → List NameCheck → ExportError → Prop
  | here {seen rest : List NameCheck} {check : NameCheck} {error : ExportError}
      (fails : scope.Fails seen check error) : FailsFirst scope seen (check :: rest) error
  | later {seen rest : List NameCheck} {check : NameCheck} {error : ExportError}
      (passes : ∀ other, ¬ scope.Fails seen check other)
      (fails : FailsFirst scope (seen ++ [check]) rest error) :
      FailsFirst scope seen (check :: rest) error

def FirstFailure (scope : NameScope) (error : ExportError) : Prop :=
  scope.FailsFirst [] scope.checks error

end NameScope

/-- The error is that of the first check that fails in the first scope with such a check. -/
inductive FirstViolation : List NameScope → ExportError → Prop
  | here {scope : NameScope} {rest : List NameScope} {error : ExportError}
      (fails : scope.FirstFailure error) : FirstViolation (scope :: rest) error
  | later {scope : NameScope} {rest : List NameScope} {error : ExportError}
      (passes : ∀ other, ¬ scope.FirstFailure other) (fails : FirstViolation rest error) :
      FirstViolation (scope :: rest) error

def classChecks (casing : Casing) (declared : String) : List NameCheck :=
  [.usable declared (casing.className declared), .free (casing.className declared) declared]

def Enumeration.valueChecks (e : Enumeration) : List NameCheck :=
  e.values.map (.usable e.name)

def Member.checks (casing : Casing) (entity : String) (member : Member) : List NameCheck :=
  .usable entity (member.attributeName casing) ::
    (member.claims casing).map fun claim => .free claim.1 claim.2

namespace Schema

def classSources (schema : Schema) : List String :=
  schema.enums.map (·.name) ++ schema.entities.map (·.name)

/-- All class names, then the values of all enumerations. -/
def moduleScope (casing : Casing) (schema : Schema) : NameScope where
  held := reservedClaims
  checks := schema.classSources.flatMap (classChecks casing) ++
    schema.enums.flatMap Enumeration.valueChecks
  collision := .classNameCollision

def entityScope (casing : Casing) (schema : Schema) (entity : Entity) : NameScope where
  held := []
  checks := (schema.members entity).flatMap (Member.checks casing entity.name)
  collision := .memberNameCollision entity.name

def nameScopes (casing : Casing) (schema : Schema) : List NameScope :=
  schema.moduleScope casing :: schema.entities.map (schema.entityScope casing)

end Schema

def Entity.keyAttributes (casing : Casing) (entity : Entity) : List String :=
  entity.relations.map fun relation =>
    Naming.foreignKeyAttribute (casing.valueName relation.name)

def Member.keyAttributes (casing : Casing) : Member → List String
  | relation r => [Naming.foreignKeyAttribute (casing.valueName r.name)]
  | _ => []

structure NamesInOrder (casing : Casing) (schema : Schema) : Prop where
  classes : ∀ name ∈ schema.classSources.map casing.className,
    isIdentifier name = true ∧ name ∉ reservedNames
  classes_nodup : (schema.classSources.map casing.className).Nodup
  values : ∀ e ∈ schema.enums, ∀ value ∈ e.values, isIdentifier value = true
  attributes : ∀ entity ∈ schema.entities, ∀ member ∈ schema.members entity,
    isIdentifier (member.attributeName casing) = true
  attributes_nodup : ∀ entity ∈ schema.entities,
    ((schema.members entity).map (Member.attributeName casing) ++
      entity.keyAttributes casing).Nodup

def checkAll (collision : String → String → String → ExportError) (registry : Registry) :
    List NameCheck → Except ExportError Registry
  | [] => .ok registry
  | .usable owner name :: rest => do
    checkIdentifier owner name
    checkAll collision registry rest
  | .free name claimant :: rest =>
    match registry.claim name claimant with
    | .ok registry => checkAll collision registry rest
    | .error first => .error (collision name first claimant)

def NameScope.run (scope : NameScope) : Except ExportError Unit := do
  let _ ← checkAll scope.collision scope.held scope.checks
  return ()

theorem checkAll_append (collision : String → String → String → ExportError)
    (registry : Registry) (first second : List NameCheck) :
    checkAll collision registry (first ++ second) =
      checkAll collision registry first >>= (checkAll collision · second) := by
  induction first generalizing registry with
  | nil => rfl
  | cons check rest ih =>
      cases check with
      | usable owner name =>
          simp only [List.cons_append, checkAll, ih, bind_assoc]
      | free name claimant =>
          simp only [List.cons_append, checkAll]
          cases registry.claim name claimant with
          | ok after => exact ih after
          | error first => rfl

theorem claimAll_eq_checkAll (entity : String) (registry : Registry)
    (claims : List (String × String)) :
    claimAll entity registry claims =
      checkAll (.memberNameCollision entity) registry
        (claims.map fun claim => .free claim.1 claim.2) := by
  induction claims generalizing registry with
  | nil => rfl
  | cons claim rest ih =>
      obtain ⟨name, label⟩ := claim
      simp only [claimAll, List.map_cons, checkAll]
      cases registry.claim name label with
      | ok after => exact ih after
      | error first => rfl

theorem checkMembers_eq_checkAll (casing : Casing) (entity : String) (registry : Registry)
    (members : List Member) :
    checkMembers casing entity registry members =
      checkAll (.memberNameCollision entity) registry
        (members.flatMap (Member.checks casing entity)) := by
  induction members generalizing registry with
  | nil => rfl
  | cons member rest ih =>
      simp only [checkMembers, List.flatMap_cons, Member.checks, List.cons_append, checkAll,
        checkAll_append, claimAll_eq_checkAll, ih]

theorem claimClasses_eq_checkAll (casing : Casing) (registry : Registry)
    (declared : List String) :
    claimClasses casing registry declared =
      checkAll .classNameCollision registry (declared.flatMap (classChecks casing)) >>=
        fun _ => .ok (declared.map casing.className) := by
  induction declared generalizing registry with
  | nil => rfl
  | cons first rest ih =>
      simp only [claimClasses, List.flatMap_cons, classChecks, List.cons_append,
        List.nil_append, checkAll, bind_assoc]
      refine bind_congr fun _ => ?_
      cases registry.claim (casing.className first) first with
      | error holder => rfl
      | ok after =>
          simp only [ih, bind_assoc]
          rfl

theorem checkAll_valueChecks (e : Enumeration)
    (collision : String → String → String → ExportError) (registry : Registry) :
    checkAll collision registry e.valueChecks = e.checks >>= fun _ => .ok registry := by
  unfold Enumeration.valueChecks Enumeration.checks
  induction e.values with
  | nil => rfl
  | cons value rest ih =>
      simp only [List.map_cons, checkAll, ih, List.forM_eq_forM, List.forM_cons, bind_assoc]

theorem checkAll_flatMap_valueChecks (enums : List Enumeration)
    (collision : String → String → String → ExportError) (registry : Registry) :
    checkAll collision registry (enums.flatMap Enumeration.valueChecks) =
      forM enums Enumeration.checks >>= fun _ => .ok registry := by
  induction enums with
  | nil => rfl
  | cons e rest ih =>
      rw [List.flatMap_cons, checkAll_append, checkAll_valueChecks, List.forM_cons, bind_assoc,
        bind_assoc]
      exact bind_congr fun _ => ih

theorem entityChecks_eq_run (frame : Frame) (entity : Entity) :
    entity.checks frame = (frame.schema.entityScope frame.casing entity).run := by
  rw [Entity.checks, checkMembers_eq_checkAll]
  rfl

theorem outcome_modelsModule (schema : Schema) (settings : Settings)
    (extension : Option ExtensionModule) :
    (modelsModule schema settings extension).outcome =
      forM (schema.nameScopes (.ofSettings settings)) NameScope.run >>=
        fun _ => .ok (Frame.generatedModule ⟨schema, settings, extension⟩) := by
  have members : forM (schema.entities.map (schema.entityScope (.ofSettings settings)))
      NameScope.run = forM schema.entities (Entity.checks ⟨schema, settings, extension⟩) := by
    rw [List.forM_map]
    exact congrArg _ (funext fun entity =>
      (entityChecks_eq_run ⟨schema, settings, extension⟩ entity).symm)
  rw [outcome_modelsModule_eq_checks, Schema.nameScopes, List.forM_cons, members]
  simp only [classNames, claimClasses_eq_checkAll, NameScope.run, Schema.moduleScope,
    checkAll_append, checkAll_flatMap_valueChecks, bind_assoc]
  rfl

theorem outcome_modelsModule_eq_error_iff {schema : Schema} {settings : Settings}
    {extension : Option ExtensionModule} {error : ExportError} :
    (modelsModule schema settings extension).outcome = .error error ↔
      forM (schema.nameScopes (.ofSettings settings)) NameScope.run = .error error := by
  rw [outcome_modelsModule]
  cases forM (schema.nameScopes (.ofSettings settings)) NameScope.run with
  | error other => simp [bind, Except.bind]
  | ok done => simp [bind, Except.bind]

namespace Registry

def names (registry : Registry) : List String :=
  registry.map (·.1)

theorem lookup_eq_none_iff {registry : Registry} {name : String} :
    registry.lookup name = none ↔ name ∉ registry.names := by
  simp [names, List.lookup_eq_none_iff]
  grind

theorem lookup_eq_some_iff {registry : Registry} (nodup : registry.names.Nodup)
    {name claimant : String} : registry.lookup name = some claimant ↔
      (name, claimant) ∈ registry := by
  rw [List.lookup_eq_some_iff]
  constructor
  · rintro ⟨earlier, later, rfl, -⟩
    exact List.mem_append_right _ List.mem_cons_self
  · intro member
    obtain ⟨earlier, later, rfl⟩ := List.append_of_mem member
    refine ⟨earlier, later, rfl, fun claim listed => ?_⟩
    rw [names, List.map_append, List.nodup_append] at nodup
    exact bne_iff_ne.mpr
      (nodup.2.2 claim.1 (List.mem_map_of_mem listed) name List.mem_cons_self).symm

theorem lookup_eq_of_perm {first second : Registry} (perm : first.Perm second)
    (nodup : first.names.Nodup) (name : String) : first.lookup name = second.lookup name := by
  have nodup' : second.names.Nodup := (perm.map _).nodup_iff.mp nodup
  apply Option.ext
  intro claimant
  rw [lookup_eq_some_iff nodup, lookup_eq_some_iff nodup']
  exact perm.mem_iff

end Registry

namespace NameScope

variable {scope : NameScope}

/-- The registry holds what was claimed, each name once. -/
structure Tracks (scope : NameScope) (seen : List NameCheck) (registry : Registry) : Prop where
  perm : registry.Perm (scope.taken seen)
  nodup : registry.names.Nodup

theorem fails_usable_iff {seen : List NameCheck} {owner name : String} {error : ExportError} :
    scope.Fails seen (.usable owner name) error ↔
      isIdentifier name = false ∧ error = .invalidIdentifier owner name := by
  constructor
  · rintro ⟨rejected⟩
    exact ⟨rejected, rfl⟩
  · rintro ⟨rejected, rfl⟩
    exact .unusable rejected

theorem fails_free_iff {seen : List NameCheck} {registry : Registry} {name claimant : String}
    {error : ExportError} (tracks : scope.Tracks seen registry) :
    scope.Fails seen (.free name claimant) error ↔
      ∃ first, registry.lookup name = some first ∧
        error = scope.collision name first claimant := by
  simp only [Registry.lookup_eq_of_perm tracks.perm tracks.nodup, List.lookup_eq_some_iff]
  constructor
  · intro fails
    cases fails with
    | taken claims earliest =>
        exact ⟨_, ⟨_, _, claims, fun claim listed =>
          bne_iff_ne.mpr (earliest claim listed).symm⟩, rfl⟩
  · rintro ⟨first, ⟨earlier, later, claims, earliest⟩, rfl⟩
    exact .taken claims fun claim listed => (bne_iff_ne.mp (earliest claim listed)).symm

theorem failsFirst_cons_iff {seen rest : List NameCheck} {check : NameCheck}
    {error : ExportError} :
    scope.FailsFirst seen (check :: rest) error ↔
      scope.Fails seen check error ∨
        (∀ other, ¬ scope.Fails seen check other) ∧
          scope.FailsFirst (seen ++ [check]) rest error := by
  constructor
  · intro first
    cases first with
    | here fails => exact .inl fails
    | later passes fails => exact .inr ⟨passes, fails⟩
  · rintro (fails | ⟨passes, fails⟩)
    · exact .here fails
    · exact .later passes fails

namespace Tracks

variable {seen : List NameCheck} {registry : Registry}

theorem start (nodup : Registry.names scope.held |>.Nodup) : scope.Tracks [] scope.held :=
  ⟨by simp [taken], nodup⟩

theorem usable (tracks : scope.Tracks seen registry) (owner name : String) :
    scope.Tracks (seen ++ [.usable owner name]) registry :=
  ⟨by simpa [taken] using tracks.perm, tracks.nodup⟩

theorem free (tracks : scope.Tracks seen registry) {name : String} (claimant : String)
    (unclaimed : registry.lookup name = none) :
    scope.Tracks (seen ++ [.free name claimant]) ((name, claimant) :: registry) := by
  constructor
  · have last : scope.taken (seen ++ [.free name claimant]) =
        scope.taken seen ++ [(name, claimant)] := by
      simp [taken]
    rw [last]
    exact (tracks.perm.cons _).trans (List.perm_append_singleton _ _).symm
  · exact List.nodup_cons.mpr ⟨Registry.lookup_eq_none_iff.mp unclaimed, tracks.nodup⟩

end Tracks

theorem checkAll_eq_error_iff {seen checks : List NameCheck} {registry : Registry}
    {error : ExportError} (tracks : scope.Tracks seen registry) :
    checkAll scope.collision registry checks = .error error ↔
      scope.FailsFirst seen checks error := by
  induction checks generalizing seen registry with
  | nil =>
      constructor
      · intro failed
        cases failed
      · intro failed
        cases failed
  | cons check rest ih =>
      rw [failsFirst_cons_iff]
      cases check with
      | usable owner name =>
          simp only [fails_usable_iff, checkAll, checkIdentifier]
          cases accepted : isIdentifier name with
          | false => simp [bind, Except.bind, eq_comm]
          | true => simpa [bind, Except.bind] using ih (tracks.usable owner name)
      | free name claimant =>
          simp only [fails_free_iff tracks, checkAll, Registry.claim]
          cases found : registry.lookup name with
          | some first => simp [eq_comm]
          | none => simpa using ih (tracks.free claimant found)

theorem run_eq_error_iff {error : ExportError} (nodup : (Registry.names scope.held).Nodup) :
    scope.run = .error error ↔ scope.FirstFailure error := by
  rw [FirstFailure, ← checkAll_eq_error_iff (Tracks.start nodup), run]
  cases checkAll scope.collision scope.held scope.checks with
  | error other => simp [bind, Except.bind]
  | ok registry => simp [bind, Except.bind, pure, Except.pure]

theorem not_nodup_taken {seen rest : List NameCheck} {registry : Registry}
    {name claimant first : String} (tracks : scope.Tracks seen registry)
    (found : registry.lookup name = some first) :
    ¬ (scope.taken (seen ++ .free name claimant :: rest)).names.Nodup := by
  intro nodup
  have listed : (name, first) ∈ scope.taken seen :=
    tracks.perm.mem_iff.mp ((Registry.lookup_eq_some_iff tracks.nodup).mp found)
  have split : scope.taken (seen ++ .free name claimant :: rest) =
      scope.taken seen ++ (name, claimant) :: rest.flatMap NameCheck.claims := by
    simp [taken]
  rw [split, Registry.names, List.map_append, List.nodup_append] at nodup
  exact nodup.2.2 name (List.mem_map_of_mem listed) name List.mem_cons_self rfl

theorem checkAll_isOk_iff {seen checks : List NameCheck} {registry : Registry}
    (tracks : scope.Tracks seen registry) :
    (∃ after, checkAll scope.collision registry checks = .ok after) ↔
      (∀ owner name, .usable owner name ∈ checks → isIdentifier name = true) ∧
        (scope.taken (seen ++ checks)).names.Nodup := by
  induction checks generalizing seen registry with
  | nil =>
      have nodup : (scope.taken seen).names.Nodup :=
        (tracks.perm.map _).nodup_iff.mp tracks.nodup
      simp [checkAll, nodup]
  | cons check rest ih =>
      cases check with
      | usable owner name =>
          simp only [checkAll, checkIdentifier]
          cases accepted : isIdentifier name with
          | false =>
              simp only [bind, Except.bind, Bool.false_eq_true, if_false, reduceCtorEq,
                exists_false, false_iff, not_and]
              intro usable
              simp [usable owner name List.mem_cons_self] at accepted
          | true =>
              have step := ih (tracks.usable owner name)
              rw [List.append_assoc] at step
              refine step.trans (and_congr_left fun _ => ?_)
              constructor
              · intro usable owner' name' member
                rcases List.mem_cons.mp member with same | member
                · cases same
                  exact accepted
                · exact usable owner' name' member
              · exact fun usable owner' name' member =>
                  usable owner' name' (List.mem_cons_of_mem _ member)
      | free name claimant =>
          simp only [checkAll, Registry.claim]
          cases found : registry.lookup name with
          | some first =>
              simp [not_nodup_taken tracks found]
          | none =>
              have step := ih (tracks.free claimant found)
              rw [List.append_assoc] at step
              simpa using step

theorem run_eq_ok_iff (nodup : (Registry.names scope.held).Nodup) : scope.run = .ok () ↔
    (∀ owner name, .usable owner name ∈ scope.checks → isIdentifier name = true) ∧
      (scope.taken scope.checks).names.Nodup := by
  refine Iff.trans ?_ (checkAll_isOk_iff (Tracks.start nodup))
  rw [run, Outcome.bind_eq_ok_iff]
  simp

end NameScope

theorem forM_run_eq_error_iff {scopes : List NameScope} {error : ExportError}
    (nodup : ∀ scope ∈ scopes, (Registry.names scope.held).Nodup) :
    forM scopes NameScope.run = .error error ↔ FirstViolation scopes error := by
  induction scopes with
  | nil =>
      constructor
      · intro failed
        cases failed
      · intro failed
        cases failed
  | cons scope rest ih =>
      obtain ⟨scopeNodup, restNodup⟩ := List.forall_mem_cons.mp nodup
      rw [List.forM_cons]
      cases ran : scope.run with
      | error other =>
          have first : scope.FirstFailure other := (NameScope.run_eq_error_iff scopeNodup).mp ran
          constructor
          · intro failed
            cases failed
            exact .here first
          · intro violated
            cases violated with
            | here fails => rw [← ran, (NameScope.run_eq_error_iff scopeNodup).mpr fails]; rfl
            | later passes fails => exact absurd first (passes other)
      | ok done =>
          have passes : ∀ other, ¬ scope.FirstFailure other := by
            intro other first
            rw [(NameScope.run_eq_error_iff scopeNodup).mpr first] at ran
            cases ran
          constructor
          · intro failed
            exact .later passes ((ih restNodup).mp failed)
          · intro violated
            cases violated with
            | here fails => exact absurd fails (passes error)
            | later passes fails => exact (ih restNodup).mpr fails

theorem reservedNames_nodup : (Registry.names reservedClaims).Nodup := by
  decide

theorem held_nodup {casing : Casing} {schema : Schema} :
    ∀ scope ∈ schema.nameScopes casing, (Registry.names scope.held).Nodup := by
  intro scope member
  rcases List.mem_cons.mp member with rfl | member
  · exact reservedNames_nodup
  · obtain ⟨entity, -, rfl⟩ := List.mem_map.mp member
    exact List.nodup_nil

theorem claims_classChecks (casing : Casing) (declared : List String) :
    (declared.flatMap (classChecks casing)).flatMap NameCheck.claims =
      declared.map fun name => (casing.className name, name) := by
  rw [List.flatMap_assoc]
  exact List.map_eq_flatMap.symm

theorem taken_moduleScope (casing : Casing) (schema : Schema) :
    (schema.moduleScope casing).taken (schema.moduleScope casing).checks =
      reservedClaims ++ schema.classSources.map fun name => (casing.className name, name) := by
  have values : (schema.enums.flatMap Enumeration.valueChecks).flatMap NameCheck.claims = [] := by
    simp [List.flatMap_assoc, Enumeration.valueChecks, List.flatMap_map]
  simp only [NameScope.taken, Schema.moduleScope, List.flatMap_append, claims_classChecks, values,
    List.append_nil]

theorem names_taken_moduleScope (casing : Casing) (schema : Schema) :
    ((schema.moduleScope casing).taken (schema.moduleScope casing).checks).names =
      reservedNames ++ schema.classSources.map casing.className := by
  rw [taken_moduleScope, Registry.names, List.map_append, List.map_map]
  rfl

theorem usable_mem_moduleScope_iff {casing : Casing} {schema : Schema} {owner name : String} :
    .usable owner name ∈ (schema.moduleScope casing).checks ↔
      (owner ∈ schema.classSources ∧ name = casing.className owner) ∨
        ∃ e ∈ schema.enums, owner = e.name ∧ name ∈ e.values := by
  simp only [Schema.moduleScope, List.mem_append, List.mem_flatMap, classChecks,
    Enumeration.valueChecks, List.mem_cons, List.not_mem_nil, or_false, NameCheck.usable.injEq,
    reduceCtorEq, List.mem_map]
  grind

theorem moduleScope_run_eq_ok_iff {casing : Casing} {schema : Schema} :
    (schema.moduleScope casing).run = .ok () ↔
      (∀ name ∈ schema.classSources.map casing.className,
        isIdentifier name = true ∧ name ∉ reservedNames) ∧
        (schema.classSources.map casing.className).Nodup ∧
        ∀ e ∈ schema.enums, ∀ value ∈ e.values, isIdentifier value = true := by
  rw [NameScope.run_eq_ok_iff reservedNames_nodup, names_taken_moduleScope, List.nodup_append]
  simp only [usable_mem_moduleScope_iff]
  constructor
  · rintro ⟨usable, -, nodup, apart⟩
    refine ⟨fun name member => ⟨?_, fun reserved => apart name reserved name member rfl⟩, nodup,
      fun e listed value member => usable e.name value (.inr ⟨e, listed, rfl, member⟩)⟩
    obtain ⟨declared, listed, rfl⟩ := List.mem_map.mp member
    exact usable declared _ (.inl ⟨listed, rfl⟩)
  · rintro ⟨classes, nodup, values⟩
    refine ⟨?_, reservedNames_nodup, nodup, ?_⟩
    · rintro owner name (⟨listed, rfl⟩ | ⟨e, listed, -, member⟩)
      · exact (classes _ (List.mem_map_of_mem listed)).1
      · exact values e listed name member
    · rintro name reserved other member rfl
      exact (classes name member).2 reserved

theorem taken_entityScope (casing : Casing) (schema : Schema) (entity : Entity) :
    (schema.entityScope casing entity).taken (schema.entityScope casing entity).checks =
      (schema.members entity).flatMap (Member.claims casing) := by
  simp only [NameScope.taken, Schema.entityScope, List.nil_append, List.flatMap_assoc]
  refine List.flatMap_congr fun member _ => ?_
  rw [Member.checks, List.flatMap_cons, NameCheck.claims_usable, List.nil_append, List.flatMap_map]
  exact List.flatMap_singleton' _

theorem flatMap_members {f : Member → List α} {g : Relation → α}
    (field : ∀ field, f (.field field) = []) (relation : ∀ r, f (.relation r) = [g r])
    (reverse : ∀ r, f (.reverse r) = []) (schema : Schema) (entity : Entity) :
    (schema.members entity).flatMap f = entity.relations.map g := by
  have none {β : Type} (items : List β) : items.flatMap (fun _ => ([] : List α)) = [] :=
    List.flatMap_eq_nil_iff.mpr fun _ _ => rfl
  simp only [Schema.members, List.flatMap_append, List.flatMap_map, field, relation, reverse, none,
    List.nil_append, List.append_nil]
  exact List.map_eq_flatMap.symm

/-- A key stands right behind its relation, which does not matter for names to be apart. -/
theorem names_taken_entityScope (casing : Casing) (schema : Schema) (entity : Entity) :
    ((schema.entityScope casing entity).taken (schema.entityScope casing entity).checks).names.Perm
      ((schema.members entity).map (Member.attributeName casing) ++
        entity.keyAttributes casing) := by
  have claimed : ((schema.entityScope casing entity).taken
      (schema.entityScope casing entity).checks).names =
      (schema.members entity).flatMap fun member =>
        member.attributeName casing :: member.keyAttributes casing := by
    rw [taken_entityScope, Registry.names, List.map_flatMap]
    refine List.flatMap_congr fun member _ => ?_
    cases member with
    | field f => rfl
    | relation r => rfl
    | reverse r => rfl
  have keys : (schema.members entity).flatMap (Member.keyAttributes casing) =
      entity.keyAttributes casing :=
    flatMap_members (fun _ => rfl) (fun _ => rfl) (fun _ => rfl) schema entity
  rw [claimed, ← keys]
  exact (List.map_append_flatMap_perm _ _ _).symm

theorem entityScope_run_eq_ok_iff {casing : Casing} {schema : Schema} {entity : Entity} :
    (schema.entityScope casing entity).run = .ok () ↔
      (∀ member ∈ schema.members entity, isIdentifier (member.attributeName casing) = true) ∧
        ((schema.members entity).map (Member.attributeName casing) ++
          entity.keyAttributes casing).Nodup := by
  have nodup : (Registry.names (schema.entityScope casing entity).held).Nodup := List.nodup_nil
  rw [NameScope.run_eq_ok_iff nodup, (names_taken_entityScope casing schema entity).nodup_iff]
  refine and_congr_left fun _ => ?_
  have listed {owner name : String} :
      .usable owner name ∈ (schema.entityScope casing entity).checks ↔
        ∃ member ∈ schema.members entity,
          owner = entity.name ∧ name = member.attributeName casing := by
    simp [Schema.entityScope, Member.checks]
  simp only [listed]
  constructor
  · exact fun usable member known => usable entity.name _ ⟨member, known, rfl, rfl⟩
  · rintro usable owner name ⟨member, known, -, rfl⟩
    exact usable member known

theorem run_entityScope_eq_ok_iff {frame : Frame} {entity : Entity} :
    (frame.schema.entityScope frame.casing entity).run = .ok () ↔ entity.MembersChecked frame := by
  rw [Entity.MembersChecked, checkMembers_eq_checkAll, NameScope.run, Outcome.bind_eq_ok_iff]
  exact exists_congr fun registry => and_iff_left rfl

theorem classSpellings_nodup {casing : Casing} {schema : Schema} {names : List String}
    (named : classNames casing schema = .ok names) :
    (schema.classSources.map casing.className).Nodup := by
  rw [classNames, claimClasses_eq_checkAll, Outcome.bind_eq_ok_iff] at named
  obtain ⟨after, checked, -⟩ := named
  have tracks : (schema.moduleScope casing).Tracks [] reservedClaims :=
    NameScope.Tracks.start reservedNames_nodup
  have nodup := ((NameScope.checkAll_isOk_iff tracks).mp ⟨after, checked⟩).2
  rw [List.nil_append, NameScope.taken, Registry.names, List.map_append, List.nodup_append,
    claims_classChecks, List.map_map] at nodup
  exact nodup.2.1

theorem runs_iff_namesInOrder {casing : Casing} {schema : Schema} :
    (∀ scope ∈ schema.nameScopes casing, scope.run = .ok ()) ↔ NamesInOrder casing schema := by
  rw [Schema.nameScopes, List.forall_mem_cons, List.forall_mem_map, moduleScope_run_eq_ok_iff]
  simp only [entityScope_run_eq_ok_iff]
  constructor
  · rintro ⟨⟨classes, nodup, values⟩, entities⟩
    exact ⟨classes, nodup, values, fun entity member => (entities entity member).1,
      fun entity member => (entities entity member).2⟩
  · rintro ⟨classes, nodup, values, attributes, attributesNodup⟩
    exact ⟨⟨classes, nodup, values⟩,
      fun entity member => ⟨attributes entity member, attributesNodup entity member⟩⟩

theorem namesInOrder_of_generated {schema : Schema} {settings : Settings}
    {extension : Option ExtensionModule} {m : Target.Module}
    (generated : (modelsModule schema settings extension).outcome = .ok m) :
    NamesInOrder (.ofSettings settings) schema := by
  rw [outcome_modelsModule, Outcome.bind_eq_ok_iff] at generated
  obtain ⟨_, ran, -⟩ := generated
  exact runs_iff_namesInOrder.mp (Outcome.forM_eq_ok_iff.mp ran)

/-- A module is made exactly if the names are in order, and otherwise the first check of a name
that fails is reported. -/
theorem made_iff_namesInOrder_and_refused_iff_firstViolation (schema : Schema)
    (settings : Settings) (extension : Option ExtensionModule) :
    ((∃ m, (modelsModule schema settings extension).outcome = .ok m) ↔
        NamesInOrder (.ofSettings settings) schema) ∧
      ∀ error, (modelsModule schema settings extension).outcome = .error error ↔
        FirstViolation (schema.nameScopes (.ofSettings settings)) error := by
  rw [outcome_modelsModule]
  constructor
  · rw [← runs_iff_namesInOrder, ← Outcome.forM_eq_ok_iff]
    simp only [Outcome.bind_eq_ok_iff, Except.ok.injEq]
    exact ⟨fun ⟨_, _, ran, _⟩ => ran, fun ran => ⟨_, (), ran, rfl⟩⟩
  · intro error
    rw [← forM_run_eq_error_iff held_nodup]
    cases forM (schema.nameScopes (.ofSettings settings)) NameScope.run with
    | ok done => simp [bind, Except.bind]
    | error other => simp [bind, Except.bind]

end Modelwright
