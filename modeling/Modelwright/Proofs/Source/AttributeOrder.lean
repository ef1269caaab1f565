import Mathlib.Data.List.Perm.Basic
import Modelwright.Proofs.Source.Marks

namespace Modelwright

/-! Attributes of a column in another order. -/

namespace Logged

/-- Both succeed or both fail; if they succeed, it is with one value and with the same warnings in
some order. -/
structure AgreesWith {ε α : Type} (x y : Logged ε α) : Prop where
  value : ∀ a, x.outcome = .ok a ↔ y.outcome = .ok a
  warnings : ∀ a, x.outcome = .ok a → x.warnings.Perm y.warnings

namespace AgreesWith

variable {ε α β : Type} {x y z : Logged ε α}

theorem refl (x : Logged ε α) : AgreesWith x x :=
  ⟨fun _ => Iff.rfl, fun _ _ => .refl _⟩

theorem trans (first : AgreesWith x y) (second : AgreesWith y z) : AgreesWith x z where
  value a := (first.value a).trans (second.value a)
  warnings a ran := (first.warnings a ran).trans (second.warnings a ((first.value a).mp ran))

theorem bind {f g : α → Logged ε β} (agrees : AgreesWith x y)
    (continues : ∀ a, AgreesWith (f a) (g a)) : AgreesWith (x >>= f) (y >>= g) where
  value b := by
    simp only [outcome_bind, Outcome.bind_eq_ok_iff, agrees.value, (continues _).value b]
  warnings b ran := by
    rw [outcome_bind, Outcome.bind_eq_ok_iff] at ran
    obtain ⟨a, first, second⟩ := ran
    rw [warnings_bind_of_ok first, warnings_bind_of_ok ((agrees.value a).mp first)]
    exact (agrees.warnings a first).append ((continues a).warnings b second)

/-- Two computations that do not see each other may change places. -/
theorem swap {γ : Type} {x : Logged ε α} {y : Logged ε β} {f : α → β → γ} {g : β → α → γ}
    (same : ∀ a b, x.outcome = .ok a → y.outcome = .ok b → f a b = g b a) :
    AgreesWith (do let a ← x; let b ← y; return f a b) (do let b ← y; let a ← x; return g b a) where
  value c := by
    simp only [outcome_bind, Outcome.bind_eq_ok_iff, outcome_pure, Except.ok.injEq]
    constructor
    · rintro ⟨a, first, b, second, rfl⟩
      exact ⟨b, second, a, first, (same a b first second).symm⟩
    · rintro ⟨b, second, a, first, rfl⟩
      exact ⟨a, first, b, second, same a b first second⟩
  warnings c ran := by
    simp only [outcome_bind, Outcome.bind_eq_ok_iff] at ran
    obtain ⟨a, first, b, second, -⟩ := ran
    rw [warnings_bind_of_ok first, warnings_bind_of_ok second, warnings_bind_of_ok second,
      warnings_bind_of_ok first, warnings_pure, warnings_pure, List.append_nil, List.append_nil]
    exact List.perm_append_comm

end AgreesWith

theorem bind_congr_of_ok {ε α β : Type} {x : Logged ε α} {f g : α → Logged ε β}
    (same : ∀ a, x.outcome = .ok a → f a = g a) : x >>= f = x >>= g := by
  obtain ⟨outcome, warnings⟩ := x
  cases outcome with
  | error e => rfl
  | ok a =>
      change Logged.bind _ f = Logged.bind _ g
      simp only [Logged.bind, same a rfl]

end Logged

namespace Source

inductive Change where
  | primaryKey
  | unique
  | updatedAt
  | column (name : String)
  | default (value : Option DefaultValue)
  | refined (type : FieldType)
  | nothing

namespace Change

def apply : Change → Field → Field
  | primaryKey, field => { field with primaryKey := true }
  | unique, field => { field with unique := true }
  | updatedAt, field => { field with updatedAt := true }
  | column name, field => { field with column := some name }
  | default value, field => { field with default := value }
  | refined type, field => { field with type := type }
  | nothing, field => field

/-- The changes do not give one part of a field two values. -/
def Apart : Change → Change → Prop
  | column _, column _ => False
  | default _, default _ => False
  | refined _, refined _ => False
  | _, _ => True

theorem apply_apply {first second : Change} (apart : first.Apart second) (field : Field) :
    second.apply (first.apply field) = first.apply (second.apply field) := by
  cases first with
  | _ =>
      cases second with
      | _ => first | rfl | exact apart.elim

end Change

def change (owner : String) (type : FieldType) (mark : Attribute) : Lowered Change :=
  let name := mark.name.text
  if name = "id" then return .primaryKey
  else if name = "unique" then return .unique
  else if name = "updatedAt" then return .updatedAt
  else if name = "map" then do
    return .column (← Logged.ofExcept (nameArgument owner mark))
  else if name = "default" then
    match mark.main? "value" with
    | none => Logged.fail (.invalidAttributeArgument owner "default")
    | some value => do
      return .default (← defaultValue? owner value)
  else match nativeType? type mark with
    | some (some type) => return .refined type
    | some none => Logged.fail (.invalidAttributeArgument owner name)
    | none =>
      if Text.startsWith "db.".toList name.toList then return .nothing
      else do
        Logged.warn (.fieldAttributeIgnored owner name)
        return .nothing

theorem applyMark_eq (owner : String) (field : Field) (mark : Attribute) :
    applyMark owner field mark = (do return (← change owner field.type mark).apply field) := by
  unfold applyMark change
  dsimp only
  -- One split for each name that an attribute can have, in the order of the tests.
  split
  · rfl
  split
  · rfl
  split
  · rfl
  split
  · simp only [bind_assoc, pure_bind, Change.apply]
  split
  · cases mark.main? "value" with
    | none => rfl
    | some value => simp only [bind_assoc, pure_bind, Change.apply]
  cases nativeType? field.type mark with
  | none =>
      dsimp only
      split
      · rfl
      · rfl
  | some refined =>
      cases refined with
      | none => rfl
      | some type => rfl

def Attribute.setsLength (mark : Attribute) : Bool :=
  mark.name.text = "db.VarChar" || mark.name.text = "db.Char"

theorem nativeType?_of_some {type : FieldType} {mark : Attribute} {refinement : Option FieldType}
    (native : nativeType? type mark = some refinement) :
    (type = .scalar .string ∧ mark.setsLength = true) ∨
      (type = .scalar .decimal ∧ mark.name.text = "db.Decimal") := by
  unfold nativeType? at native
  dsimp only at native
  split at native
  · next text => exact .inl ⟨text.2, by simpa [Attribute.setsLength] using text.1⟩
  split at native
  · next decimal => exact .inr ⟨decimal.2, decimal.1⟩
  · cases native

/-- A type that has been refined is not refined again. -/
theorem nativeType?_refined {type refined : FieldType} {mark other : Attribute}
    (native : nativeType? type mark = some (some refined)) : nativeType? refined other = none := by
  cases again : nativeType? refined other with
  | none => rfl
  | some refinement =>
      rcases nativeType?_cases native with ⟨-, length, rfl⟩ | ⟨-, precision, scale, rfl⟩
      all_goals rcases nativeType?_of_some again with ⟨different, -⟩ | ⟨different, -⟩
      all_goals cases different

/-- Attributes of two names, of which not both give the length of a text. -/
structure Independent (first second : Attribute) : Prop where
  names : first.name.text ≠ second.name.text
  lengths : ¬ (first.setsLength = true ∧ second.setsLength = true)

theorem Independent.symm {first second : Attribute} (independent : Independent first second) :
    Independent second first :=
  ⟨independent.names.symm, fun both => independent.lengths both.symm⟩

theorem Independent.nativeType?_eq_none {first second : Attribute} {type : FieldType}
    {refinement : Option FieldType} (independent : Independent first second)
    (native : nativeType? type first = some refinement) : nativeType? type second = none := by
  cases also : nativeType? type second with
  | none => rfl
  | some other =>
      rcases nativeType?_of_some native with ⟨rfl, here⟩ | ⟨rfl, here⟩
      · rcases nativeType?_of_some also with ⟨-, there⟩ | ⟨different, -⟩
        · exact absurd ⟨here, there⟩ independent.lengths
        · cases different
      · rcases nativeType?_of_some also with ⟨different, -⟩ | ⟨-, there⟩
        · cases different
        · exact absurd (here.trans there.symm) independent.names

/-- What an attribute is that asks for the change; of those that only set a mark nothing is said. -/
def Change.ComesFrom (type : FieldType) (mark : Attribute) : Change → Prop
  | .column _ => mark.name.text = "map"
  | .default _ => mark.name.text = "default"
  | .refined narrower => nativeType? type mark = some (some narrower)
  | _ => True

section Changes

variable {owner : String} {type : FieldType} {mark : Attribute}

theorem comesFrom_of_change {asked : Change} (asks : (change owner type mark).outcome = .ok asked) :
    asked.ComesFrom type mark := by
  unfold change at asks
  dsimp only at asks
  split at asks
  · cases asks
    trivial
  split at asks
  · cases asks
    trivial
  split at asks
  · cases asks
    trivial
  split at asks
  · next named =>
      simp only [Logged.outcome_bind, Outcome.bind_eq_ok_iff, Logged.outcome_pure,
        Except.ok.injEq] at asks
      obtain ⟨column, -, rfl⟩ := asks
      exact named
  split at asks
  · next named =>
      split at asks
      · cases asks
      · simp only [Logged.outcome_bind, Outcome.bind_eq_ok_iff, Logged.outcome_pure,
          Except.ok.injEq] at asks
        obtain ⟨value, -, rfl⟩ := asks
        exact named
  split at asks
  · next found =>
      cases asks
      exact found
  · cases asks
  · split at asks
    · cases asks
      trivial
    · cases asks
      trivial

/-- The type counts only for what is native to it. -/
theorem change_congr {other : FieldType} (same : nativeType? type mark = nativeType? other mark) :
    change owner type mark = change owner other mark := by
  unfold change
  rw [same]

end Changes

namespace Independent

variable {owner : String} {first second : Attribute} (independent : Independent first second)
  {field : Field} {asked : Change}
  (asks : (change owner field.type first).outcome = .ok asked)

include independent asks

theorem apart {other : Change} (also : (change owner field.type second).outcome = .ok other) :
    asked.Apart other := by
  have here := comesFrom_of_change asks
  have there := comesFrom_of_change also
  cases asked with
  | column name =>
      cases other with
      | column _ => exact independent.names (here.trans there.symm)
      | _ => trivial
  | default value =>
      cases other with
      | default _ => exact independent.names (here.trans there.symm)
      | _ => trivial
  | refined type =>
      cases other with
      | refined _ =>
          rw [Change.ComesFrom, independent.nativeType?_eq_none here] at there
          cases there
      | _ => trivial
  | _ => trivial

theorem change_apply :
    change owner (asked.apply field).type second = change owner field.type second := by
  have here := comesFrom_of_change asks
  cases asked with
  | refined type =>
      refine change_congr ?_
      rw [independent.nativeType?_eq_none here]
      exact nativeType?_refined here
  | _ => rfl

end Independent

theorem Independent.applyMark_bind {first second : Attribute}
    (independent : Independent first second) (owner : String) (field : Field) :
    (applyMark owner field first >>= fun middle => applyMark owner middle second) = (do
      let asked ← change owner field.type first
      let other ← change owner field.type second
      return other.apply (asked.apply field)) := by
  simp only [applyMark_eq, bind_assoc, pure_bind]
  refine Logged.bind_congr_of_ok fun asked asks => ?_
  rw [independent.change_apply asks]

theorem Independent.agrees {first second : Attribute} (independent : Independent first second)
    (owner : String) (field : Field) :
    Logged.AgreesWith (applyMark owner field first >>= fun middle => applyMark owner middle second)
      (applyMark owner field second >>= fun middle => applyMark owner middle first) := by
  rw [independent.applyMark_bind, independent.symm.applyMark_bind]
  exact .swap fun asked other asks also => Change.apply_apply (independent.apart asks also) field

theorem foldlM_applyMark_of_perm {first second : List Attribute} (reordered : first.Perm second)
    (independent : first.Pairwise Independent) (owner : String) (field : Field) :
    Logged.AgreesWith (first.foldlM (applyMark owner) field)
      (second.foldlM (applyMark owner) field) := by
  induction reordered generalizing field with
  | nil => exact .refl _
  | cons mark reordered ih =>
      rw [List.foldlM_cons, List.foldlM_cons]
      exact (Logged.AgreesWith.refl _).bind (ih (List.pairwise_cons.mp independent).2)
  | swap mark other rest =>
      obtain ⟨apart, -⟩ := List.pairwise_cons.mp independent
      simp only [List.foldlM_cons, ← bind_assoc]
      exact ((apart mark List.mem_cons_self).agrees owner field).bind fun _ => .refl _
  | trans reordered _ ih again =>
      have independentToo := (reordered.pairwise_iff Independent.symm).mp independent
      exact (ih independent field).trans (again independentToo field)

theorem pairwise_independent {marks : List Attribute} (names : (marks.map (·.name.text)).Nodup)
    (lengths : marks.countP (·.setsLength) ≤ 1) : marks.Pairwise Independent := by
  induction marks with
  | nil => exact .nil
  | cons mark rest ih =>
      rw [List.map_cons, List.nodup_cons] at names
      rw [List.countP_cons] at lengths
      refine .cons (fun other listed => ⟨?_, ?_⟩) (ih names.2 (by omega))
      · intro same
        exact names.1 (List.mem_map.mpr ⟨other, listed, same.symm⟩)
      · rintro ⟨here, there⟩
        have counted : 0 < rest.countP (·.setsLength) :=
          List.countP_pos_iff.mpr ⟨other, listed, there⟩
        rw [if_pos here] at lengths
        omega

/-- The order of its attributes does not decide whether a column is accepted, nor what field it
becomes, nor, apart from their order, the warnings. -/
theorem scalarField_of_reordered {model : ModelBlock} {decl : FieldDecl} {type : FieldType}
    {marks : List Attribute} (reordered : decl.attributes.Perm marks)
    (names : (decl.attributes.map (·.name.text)).Nodup)
    (lengths : decl.attributes.countP (·.setsLength) ≤ 1) :
    ∀ field, ((scalarField model decl type).outcome = .ok field ↔
        (scalarField model { decl with attributes := marks } type).outcome = .ok field) ∧
      ((scalarField model decl type).outcome = .ok field →
        (scalarField model decl type).warnings.Perm
          (scalarField model { decl with attributes := marks } type).warnings) := by
  intro field
  have agrees := foldlM_applyMark_of_perm reordered (pairwise_independent names lengths)
    (model.name.text ++ "." ++ decl.name.text)
  exact ⟨(agrees _).value field, (agrees _).warnings field⟩

def itemBlock : ModelBlock :=
  ⟨⟨"Item", ⟨6, 10⟩⟩, none, [], []⟩

def codeMarks : List Attribute := [
  ⟨⟨"id", ⟨28, 30⟩⟩, [], ⟨27, 30⟩⟩,
  ⟨⟨"db.VarChar", ⟨32, 42⟩⟩, [⟨none, .number "12"⟩], ⟨31, 46⟩⟩,
  ⟨⟨"default", ⟨48, 55⟩⟩, [⟨none, .call "sequence" []⟩], ⟨47, 67⟩⟩,
  ⟨⟨"shadow", ⟨69, 75⟩⟩, [], ⟨68, 75⟩⟩,
  ⟨⟨"map", ⟨77, 80⟩⟩, [⟨none, .text "item_code"⟩], ⟨76, 93⟩⟩]

def codeDecl : FieldDecl :=
  ⟨⟨"code", ⟨15, 19⟩⟩, ⟨⟨"String", ⟨20, 26⟩⟩, .required, none⟩, codeMarks, none, ⟨15, 93⟩⟩

def itemCodeField : Field :=
  { Field.plain "code" (.varchar 12) with primaryKey := true, column := some "item_code" }

theorem scalarField_of_reordered_code :
    codeMarks.Perm codeMarks.reverse ∧ (codeMarks.map (·.name.text)).Nodup ∧
      codeMarks.countP (·.setsLength) ≤ 1 ∧
      (scalarField itemBlock codeDecl (.scalar .string)).outcome = .ok itemCodeField ∧
      (scalarField itemBlock { codeDecl with attributes := codeMarks.reverse }
        (.scalar .string)).outcome = .ok itemCodeField ∧
      (scalarField itemBlock codeDecl (.scalar .string)).warnings.Perm
        (scalarField itemBlock { codeDecl with attributes := codeMarks.reverse }
          (.scalar .string)).warnings := by
  have reordered : codeMarks.Perm codeMarks.reverse := codeMarks.reverse_perm.symm
  have names : (codeMarks.map (·.name.text)).Nodup := by decide
  have lengths : codeMarks.countP (·.setsLength) ≤ 1 := by decide
  have lowered :
      (scalarField itemBlock codeDecl (.scalar .string)).outcome = .ok itemCodeField := by
    rfl
  obtain ⟨same, warned⟩ := @scalarField_of_reordered itemBlock codeDecl (.scalar .string)
    codeMarks.reverse reordered names lengths itemCodeField
  exact ⟨reordered, names, lengths, lowered, same.mp lowered, warned lowered⟩

end Source

end Modelwright
