import Modelwright.Outline.Scan
import Modelwright.Proofs.Models.References

namespace Modelwright

open Modelwright.Target

/-! Precedence of hand-written classes. -/

namespace Target

def MetaClass.keys (settings : MetaClass) : List String :=
  (settings.table.map fun _ => "table").toList

def ModelClass.boundNames (c : ModelClass) : List String :=
  c.declarations.map (·.name) ++ "Meta" :: (c.shownKey.map fun _ => "__str__").toList

end Target

variable {frame : Frame}

theorem name_declaration (entity : String) (member : Member) :
    (member.declaration frame entity).name = member.attributeName frame.casing := by
  cases member with
  | field f => rfl
  | relation r => rfl
  | reverse r => rfl

def Frame.overrides (frame : Frame) (entity : Entity) (name : String) : Bool :=
  (frame.extensionClass? (frame.casing.className entity.name)).any (·.declares name)

def Entity.kept (frame : Frame) (entity : Entity) : List Member :=
  (frame.schema.members entity).filter fun member =>
    !frame.overrides entity (member.attributeName frame.casing)

theorem declarations_generatedClass (entity : Entity) :
    (entity.generatedClass frame).declarations =
      (entity.kept frame).map (·.declaration frame entity.name) := by
  simp only [Entity.generatedClass, Entity.kept]
  induction frame.schema.members entity with
  | nil => rfl
  | cons member rest ih =>
      cases declared : frame.overrides entity (member.attributeName frame.casing) with
      | true =>
          rw [List.filter_cons_of_neg (by simp [declared]), ← ih]
          rw [Frame.overrides] at declared
          exact List.filterMap_cons_none (by simp [Member.composed?, declared])
      | false =>
          rw [List.filter_cons_of_pos (by simp [declared]), List.map_cons, ← ih]
          rw [Frame.overrides] at declared
          exact List.filterMap_cons_some (by simp [Member.composed?, declared])

theorem generatedClass_mem_models {schema : Schema} {settings : Settings}
    {extension : Option ExtensionModule} {m : Target.Module} {entity : Entity}
    (generated : (modelsModule schema settings extension).outcome = .ok m)
    (listed : entity ∈ schema.entities) :
    entity.generatedClass ⟨schema, settings, extension⟩ ∈ m.models := by
  obtain ⟨-, -, -, rfl⟩ := outcome_modelsModule_eq_ok_iff.mp generated
  exact List.mem_map_of_mem listed

def tag : Entity :=
  ⟨"Tag", none, none,
    [{ Field.plain "id" (.scalar .int) with primaryKey := true },
      Field.plain "label" (.scalar .string)], []⟩

end Modelwright
