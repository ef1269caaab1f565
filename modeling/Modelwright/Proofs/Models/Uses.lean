import Modelwright.Proofs.Models.Lookups

namespace Modelwright

open Modelwright.Target

variable {frame : Frame}

theorem mem_declarations_generatedModule_iff {d : Declaration} :
    d ∈ frame.generatedModule.models.flatMap (·.declarations) ↔
      ∃ entity ∈ frame.schema.entities, ∃ member ∈ entity.kept frame,
        d = member.declaration frame entity.name := by
  simp only [Frame.generatedModule, assemble, List.flatMap_map, List.mem_flatMap,
    declarations_generatedClass, List.mem_map, eq_comm (a := d)]

theorem Field.mem_requests_iff {field : Field} {library : Library} :
    library ∈ field.requests ↔ library = .uuid ∧ (Member.field field).DrawsRandomText := by
  unfold Field.requests Member.DrawsRandomText
  cases default : field.default with
  | none => simp [default]
  | some value =>
      cases value with
      | literal value => simp [default]
      | generator generator =>
          cases generator with
          | uuid => simp [default, generatorKeywords?, Generator.libraries, and_comm]
          | _ => simp [default, Generator.libraries]

/-- A relation is annotated with a name of `typing`; a random text is made by `uuid`. -/
theorem Member.mem_requests_iff {member : Member} {library : Library} :
    library ∈ member.requests ↔
      (library = .typing ∧ ∃ relation, member = .relation relation) ∨
        library = .uuid ∧ member.DrawsRandomText := by
  cases member with
  | field f => simp [Member.requests, Field.mem_requests_iff]
  | relation r => simp [Member.requests, Member.DrawsRandomText]
  | reverse r => simp [Member.requests, Member.DrawsRandomText]

theorem Entity.mem_requests_iff {entity : Entity} {library : Library} :
    library ∈ entity.requests frame ↔
      (library = .extension ∧ (entity.generatedClass frame).extended.isSome = true) ∨
        ∃ member ∈ entity.kept frame, library ∈ member.requests := by
  have extended : library ∈ ((frame.extensionClass? (frame.casing.className entity.name)).map
      fun _ => Library.extension).toList ↔
        library = .extension ∧ (entity.generatedClass frame).extended.isSome = true := by
    simp only [Entity.generatedClass, Option.isSome_map]
    cases frame.extensionClass? (frame.casing.className entity.name) with
    | none => simp
    | some c => simp
  rw [Entity.requests, List.mem_append, extended]
  refine or_congr_right ?_
  simp only [List.mem_flatMap, Entity.kept, List.mem_filter, Member.composedRequests,
    Frame.overrides]
  refine exists_congr fun member => ?_
  split
  · next left => simp [left]
  · next own => simp [own]

theorem Frame.mem_requests_iff {library : Library} :
    library ∈ frame.requests ↔ (library = .enums ∧ frame.schema.enums ≠ []) ∨
      ∃ entity ∈ frame.schema.entities, library ∈ entity.requests frame := by
  rw [Frame.requests, List.mem_append, List.mem_flatMap, List.mem_flatMap]
  refine or_congr_left ?_
  cases frame.schema.enums with
  | nil => simp
  | cons e rest => simp

theorem has_requests_iff {library : Library} :
    ((({} : UsedImports).addAll frame.requests).has library = true) ↔ library ∈ frame.requests := by
  rw [UsedImports.has_addAll]
  cases library with
  | _ => simp [UsedImports.has]

theorem usesTyping_iff : frame.generatedModule.usesTyping = true ↔
    ∃ entity ∈ frame.schema.entities, ∃ relation, .relation relation ∈ entity.kept frame := by
  refine Iff.trans (has_requests_iff : _ ↔ Library.typing ∈ frame.requests) ?_
  simp [Frame.mem_requests_iff, Entity.mem_requests_iff, Member.mem_requests_iff]

theorem usesUuid_iff : frame.generatedModule.usesUuid = true ↔
    ∃ entity ∈ frame.schema.entities, ∃ member ∈ entity.kept frame, member.DrawsRandomText := by
  refine Iff.trans (has_requests_iff : _ ↔ Library.uuid ∈ frame.requests) ?_
  simp [Frame.mem_requests_iff, Entity.mem_requests_iff, Member.mem_requests_iff]

theorem usesEnum_iff : frame.generatedModule.usesEnum = true ↔ frame.schema.enums ≠ [] := by
  refine Iff.trans (has_requests_iff : _ ↔ Library.enums ∈ frame.requests) ?_
  simp [Frame.mem_requests_iff, Entity.mem_requests_iff, Member.mem_requests_iff]

theorem extension_generatedModule_iff {path : String} :
    frame.generatedModule.extension = some path ↔
      frame.extension.map (·.importPath) = some path ∧
        ∃ c ∈ frame.generatedModule.models, c.extended.isSome = true := by
  have used : (({} : UsedImports).addAll frame.requests).extension = true ↔
      ∃ c ∈ frame.generatedModule.models, c.extended.isSome = true := by
    refine Iff.trans (has_requests_iff : _ ↔ Library.extension ∈ frame.requests) ?_
    simp [Frame.mem_requests_iff, Entity.mem_requests_iff, Member.mem_requests_iff,
      Frame.generatedModule, assemble]
  rw [← used]
  show (if _ then _ else none) = some path ↔ _
  simp [and_comm]

end Modelwright
