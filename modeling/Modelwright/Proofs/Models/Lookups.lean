import Modelwright.Proofs.Models.Bindings
import Modelwright.Proofs.Target.Scope

namespace Modelwright

open Modelwright.Target

/-! Which names the body of a generated class looks up, and when an attribute hides one of them from
the lines behind it. -/

namespace Member

def reads (casing : Casing) : Member → List String
  | field f => "fields" :: (f.type.enumName?.map casing.className).toList
  | relation _ => ["fields", "typing"]
  | reverse _ => ["fields"]

/-- An accessor is annotated only. -/
def binds : Member → Bool
  | reverse _ => false
  | _ => true

def DrawsRandomText : Member → Prop
  | field f => f.default = some (.generator .uuid) ∧ f.type.isText = true
  | _ => False

end Member

namespace Entity

end Entity

variable {frame : Frame} {entity : Entity}

/-- Nothing is looked up, neither at once nor when a function is called. -/
def Target.Expr.Closed (e : Expr) : Prop :=
  e.reads = [] ∧ e.deferred = []

theorem closed_of_mem_flag {flag : Bool} {key : String} {keyword : Keyword}
    (member : keyword ∈ if flag then [] else [(key, Expr.bool true)]) : keyword.2.Closed := by
  split at member
  · cases member
  · rw [List.mem_singleton.mp member]
    exact ⟨rfl, rfl⟩

theorem closed_of_mem_generatorKeywords? {field : Field} {generator : Generator}
    {keywords : List Keyword} (found : generatorKeywords? field generator = some keywords)
    {keyword : Keyword} (member : keyword ∈ keywords) :
    keyword.2.Closed ∨
      keyword.2 = randomText ∧ generator = .uuid ∧ field.type.isText = true := by
  cases generator with
  | autoincrement =>
      obtain rfl := Option.some.inj found
      exact .inl (closed_of_mem_flag member)
  | now =>
      simp only [generatorKeywords?, Option.ite_none_right_eq_some, Option.some.injEq] at found
      obtain ⟨-, rfl⟩ := found
      exact .inl (closed_of_mem_flag member)
  | uuid =>
      simp only [generatorKeywords?, Option.ite_none_right_eq_some, Option.some.injEq] at found
      obtain ⟨text, rfl⟩ := found
      rw [List.mem_singleton.mp member]
      exact .inr ⟨rfl, rfl, text⟩
  | cuid => cases found
  | dbGenerated =>
      obtain rfl := Option.some.inj found
      exact .inl (@closed_of_mem_flag false _ _ member)

theorem closed_literalKeyword (casing : Casing) (type : FieldType) (value : Json) :
    (literalKeyword casing type value).2.Closed ∨
      ∃ name text, type = .enumeration name ∧
        (literalKeyword casing type value).2 = .member (.name (casing.className name)) text := by
  have literal : (literalDefault casing type value).Closed ∨
      ∃ name text, type = .enumeration name ∧
        literalDefault casing type value = .member (.name (casing.className name)) text := by
    unfold literalDefault
    split
    · exact .inr ⟨_, _, rfl, rfl⟩
    · left
      split
      all_goals exact ⟨rfl, rfl⟩
    · left
      split
      · split
        all_goals exact ⟨rfl, rfl⟩
      · exact ⟨rfl, rfl⟩
    · exact .inl ⟨rfl, rfl⟩
  rw [literalKeyword]
  split
  · next container =>
      left
      generalize literalDefault casing type value = e at container ⊢
      cases e with
      | data data => exact ⟨rfl, rfl⟩
      | _ => cases container.2
  · exact literal

/-- What an argument of a field looks up: nothing, the class of the enumeration, or what it takes to
make a random text once it is called. -/
theorem argument_cases {field : Field} {keyword : Keyword}
    (member : keyword ∈ field.arguments frame) :
    keyword.2.Closed ∨
      (∃ name, field.type = .enumeration name ∧
        (keyword.2 = .name (frame.casing.className name) ∨
          ∃ text, keyword.2 = .member (.name (frame.casing.className name)) text)) ∨
      keyword.2 = randomText ∧ (Member.field field).DrawsRandomText := by
  obtain ⟨key, value⟩ := keyword
  simp only [Field.arguments, Field.updatedAtArguments, List.mem_append, mem_textKeyword,
    mem_flagKeyword] at member
  rcases member with ((((((⟨-, _, -, rfl⟩ | member) | member) | member) | ⟨-, -, rfl⟩) |
    ⟨-, -, rfl⟩) | ⟨-, -, rfl⟩) | ⟨-, _, -, rfl⟩
  · exact .inl ⟨rfl, rfl⟩
  · rcases mem_keyKeywords member with same | same
    all_goals
      cases same
      exact .inl ⟨rfl, rfl⟩
  · rcases mem_typeKeywords member with ⟨-, size, rfl⟩ | ⟨name, typed, -, rfl⟩
    · exact .inl ⟨rfl, rfl⟩
    · exact .inr (.inl ⟨name, typed, .inl rfl⟩)
  · unfold Field.defaultArguments at member
    cases default : field.default with
    | none => simp [default] at member
    | some source =>
        cases source with
        | literal literal =>
            simp only [default, List.mem_singleton] at member
            rcases closed_literalKeyword frame.casing field.type literal with closed | named
            · exact .inl (member ▸ closed)
            · obtain ⟨name, text, typed, written⟩ := named
              exact .inr (.inl ⟨name, typed, .inr ⟨text, member ▸ written⟩⟩)
        | generator generator =>
            cases found : generatorKeywords? field generator with
            | none => simp [default, found] at member
            | some keywords =>
                simp only [default, found, Option.getD_some] at member
                rcases closed_of_mem_generatorKeywords? found member with closed | random
                · exact .inl closed
                · obtain ⟨same, rfl, text⟩ := random
                  exact .inr (.inr ⟨same, default, text⟩)
  all_goals exact .inl ⟨rfl, rfl⟩

theorem randomText_mem_arguments {field : Field} (draws : (Member.field field).DrawsRandomText) :
    ("default", randomText) ∈ field.arguments frame := by
  obtain ⟨default, text⟩ := draws
  rw [default_mem_arguments_iff, Field.defaultArguments, default]
  simp [generatorKeywords?, text]

theorem relation_mem_kept_iff {relation : Relation} :
    .relation relation ∈ entity.kept frame ↔ relation ∈ entity.relations ∧
      frame.overrides entity (frame.casing.valueName relation.name) = false := by
  simp [Entity.kept, mem_members_iff, Member.attributeName, Member.sourceName]

end Modelwright
