import Modelwright.Target.Syntax

namespace Modelwright.Target

/-! The import statements of a module. -/

def LeadsImport (line : String) : Prop :=
  line.toList.head? = some 'i' ∨ line.toList.head? = some 'f'

instance (line : String) : Decidable (LeadsImport line) :=
  inferInstanceAs (Decidable (_ ∨ _))

def extensionImport (path : String) : String :=
  "import " ++ path ++ " as " ++ extensionAlias

def fixedImports : List String :=
  ["import typing", "import uuid", "from enum import Enum", "from tortoise import fields",
    "from tortoise.models import Model"]

theorem not_leadsImport_append {start : String} (nonempty : start ≠ "")
    (other : ¬ LeadsImport start) (rest : String) : ¬ LeadsImport (start ++ rest) := by
  have leads : (start ++ rest).toList.head? = start.toList.head? := by
    rw [String.toList_append]
    cases chars : start.toList with
    | nil => exact absurd (String.toList_eq_nil_iff.mp chars) nonempty
    | cons first others => rfl
  rw [LeadsImport, leads]
  exact other

theorem not_leadsImport_indent (rest : String) : ¬ LeadsImport (indent ++ rest) :=
  not_leadsImport_append (by decide) (by decide) rest

theorem not_leadsImport_class (rest : String) : ¬ LeadsImport ("class " ++ rest) :=
  not_leadsImport_append (by decide) (by decide) rest

theorem not_leadsImport_docLine (part : List Char) : ¬ LeadsImport (docLine indent part) := by
  rw [docLine]
  split
  · decide
  · exact not_leadsImport_indent _

theorem not_leadsImport_docLines (body : List String) :
    ∀ line ∈ docLines indent body, ¬ LeadsImport line := by
  intro line listed
  rw [docLines, List.cons_append, List.mem_cons, List.mem_append, List.mem_singleton] at listed
  rcases listed with rfl | inside | rfl
  · exact not_leadsImport_indent _
  · obtain ⟨text, -, inText⟩ := List.mem_flatMap.mp inside
    obtain ⟨part, -, rfl⟩ := List.mem_map.mp inText
    exact not_leadsImport_docLine part
  · exact not_leadsImport_indent _

theorem EnumClass.not_leadsImport (e : EnumClass) : ∀ line ∈ e.render, ¬ LeadsImport line := by
  intro line listed
  rw [render, List.cons_append, List.mem_cons, List.mem_append] at listed
  rcases listed with rfl | documented | valued
  · rw [String.append_assoc]
    exact not_leadsImport_class _
  · exact not_leadsImport_docLines _ line documented
  · obtain ⟨value, -, rfl⟩ := List.mem_map.mp valued
    rw [String.append_assoc, String.append_assoc]
    exact not_leadsImport_indent _

theorem MetaClass.not_leadsImport (settings : MetaClass) :
    ∀ line ∈ settings.render, ¬ LeadsImport line := by
  obtain ⟨extended, table⟩ := settings
  intro line listed
  cases listed with
  | head =>
      cases extended with
      | none => exact not_leadsImport_indent _
      | some c =>
          dsimp only
          rw [String.append_assoc, String.append_assoc]
          exact not_leadsImport_indent _
  | tail _ inside =>
      cases table with
      | none =>
          rw [List.mem_singleton.mp inside, String.append_assoc]
          exact not_leadsImport_indent _
      | some table =>
          rw [List.mem_singleton.mp inside, String.append_assoc, String.append_assoc]
          exact not_leadsImport_indent _

theorem not_leadsImport_textMethod (className : String) (key : Option String) :
    ∀ line ∈ ModelClass.textMethod className key, ¬ LeadsImport line := by
  intro line listed
  cases key with
  | none => cases listed
  | some key =>
      simp only [ModelClass.textMethod, List.mem_cons, List.not_mem_nil, or_false] at listed
      rcases listed with rfl | rfl | rfl
      · decide
      · exact not_leadsImport_indent _
      · simp only [String.append_assoc]
        exact not_leadsImport_indent _

theorem ModelClass.not_leadsImport (c : ModelClass) : ∀ line ∈ c.render, ¬ LeadsImport line := by
  intro line listed
  simp only [render, List.mem_append, List.mem_cons] at listed
  rcases listed with ((((rfl | documented) | declared) | (rfl | settings)) | method)
  · simp only [String.append_assoc]
    exact not_leadsImport_class _
  · exact not_leadsImport_docLines _ line documented
  · obtain ⟨d, -, rfl⟩ := List.mem_map.mp declared
    exact not_leadsImport_indent _
  · decide
  · exact c.settings.not_leadsImport line settings
  · exact not_leadsImport_textMethod _ _ line method

namespace Module

variable {m : Module} {line : String}

theorem not_leadsImport_classLines {block : List String} (listed : block ∈ m.classLines) :
    ∀ line ∈ block, ¬ LeadsImport line := by
  cases List.mem_append.mp listed with
  | inl enum =>
      obtain ⟨e, -, rfl⟩ := List.mem_map.mp enum
      exact e.not_leadsImport
  | inr model =>
      obtain ⟨c, -, rfl⟩ := List.mem_map.mp model
      exact c.not_leadsImport

theorem not_leadsImport_headerLines (header : ∀ line ∈ m.header, ¬ LeadsImport line) :
    ∀ line ∈ m.headerLines, ¬ LeadsImport line := by
  rw [headerLines]
  exact List.forall_mem_append.mpr
    ⟨List.forall_mem_cons.mpr ⟨by decide, header⟩, List.forall_mem_singleton.mpr (by decide)⟩

theorem not_leadsImport_exportLine : ¬ LeadsImport m.exportLine := by
  rw [exportLine, String.append_assoc]
  exact not_leadsImport_append (by decide) (by decide) _

theorem mem_lines_iff_mem_importLines (header : ∀ line ∈ m.header, ¬ LeadsImport line)
    (leads : LeadsImport line) : line ∈ m.lines ↔ line ∈ m.importLines := by
  have nonempty : line ≠ "" := by
    rintro rfl
    exact absurd leads (by decide)
  constructor
  · intro listed
    simp only [lines, List.mem_append, List.mem_cons, List.mem_flatMap, List.not_mem_nil,
      nonempty, false_or, or_false] at listed
    rcases listed with ((opening | imported) | classes) | exported
    · exact absurd leads (not_leadsImport_headerLines header line opening)
    · exact imported
    · obtain ⟨block, known, inside⟩ := classes
      exact absurd leads (not_leadsImport_classLines known line inside)
    · rw [exported] at leads
      exact absurd leads not_leadsImport_exportLine
  · intro listed
    rw [lines]
    apply List.mem_append_left
    apply List.mem_append_left
    apply List.mem_append_right
    exact List.mem_cons_of_mem _ listed

theorem toList_extensionImport (path : String) : (extensionImport path).toList =
    "import ".toList ++ (path.toList ++ " as _extension".toList) := by
  simp only [extensionImport, extensionAlias, String.toList_append, List.append_assoc]
  rfl

theorem head?_extensionImport (path : String) : (extensionImport path).toList.head? = some 'i' := by
  rw [toList_extensionImport]
  rfl

theorem extensionImport_injective : Function.Injective extensionImport := by
  intro first second same
  have chars := congrArg String.toList same
  rw [toList_extensionImport, toList_extensionImport] at chars
  apply String.toList_injective
  exact List.append_cancel_right (List.append_cancel_left chars)

theorem not_mem_fixedImports (path : String) : extensionImport path ∉ fixedImports := by
  have apart : ∀ line ∈ fixedImports,
      line.toList.length < 21 ∨ line.toList.head? = some 'f' := by decide
  intro fixed
  cases apart _ fixed with
  | inl short =>
      rw [toList_extensionImport] at short
      simp at short
      omega
  | inr leads =>
      rw [head?_extensionImport] at leads
      exact absurd leads (by decide)

theorem mem_importLines_iff (nonempty : line ≠ "") : line ∈ m.importLines ↔
    (m.usesTyping = true ∧ line = "import typing") ∨ (m.usesUuid = true ∧ line = "import uuid") ∨
      (m.usesEnum = true ∧ line = "from enum import Enum") ∨
      line ∈ ["from tortoise import fields", "from tortoise.models import Model"] ∨
      ∃ path, m.extension = some path ∧ line = extensionImport path := by
  have gap (empty : Bool) : line ∉ if empty then [] else [""] := by
    cases empty with
    | true => exact List.not_mem_nil
    | false => exact mt List.mem_singleton.mp nonempty
  have when (flag : Bool) (statement : String) :
      line ∈ (if flag then [statement] else []) ↔ flag = true ∧ line = statement := by
    cases flag with
    | true => simp
    | false => simp
  simp only [importLines, List.mem_append, gap, when, or_false, or_assoc]
  cases m.extension with
  | none => simp
  | some path => simp [nonempty, extensionImport]

section Statements

variable (header : ∀ line ∈ m.header, ¬ LeadsImport line)

include header

theorem fixed_mem_lines_iff (fixed : line ∈ fixedImports) : line ∈ m.lines ↔
    (m.usesTyping = true ∧ line = "import typing") ∨ (m.usesUuid = true ∧ line = "import uuid") ∨
      (m.usesEnum = true ∧ line = "from enum import Enum") ∨
      line ∈ ["from tortoise import fields", "from tortoise.models import Model"] := by
  have leads : ∀ line ∈ fixedImports, LeadsImport line ∧ line ≠ "" := by decide
  have other (path : String) : line ≠ extensionImport path := by
    rintro rfl
    exact not_mem_fixedImports path fixed
  rw [mem_lines_iff_mem_importLines header (leads line fixed).1,
    mem_importLines_iff (leads line fixed).2]
  simp only [other, and_false, exists_false, or_false]

theorem typing_mem_lines_iff : "import typing" ∈ m.lines ↔ m.usesTyping = true := by
  rw [fixed_mem_lines_iff header (by decide)]
  simp

theorem uuid_mem_lines_iff : "import uuid" ∈ m.lines ↔ m.usesUuid = true := by
  rw [fixed_mem_lines_iff header (by decide)]
  simp

theorem enum_mem_lines_iff : "from enum import Enum" ∈ m.lines ↔ m.usesEnum = true := by
  rw [fixed_mem_lines_iff header (by decide)]
  simp

theorem extension_mem_lines_iff (path : String) :
    extensionImport path ∈ m.lines ↔ m.extension = some path := by
  have leads : LeadsImport (extensionImport path) := .inl (head?_extensionImport path)
  have nonempty : extensionImport path ≠ "" := by
    intro empty
    have first := head?_extensionImport path
    rw [empty] at first
    cases first
  have other := not_mem_fixedImports path
  simp only [fixedImports, List.mem_cons, List.not_mem_nil, or_false, not_or] at other
  rw [mem_lines_iff_mem_importLines header leads, mem_importLines_iff nonempty]
  simp [other, extensionImport_injective.eq_iff]

end Statements

end Module

end Modelwright.Target
