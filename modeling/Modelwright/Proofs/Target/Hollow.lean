import Modelwright.Proofs.Arrangement
import Modelwright.Proofs.Target.Literals

namespace Modelwright.Target

open Skeleton

/-! Syntax trees without their free texts: the skeleton of the rendered text stays as it is. -/

namespace Expr

/-- The expression with nothing in its texts; data values are no free texts. -/
def hollow : Expr → Expr
  | .name n => .name n
  | .member of n => .member of.hollow n
  | .text _ => .text ""
  | .int value => .int value
  | .bool value => .bool value
  | .data value => .data value
  | .thunk body => .thunk body.hollow
  | .call function arguments keywords =>
    .call function.hollow (hollowAll arguments) (hollowKeywords keywords)
  | .subscript of indices => .subscript of.hollow (hollowAll indices)
where
  hollowAll : List Expr → List Expr
    | [] => []
    | e :: rest => e.hollow :: hollowAll rest
  hollowKeywords : List (String × Expr) → List (String × Expr)
    | [] => []
    | (key, e) :: rest => (key, e.hollow) :: hollowKeywords rest

inductive Quiet : Expr → Prop
  | name {n : String} (plain : Plain n) : Quiet (.name n)
  | member {of : Expr} {n : String} (quiet : Quiet of) (plain : Plain n) : Quiet (.member of n)
  | text (value : String) : Quiet (.text value)
  | int (value : Int) : Quiet (.int value)
  | bool (value : Bool) : Quiet (.bool value)
  | data (value : Json) : Quiet (.data value)
  | thunk {body : Expr} (quiet : Quiet body) : Quiet (.thunk body)
  | call {function : Expr} {arguments : List Expr} {keywords : List (String × Expr)}
      (quiet : Quiet function) (arguments_quiet : ∀ e ∈ arguments, Quiet e)
      (keys_plain : ∀ keyword ∈ keywords, Plain keyword.1)
      (values_quiet : ∀ keyword ∈ keywords, Quiet keyword.2) :
      Quiet (.call function arguments keywords)
  | subscript {of : Expr} {indices : List Expr} (quiet : Quiet of)
      (indices_quiet : ∀ e ∈ indices, Quiet e) : Quiet (.subscript of indices)

theorem hollowAll_eq_map (es : List Expr) : hollow.hollowAll es = es.map hollow := by
  induction es with
  | nil => rfl
  | cons e rest ih => rw [hollow.hollowAll, ih, List.map_cons]

theorem hollowKeywords_eq_map (keywords : List (String × Expr)) :
    hollow.hollowKeywords keywords = keywords.map fun keyword => (keyword.1, keyword.2.hollow) := by
  induction keywords with
  | nil => rfl
  | cons keyword rest ih => rw [hollow.hollowKeywords, ih, List.map_cons]

end Expr

theorem comma_plain : Plain ", " := by decide

theorem Alike.listed {xs ys : List String} (alike : List.Forall₂ Alike xs ys) :
    Alike (", ".intercalate xs) (", ".intercalate ys) :=
  .intercalate comma_plain (by decide) alike

mutual

theorem alike_dataLiteral : ∀ value : Json, Alike (dataLiteral value) (dataLiteral value)
  | .null => .of_plain (by decide)
  | .bool true => .of_plain (by decide)
  | .bool false => .of_plain (by decide)
  | .number n => .of_plain (plain_number n)
  | .string s => alike_textLiteral s s
  | .array items =>
    ((Alike.listed (forall₂_itemLiterals items)).plain_append (by decide)).append_plain (by decide)
  | .object entries =>
    ((Alike.listed (forall₂_entryLiterals entries)).plain_append (by decide)).append_plain
      (by decide)

theorem forall₂_itemLiterals : ∀ items : List Json,
    List.Forall₂ Alike (dataLiteral.itemLiterals items) (dataLiteral.itemLiterals items)
  | [] => .nil
  | item :: items => .cons (alike_dataLiteral item) (forall₂_itemLiterals items)

theorem forall₂_entryLiterals : ∀ entries : List (String × Json),
    List.Forall₂ Alike (dataLiteral.entryLiterals entries) (dataLiteral.entryLiterals entries)
  | [] => .nil
  | (key, value) :: entries =>
    .cons ((alike_textLiteral key key).append_separated (by decide) (by decide)
      (alike_dataLiteral value)) (forall₂_entryLiterals entries)

end

namespace Expr

theorem renderAll_eq_map (es : List Expr) : render.renderAll es = es.map render := by
  induction es with
  | nil => rfl
  | cons e rest ih => rw [render.renderAll, ih, List.map_cons]

theorem renderKeywords_eq_map (keywords : List (String × Expr)) :
    render.renderKeywords keywords =
      keywords.map fun keyword => keyword.1 ++ "=" ++ keyword.2.render := by
  induction keywords with
  | nil => rfl
  | cons keyword rest ih => rw [render.renderKeywords, ih, List.map_cons]

theorem forall₂_renderAll {es : List Expr} (alike : ∀ e ∈ es, Alike e.render e.hollow.render) :
    List.Forall₂ Alike (render.renderAll es) (render.renderAll (hollow.hollowAll es)) := by
  rw [hollowAll_eq_map, renderAll_eq_map, renderAll_eq_map, List.map_map]
  exact Arrangement.forall₂_map_map alike

theorem forall₂_renderKeywords {keywords : List (String × Expr)}
    (plain : ∀ keyword ∈ keywords, Plain keyword.1)
    (alike : ∀ keyword ∈ keywords, Alike keyword.2.render keyword.2.hollow.render) :
    List.Forall₂ Alike (render.renderKeywords keywords)
      (render.renderKeywords (hollow.hollowKeywords keywords)) := by
  rw [hollowKeywords_eq_map, renderKeywords_eq_map, renderKeywords_eq_map, List.map_map]
  apply Arrangement.forall₂_map_map
  intro keyword member
  exact (alike keyword member).plain_append ((plain keyword member).append (by decide))

theorem alike_render {e : Expr} (quiet : e.Quiet) : Alike e.render e.hollow.render := by
  induction quiet with
  | name plain => exact .of_plain plain
  | member quiet plain ih => exact (ih.append_plain (by decide)).append_plain plain
  | text value => exact alike_textLiteral value ""
  | int value => exact .of_plain (plain_toString_int value)
  | bool value =>
      cases value with
      | true => exact .of_plain (by decide)
      | false => exact .of_plain (by decide)
  | data value => exact alike_dataLiteral value
  | thunk quiet ih => exact ih.plain_append (by decide)
  | call quiet argumentsQuiet keysPlain valuesQuiet ihFunction ihArguments ihValues =>
      have listed := List.rel_append (forall₂_renderAll ihArguments)
        (forall₂_renderKeywords keysPlain ihValues)
      exact (ihFunction.append_separated (by decide) (by decide) (.listed listed)).append_plain
        (by decide)
  | subscript quiet indicesQuiet ihOf ihIndices =>
      have listed := forall₂_renderAll ihIndices
      exact (ihOf.append_separated (by decide) (by decide) (.listed listed)).append_plain
        (by decide)

end Expr

namespace Declaration

def hollow : Declaration → Declaration
  | .assigned n value => .assigned n value.hollow
  | .annotatedAssigned n typeHint value => .annotatedAssigned n typeHint.hollow value.hollow
  | .annotated n typeHint => .annotated n typeHint.hollow

inductive Quiet : Declaration → Prop
  | assigned {n : String} {value : Expr} (plain : Plain n) (quiet : value.Quiet) :
      Quiet (.assigned n value)
  | annotatedAssigned {n : String} {typeHint value : Expr} (plain : Plain n)
      (hintQuiet : typeHint.Quiet) (quiet : value.Quiet) :
      Quiet (.annotatedAssigned n typeHint value)
  | annotated {n : String} {typeHint : Expr} (plain : Plain n) (quiet : typeHint.Quiet) :
      Quiet (.annotated n typeHint)

theorem alike_render {d : Declaration} (quiet : d.Quiet) : Alike d.render d.hollow.render := by
  cases quiet with
  | assigned plain quiet =>
      exact (Expr.alike_render quiet).plain_append (plain.append (by decide))
  | @annotatedAssigned n typeHint value plain hintQuiet quiet =>
      have hint : Alike (n ++ ": " ++ typeHint.render) (n ++ ": " ++ typeHint.hollow.render) :=
        (Expr.alike_render hintQuiet).plain_append (plain.append (by decide))
      exact hint.append_separated (by decide) (by decide) (Expr.alike_render quiet)
  | annotated plain quiet =>
      exact (Expr.alike_render quiet).plain_append (plain.append (by decide))

end Declaration

theorem alikeLines_map_same {lines : α → String} {xs : List α}
    (alike : ∀ x ∈ xs, Alike (lines x) (lines x)) : AlikeLines (xs.map lines) (xs.map lines) :=
  .of_forall₂ (Arrangement.forall₂_map_map alike)

namespace EnumClass

def hollow (e : EnumClass) : EnumClass :=
  { e with documentation := [] }

structure Quiet (e : EnumClass) : Prop where
  name : Plain e.name
  members : ∀ value ∈ e.members, Plain value

theorem alikeLines_render {e : EnumClass} (quiet : e.Quiet) :
    AlikeLines e.render e.hollow.render := by
  have header : Plain ("class " ++ e.name ++ "(str, Enum):") :=
    (Plain.append (by decide) quiet.name).append (by decide)
  refine .append (.cons (.of_plain header) (alikeLines_docLines _ _)) ?_
  refine alikeLines_map_same fun value member => ?_
  have start : Plain (indent ++ value ++ " = ") :=
    (Plain.append (by decide) (quiet.members value member)).append (by decide)
  exact (alike_textLiteral value value).plain_append start

end EnumClass

namespace MetaClass

def hollow (settings : MetaClass) : MetaClass :=
  { settings with table := settings.table.map fun _ => "" }

def Quiet (settings : MetaClass) : Prop :=
  ∀ c ∈ settings.extended, Plain c

theorem alikeLines_body (settings : MetaClass) :
    AlikeLines settings.body settings.hollow.body := by
  unfold body hollow
  cases settings.table with
  | none => exact .of_line (.of_plain (by decide))
  | some table => exact .of_line ((alike_textLiteral table "").plain_append (by decide))

theorem alikeLines_render {settings : MetaClass} (quiet : settings.Quiet) :
    AlikeLines settings.render settings.hollow.render := by
  refine .cons ?_ (alikeLines_body settings)
  unfold hollow
  cases extended : settings.extended with
  | none => exact .of_plain (by decide)
  | some c =>
      have plain : Plain c := quiet c extended
      have base : Alike (extensionAlias ++ "." ++ c ++ "." ++ "Meta")
          (extensionAlias ++ "." ++ c ++ "." ++ "Meta") :=
        .of_plain (((Plain.append (by decide) plain).append (by decide)).append (by decide))
      exact (base.plain_append (by decide)).append_plain (by decide)

end MetaClass

namespace ModelClass

def hollow (c : ModelClass) : ModelClass :=
  { c with
    documentation := []
    declarations := c.declarations.map Declaration.hollow
    settings := c.settings.hollow }

structure Quiet (c : ModelClass) : Prop where
  name : Plain c.name
  extended : ∀ base ∈ c.extended, Plain base
  declarations : ∀ d ∈ c.declarations, d.Quiet
  settings : c.settings.Quiet
  shownKey : ∀ key ∈ c.shownKey, Plain key

theorem quiet_bases {c : ModelClass} (quiet : c.Quiet) : ∀ base ∈ c.bases, base.Quiet := by
  intro base member
  rcases List.mem_append.mp member with extended | library
  · obtain ⟨name, found, rfl⟩ := Option.map_eq_some_iff.mp (Option.mem_toList.mp extended)
    exact .member (.name (by decide)) (quiet.extended name found)
  · rw [List.mem_singleton.mp library]
    exact .name (by decide)

theorem alike_header {c : ModelClass} (quiet : c.Quiet) :
    Alike ("class " ++ c.name ++ "(" ++ ", ".intercalate (c.bases.map Expr.render) ++ "):")
      ("class " ++ c.name ++ "(" ++ ", ".intercalate (c.bases.map Expr.render) ++ "):") := by
  have bases : List.Forall₂ Alike (c.bases.map Expr.render) (c.bases.map Expr.render) :=
    Arrangement.forall₂_map_map fun base member =>
      (Expr.alike_render (quiet_bases quiet base member)).left
  have start : Plain ("class " ++ c.name ++ "(") :=
    (Plain.append (by decide) quiet.name).append (by decide)
  exact ((Alike.listed bases).plain_append start).append_plain (by decide)

theorem alikeLines_textMethod {className : String} {key : Option String} (plain : Plain className)
    (keyPlain : ∀ k ∈ key, Plain k) :
    AlikeLines (textMethod className key) (textMethod className key) := by
  cases key with
  | none => exact .nil
  | some key =>
      have body : Plain (className ++ "<\x7bself." ++ key ++ "\x7d>") :=
        ((plain.append (by decide)).append (keyPlain key rfl)).append (by decide)
      have literal : Alike
          (indent ++ indent ++ "return f" ++
            ("'" ++ (className ++ "<\x7bself." ++ key ++ "\x7d>") ++ "'"))
          (indent ++ indent ++ "return f" ++
            ("'" ++ (className ++ "<\x7bself." ++ key ++ "\x7d>") ++ "'")) :=
        (Alike.of_scans (scans_quoted body)).plain_append (by decide)
      have opening : "return f'" = "return f" ++ "'" := rfl
      have closing : "\x7d>'" = "\x7d>" ++ "'" := rfl
      refine .cons (.of_plain (by decide)) (.cons (.of_plain (by decide)) (.of_line ?_))
      simpa only [opening, closing, String.append_assoc] using literal

theorem alikeLines_render {c : ModelClass} (quiet : c.Quiet) :
    AlikeLines c.render c.hollow.render := by
  have declared : AlikeLines (c.declarations.map fun d => indent ++ d.render)
      (c.hollow.declarations.map fun d => indent ++ d.render) := by
    rw [hollow, List.map_map]
    apply AlikeLines.of_forall₂
    apply Arrangement.forall₂_map_map
    intro d member
    exact (Declaration.alike_render (quiet.declarations d member)).plain_append (by decide)
  have settings := MetaClass.alikeLines_render quiet.settings
  have method := alikeLines_textMethod quiet.name quiet.shownKey
  exact .append
    (.append (.append (.cons (alike_header quiet) (alikeLines_docLines _ _)) declared)
      (.cons (.of_plain (by decide)) settings))
    method

end ModelClass

namespace Module

def hollow (m : Module) : Module :=
  { m with enums := m.enums.map EnumClass.hollow, models := m.models.map ModelClass.hollow }

structure Quiet (m : Module) : Prop where
  header : ∀ line ∈ m.header, Plain line
  path : ∀ path ∈ m.extension, Quoteless path
  enums : ∀ e ∈ m.enums, e.Quiet
  models : ∀ c ∈ m.models, c.Quiet

theorem alikeLines_headerLines {m : Module} (plain : ∀ line ∈ m.header, Plain line) :
    AlikeLines m.headerLines m.headerLines := by
  have opening : run .code "__doc__ = '''\n".toList =
      (.long '\'' 0, "__doc__ = '''".toList) := by decide
  have inside : run (.long '\'' 0) (linesText m.header) = (.long '\'' 0, []) := by
    refine run_long_lines fun line member => ?_
    have ran := run_long_plain (plain line member) isQuote_single
    exact run_trans ran rfl
  have closing : run (.long '\'' 0) "'''\n".toList = (.code, "'''\n".toList) := by decide
  have parts : linesText m.headerLines =
      "__doc__ = '''\n".toList ++ (linesText m.header ++ "'''\n".toList) := by
    simp [headerLines, linesText]
  have ran := run_trans opening (run_trans inside closing)
  exact ⟨_, parts ▸ ran, parts ▸ ran⟩

theorem run_quoteless {text : List Char} (quoteless : ∀ c ∈ text, isQuote c = false) {mode : Mode}
    (started : mode = .code ∨ mode = .comment) :
    ∃ last, (last = .code ∨ last = .comment) ∧ run mode text = (last, text) := by
  induction text generalizing mode with
  | nil => exact ⟨mode, started, rfl⟩
  | cons c rest ih =>
      obtain ⟨noQuote, others⟩ := List.forall_mem_cons.mp quoteless
      have stepped : ∃ next, (next = .code ∨ next = .comment) ∧ step mode c = (next, [c]) := by
        rcases started with rfl | rfl
        · by_cases mark : c = '#'
          · exact ⟨.comment, .inr rfl, by simp [step, codeStep, mark, isQuote]⟩
          · exact ⟨.code, .inl rfl, by simp [step, codeStep, noQuote, mark]⟩
        · cases ends : endsLine c with
          | true => exact ⟨.code, .inl rfl, by simp [step, ends]⟩
          | false => exact ⟨.comment, .inr rfl, by simp [step, ends]⟩
      obtain ⟨next, nextMode, stepped⟩ := stepped
      obtain ⟨last, lastMode, ran⟩ := ih others nextMode
      exact ⟨last, lastMode, run_step stepped ran⟩

theorem alikeLines_of_quoteless {line : String} (quoteless : Quoteless line) :
    AlikeLines [line] [line] := by
  obtain ⟨last, mode, ran⟩ := run_quoteless quoteless (.inl rfl)
  have ends : run last ['\n'] = (.code, ['\n']) := by
    rcases mode with rfl | rfl
    · rfl
    · rfl
  have whole : run .code (linesText [line]) = (.code, line.toList ++ ['\n']) := by
    simpa [linesText] using run_trans ran ends
  exact ⟨_, whole, whole⟩

theorem alikeLines_of_plain {lines : List String} (plain : ∀ line ∈ lines, Plain line) :
    AlikeLines lines lines := by
  apply AlikeLines.of_forall₂
  rw [List.forall₂_same]
  exact fun line member => .of_plain (plain line member)

theorem plain_standard (typing uuid enum : Bool) :
    ∀ line ∈ (if typing then ["import typing"] else []) ++ (if uuid then ["import uuid"] else []) ++
      (if enum then ["from enum import Enum"] else []), Plain line := by
  cases typing <;> cases uuid <;> cases enum <;> decide

theorem alikeLines_importLines {m : Module} (quiet : m.Quiet) :
    AlikeLines m.importLines m.importLines := by
  have gap (empty : Bool) :
      AlikeLines (if empty then [] else [""]) (if empty then [] else [""]) := by
    cases empty with
    | true => exact .nil
    | false => exact alikeLines_of_plain (by decide)
  unfold importLines
  refine .append (.append (.append (alikeLines_of_plain (plain_standard _ _ _)) (gap _))
    (alikeLines_of_plain (by decide))) ?_
  · cases found : m.extension with
    | none => exact .nil
    | some path =>
        refine .cons (.of_plain (by decide)) (alikeLines_of_quoteless ?_)
        have start : Quoteless "import " := by decide
        have suffix : Quoteless (" as " ++ extensionAlias) := by decide
        rw [String.append_assoc]
        exact (start.append (quiet.path path found)).append suffix

theorem alike_exportLine (m : Module) : Alike m.exportLine m.hollow.exportLine := by
  have names : m.hollow.exportLine = m.exportLine := by
    simp only [exportLine, hollow, List.map_map]
    rfl
  have listed : List.Forall₂ Alike
      ((m.enums.map (·.name) ++ m.models.map (·.name)).map textLiteral)
      ((m.enums.map (·.name) ++ m.models.map (·.name)).map textLiteral) :=
    Arrangement.forall₂_map_map fun name _ => alike_textLiteral name name
  rw [names]
  exact ((Alike.listed listed).plain_append (by decide)).append_plain (by decide)

theorem alikeLines_classLines {m : Module} (quiet : m.Quiet) :
    List.Forall₂ AlikeLines m.classLines m.hollow.classLines := by
  simp only [classLines, hollow, List.map_map]
  apply List.rel_append
  · exact Arrangement.forall₂_map_map fun e member =>
      EnumClass.alikeLines_render (quiet.enums e member)
  · exact Arrangement.forall₂_map_map fun c member =>
      ModelClass.alikeLines_render (quiet.models c member)

theorem alikeLines_lines {m : Module} (quiet : m.Quiet) : AlikeLines m.lines m.hollow.lines := by
  have empty : Alike "" "" := .of_plain (by decide)
  have classes : AlikeLines (m.classLines.flatMap fun block => "" :: "" :: block)
      (m.hollow.classLines.flatMap fun block => "" :: "" :: block) := by
    rw [List.flatMap_def, List.flatMap_def]
    apply AlikeLines.flatten
    rw [List.forall₂_map_left_iff, List.forall₂_map_right_iff]
    exact (alikeLines_classLines quiet).imp fun _ _ alike => .cons empty (.cons empty alike)
  exact .append
    (.append
      (.append (alikeLines_headerLines quiet.header)
        (.cons empty (alikeLines_importLines quiet)))
      classes)
    (.cons empty (.cons empty (.of_line (alike_exportLine m))))

theorem skeleton_eq_none {m : Module}
    (inside : (run .code (linesText m.lines)).1.isOutside = false) : skeleton m.render = none := by
  have chars : m.render.toList = linesText m.lines := toList_intercalate_lines _ _
  rw [skeleton, chars]
  simp only [inside, Bool.false_eq_true, if_false]

/-- A quiet module and the same module without its free texts have one skeleton. -/
theorem skeleton_hollow {m : Module} (quiet : m.Quiet) :
    ∃ text, skeleton m.render = some text ∧ skeleton m.hollow.render = some text :=
  skeleton_eq_of_alikeLines (alikeLines_lines quiet)

end Module

end Modelwright.Target
