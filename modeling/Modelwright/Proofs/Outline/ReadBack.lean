import Modelwright.Proofs.Outline.FirstLines

namespace Modelwright

theorem OutlineClass.addAttribute_eraseDups (name className : String) (names : List String)
    (blocks : List OutlineBlock) :
    (⟨className, names.eraseDups, blocks⟩ : OutlineClass).addAttribute name =
      ⟨className, (names ++ [name]).eraseDups, blocks⟩ := by
  rw [addAttribute, List.eraseDups_append]
  by_cases listed : name ∈ names
  · have again : [name].removeAll names = [] := by simp [List.removeAll, listed]
    rw [if_pos (by simpa using listed), again, List.eraseDups_nil, List.append_nil]
  · have fresh : [name].removeAll names = [name] := by simp [List.removeAll, listed]
    rw [if_neg (by simpa using listed), fresh]
    rfl

namespace Outline

open Modelwright.Text Modelwright.Target

theorem Binding.declared (b : Binding) :
    declaredClass? (trim (firstLine b.code.chars)) = none ∧
      declaredName? (trim (firstLine b.code.chars)) = some b.name.text := by
  obtain ⟨noClass, declared⟩ := declaredName?_of_binds b.name.identifier
    (b.binds.firstLine b.name.identifier b.code.isCode.closed)
  have apart := mt (mem_statementWords_iff b.name.identifier).mpr b.name.apart
  exact ⟨noClass, declared.trans (if_neg fun listed => apart listed.2)⟩

theorem Header.declared (h : Header) :
    declaredClass? (trim (firstLine h.code.chars)) = some h.name.text ∧
      declaredName? (trim (firstLine h.code.chars)) = none :=
  declared_of_heads h.name.identifier (h.heads.firstLine h.name.identifier h.code.isCode.closed)

theorem Decorator.declared (d : Decorator) :
    declaredClass? (trim (firstLine d.code.chars)) = none ∧
      declaredName? (trim (firstLine d.code.chars)) = none :=
  declared_of_atSign d.atSign

def Code.statement (code : Code) (margin : Margin) : Statement :=
  ⟨margin.width, trim (firstLine code.chars)⟩

def statementsOf (parts : List (Part Margin)) : List Statement :=
  parts.filterMap Part.statement?

theorem statementsOf_statement (margin : Margin) (code : Code)
    (rest : List (Part Margin)) :
    statementsOf (.statement margin code :: rest) = code.statement margin :: statementsOf rest :=
  rfl

theorem statementsOf_flatMap {Inner : Type} (entries : List Inner)
    (parts : Inner → List (Part Margin)) :
    statementsOf (entries.flatMap parts) =
      entries.flatMap fun entry => statementsOf (parts entry) :=
  List.filterMap_flatMap

namespace Scan

variable {scan : Scan} {found : List OutlineClass} {c : OutlineClass} {body deep : Nat}

theorem foldl_suite {margin : Margin}
    (still : ∀ s : Statement, margin.width < s.indent → scan.does s = scan) (suite : Suite) :
    (statementsOf (suite.map (Part.under margin))).foldl does scan = scan := by
  induction suite with
  | nil => rfl
  | cons part rest ih =>
      cases part with
      | vacant line => exact ih
      | statement step code =>
          rw [List.map_cons, Part.under, statementsOf_statement, List.foldl_cons,
            still _ (margin.width_lt_step step), ih]

/-- The scan stands in the body of a class and has found so much of it. -/
structure InClass (scan : Scan) (found : List OutlineClass) (c : OutlineClass) (body : Nat) :
    Prop where
  classes : scan.classes = found
  current : ∃ d, scan.current = some d ∧ finished d scan.block = c
  bodyIndent : scan.bodyIndent.getD body = body
  blockIndent : scan.block = none → scan.blockIndent = none

structure InBlock (scan : Scan) (found : List OutlineClass) (c : OutlineClass) (body : Nat)
    (block : OutlineBlock) (deep : Nat) : Prop where
  classes : scan.classes = found
  current : scan.current = some c
  bodyIndent : scan.bodyIndent = some body
  block : scan.block = some block
  blockIndent : scan.blockIndent.getD deep = deep

theorem finished_none (c : OutlineClass) : finished c none = c := by
  simp [finished]

theorem InClass.finish (inside : scan.InClass found c body) : scan.finish = found ++ [c] := by
  obtain ⟨d, opened, done⟩ := inside.current
  rw [Scan.finish, closeClass, opened, inside.classes]
  exact congrArg (fun last => found ++ [last]) done

theorem InBlock.inClass {block : OutlineBlock} (inside : scan.InBlock found c body block deep) :
    scan.InClass found { c with blocks := c.blocks ++ [block] } body where
  classes := inside.classes
  current := ⟨c, inside.current, by rw [inside.block]; rfl⟩
  bodyIndent := by rw [inside.bodyIndent]; rfl
  blockIndent := fun none => nomatch inside.block.symm.trans none

theorem InClass.does_eq (inside : scan.InClass found c body) (inner : 0 < body)
    (text : List Char) :
    ∃ d, scan.current = some d ∧ finished d scan.block = c ∧
      scan.does ⟨body, text⟩ =
        ({ scan with bodyIndent := some body } : Scan).bodyStatement d text := by
  obtain ⟨d, opened, done⟩ := inside.current
  refine ⟨d, opened, done, ?_⟩
  rw [does, statement, if_neg (Nat.ne_of_gt inner), opened]
  dsimp only
  rw [inside.bodyIndent, if_pos rfl]

theorem InClass.does_plain (inside : scan.InClass found c body) (inner : 0 < body)
    {text : List Char} {name : Option String} (noClass : declaredClass? text = none)
    (declared : declaredName? text = name) :
    (scan.does ⟨body, text⟩).InClass found (name.elim c c.addAttribute) body ∧
      (scan.does ⟨body, text⟩).block = none ∧
      (scan.does ⟨body, text⟩).bodyIndent = some body := by
  obtain ⟨d, opened, done, result⟩ := inside.does_eq inner text
  have blockIndent : (if scan.block.isSome then none else scan.blockIndent) = none := by
    cases known : scan.block with
    | none => exact inside.blockIndent known
    | some block => rfl
  rw [result, bodyStatement]
  simp only [noClass, declared, done, blockIndent]
  refine ⟨⟨inside.classes, ⟨_, rfl, ?_⟩, rfl, fun _ => rfl⟩, trivial, trivial⟩
  rw [finished_none]
  cases name with
  | none => rfl
  | some name => rfl

theorem InClass.does_header (inside : scan.InClass found c body) (inner : 0 < body)
    {text : List Char} {name : String} (header : declaredClass? text = some name) (deep : Nat) :
    (scan.does ⟨body, text⟩).InBlock found c body ⟨name, []⟩ deep := by
  obtain ⟨d, opened, done, result⟩ := inside.does_eq inner text
  have blockIndent : (if scan.block.isSome then none else scan.blockIndent) = none := by
    cases known : scan.block with
    | none => exact inside.blockIndent known
    | some block => rfl
  rw [result, bodyStatement]
  simp only [header, done, blockIndent]
  exact ⟨inside.classes, rfl, rfl, rfl, rfl⟩

/-- Where no block is open, what stands further in than the body says nothing. -/
theorem does_of_no_block (closed : scan.block = none) (known : scan.bodyIndent = some body)
    {s : Statement} (deeper : body < s.indent) : scan.does s = scan := by
  obtain ⟨classes, current, bodyIndent, block, blockIndent, openString, depth⟩ := scan
  obtain rfl : block = none := closed
  obtain rfl : bodyIndent = some body := known
  rw [does, statement, if_neg (Nat.ne_of_gt (Nat.zero_lt_of_lt deeper))]
  cases current with
  | none => rfl
  | some d =>
      dsimp only [Option.getD_some]
      rw [if_neg (Nat.ne_of_gt deeper), if_pos deeper]
      rfl

section Blocks

variable {block : OutlineBlock}

theorem InBlock.does_eq (inside : scan.InBlock found c body block deep) {indent : Nat}
    (deeper : body < indent) (text : List Char) :
    scan.does ⟨indent, text⟩ = scan.blockStatement indent text := by
  obtain ⟨classes, current, bodyIndent, last, blockIndent, openString, depth⟩ := scan
  obtain rfl : bodyIndent = some body := inside.bodyIndent
  obtain rfl : current = some c := inside.current
  rw [does, statement, if_neg (Nat.ne_of_gt (Nat.zero_lt_of_lt deeper))]
  dsimp only [Option.getD_some]
  rw [if_neg (Nat.ne_of_gt deeper), if_pos deeper]

theorem InBlock.does_key (inside : scan.InBlock found c body block deep) (within : body < deep)
    {text : List Char} {name : Option String} (declared : declaredName? text = name) :
    (scan.does ⟨deep, text⟩).InBlock found c body
        { block with keys := block.keys ++ name.toList } deep ∧
      (scan.does ⟨deep, text⟩).blockIndent = some deep := by
  rw [inside.does_eq within, blockStatement, inside.block]
  simp only [inside.blockIndent, if_true, declared]
  exact ⟨⟨inside.classes, inside.current, inside.bodyIndent, rfl, rfl⟩, trivial⟩

theorem InBlock.does_deeper (inside : scan.InBlock found c body block deep) (within : body < deep)
    (known : scan.blockIndent = some deep) {s : Statement} (deeper : deep < s.indent) :
    scan.does s = scan := by
  refine (inside.does_eq (Nat.lt_trans within deeper) s.text).trans ?_
  rw [blockStatement, inside.block]
  dsimp only
  rw [known, Option.getD_some, if_neg (Nat.ne_of_gt deeper), ← known, ← inside.block]

variable {margin : Margin}

theorem InBlock.foldl_entry (inside : scan.InBlock found c body block margin.width)
    (within : body < margin.width) (entry : Entry InnerClass) :
    ((statementsOf (entry.parts InnerClass.parts margin)).foldl does scan).InBlock found c body
      { block with keys := block.keys ++ entry.bound?.toList } margin.width := by
  cases entry with
  | vacant line =>
      rw [Entry.bound?, Option.toList_none, List.append_nil]
      exact inside
  | decorator d => exact (inside.does_key within d.declared.2).1
  | binding b suite =>
      obtain ⟨declared, known⟩ := inside.does_key within b.declared.2
      rw [Entry.parts, statementsOf_statement, List.foldl_cons, Code.statement,
        foldl_suite fun s => declared.does_deeper within known]
      exact declared
  | inner nested =>
      obtain ⟨passed, known⟩ := inside.does_key within nested.header.declared.2
      rw [Entry.parts, InnerClass.parts, statementsOf_statement, List.foldl_cons, Code.statement,
        foldl_suite fun s => passed.does_deeper within known]
      exact passed

theorem InBlock.foldl_entries (inside : scan.InBlock found c body block margin.width)
    (within : body < margin.width) (entries : List (Entry InnerClass)) :
    ((statementsOf (entries.flatMap (Entry.parts InnerClass.parts margin))).foldl does scan).InBlock
      found c body { block with keys := block.keys ++ boundNames entries } margin.width := by
  rw [statementsOf_flatMap]
  induction entries generalizing scan block with
  | nil =>
      rw [boundNames, List.filterMap_nil, List.append_nil]
      exact inside
  | cons entry rest ih =>
      rw [List.flatMap_cons, List.foldl_append, boundNames_cons, ← List.append_assoc]
      exact ih (inside.foldl_entry within entry)

end Blocks

section Bodies

variable {margin : Margin} {className : String} {names : List String} {blocks : List OutlineBlock}

theorem InClass.foldl_block
    (inside : scan.InClass found ⟨className, names.eraseDups, blocks⟩ margin.width)
    (inner : 0 < margin.width) (block : BlockText) :
    ((statementsOf (block.parts margin)).foldl does scan).InClass found
      ⟨className, names.eraseDups, blocks ++ [block.outline]⟩ margin.width := by
  have opened := inside.does_header inner block.header.declared.1 (margin.step block.step).width
  have filled := opened.foldl_entries (margin.width_lt_step block.step) block.entries
  exact filled.inClass

theorem InClass.foldl_entry
    (inside : scan.InClass found ⟨className, names.eraseDups, blocks⟩ margin.width)
    (inner : 0 < margin.width) (entry : Entry BlockText) :
    ((statementsOf (entry.parts BlockText.parts margin)).foldl does scan).InClass found
      ⟨className, (names ++ entry.bound?.toList).eraseDups,
        blocks ++ entry.inner?.toList.map BlockText.outline⟩ margin.width := by
  cases entry with
  | vacant line =>
      rw [Entry.bound?, Entry.inner?, Option.toList_none, Option.toList_none, List.append_nil,
        List.map_nil, List.append_nil]
      exact inside
  | decorator d =>
      rw [Entry.bound?, Entry.inner?, Option.toList_none, Option.toList_none, List.append_nil,
        List.map_nil, List.append_nil]
      exact (inside.does_plain inner d.declared.1 d.declared.2).1
  | binding b suite =>
      obtain ⟨declared, closed, known⟩ := inside.does_plain inner b.declared.1 b.declared.2
      rw [Entry.parts, statementsOf_statement, List.foldl_cons, Code.statement,
        foldl_suite fun s => does_of_no_block closed known]
      rw [Option.elim_some, OutlineClass.addAttribute_eraseDups] at declared
      rw [Entry.bound?, Entry.inner?, Option.toList_some, Option.toList_none, List.map_nil,
        List.append_nil]
      exact declared
  | inner block =>
      rw [Entry.bound?, Entry.inner?, Option.toList_none, Option.toList_some, List.append_nil]
      exact inside.foldl_block inner block

theorem InClass.foldl_entries
    (inside : scan.InClass found ⟨className, names.eraseDups, blocks⟩ margin.width)
    (inner : 0 < margin.width) (entries : List (Entry BlockText)) :
    ((statementsOf (entries.flatMap (Entry.parts BlockText.parts margin))).foldl does scan).InClass
      found ⟨className, (names ++ boundNames entries).eraseDups,
        blocks ++ (innerClasses entries).map BlockText.outline⟩ margin.width := by
  rw [statementsOf_flatMap]
  induction entries generalizing scan names blocks with
  | nil =>
      rw [boundNames, innerClasses, List.filterMap_nil, List.filterMap_nil, List.append_nil,
        List.map_nil, List.append_nil]
      exact inside
  | cons entry rest ih =>
      rw [List.flatMap_cons, List.foldl_append, boundNames_cons, innerClasses_cons,
        ← List.append_assoc, List.map_append, ← List.append_assoc]
      exact ih (inside.foldl_entry inner entry)

end Bodies

theorem finish_closeClass (scan : Scan) : scan.closeClass.finish = scan.finish := by
  rw [finish, finish]
  unfold closeClass
  cases scan.current with
  | none => rfl
  | some c => rfl

theorem does_firstColumn {text : List Char} (noClass : declaredClass? text = none) :
    scan.does ⟨0, text⟩ = scan.closeClass := by
  rw [does, statement, if_pos rfl, topLevel, noClass]

theorem inClass_header {text : List Char} {name : String} (owned : scan.Owned)
    (fresh : scan.isFresh = true) (header : declaredClass? text = some name) (body : Nat) :
    (scan.does ⟨0, text⟩).InClass scan.finish ⟨name, [], []⟩ body := by
  rw [does, statement, if_pos rfl, topLevel, closeClass_of_isFresh owned fresh, header]
  exact ⟨List.append_nil _, ⟨_, rfl, rfl⟩, rfl, fun _ => rfl⟩

theorem finish_foldl_class (owned : scan.Owned) (fresh : scan.isFresh = true)
    (c : ClassText BlockText) :
    ((statementsOf (c.parts BlockText.parts .none)).foldl does scan).finish =
      scan.finish ++ [c.outline] := by
  have opened := inClass_header owned fresh c.header.declared.1 (Margin.none.step c.step).width
  have unnamed : ([] : List String).eraseDups = [] := rfl
  rw [← unnamed] at opened
  exact (opened.foldl_entries (Margin.none.width_lt_step c.step) c.entries).finish

theorem finish_foldl_entry (owned : scan.Owned) (fresh : scan.isFresh = true)
    (entry : Entry (ClassText BlockText)) :
    ((statementsOf (entry.parts (ClassText.parts BlockText.parts) .none)).foldl does scan).finish =
      scan.finish ++ entry.inner?.toList.map ClassText.outline := by
  cases entry with
  | vacant line => exact (List.append_nil _).symm
  | decorator d =>
      refine (congrArg finish (does_firstColumn d.declared.1)).trans ?_
      rw [finish_closeClass]
      exact (List.append_nil _).symm
  | binding b suite =>
      have still (s : Statement) (inner : Margin.none.width < s.indent) :
          scan.closeClass.does s = scan.closeClass :=
        inner_statement_of_none (current_closeClass scan) inner s.text
      have first : scan.does (b.code.statement .none) = scan.closeClass :=
        does_firstColumn b.declared.1
      rw [Entry.parts, statementsOf_statement, List.foldl_cons, first, foldl_suite still,
        finish_closeClass]
      exact (List.append_nil _).symm
  | inner c => exact finish_foldl_class owned fresh c

theorem owned_foldl_does (owned : scan.Owned) (statements : List Statement) :
    (statements.foldl does scan).Owned := by
  induction statements generalizing scan with
  | nil => exact owned
  | cons s rest ih => exact ih (owned_statement owned s.indent s.text)

theorem isFresh_foldl_does (fresh : scan.isFresh = true) (statements : List Statement) :
    (statements.foldl does scan).isFresh = true := by
  induction statements generalizing scan with
  | nil => exact fresh
  | cons s rest ih => exact ih (isFresh_does fresh s)

theorem finish_foldl_module (owned : scan.Owned) (fresh : scan.isFresh = true) (m : ModuleText) :
    ((statementsOf m.parts).foldl does scan).finish =
      scan.finish ++ (innerClasses m).map ClassText.outline := by
  rw [ModuleText.parts, statementsOf_flatMap]
  induction m generalizing scan with
  | nil => exact (List.append_nil _).symm
  | cons entry rest ih =>
      rw [List.flatMap_cons, List.foldl_append, ih (owned_foldl_does owned _)
        (isFresh_foldl_does fresh _), finish_foldl_entry owned fresh, innerClasses_cons,
        List.map_append, List.append_assoc]

end Scan

end Outline

open Outline

/-- The outline of a module that is laid out in any way is what its classes declare. -/
theorem outline_moduleText (m : ModuleText) :
    outline m.text = (innerClasses m).map ClassText.outline := by
  rw [outline_eq_run, ModuleText.text, String.toList_ofList, Scan.run_parts rfl]
  exact Scan.finish_foldl_module Scan.owned_start rfl m

def fourSpaces : Step :=
  ⟨⟨[' ', ' ', ' ', ' '], by simp⟩, by decide⟩

def shopHeader : Header where
  name := ⟨"Shop", by decide +kernel, by decide⟩
  code := ⟨"class ".toList ++ ("Shop".toList ++ "(Base):".toList), by decide +kernel,
    ⟨'c', by decide +kernel, by decide⟩⟩
  heads := ⟨_, ends_cons (by decide +kernel) _, rfl⟩

def shopRows : Binding where
  name := ⟨"rows", by decide +kernel, by decide⟩
  form := .annotated
  code := ⟨"rows".toList ++ ([] ++ ':' :: " List[\nint\n] = []".toList), by decide +kernel,
    ⟨'r', by decide +kernel, by decide⟩⟩
  binds := .annotated [] _ (List.forall_mem_nil _)

def shopTable : Binding where
  name := ⟨"table", by decide +kernel, by decide⟩
  form := .assigned
  code := ⟨"table".toList ++ ([' '] ++ '=' :: " 1".toList), by decide +kernel,
    ⟨'t', by decide +kernel, by decide⟩⟩
  binds := .assigned [' '] _ (List.forall_mem_singleton.mpr (by decide)) (by decide +kernel)

def shopLoad : Binding where
  name := ⟨"load", by decide +kernel, by decide⟩
  form := .coroutine
  code := ⟨"async def ".toList ++ ("load".toList ++ ([] ++ '(' :: "self):".toList)),
    by decide +kernel, ⟨'a', by decide +kernel, by decide⟩⟩
  binds := .coroutine [] _ (List.forall_mem_nil _)

def shopText : ModuleText :=
  [.vacant ⟨"# the shop's rows".toList, by decide +kernel, by decide +kernel⟩,
    .decorator ⟨⟨"@listed".toList, by decide +kernel, ⟨'@', by decide +kernel, by decide⟩⟩,
      by decide +kernel⟩,
    .inner ⟨shopHeader, fourSpaces,
      [.binding shopRows [],
        .inner ⟨⟨⟨"Meta", by decide +kernel, by decide⟩,
            ⟨"class ".toList ++ ("Meta".toList ++ [':']), by decide +kernel,
              ⟨'c', by decide +kernel, by decide⟩⟩,
            ⟨_, ends_cons (by decide +kernel) _, rfl⟩⟩,
          fourSpaces, [.vacant ⟨[], by decide, rfl⟩, .binding shopTable []]⟩,
        .binding shopLoad [.statement fourSpaces shopTable.code],
        .binding shopRows []]⟩]

theorem outline_shopText :
    shopText.text = "# the shop's rows\n@listed\nclass Shop(Base):\n    rows: List[\nint\n] = []" ++
        "\n    class Meta:\n\n        table = 1\n    async def load(self):\n        table = 1\n" ++
        "    rows: List[\nint\n] = []\n" ∧
      outline shopText.text = [⟨"Shop", ["rows", "load"], [⟨"Meta", ["table"]⟩]⟩] := by
  refine ⟨by decide +kernel, ?_⟩
  rw [outline_moduleText]
  decide +kernel

end Modelwright
