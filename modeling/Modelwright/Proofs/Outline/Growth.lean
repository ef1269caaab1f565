import Modelwright.Proofs.Outline.Statements

namespace Modelwright

/-- The class under the same name, with all its attributes. -/
structure OutlineClass.Extends (c earlier : OutlineClass) : Prop where
  name : c.name = earlier.name
  attributes : ∀ declared ∈ earlier.attributes, declared ∈ c.attributes

theorem OutlineClass.mem_addAttribute (c : OutlineClass) (name : String) :
    name ∈ (c.addAttribute name).attributes := by
  unfold addAttribute
  split
  next listed => exact List.contains_iff_mem.mp listed
  next => exact List.mem_append_right _ List.mem_cons_self

namespace OutlineClass.Extends

variable {first second third : OutlineClass}

theorem refl (c : OutlineClass) : c.Extends c :=
  ⟨rfl, fun _ listed => listed⟩

theorem trans (later : third.Extends second) (earlier : second.Extends first) :
    third.Extends first :=
  ⟨later.name.trans earlier.name,
    fun declared listed => later.attributes declared (earlier.attributes declared listed)⟩

theorem addAttribute (c : OutlineClass) (name : String) : (c.addAttribute name).Extends c := by
  unfold OutlineClass.addAttribute
  split
  · exact .refl c
  · exact ⟨rfl, fun _ listed => List.mem_append_left _ listed⟩

end OutlineClass.Extends

namespace Outline

/-- At each place of the earlier list there still is a class, which extends the one there. -/
def Grows (earlier later : List OutlineClass) : Prop :=
  ∀ (index : Nat) (c : OutlineClass), earlier[index]? = some c →
    ∃ d : OutlineClass, later[index]? = some d ∧ d.Extends c

namespace Grows

variable {first second third : List OutlineClass}

theorem refl (classes : List OutlineClass) : Grows classes classes :=
  fun _ c found => ⟨c, found, .refl c⟩

theorem trans (start : Grows first second) (more : Grows second third) : Grows first third := by
  intro index c found
  obtain ⟨d, known, grown⟩ := start index c found
  obtain ⟨e, final, further⟩ := more index d known
  exact ⟨e, final, further.trans grown⟩

theorem append (classes more : List OutlineClass) : Grows classes (classes ++ more) := by
  intro index c found
  obtain ⟨bound, -⟩ := List.getElem?_eq_some_iff.mp found
  exact ⟨c, by rw [List.getElem?_append_left bound, found], .refl c⟩

theorem last {c d : OutlineClass} (classes : List OutlineClass) (grown : d.Extends c) :
    Grows (classes ++ [c]) (classes ++ [d]) := by
  intro index e found
  by_cases bound : index < classes.length
  · rw [List.getElem?_append_left bound] at found
    exact ⟨e, by rw [List.getElem?_append_left bound, found], .refl e⟩
  · have behind := Nat.le_of_not_lt bound
    rw [List.getElem?_append_right behind, List.getElem?_singleton] at found
    split at found
    next final =>
      obtain rfl := Option.some.inj found
      exact ⟨d, by rw [List.getElem?_append_right behind, List.getElem?_singleton, if_pos final],
        grown⟩
    next => cases found

end Grows

namespace Scan

variable {scan : Scan}

/-- The classes found so far, with the one that is open. -/
def listed (scan : Scan) : List OutlineClass :=
  scan.classes ++ scan.current.toList

theorem extends_finished (c : OutlineClass) (block : Option OutlineBlock) :
    (finished c block).Extends c :=
  ⟨rfl, fun _ listed => listed⟩

theorem current_closeClass (scan : Scan) : scan.closeClass.current = none := by
  unfold closeClass
  split
  next closed => exact closed
  next => rfl

theorem grows_closeClass (scan : Scan) : Grows scan.listed scan.closeClass.classes := by
  unfold closeClass listed
  cases scan.current with
  | none =>
      rw [Option.toList_none, List.append_nil]
      exact .refl _
  | some c => exact .last _ (extends_finished c scan.block)

theorem length_closeClass (scan : Scan) : scan.closeClass.classes.length = scan.listed.length := by
  unfold closeClass listed
  cases scan.current with
  | none => simp
  | some c => simp

theorem listed_topLevel (scan : Scan) (text : List Char) :
    (scan.topLevel text).listed =
      scan.closeClass.classes ++ ((declaredClass? text).map (⟨·, [], []⟩)).toList := by
  unfold topLevel
  dsimp only
  cases declaredClass? text with
  | none => rw [listed, current_closeClass]; rfl
  | some name => rfl

theorem bodyStatement_eq (scan : Scan) (c : OutlineClass) (text : List Char) :
    ∃ d, (scan.bodyStatement c text).current = some d ∧ d.Extends c ∧
      (scan.bodyStatement c text).classes = scan.classes ∧
      (scan.bodyStatement c text).bodyIndent = scan.bodyIndent := by
  have kept := extends_finished c scan.block
  unfold bodyStatement
  dsimp only
  cases declaredClass? text with
  | some name => exact ⟨_, rfl, kept, rfl, rfl⟩
  | none =>
      cases declaredName? text with
      | none => exact ⟨_, rfl, kept, rfl, rfl⟩
      | some name => exact ⟨_, rfl, (OutlineClass.Extends.addAttribute _ name).trans kept, rfl, rfl⟩

theorem blockStatement_eq (scan : Scan) (indent : Nat) (text : List Char) :
    (scan.blockStatement indent text).current = scan.current ∧
      (scan.blockStatement indent text).classes = scan.classes ∧
      (scan.blockStatement indent text).bodyIndent = scan.bodyIndent := by
  unfold blockStatement
  cases scan.block with
  | none => exact ⟨rfl, rfl, rfl⟩
  | some block => exact ⟨rfl, rfl, rfl⟩

theorem inner_statement {c : OutlineClass} {indent : Nat} (opened : scan.current = some c)
    (inner : 0 < indent) (text : List Char) :
    ∃ d, (scan.statement indent text).current = some d ∧ d.Extends c ∧
      (scan.statement indent text).classes = scan.classes ∧
      (scan.statement indent text).bodyIndent = some (scan.bodyIndent.getD indent) := by
  rw [statement, if_neg (Nat.ne_of_gt inner), opened]
  dsimp only
  split
  · exact bodyStatement_eq { scan with bodyIndent := some (scan.bodyIndent.getD indent) } c text
  · split
    · obtain ⟨current, classes, bodyIndent⟩ := blockStatement_eq
        { scan with current := some c, bodyIndent := some (scan.bodyIndent.getD indent) }
        indent text
      exact ⟨c, current, .refl c, classes, bodyIndent⟩
    · exact ⟨c, rfl, .refl c, rfl, rfl⟩

theorem inner_statement_of_none {indent : Nat} (closed : scan.current = none)
    (inner : 0 < indent) (text : List Char) : scan.statement indent text = scan := by
  rw [statement, if_neg (Nat.ne_of_gt inner), closed]

theorem grows_does (scan : Scan) (s : Statement) : Grows scan.listed (scan.does s).listed := by
  unfold does
  rcases Nat.eq_zero_or_pos s.indent with top | inner
  · rw [statement, if_pos top, listed_topLevel]
    exact (grows_closeClass scan).trans (.append _ _)
  · cases opened : scan.current with
    | none =>
        rw [inner_statement_of_none opened inner]
        exact .refl _
    | some c =>
        obtain ⟨d, current, grown, classes, -⟩ := inner_statement opened inner s.text
        rw [listed, listed, current, classes, opened]
        exact .last _ grown

end Scan

def Statement.isHeader (s : Statement) : Bool :=
  s.indent = 0 && (declaredClass? s.text).isSome

namespace Scan

theorem length_listed_does (scan : Scan) (s : Statement) :
    (scan.does s).listed.length = scan.listed.length + if s.isHeader then 1 else 0 := by
  unfold does Statement.isHeader
  rcases Nat.eq_zero_or_pos s.indent with top | inner
  · rw [statement, if_pos top, listed_topLevel, List.length_append, length_closeClass]
    cases declaredClass? s.text with
    | none => simp
    | some name => simp [top]
  · have noHeader : (decide (s.indent = 0) && (declaredClass? s.text).isSome) = false := by
      simp [Nat.ne_of_gt inner]
    rw [noHeader]
    cases opened : scan.current with
    | none =>
        rw [inner_statement_of_none opened inner]
        rfl
    | some c =>
        obtain ⟨d, current, -, classes, -⟩ := inner_statement opened inner s.text
        rw [listed, listed, current, classes, opened]
        simp

theorem length_listed_foldl (scan : Scan) (before : List Statement) :
    (before.foldl does scan).listed.length =
      scan.listed.length + before.countP Statement.isHeader := by
  induction before generalizing scan with
  | nil => rfl
  | cons s rest ih =>
      rw [List.foldl_cons, ih, length_listed_does, List.countP_cons, Nat.add_assoc,
        Nat.add_comm (List.countP _ rest)]

theorem listed_settled (scan : Scan) : scan.settled.listed = scan.listed := rfl

theorem grows_foldl_does (scan : Scan) (before : List Statement) :
    Grows scan.listed (before.foldl does scan).listed := by
  induction before generalizing scan with
  | nil => exact .refl _
  | cons s rest ih => exact (grows_does scan s).trans (ih (scan.does s))

theorem grows_line (scan : Scan) (raw : List Char) : Grows scan.listed (scan.line raw).listed := by
  rw [← listed_settled (scan.line raw)]
  cases fresh : scan.isFresh with
  | true =>
      rw [settled_line_of_isFresh fresh]
      exact grows_foldl_does scan.settled _
  | false =>
      rw [settled_line_of_not_isFresh fresh]
      exact .refl _

theorem grows_finish (scan : Scan) (lines : List (List Char)) :
    Grows scan.listed (lines.foldl line scan).finish := by
  induction lines generalizing scan with
  | nil => exact grows_closeClass scan
  | cons raw rest ih => exact (grows_line scan raw).trans (ih (scan.line raw))

structure InBody (scan : Scan) (index : Nat) (name : String) (indent : Nat) : Prop where
  place : scan.classes.length = index
  current : ∃ c, scan.current = some c ∧ c.name = name
  bodyIndent : scan.bodyIndent.getD indent = indent

theorem inBody_header {text : List Char} {name : String} (header : declaredClass? text = some name)
    (scan : Scan) (indent : Nat) :
    (scan.does ⟨0, text⟩).InBody scan.listed.length name indent ∧
      (scan.does ⟨0, text⟩).bodyIndent = none := by
  have opened : scan.does ⟨0, text⟩ = { scan.closeClass with current := some ⟨name, [], []⟩ } := by
    rw [does, statement, if_pos rfl, topLevel, header]
  have noIndent : scan.closeClass.bodyIndent = none := by
    unfold closeClass
    cases scan.current with
    | none => rfl
    | some c => rfl
  rw [opened]
  exact ⟨⟨length_closeClass scan, ⟨_, rfl, rfl⟩, by rw [noIndent]; rfl⟩, noIndent⟩

variable {scan : Scan} {index indent : Nat} {name : String}

theorem InBody.does {s : Statement} (inside : scan.InBody index name indent) (inner : 0 < s.indent)
    (first : scan.bodyIndent = none → s.indent = indent) :
    (scan.does s).InBody index name indent ∧ (scan.does s).bodyIndent = some indent := by
  obtain ⟨place, ⟨c, opened, named⟩, bodyIndent⟩ := inside
  obtain ⟨d, current, grown, classes, next⟩ := inner_statement opened inner s.text
  have settledIndent : scan.bodyIndent.getD s.indent = indent := by
    cases known : scan.bodyIndent with
    | none => exact first known
    | some width =>
        rw [known] at bodyIndent
        exact bodyIndent
  rw [settledIndent] at next
  exact ⟨⟨classes ▸ place, ⟨d, current, grown.name.trans named⟩, by rw [Scan.does, next]; rfl⟩,
    next⟩

theorem InBody.foldl {body : List Statement} (inside : scan.InBody index name indent)
    (inner : ∀ s ∈ body, 0 < s.indent)
    (first : scan.bodyIndent = none → ∀ s ∈ body.head?, s.indent = indent) :
    (body.foldl Scan.does scan).InBody index name indent := by
  induction body generalizing scan with
  | nil => exact inside
  | cons s rest ih =>
      obtain ⟨here, later⟩ := List.forall_mem_cons.mp inner
      obtain ⟨stays, known⟩ := inside.does here fun unknown => first unknown s rfl
      exact ih stays later fun unknown => nomatch known.symm.trans unknown

theorem InBody.declares {text : List Char} {member : String}
    (inside : scan.InBody index name indent) (inner : 0 < indent)
    (noClass : declaredClass? text = none) (declared : declaredName? text = some member) :
    ∃ c, (scan.does ⟨indent, text⟩).listed[index]? = some c ∧ c.name = name ∧
      member ∈ c.attributes := by
  obtain ⟨place, ⟨c, opened, named⟩, bodyIndent⟩ := inside
  have result : (scan.does ⟨indent, text⟩).listed =
      scan.classes ++ [(finished c scan.block).addAttribute member] := by
    simp only [Scan.does, statement, if_neg (Nat.ne_of_gt inner), opened, bodyIndent, if_true,
      bodyStatement, noClass, declared]
    rfl
  refine ⟨_, by rw [result, ← place, List.getElem?_concat_length], ?_, ?_⟩
  · exact (OutlineClass.Extends.addAttribute _ member).name.trans named
  · exact OutlineClass.mem_addAttribute _ member

end Scan

end Outline

end Modelwright
