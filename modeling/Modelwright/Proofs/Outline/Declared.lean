import Modelwright.Proofs.Outline.Growth
import Modelwright.Proofs.Outline.Names

namespace Modelwright.Outline

open Modelwright.Text Modelwright.Target

/-! Names that the body of a class binds, and whether the class is found to declare them. -/

/-- The line starts a statement right in the body of a class.  Above it the scan keeps in step with
the statements of the module: some others, the header of the class, and a body that is indented like
the line. -/
structure StandsIn (source : String) (above : List (List Char)) (raw : List Char)
    (before : List Statement) (className : String) : Prop where
  placed : above ++ [raw] <+: lines source.toList
  follows : Scan.start.Follows .start above
  fresh : (above.foldl Reader.line .start).isFresh = true
  split : ∃ header body, statements .start above = before ++ ⟨0, header⟩ :: body ∧
    declaredClass? header = some className ∧ (∀ s ∈ body, 0 < s.indent) ∧
    ∀ s ∈ body.head?, s.indent = indentation raw

section Places

variable {source className : String} {above : List (List Char)} {raw : List Char}
  {before : List Statement}

theorem inBody_of_standsIn (stands : StandsIn source above raw before className) :
    (above.foldl Scan.line .start).settled.InBody (before.countP Statement.isHeader) className
      (indentation raw) := by
  obtain ⟨header, body, split, named, inner, first⟩ := stands.split
  have opened := Scan.length_listed_foldl Scan.start before
  rw [show Scan.start.listed.length = 0 from rfl, Nat.zero_add] at opened
  obtain ⟨inside, -⟩ := Scan.inBody_header named (before.foldl Scan.does .start) (indentation raw)
  rw [opened] at inside
  rw [Scan.settled_foldl_line stands.follows, split, List.foldl_append, List.foldl_cons]
  exact inside.foldl inner fun _ => first

theorem settled_line_of_standsIn (stands : StandsIn source above raw before className)
    (something : lineText raw ≠ []) :
    ((above.foldl Scan.line .start).line raw).settled =
      (above.foldl Scan.line .start).settled.does ⟨indentation raw, lineText raw⟩ := by
  have fresh := (Scan.isFresh_foldl_line stands.follows).trans stands.fresh
  rw [Scan.settled_line_of_isFresh fresh, statement?, if_neg something]
  rfl

theorem declares_of_standsIn {name : String} (stands : StandsIn source above raw before className)
    (indented : 0 < indentation raw) (noClass : declaredClass? (lineText raw) = none)
    (declared : declaredName? (lineText raw) = some name) :
    ∃ c, (outline source)[before.countP Statement.isHeader]? = some c ∧ c.name = className ∧
      c.declares name = true := by
  have something : lineText raw ≠ [] := by
    intro empty
    rw [empty] at declared
    cases declared
  obtain ⟨c, found, named, listed⟩ :=
    (inBody_of_standsIn stands).declares indented noClass declared
  rw [← settled_line_of_standsIn stands something, Scan.listed_settled] at found
  obtain ⟨below, placed⟩ := stands.placed
  obtain ⟨d, final, grown⟩ := Scan.grows_finish _ below _ c found
  refine ⟨d, ?_, grown.name.trans named, ?_⟩
  · rw [outline, ← placed, List.append_assoc, List.singleton_append, List.foldl_append,
      List.foldl_cons]
    exact final
  · rw [OutlineClass.declares, List.contains_iff_mem.mpr (grown.attributes name listed),
      Bool.true_or]

end Places

def onlyHeader : List Char := "class A:".toList

def onlyLine (raw : List Char) : String :=
  .ofList (onlyHeader ++ '\n' :: (raw ++ ['\r', '\n']))

theorem lines_onlyLine {raw : List Char} (oneLine : '\n' ∉ raw) :
    lines (onlyLine raw).toList = [onlyHeader, raw] := by
  have whole : '\n' ∉ raw ++ ['\r'] := by simp [oneLine]
  have parts : pieces '\n' (onlyHeader ++ '\n' :: (raw ++ ['\r', '\n'])) =
      [onlyHeader, raw ++ ['\r'], []] := by
    have header : pieces '\n' onlyHeader = [onlyHeader] := pieces_of_not_mem (by decide)
    rw [List.append_cons raw, pieces_append_separator, pieces_append_separator, header,
      pieces_of_not_mem whole]
    rfl
  have header : dropReturn onlyHeader = onlyHeader := by decide
  have returned : dropReturn (raw ++ ['\r']) = raw := by simp [dropReturn]
  simp [onlyLine, lines, parts, header, returned]

theorem standsIn_onlyLine {raw : List Char} (oneLine : '\n' ∉ raw) :
    StandsIn (onlyLine raw) [onlyHeader] raw [] "A" where
  placed := ⟨[], by rw [lines_onlyLine oneLine]; rfl⟩
  follows := by decide +kernel
  fresh := by decide +kernel
  split := ⟨onlyHeader, [], by decide +kernel, by decide +kernel, nofun, nofun⟩

theorem outline_onlyLine {raw : List Char} (oneLine : '\n' ∉ raw) (indented : 0 < indentation raw)
    (noClass : declaredClass? (lineText raw) = none)
    (undeclared : declaredName? (lineText raw) = none) :
    outline (onlyLine raw) = [⟨"A", [], []⟩] := by
  have opened : Scan.start.line onlyHeader =
      ⟨[], some ⟨"A", [], []⟩, none, none, none, none, 0⟩ := by
    decide +kernel
  have finished : (Scan.start.line onlyHeader).finish = [⟨"A", [], []⟩] := by rw [opened]; rfl
  rw [outline, lines_onlyLine oneLine, List.foldl_cons, List.foldl_cons, List.foldl_nil,
    ← Scan.finish_settled, Scan.settled_line_of_isFresh (by rw [opened]; rfl), statement?]
  by_cases blank : lineText raw = []
  · rw [if_pos blank, ← finished]
    exact Scan.finish_settled _
  · have body : (Scan.start.line onlyHeader).settled.does ⟨indentation raw, lineText raw⟩ =
        { Scan.start.line onlyHeader with bodyIndent := some (indentation raw) } := by
      simp [opened, Scan.settled, Scan.does, Scan.statement, Nat.ne_of_gt indented,
        Scan.bodyStatement, noClass, undeclared, Scan.finished]
    rw [if_neg blank, ← finished, Option.toList_some, List.foldl_cons, List.foldl_nil, body, opened]
    rfl

/-- A statement makes its class declare the name in every module exactly if the scan does not take
the name for a word that starts a statement. -/
theorem declared_everywhere_iff {name : String} {form : Form} {raw : List Char}
    (named : isIdentifier name = true) (oneLine : '\n' ∉ raw) (indented : 0 < indentation raw)
    (binds : Binds name form (lineText raw)) :
    (∀ source above before className, StandsIn source above raw before className →
        ∃ c, (outline source)[before.countP Statement.isHeader]? = some c ∧ c.name = className ∧
          c.declares name = true) ↔
      form.isFunction = true ∨ name ≠ "match" ∧ name ≠ "case" := by
  obtain ⟨noClass, declared⟩ := declaredName?_of_binds named binds
  constructor
  · intro everywhere
    by_contra mistaken
    rw [not_or, Bool.not_eq_true, not_and_or, not_not, not_not] at mistaken
    rw [if_pos mistaken] at declared
    obtain ⟨c, found, -, declares⟩ := everywhere _ _ _ _ (standsIn_onlyLine oneLine)
    rw [outline_onlyLine oneLine indented noClass declared] at found
    obtain rfl : ⟨"A", [], []⟩ = c := Option.some.inj found
    cases declares
  · intro seen source above before className stands
    have apart : ¬ (form.isFunction = false ∧ (name = "match" ∨ name = "case")) := by
      rw [not_and_or, Bool.not_eq_false, not_or]
      exact seen
    rw [if_neg apart] at declared
    exact declares_of_standsIn stands indented noClass declared

/-- A class behind another one, with a docstring and a list of several lines. -/
def accountLines : List (List Char) :=
  ["class Base:", "    pass", "", "class Account(Base):  # base class", "    '''",
    "    balance = (", "    '''", "    tags: typing.List[str] = [", "        'a = b',",
    "    ]"].map String.toList

def limitLine : List Char := "    limit = 3  # per day".toList

def accountSource : String :=
  "class Base:\n    pass\n\nclass Account(Base):  # base class\n    '''\n" ++
    "    balance = (\n    '''\n    tags: typing.List[str] = [\n        'a = b',\n    ]\n" ++
    "    limit = 3  # per day\n"

def accountStart : List Statement :=
  [⟨0, "class Base:".toList⟩, ⟨4, "pass".toList⟩]

theorem declared_limit :
    isIdentifier "limit" = true ∧ Binds "limit" .assigned (lineText limitLine) ∧
      ∃ c, (outline accountSource)[1]? = some c ∧ c.name = "Account" ∧
        c.declares "limit" = true := by
  have named : isIdentifier "limit" = true := by decide +kernel
  have oneLine : '\n' ∉ limitLine := by decide
  have binds : Binds "limit" .assigned (lineText limitLine) :=
    .assigned [' '] " 3".toList (List.forall_mem_singleton.mpr (by decide)) (by decide)
  have stands : StandsIn accountSource accountLines limitLine accountStart "Account" :=
    { placed := ⟨[], by decide +kernel⟩
      follows := by decide +kernel
      fresh := by decide +kernel
      split := ⟨"class Account(Base):".toList,
        [⟨4, "'''".toList⟩, ⟨4, "tags: typing.List[str] = [".toList⟩],
        by decide +kernel, by decide +kernel, by decide, by decide +kernel⟩ }
  have index : accountStart.countP Statement.isHeader = 1 := by decide +kernel
  have everywhere := (declared_everywhere_iff named oneLine (by decide +kernel) binds).mpr
    (.inr (by decide))
  rw [← index]
  exact ⟨named, binds, everywhere _ _ _ _ stands⟩

def matchSource : String := "class A:\n    match = 1\n"

/-- An attribute of the name that the scan does not find. -/
theorem undeclared_match :
    isIdentifier "match" = true ∧
      StandsIn matchSource [onlyHeader] "    match = 1".toList [] "A" ∧
      Binds "match" .assigned (lineText "    match = 1".toList) ∧
      outline matchSource = [⟨"A", [], []⟩] ∧
      (⟨"A", [], []⟩ : OutlineClass).declares "match" = false := by
  have stands : StandsIn matchSource [onlyHeader] "    match = 1".toList [] "A" :=
    { placed := ⟨[], by decide +kernel⟩
      follows := by decide +kernel
      fresh := by decide +kernel
      split := ⟨onlyHeader, [], by decide +kernel, by decide +kernel, nofun, nofun⟩ }
  refine ⟨by decide +kernel, stands, ?_, by decide +kernel, rfl⟩
  exact .assigned [' '] " 1".toList (List.forall_mem_singleton.mpr (by decide)) (by decide)

end Modelwright.Outline
