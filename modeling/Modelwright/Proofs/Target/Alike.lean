import Modelwright.Proofs.Target.Skeleton

namespace Modelwright.Target

open Skeleton

def Alike (a b : String) : Prop :=
  ∃ kept, Scans a.toList kept ∧ Scans b.toList kept

namespace Alike

variable {a b c d : String}

theorem of_scans {kept : List Char} (scans : Scans a.toList kept) : Alike a a :=
  ⟨kept, scans, scans⟩

theorem left (alike : Alike a b) : Alike a a := by
  obtain ⟨kept, scans, -⟩ := alike
  exact of_scans scans

theorem of_plain (plain : Plain a) : Alike a a :=
  of_scans (scans_of_code (run_code_plain plain))

theorem append (first : Alike a b) (second : Alike c d) (cBare : Bare c.toList)
    (dBare : Bare d.toList) : Alike (a ++ c) (b ++ d) := by
  obtain ⟨kept, aScans, bScans⟩ := first
  obtain ⟨more, cScans, dScans⟩ := second
  refine ⟨kept ++ more, ?_, ?_⟩
  · rw [String.toList_append]
    exact aScans.append cScans cBare
  · rw [String.toList_append]
    exact bScans.append dScans dBare

theorem bare_of_plain (plain : Plain a) : Bare a.toList := by
  intro first found
  exact (isPlain_iff.mp (plain first (List.mem_of_mem_head? found))).1

theorem append_plain (first : Alike a b) (plain : Plain c) : Alike (a ++ c) (b ++ c) :=
  first.append (of_plain plain) (bare_of_plain plain) (bare_of_plain plain)

theorem plain_append (plain : Plain c) (second : Alike a b) : Alike (c ++ a) (c ++ b) := by
  obtain ⟨kept, aScans, bScans⟩ := second
  refine ⟨c.toList ++ kept, ?_, ?_⟩
  · rw [String.toList_append]
    exact aScans.plain_append plain
  · rw [String.toList_append]
    exact bScans.plain_append plain

theorem bare_append {separator : String} (plain : Plain separator) (nonempty : separator ≠ "")
    (text : String) : Bare (separator ++ text).toList := by
  intro first found
  refine bare_of_plain plain first ?_
  rw [String.toList_append] at found
  cases chars : separator.toList with
  | nil => exact absurd (String.toList_eq_nil_iff.mp chars) nonempty
  | cons head tail => simpa [chars] using found

theorem append_separated {separator : String} (first : Alike a b) (plain : Plain separator)
    (nonempty : separator ≠ "") (second : Alike c d) :
    Alike (a ++ separator ++ c) (b ++ separator ++ d) := by
  rw [String.append_assoc, String.append_assoc]
  exact first.append (plain_append plain second) (bare_append plain nonempty c)
    (bare_append plain nonempty d)

theorem intercalate {separator : String} (plain : Plain separator) (nonempty : separator ≠ "")
    {xs ys : List String} (alike : List.Forall₂ Alike xs ys) :
    Alike (separator.intercalate xs) (separator.intercalate ys) := by
  induction alike with
  | nil =>
      rw [String.intercalate_nil]
      exact of_plain (by decide)
  | cons first rest ih =>
      cases rest with
      | nil => simpa using first
      | cons second others =>
          rw [String.intercalate_cons_cons, String.intercalate_cons_cons]
          exact first.append_separated plain nonempty ih

end Alike

def linesText (lines : List String) : List Char :=
  lines.flatMap fun line => line.toList ++ ['\n']

theorem linesText_append (first second : List String) :
    linesText (first ++ second) = linesText first ++ linesText second :=
  List.flatMap_append

theorem linesText_cons (line : String) (rest : List String) :
    linesText (line :: rest) = line.toList ++ '\n' :: linesText rest := by
  simp [linesText]

theorem toList_intercalate_lines (first : String) (rest : List String) :
    ("\n".intercalate (first :: rest) ++ "\n").toList = linesText (first :: rest) := by
  induction rest generalizing first with
  | nil => simp [linesText]
  | cons second others ih =>
      rw [String.intercalate_cons_cons, String.append_assoc, String.toList_append, ih,
        linesText_cons first]
      simp

def AlikeLines (xs ys : List String) : Prop :=
  ∃ kept, run .code (linesText xs) = (.code, kept) ∧ run .code (linesText ys) = (.code, kept)

namespace AlikeLines

variable {xs ys zs ws : List String}

theorem nil : AlikeLines [] [] := ⟨[], rfl, rfl⟩

theorem append (first : AlikeLines xs ys) (second : AlikeLines zs ws) :
    AlikeLines (xs ++ zs) (ys ++ ws) := by
  obtain ⟨kept, xsRun, ysRun⟩ := first
  obtain ⟨more, zsRun, wsRun⟩ := second
  refine ⟨kept ++ more, ?_, ?_⟩
  · rw [linesText_append]
    exact run_trans xsRun zsRun
  · rw [linesText_append]
    exact run_trans ysRun wsRun

theorem run_line {text kept : List Char} (scans : Scans text kept) :
    run .code (text ++ ['\n']) = (.code, kept ++ ['\n']) := by
  obtain ⟨last, rest, ran⟩ := scans
  refine run_trans ran ?_
  rw [run_of_atRest rest [] (by decide)]
  rfl

theorem of_line {a b : String} (alike : Alike a b) : AlikeLines [a] [b] := by
  obtain ⟨kept, aScans, bScans⟩ := alike
  refine ⟨kept ++ ['\n'], ?_, ?_⟩
  · simpa [linesText] using run_line aScans
  · simpa [linesText] using run_line bScans

theorem cons {a b : String} (first : Alike a b) (rest : AlikeLines xs ys) :
    AlikeLines (a :: xs) (b :: ys) :=
  (of_line first).append rest

theorem of_forall₂ (alike : List.Forall₂ Alike xs ys) : AlikeLines xs ys := by
  induction alike with
  | nil => exact nil
  | cons first rest ih => exact cons first ih

theorem flatten {blocks others : List (List String)}
    (alike : List.Forall₂ AlikeLines blocks others) :
    AlikeLines blocks.flatten others.flatten := by
  induction alike with
  | nil => exact nil
  | cons first rest ih => exact first.append ih

end AlikeLines

theorem skeleton_eq_of_alikeLines {first other : String} {xs ys : List String}
    (alike : AlikeLines (first :: xs) (other :: ys)) :
    ∃ text, skeleton ("\n".intercalate (first :: xs) ++ "\n") = some text ∧
      skeleton ("\n".intercalate (other :: ys) ++ "\n") = some text := by
  obtain ⟨kept, xsRun, ysRun⟩ := alike
  refine ⟨String.ofList kept, ?_, ?_⟩
  · rw [skeleton, toList_intercalate_lines, xsRun]
    rfl
  · rw [skeleton, toList_intercalate_lines, ysRun]
    rfl

end Modelwright.Target
