namespace Modelwright.Text

/-! A property of characters is a list of bands of code points. -/

/-- The code points `first`, `first + step`, … up to `last`. -/
structure Band where
  first : Nat
  last : Nat
  step : Nat

def Band.contains (band : Band) (point : Nat) : Bool :=
  band.first ≤ point && point ≤ band.last && (point - band.first) % band.step == 0

def inRanges (ranges : List (Nat × Nat)) (point : Nat) : Bool :=
  ranges.any fun range => range.1 ≤ point && point ≤ range.2

@[simp] theorem inRanges_nil (point : Nat) : inRanges [] point = false := rfl

theorem inRanges_iff {ranges : List (Nat × Nat)} {point : Nat} :
    inRanges ranges point = true ↔
      ∃ range ∈ ranges, range.1 ≤ point ∧ point ≤ range.2 := by
  simp [inRanges]

end Modelwright.Text
