import Modelwright.Text.Span

namespace Modelwright.Text

theorem byteLength_pos {chars : List Char} (nonempty : chars ≠ []) : 0 < byteLength chars := by
  cases chars with
  | nil => exact absurd rfl nonempty
  | cons c rest => exact Nat.lt_of_lt_of_le c.utf8Size_pos (Nat.le_add_right _ _)

theorem dropBytes_append (before after : List Char) :
    dropBytes (byteLength before) (before ++ after) = after := by
  induction before with
  | nil => cases after <;> rfl
  | cons c rest ih =>
      obtain ⟨count, size⟩ := Nat.exists_eq_add_one_of_ne_zero
        (Nat.ne_of_gt (Nat.add_pos_left c.utf8Size_pos (byteLength rest)))
      have left : count + 1 - c.utf8Size = byteLength rest := by omega
      rw [byteLength_cons, size, List.cons_append, dropBytes, left, ih]

theorem takeBytes_append (before after : List Char) :
    takeBytes (byteLength before) (before ++ after) = before := by
  induction before with
  | nil =>
      cases after with
      | nil => rfl
      | cons c rest =>
          rw [byteLength_nil, List.nil_append, takeBytes, if_neg (Nat.not_le.mpr c.utf8Size_pos)]
  | cons c rest ih =>
      rw [byteLength_cons, List.cons_append, takeBytes, if_pos (Nat.le_add_right _ _),
        Nat.add_sub_cancel_left, ih]

theorem slice_append (before part after : List Char) :
    slice ⟨byteLength before, byteLength before + byteLength part⟩ (before ++ (part ++ after)) =
      part := by
  rw [slice, dropBytes_append, Span.width, Nat.add_sub_cancel_left, takeBytes_append]

end Modelwright.Text
