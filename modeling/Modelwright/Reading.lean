namespace Modelwright

/-! Reading from the front of a list.  A reading carries the proof that it left less than a bound,
so a reader that calls itself on the rest is seen to end. -/

structure Reading (τ : Type) (bound : Nat) (α : Type) where
  value : α
  rest : List τ
  shorter : rest.length < bound

namespace Reading

def map (f : α → β) (r : Reading τ n α) : Reading τ n β :=
  ⟨f r.value, r.rest, r.shorter⟩

def weaken (r : Reading τ m α) (h : m ≤ n) : Reading τ n α :=
  ⟨r.value, r.rest, Nat.lt_of_lt_of_le r.shorter h⟩

@[simp] theorem map_value (f : α → β) (r : Reading τ n α) : (r.map f).value = f r.value := rfl

@[simp] theorem map_rest (f : α → β) (r : Reading τ n α) : (r.map f).rest = r.rest := rfl

@[simp] theorem weaken_value (r : Reading τ m α) (h : m ≤ n) : (r.weaken h).value = r.value := rfl

@[simp] theorem weaken_rest (r : Reading τ m α) (h : m ≤ n) : (r.weaken h).rest = r.rest := rfl

end Reading

theorem length_dropWhile_le (p : α → Bool) (items : List α) :
    (items.dropWhile p).length ≤ items.length :=
  (List.dropWhile_sublist p).length_le

end Modelwright
