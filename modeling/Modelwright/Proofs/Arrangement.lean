import Mathlib.Data.List.Forall2
import Mathlib.Data.List.Nodup
import Mathlib.Data.List.Perm.Basic

namespace Modelwright

namespace Arrangement

theorem mem_zip_map_iff {f : α → β} {xs : List α} {x : α} {y : β} :
    (x, y) ∈ xs.zip (xs.map f) ↔ x ∈ xs ∧ y = f x := by
  induction xs with
  | nil => simp
  | cons head tail ih =>
      simp only [List.map_cons, List.zip_cons_cons, List.mem_cons, Prod.mk.injEq, ih]
      grind

theorem exists_of_forall₂ {R : α → β → Prop} {xs : List α} {ys : List β}
    (related : List.Forall₂ R xs ys) {x : α} (member : x ∈ xs) : ∃ y ∈ ys, R x y := by
  induction related with
  | nil => simp at member
  | cons first rest ih =>
      rcases List.mem_cons.mp member with rfl | member
      · exact ⟨_, List.mem_cons_self, first⟩
      · obtain ⟨y, yMember, held⟩ := ih member
        exact ⟨y, List.mem_cons_of_mem _ yMember, held⟩

theorem exists_left_of_forall₂ {R : α → β → Prop} {xs : List α} {ys : List β}
    (related : List.Forall₂ R xs ys) {y : β} (member : y ∈ ys) : ∃ x ∈ xs, R x y :=
  exists_of_forall₂ related.flip member

theorem forall₂_and_mem {R : α → β → Prop} {xs : List α} {ys : List β}
    (related : List.Forall₂ R xs ys) :
    List.Forall₂ (fun x y => R x y ∧ x ∈ xs ∧ y ∈ ys) xs ys := by
  induction related with
  | nil => exact .nil
  | cons first rest ih =>
      refine .cons ⟨first, List.mem_cons_self, List.mem_cons_self⟩ (ih.imp ?_)
      rintro x y ⟨held, xMember, yMember⟩
      exact ⟨held, List.mem_cons_of_mem _ xMember, List.mem_cons_of_mem _ yMember⟩

theorem forall₂_map_map {R : β → γ → Prop} {f : α → β} {g : α → γ} {xs : List α}
    (related : ∀ x ∈ xs, R (f x) (g x)) : List.Forall₂ R (xs.map f) (xs.map g) := by
  rw [List.forall₂_map_left_iff, List.forall₂_map_right_iff, List.forall₂_same]
  exact related

theorem forall₂_filter_filterMap {R : α → γ → Prop} {p : α → Bool} {f : β → Option γ} {xs : List α}
    {ys : List β} (related : List.Forall₂ (fun x y => (p x = true → ∃ z, f y = some z ∧ R x z) ∧
      (p x = false → f y = none)) xs ys) :
    List.Forall₂ R (xs.filter p) (ys.filterMap f) := by
  induction related with
  | nil => exact .nil
  | @cons x y xs ys first rest ih =>
      cases selected : p x with
      | true =>
          obtain ⟨z, found, held⟩ := first.1 selected
          simpa [selected, found] using ⟨held, ih⟩
      | false => simpa [selected, first.2 selected] using ih

theorem map_eq_of_forall₂ {f : α → γ} {g : β → γ} {xs : List α} {ys : List β}
    (related : List.Forall₂ (fun x y => g y = f x) xs ys) : ys.map g = xs.map f := by
  induction related with
  | nil => rfl
  | cons first rest ih => rw [List.map_cons, List.map_cons, first, ih]

theorem find?_key_eq_some [DecidableEq β] {key : α → β} {xs : List α}
    (nodup : (xs.map key).Nodup) {x : α} (member : x ∈ xs) :
    xs.find? (key · = key x) = some x := by
  induction xs with
  | nil => simp at member
  | cons head tail ih =>
      simp only [List.map_cons, List.nodup_cons] at nodup
      rcases List.mem_cons.mp member with rfl | member
      · simp
      · have apart : key head ≠ key x := fun same =>
          nodup.1 (same ▸ List.mem_map_of_mem member)
        simpa [apart] using ih nodup.2 member

theorem find?_key_of_perm [DecidableEq β] {key : α → β} {xs ys : List α} (perm : xs.Perm ys)
    (nodup : (xs.map key).Nodup) (wanted : β) :
    xs.find? (key · = wanted) = ys.find? (key · = wanted) := by
  cases found : ys.find? (key · = wanted) with
  | none =>
      rw [List.find?_eq_none] at found ⊢
      exact fun x member => found x (perm.mem_iff.mp member)
  | some y =>
      obtain rfl : key y = wanted := by simpa using List.find?_some found
      exact find?_key_eq_some nodup (perm.mem_iff.mpr (List.mem_of_find?_eq_some found))

theorem lookup_eq_find? [DecidableEq α] (entries : List (α × β)) (key : α) :
    entries.lookup key = (entries.find? (·.1 = key)).map Prod.snd := by
  induction entries with
  | nil => rfl
  | cons entry rest ih =>
      rw [List.lookup_cons, List.find?_cons]
      by_cases same : key = entry.1
      · simp [same]
      · simp [beq_false_of_ne same, Ne.symm same, ih]

theorem lookup_of_perm [DecidableEq α] {xs ys : List (α × β)} (perm : xs.Perm ys)
    (nodup : (xs.map Prod.fst).Nodup) (key : α) : xs.lookup key = ys.lookup key := by
  rw [lookup_eq_find?, lookup_eq_find?, find?_key_of_perm perm nodup]

theorem lookup_map_snd [DecidableEq α] (f : β → γ) (entries : List (α × β)) (key : α) :
    (entries.map fun entry => (entry.1, f entry.2)).lookup key = (entries.lookup key).map f := by
  induction entries with
  | nil => rfl
  | cons entry rest ih =>
      rw [List.map_cons, List.lookup_cons, List.lookup_cons, ih]
      cases key == entry.1 <;> rfl

theorem filter_eq_singleton {key : α → β} {p : α → Bool} {xs : List α}
    (nodup : (xs.map key).Nodup) {x : α} (member : x ∈ xs) (selected : p x = true)
    (fixed : ∀ y, p y = true → key y = key x) : xs.filter p = [x] := by
  induction xs with
  | nil => simp at member
  | cons head tail ih =>
      obtain ⟨fresh, nodup⟩ := List.nodup_cons.mp nodup
      rcases List.mem_cons.mp member with rfl | member
      · have tailRejected : ∀ y ∈ tail, ¬ p y = true := fun y tailMember held =>
          fresh (fixed y held ▸ List.mem_map_of_mem tailMember)
        rw [List.filter_cons_of_pos selected, List.filter_eq_nil_iff.mpr tailRejected]
      · have headRejected : ¬ p head = true := fun held =>
          fresh (fixed head held ▸ List.mem_map_of_mem member)
        rw [List.filter_cons_of_neg headRejected]
        exact ih nodup member

theorem find?_agree {p q : α → Bool} {xs : List α} {x y : α} (first : xs.find? p = some x)
    (second : xs.find? q = some y) (px : q x = true) (qy : p y = true) : x = y := by
  induction xs with
  | nil => simp at first
  | cons head tail ih =>
      by_cases held : p head = true
      · obtain rfl : head = x := by simpa [held] using first
        simpa [px] using second
      · by_cases other : q head = true
        · obtain rfl : head = y := by simpa [other] using second
          exact absurd qy held
        · rw [List.find?_cons_of_neg held] at first
          rw [List.find?_cons_of_neg other] at second
          exact ih first second

/-- Sorting items into the places their keys name loses none and repeats none. -/
theorem flatMap_filter_perm [DecidableEq β] {key : α → β} {places : List β} {xs : List α}
    (nodup : places.Nodup) (covered : ∀ x ∈ xs, key x ∈ places) :
    (places.flatMap fun place => xs.filter (key · = place)).Perm xs := by
  induction places generalizing xs with
  | nil =>
      have empty : xs = [] := List.eq_nil_iff_forall_not_mem.mpr fun x member => by
        simpa using covered x member
      simp [empty]
  | cons place rest ih =>
      obtain ⟨fresh, nodup⟩ := List.nodup_cons.mp nodup
      let others := xs.filter (fun x => !decide (key x = place))
      have restCovered : ∀ x ∈ others, key x ∈ rest := by
        intro x member
        simp only [others, List.mem_filter, Bool.not_eq_true', decide_eq_false_iff_not] at member
        exact (List.mem_cons.mp (covered x member.1)).resolve_left member.2
      -- Items of the first place are in none of the others.
      have restPlaces : (rest.flatMap fun other => xs.filter (key · = other)) =
          rest.flatMap fun other => others.filter (key · = other) := by
        refine List.flatMap_congr fun other member => ?_
        rw [List.filter_filter]
        refine List.filter_congr fun x _ => ?_
        by_cases same : key x = other
        · have : key x ≠ place := fun equal => fresh (equal ▸ same ▸ member)
          simp [same, same ▸ this]
        · simp [same]
      rw [List.flatMap_cons, restPlaces]
      exact ((ih nodup restCovered).append_left _).trans (List.filter_append_perm _ xs)

end Arrangement

end Modelwright
