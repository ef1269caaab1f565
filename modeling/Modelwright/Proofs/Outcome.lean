import Mathlib
import Modelwright.Warning

namespace Modelwright

/-! Computations that succeed: what a chain, a pass over a list and a fold say of their steps.
Mathlib is imported whole for the modules behind that evaluate runs by `cbv`, which unfolds
functions of the library by the equations that it finds there. -/

namespace Outcome

theorem exists_of_isOk {x : Except ε α} (succeeded : x.isOk = true) : ∃ a, x = .ok a := by
  cases x with
  | error e => simp [Except.isOk, Except.toBool] at succeeded
  | ok a => exact ⟨a, rfl⟩

theorem bind_eq_ok_iff {x : Except ε α} {f : α → Except ε β} {b : β} :
    x >>= f = .ok b ↔ ∃ a, x = .ok a ∧ f a = .ok b := by
  cases x with
  | error e => simp [bind, Except.bind]
  | ok a => simp [bind, Except.bind]

@[simp] theorem pure_eq_ok_iff {a b : α} :
    (pure a : Except ε α) = .ok b ↔ a = b := by
  simp [pure, Except.pure]

@[simp] theorem mapError_eq_ok_iff {x : Except ε α} {f : ε → ε'} {a : α} :
    x.mapError f = .ok a ↔ x = .ok a := by
  cases x with
  | error e => simp [Except.mapError]
  | ok b => simp [Except.mapError]

theorem mapM_eq_ok_iff {f : α → Except ε β} {xs : List α} {ys : List β} :
    xs.mapM f = .ok ys ↔ List.Forall₂ (fun x y => f x = .ok y) xs ys := by
  induction xs generalizing ys with
  | nil => simp [pure, Except.pure, eq_comm]
  | cons x xs ih =>
      simp only [List.mapM_cons, bind_eq_ok_iff, pure_eq_ok_iff, ih,
        List.forall₂_cons_left_iff]
      constructor
      · rintro ⟨y, headRun, rest, tailRun, rfl⟩
        exact ⟨y, rest, headRun, tailRun, rfl⟩
      · rintro ⟨y, rest, headRun, tailRun, rfl⟩
        exact ⟨y, headRun, rest, tailRun, rfl⟩

theorem forall₂_and_eq_map_iff {p : α → Prop} {f : α → β} {xs : List α} {ys : List β} :
    List.Forall₂ (fun x y => p x ∧ y = f x) xs ys ↔ (∀ x ∈ xs, p x) ∧ ys = xs.map f := by
  induction xs generalizing ys with
  | nil => simp
  | cons x xs ih =>
      simp only [List.forall₂_cons_left_iff, ih, List.forall_mem_cons, List.map_cons]
      constructor
      · rintro ⟨y, rest, ⟨head, rfl⟩, ⟨tail, rfl⟩, rfl⟩
        exact ⟨⟨head, tail⟩, rfl⟩
      · rintro ⟨⟨head, tail⟩, rfl⟩
        exact ⟨_, _, ⟨head, rfl⟩, ⟨tail, rfl⟩, rfl⟩

def value [Inhabited α] : Except ε α → α
  | .ok a => a
  | .error _ => default

theorem eq_ok_iff_value [Inhabited α] {x : Except ε α} {a : α} :
    x = .ok a ↔ x.isOk = true ∧ a = value x := by
  cases x with
  | error e => simp [Except.isOk, Except.toBool]
  | ok b => simp [Except.isOk, Except.toBool, value, eq_comm]

theorem mapM_eq_ok_iff_value [Inhabited β] {f : α → Except ε β} {xs : List α} {ys : List β} :
    xs.mapM f = .ok ys ↔ (∀ x ∈ xs, (f x).isOk = true) ∧ ys = xs.map fun x => value (f x) := by
  rw [mapM_eq_ok_iff]
  simp only [eq_ok_iff_value, forall₂_and_eq_map_iff]

theorem forM_eq_ok_iff {f : α → Except ε PUnit} {xs : List α} :
    forM xs f = .ok () ↔ ∀ x ∈ xs, f x = .ok () := by
  induction xs with
  | nil => simp
  | cons x xs ih =>
      rw [List.forM_cons, bind_eq_ok_iff, List.forall_mem_cons, ← ih]
      exact ⟨fun ⟨_, headRun, tailRun⟩ => ⟨headRun, tailRun⟩,
        fun ⟨headRun, tailRun⟩ => ⟨(), headRun, tailRun⟩⟩

/-- What each step of a fold does to an observation, the fold does step by step. -/
theorem foldlM_observes (observe : β → γ) {g : γ → α → γ} {f : β → α → Except ε β} {xs : List α}
    {start last : β} (step : ∀ b a after, f b a = .ok after → observe after = g (observe b) a)
    (run : xs.foldlM f start = .ok last) : observe last = xs.foldl g (observe start) := by
  induction xs generalizing start with
  | nil =>
      rw [List.foldlM_nil, pure_eq_ok_iff] at run
      rw [run, List.foldl_nil]
  | cons x xs ih =>
      rw [List.foldlM_cons, bind_eq_ok_iff] at run
      obtain ⟨middle, headRun, tailRun⟩ := run
      rw [ih tailRun, step start x middle headRun, List.foldl_cons]

theorem foldlM_preserves {γ : Type u} (observe : β → γ) {f : β → α → Except ε β} {xs : List α}
    {start last : β} (step : ∀ b a after, f b a = .ok after → observe after = observe b)
    (run : xs.foldlM f start = .ok last) : observe last = observe start :=
  (foldlM_observes observe step run).trans (List.foldl_fixed xs)

end Outcome

namespace Logged

@[simp] theorem outcome_map (f : α → β) (x : Logged ε α) :
    (f <$> x).outcome = f <$> x.outcome := by
  rw [map_eq_pure_bind, outcome_bind]
  cases x.outcome with
  | error e => rfl
  | ok a => rfl

theorem outcome_mapM (f : α → Logged ε β) (xs : List α) :
    (xs.mapM f).outcome = xs.mapM fun x => (f x).outcome := by
  induction xs with
  | nil => rfl
  | cons x xs ih => simp [ih]

theorem outcome_forM (f : α → Logged ε PUnit) (xs : List α) :
    (forM xs f).outcome = forM xs fun x => (f x).outcome := by
  induction xs with
  | nil => rfl
  | cons x xs ih => rw [List.forM_cons, List.forM_cons, outcome_bind, ih]

@[simp] theorem warnings_pure (a : α) : (Pure.pure a : Logged ε α).warnings = [] := rfl

@[simp] theorem warnings_warn (w : Warning) : (warn w : Logged ε Unit).warnings = [w] := rfl

theorem warnings_bind_of_ok {x : Logged ε α} {a : α} (ran : x.outcome = .ok a)
    (f : α → Logged ε β) : (x >>= f).warnings = x.warnings ++ (f a).warnings := by
  change (Logged.bind x f).warnings = _
  rw [Logged.bind, ran]

theorem outcome_foldlM (f : β → α → Logged ε β) (start : β) (xs : List α) :
    (xs.foldlM f start).outcome = xs.foldlM (fun b a => (f b a).outcome) start := by
  induction xs generalizing start with
  | nil => rfl
  | cons x xs ih => simp [ih]

end Logged

end Modelwright
