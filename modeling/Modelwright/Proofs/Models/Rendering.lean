import Modelwright.Models.Imports
import Modelwright.Proofs.Outcome

namespace Modelwright

/-! Computations that request imports.  What one of them requests is a list that does not depend on
what was requested before it, so a chain requests what its steps do, one behind the other. -/

namespace UsedImports

def has (used : UsedImports) : Library → Bool
  | .typing => used.typing
  | .uuid => used.uuid
  | .enums => used.enums
  | .extension => used.extension

theorem has_add (used : UsedImports) (added library : Library) :
    (used.add added).has library = (used.has library || decide (library = added)) := by
  cases added with
  | _ =>
      cases library with
      | _ => simp [add, has]

theorem addAll_append (used : UsedImports) (first second : List Library) :
    used.addAll (first ++ second) = (used.addAll first).addAll second :=
  List.foldl_append

/-- A flag is set exactly if it was set before or its library is among the requests. -/
theorem has_addAll (used : UsedImports) (requests : List Library) (library : Library) :
    (used.addAll requests).has library = (used.has library || decide (library ∈ requests)) := by
  induction requests generalizing used with
  | nil => simp [addAll]
  | cons first rest ih =>
      have stepped : used.addAll (first :: rest) = (used.add first).addAll rest := rfl
      rw [stepped, ih, has_add, Bool.or_assoc]
      simp

end UsedImports

/-- Whatever was requested before, the checks alone decide whether the computation succeeds; then it
gives `a`, having made the requests. -/
def Emits (x : Rendered ε α) (checks : Except ε γ) (a : α) (requests : List Library) : Prop :=
  ∀ used, (x used).outcome = checks >>= fun _ => .ok (a, used.addAll requests)

namespace Emits

theorem pure (a : α) : Emits (Pure.pure a : Rendered ε α) (.ok ()) a [] :=
  fun _ => rfl

theorem request (libraries : List Library) :
    Emits (Rendered.request libraries : Rendered ε Unit) (.ok ()) () libraries :=
  fun _ => rfl

theorem warn (warning : Warning) :
    Emits (Rendered.warn warning : Rendered ε Unit) (.ok ()) () [] :=
  fun _ => rfl

theorem logged {x : Logged ε α} {checks : Except ε γ} {a : α}
    (ran : x.outcome = checks >>= fun _ => .ok a) :
    Emits (liftM x : Rendered ε α) checks a [] := by
  intro used
  show (x >>= fun value => Pure.pure (value, used)).outcome = _
  rw [Logged.outcome_bind, ran, bind_assoc]
  rfl

theorem check {checks : Except ε γ} {x : Rendered ε β} {later : Except ε δ} {b : β}
    {requests : List Library} (emits : Emits x later b requests) :
    Emits (liftM (Logged.ofExcept checks) >>= fun _ => x) (checks >>= fun _ => later) b
      requests := by
  intro used
  show ((Logged.ofExcept checks >>= fun value => Pure.pure (value, used)) >>=
    fun result => x result.2).outcome = _
  rw [bind_assoc, Logged.outcome_bind, Logged.outcome_ofExcept, bind_assoc]
  refine bind_congr fun _ => ?_
  rw [pure_bind, emits used]

theorem bind {x : Rendered ε α} {f : α → Rendered ε β} {checks : Except ε γ}
    {later : Except ε δ} {a : α} {b : β} {requests more : List Library}
    (first : Emits x checks a requests) (second : Emits (f a) later b more) :
    Emits (x >>= f) (checks >>= fun _ => later) b (requests ++ more) := by
  intro used
  show (x used >>= fun result => f result.1 result.2).outcome = _
  rw [Logged.outcome_bind, first, bind_assoc, bind_assoc]
  refine bind_congr fun _ => ?_
  show (f a (used.addAll requests)).outcome = _
  rw [second, UsedImports.addAll_append]

theorem bindQuiet {x : Rendered ε α} {f : α → Rendered ε β} {checks : Except ε γ}
    {later : Except ε δ} {a : α} {b : β} {requests : List Library}
    (first : Emits x checks a requests) (second : Emits (f a) later b []) :
    Emits (x >>= f) (checks >>= fun _ => later) b requests := by
  have made := first.bind second
  rwa [List.append_nil] at made

theorem result {x : Rendered ε α} {checks : Except ε γ} {a : α} {requests : List Library}
    (emits : Emits x checks a requests) (h : α → β) :
    Emits (x >>= fun value => Pure.pure (h value)) checks (h a) requests := by
  intro used
  show (x used >>= fun r => Pure.pure (h r.1, r.2)).outcome = _
  rw [Logged.outcome_bind, emits used, bind_assoc]
  rfl

theorem mapM {f : α → Rendered ε β} {check : α → Except ε PUnit} {g : α → β}
    {requests : α → List Library} {xs : List α}
    (each : ∀ x ∈ xs, Emits (f x) (check x) (g x) (requests x)) :
    Emits (xs.mapM f) (forM xs check) (xs.map g) (xs.flatMap requests) := by
  induction xs with
  | nil => exact .pure []
  | cons x xs ih =>
      obtain ⟨head, tail⟩ := List.forall_mem_cons.mp each
      rw [List.mapM_cons, List.forM_cons, List.map_cons, List.flatMap_cons]
      exact head.bind ((ih tail).result (g x :: ·))

theorem mapM_total {f : α → Rendered ε β} {g : α → β} {requests : α → List Library}
    {xs : List α} (each : ∀ x ∈ xs, Emits (f x) (.ok ()) (g x) (requests x)) :
    Emits (xs.mapM f) (.ok ()) (xs.map g) (xs.flatMap requests) := by
  have checked : forM xs (fun _ : α => (.ok () : Except ε PUnit)) = .ok () :=
    Outcome.forM_eq_ok_iff.mpr fun _ _ => rfl
  exact checked ▸ mapM each

variable {x : Rendered ε α} {checks : Except ε γ} {a : α} {requests : List Library}

theorem outcome_of_ok (emits : Emits x checks a requests) (passed : checks = .ok c)
    (used : UsedImports) : (x used).outcome = .ok (a, used.addAll requests) := by
  rw [emits used, passed]
  rfl

theorem warnings_pure (a : α) (used : UsedImports) :
    ((Pure.pure a : Rendered ε α) used).warnings = [] := rfl

end Emits

end Modelwright
