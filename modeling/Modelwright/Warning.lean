namespace Modelwright

inductive Warning where
  | generatorOptionIgnored (generator option : String)
  | enumAttributeIgnored (enumeration mark : String)
  | enumValueMapIgnored (enumeration value : String)
  | blockAttributeIgnored (model mark : String)
  | fieldAttributeIgnored (field mark : String)
  | defaultFunctionIgnored (field function : String)
  | listDefaultIgnored (field : String)
  | extensionClassUnmatched (module className : String)
  | defaultOnlyDocumented (field default : String)
  | updatedAtIgnored (field : String)
  | attributeOverridden (entity mark extensionClass : String)
  | tableOverridden (entity : String)
  deriving DecidableEq, Repr

namespace Warning

def message : Warning → String
  | generatorOptionIgnored .. => "generator option is not a plain value; ignored"
  | enumAttributeIgnored .. => "enum attribute ignored"
  | enumValueMapIgnored .. => "@map on enum values is ignored; the value name is used"
  | blockAttributeIgnored .. => "block attribute ignored"
  | fieldAttributeIgnored .. => "field attribute ignored"
  | defaultFunctionIgnored .. => "unsupported default function; ignored"
  | listDefaultIgnored .. => "list default ignored"
  | extensionClassUnmatched .. => "hand-written class matches no model and is not composed"
  | defaultOnlyDocumented .. =>
    "default has no Tortoise counterpart for this field type; documented only"
  | updatedAtIgnored .. => "updated-at on a non-datetime field ignored"
  | attributeOverridden .. => "hand-written attribute overrides the generated one"
  | tableOverridden .. => "hand-written Meta.table overrides the schema table name"

def details : Warning → List (String × String)
  | generatorOptionIgnored generator option => [("generator", generator), ("option", option)]
  | enumAttributeIgnored enumeration mark => [("enum_name", enumeration), ("attribute", mark)]
  | enumValueMapIgnored enumeration value => [("enum_name", enumeration), ("value", value)]
  | blockAttributeIgnored model mark => [("model", model), ("attribute", mark)]
  | fieldAttributeIgnored field mark => [("field", field), ("attribute", mark)]
  | defaultFunctionIgnored field function => [("field", field), ("function", function)]
  | listDefaultIgnored field => [("field", field)]
  | extensionClassUnmatched module className => [("module", module), ("class", className)]
  | defaultOnlyDocumented field default => [("field", field), ("default", default)]
  | updatedAtIgnored field => [("field", field)]
  | attributeOverridden entity mark extensionClass =>
    [("entity", entity), ("attribute", mark), ("extension", extensionClass)]
  | tableOverridden entity => [("entity", entity)]

end Warning

/-- An outcome and the warnings that were given until it was known. -/
structure Logged (ε α : Type) where
  outcome : Except ε α
  warnings : List Warning

namespace Logged

def pure (a : α) : Logged ε α := ⟨.ok a, []⟩

def bind (x : Logged ε α) (f : α → Logged ε β) : Logged ε β :=
  match x.outcome with
  | .error e => ⟨.error e, x.warnings⟩
  | .ok a => ⟨(f a).outcome, x.warnings ++ (f a).warnings⟩

instance : Monad (Logged ε) where
  pure := Logged.pure
  bind := Logged.bind

def warn (warning : Warning) : Logged ε Unit := ⟨.ok (), [warning]⟩

def ofExcept (outcome : Except ε α) : Logged ε α := ⟨outcome, []⟩

def fail (error : ε) : Logged ε α := ⟨.error error, []⟩

instance : MonadLift (Except ε) (Logged ε) := ⟨ofExcept⟩

def mapError (f : ε → ε') (x : Logged ε α) : Logged ε' α :=
  ⟨x.outcome.mapError f, x.warnings⟩

/-- What follows may have effects of its own; it does not happen behind an error. -/
def followedBy [Monad m] (x : Logged ε α) (f : α → m (Logged ε β)) : m (Logged ε β) :=
  match x.outcome with
  | .error e => return ⟨.error e, x.warnings⟩
  | .ok a => do
    let y ← f a
    return ⟨y.outcome, x.warnings ++ y.warnings⟩

@[simp] theorem outcome_pure (a : α) : (Pure.pure a : Logged ε α).outcome = .ok a := rfl

@[simp] theorem outcome_warn (w : Warning) : (warn w : Logged ε Unit).outcome = .ok () := rfl

@[simp] theorem outcome_ofExcept (x : Except ε α) : (ofExcept x).outcome = x := rfl

@[simp] theorem outcome_fail (e : ε) : (fail e : Logged ε α).outcome = .error e := rfl

@[simp] theorem outcome_bind (x : Logged ε α) (f : α → Logged ε β) :
    (x >>= f).outcome = x.outcome >>= fun a => (f a).outcome := by
  show (Logged.bind x f).outcome = Except.bind x.outcome fun a => (f a).outcome
  unfold Logged.bind Except.bind
  split <;> simp_all

private theorem id_map_eq (x : Logged ε α) : id <$> x = x := by
  obtain ⟨outcome, warnings⟩ := x
  show Logged.bind _ _ = _
  cases outcome <;> simp [Logged.bind, Logged.pure]

private theorem pure_bind_eq (a : α) (f : α → Logged ε β) : Pure.pure a >>= f = f a := by
  show Logged.bind (Logged.pure a) f = f a
  simp [Logged.bind, Logged.pure]

private theorem bind_assoc_eq (x : Logged ε α) (f : α → Logged ε β) (g : β → Logged ε γ) :
    x >>= f >>= g = x >>= fun a => f a >>= g := by
  obtain ⟨outcome, warnings⟩ := x
  show Logged.bind (Logged.bind _ f) g = Logged.bind _ fun a => Logged.bind (f a) g
  cases outcome with
  | error e => rfl
  | ok a => cases h : (f a).outcome <;> simp [Logged.bind, h, List.append_assoc]

instance : LawfulMonad (Logged ε) :=
  LawfulMonad.mk' (Logged ε) id_map_eq pure_bind_eq bind_assoc_eq

end Logged

end Modelwright
