import Modelwright.Models.Render

namespace Modelwright.Target

/-! Names in the scopes of a generated module: which names a statement looks up, and what each of
them stands for at that place.  A class body looks first at what it has bound itself, then at what
the module has bound; a function looks only at what the module binds, and does so when it is
called. -/

inductive Meaning where
  | imported
  | enumClass
  | modelClass
  | declared
  | builtin
  deriving DecidableEq, Repr

namespace Expr

mutual

def reads : Expr → List String
  | name n => [n]
  | member of _ => of.reads
  | text _ => []
  | int _ => []
  | bool _ => []
  | data _ => []
  | thunk _ => []
  | call function arguments keywords =>
    function.reads ++ readsAll arguments ++ readsKeywords keywords
  | subscript of indices => of.reads ++ readsAll indices

def readsAll : List Expr → List String
  | [] => []
  | e :: rest => e.reads ++ readsAll rest

def readsKeywords : List (String × Expr) → List String
  | [] => []
  | (_, e) :: rest => e.reads ++ readsKeywords rest

end

mutual

/-- The names that are looked up when a function in the expression is called. -/
def deferred : Expr → List String
  | name _ => []
  | member of _ => of.deferred
  | text _ => []
  | int _ => []
  | bool _ => []
  | data _ => []
  | thunk body => body.reads ++ body.deferred
  | call function arguments keywords =>
    function.deferred ++ deferredAll arguments ++ deferredKeywords keywords
  | subscript of indices => of.deferred ++ deferredAll indices

def deferredAll : List Expr → List String
  | [] => []
  | e :: rest => e.deferred ++ deferredAll rest

def deferredKeywords : List (String × Expr) → List String
  | [] => []
  | (_, e) :: rest => e.deferred ++ deferredKeywords rest

end

end Expr

/-- A name that is looked up, with what it is written for. -/
abbrev NameReading := String × Meaning

/-- Outside declarations the names are those of the libraries, or builtin. -/
def libraryReading (name : String) : NameReading :=
  (name, if name ∈ reservedNames then .imported else .builtin)

def declarationReading (name : String) : NameReading :=
  (name, if name ∈ reservedNames then .imported else .enumClass)

/-- What a class body does with names, one after the other. -/
inductive Step where
  | read (reading : NameReading)
  | bind (name : String)
  deriving DecidableEq, Repr

namespace Step

end Step

/-- The names that the declaration looks up before it binds its own, and those it looks up
afterwards: an annotation is evaluated behind the assignment. -/
def Declaration.reads : Declaration → List String × List String
  | assigned _ value => (value.reads, [])
  | annotatedAssigned _ typeHint value => (value.reads, typeHint.reads)
  | annotated _ typeHint => ([], typeHint.reads)

/-- A mere annotation binds nothing. -/
def Declaration.binds : Declaration → Bool
  | annotated _ _ => false
  | _ => true

def Declaration.steps (d : Declaration) : List Step :=
  d.reads.1.map (.read ∘ declarationReading) ++ (if d.binds then [.bind d.name] else []) ++
    d.reads.2.map (.read ∘ declarationReading)

def Declaration.deferred : Declaration → List String
  | assigned _ value => value.deferred
  | annotatedAssigned _ typeHint value => value.deferred ++ typeHint.deferred
  | annotated _ typeHint => typeHint.deferred

def MetaClass.steps (settings : MetaClass) : List Step :=
  (settings.extended.map fun _ => Step.read (libraryReading extensionAlias)).toList ++
    [.bind "Meta"]

/-- The method that gives the text form names its result type. -/
def ModelClass.textSteps (c : ModelClass) : List Step :=
  if c.shownKey.isSome then [.read (libraryReading "str"), .bind "__str__"] else []

def ModelClass.steps (c : ModelClass) : List Step :=
  c.declarations.flatMap Declaration.steps ++ (c.settings.steps ++ c.textSteps)

structure ClassStatement where
  name : String
  meaning : Meaning
  bases : List NameReading
  body : List Step

namespace ClassStatement

def Reads (c : ClassStatement) (reading : NameReading) : Prop :=
  reading ∈ c.bases ∨ .read reading ∈ c.body

end ClassStatement

/-- What is bound in a module, latest first. -/
abbrev Scope := List (String × Meaning)

namespace Scope

def meaning (scope : Scope) (name : String) : Meaning :=
  (scope.lookup name).getD .builtin

def after (scope : Scope) (classes : List ClassStatement) : Scope :=
  (classes.map fun c => (c.name, c.meaning)).reverse ++ scope

end Scope

structure Lookup where
  reading : NameReading
  found : Meaning
  deriving DecidableEq, Repr

def Scope.lookups (scope : Scope) (readings : List NameReading) : List Lookup :=
  readings.map fun reading => ⟨reading, scope.meaning reading.1⟩

/-- What the steps of a class body look up, where `own` holds the names it has bound before. -/
def bodyLookups (outer : Scope) (own : List String) : List Step → List Lookup
  | [] => []
  | .read reading :: rest =>
    ⟨reading, if reading.1 ∈ own then .declared else outer.meaning reading.1⟩ ::
      bodyLookups outer own rest
  | .bind n :: rest => bodyLookups outer (n :: own) rest

def classLookups (scope : Scope) : List ClassStatement → List Lookup
  | [] => []
  | c :: rest =>
    scope.lookups c.bases ++ bodyLookups scope [] c.body ++
      classLookups ((c.name, c.meaning) :: scope) rest

def EnumClass.statement (e : EnumClass) : ClassStatement where
  name := e.name
  meaning := .enumClass
  bases := ["str", "Enum"].map libraryReading
  body := e.members.map .bind

def ModelClass.statement (c : ModelClass) : ClassStatement where
  name := c.name
  meaning := .modelClass
  bases := (c.bases.flatMap Expr.reads).map libraryReading
  body := c.steps

namespace Module

def imports (m : Module) : List String :=
  (if m.usesTyping then ["typing"] else []) ++ (if m.usesUuid then ["uuid"] else []) ++
    (if m.usesEnum then ["Enum"] else []) ++ ["fields", "Model"] ++
      (m.extension.map fun _ => extensionAlias).toList

def importScope (m : Module) : Scope :=
  m.imports.map fun name => (name, .imported)

def classStatements (m : Module) : List ClassStatement :=
  m.enums.map EnumClass.statement ++ m.models.map ModelClass.statement

/-- The names that functions look up once the module is there. -/
def deferred (m : Module) : List String :=
  m.models.flatMap fun c => c.declarations.flatMap Declaration.deferred

/-- Every name that is looked up, with what it stands for at that place. -/
def lookups (m : Module) : List Lookup :=
  classLookups m.importScope m.classStatements ++
    (m.importScope.after m.classStatements).lookups (m.deferred.map libraryReading)

end Module

namespace Declaration

end Declaration

end Modelwright.Target
