import Modelwright.Proofs.Source.Places

namespace Modelwright.Source

theorem Alike.symm {first second : List Lexeme} (alike : Alike first second) :
    Alike second first :=
  Eq.symm alike

/-- Both take as many lexemes, with values of one key, or both stop at one mismatch. -/
inductive InStep {α κ : Type} (key : α → κ) {n m : Nat} : Parsed α n → Parsed α m → Prop
  | taken {first : Reading Lexeme n α} {second : Reading Lexeme m α}
      (same : key first.value = key second.value) (behind : Alike first.rest second.rest) :
      InStep key (.ok first) (.ok second)
  | refused {first second : Mismatch} (wanted : first.wanted = second.wanted)
      (found : first.found.map (·.token) = second.found.map (·.token)) :
      InStep key (.error first) (.error second)

namespace InStep

variable {α β κ μ : Type} {n m k l : Nat}

theorem bind {key : α → κ} {other : β → μ} {x : Parsed α n} {y : Parsed α m}
    {f : Reading Lexeme n α → Parsed β k} {g : Reading Lexeme m α → Parsed β l}
    (begun : InStep key x y)
    (more : ∀ first second, key first.value = key second.value → Alike first.rest second.rest →
      InStep other (f first) (g second)) : InStep other (x >>= f) (y >>= g) := by
  cases begun with
  | taken same behind => exact more _ _ same behind
  | refused wanted found => exact .refused wanted found

end InStep

theorem inStep_expectToken (token : Token) {tokens other : List Lexeme}
    (alike : Alike tokens other) :
    InStep (fun _ => ()) (expectToken token tokens) (expectToken token other) := by
  match tokens with
  | [] =>
      obtain rfl : other = [] := List.map_eq_nil_iff.mp alike.symm
      exact .refused rfl rfl
  | ⟨found, span⟩ :: rest =>
      obtain ⟨place, left, rfl, behind⟩ := alike.cons_left
      by_cases same : found = token
      · simp only [expectToken, same, if_true]
        exact .taken rfl behind
      · simp only [expectToken, same, if_false]
        exact .refused rfl rfl

theorem inStep_expectName (wanted : Expectation) {tokens other : List Lexeme}
    (alike : Alike tokens other) :
    InStep Name.text (expectName wanted tokens) (expectName wanted other) := by
  match tokens with
  | [] =>
      obtain rfl : other = [] := List.map_eq_nil_iff.mp alike.symm
      exact .refused rfl rfl
  | ⟨found, span⟩ :: rest =>
      obtain ⟨place, left, rfl, behind⟩ := alike.cons_left
      cases found with
      | identifier name => exact .taken rfl behind
      | _ => exact .refused rfl rfl

theorem inStep_expectText {tokens other : List Lexeme} (alike : Alike tokens other) :
    InStep (fun _ => ()) (expectText tokens) (expectText other) := by
  match tokens with
  | [] =>
      obtain rfl : other = [] := List.map_eq_nil_iff.mp alike.symm
      exact .refused rfl rfl
  | ⟨found, span⟩ :: rest =>
      obtain ⟨place, left, rfl, behind⟩ := alike.cons_left
      cases found with
      | text value => exact .taken rfl behind
      | _ => exact .refused rfl rfl

theorem exists_of_nextToken {token : Token} {tokens : List Lexeme}
    (next : nextToken tokens = some token) : ∃ span rest, tokens = ⟨token, span⟩ :: rest := by
  by_contra none
  refine nextToken_ne_iff.mpr (fun span rest same => none ⟨span, rest, same⟩) next

mutual

theorem inStep_expr {tokens other : List Lexeme} (alike : Alike tokens other) :
    InStep (fun _ => ()) (expr tokens) (expr other) := by
  match tokens with
  | [] =>
      obtain rfl : other = [] := List.map_eq_nil_iff.mp alike.symm
      rw [expr]
      exact .refused rfl rfl
  | ⟨.text value, span⟩ :: rest | ⟨.number value, span⟩ :: rest =>
      obtain ⟨place, left, rfl, behind⟩ := alike.cons_left
      rw [expr, expr]
      exact .taken rfl behind
  | ⟨.identifier name, span⟩ :: rest =>
      obtain ⟨place, left, rfl, behind⟩ := alike.cons_left
      by_cases opens : nextToken rest = some .leftParen
      · obtain ⟨opening, inside, rfl⟩ := exists_of_nextToken opens
        obtain ⟨_, _, rfl, inner⟩ := behind.cons_left
        rw [expr.eq_4, expr.eq_4]
        split
        · exact .taken rfl behind
        split
        · exact .taken rfl behind
        · exact (inStep_arguments inner).bind fun _ _ _ ends => .taken rfl ends
      · have opensOther := behind.nextToken_eq ▸ opens
        rw [expr.eq_5 _ _ _ (nextToken_ne_iff.mp opens),
          expr.eq_5 _ _ _ (nextToken_ne_iff.mp opensOther)]
        split
        · exact .taken rfl behind
        split
        · exact .taken rfl behind
        · exact .taken rfl behind
  | ⟨.leftBracket, span⟩ :: rest =>
      obtain ⟨place, left, rfl, behind⟩ := alike.cons_left
      rw [expr, expr]
      exact (inStep_items behind).bind fun _ _ _ ends => .taken rfl ends
  | ⟨.doc _, _⟩ :: _ | ⟨.doubleAtSign, _⟩ :: _ | ⟨.atSign, _⟩ :: _ | ⟨.dot, _⟩ :: _
  | ⟨.comma, _⟩ :: _ | ⟨.colon, _⟩ :: _ | ⟨.equals, _⟩ :: _ | ⟨.question, _⟩ :: _
  | ⟨.leftParen, _⟩ :: _ | ⟨.rightParen, _⟩ :: _ | ⟨.leftBrace, _⟩ :: _ | ⟨.rightBrace, _⟩ :: _
  | ⟨.rightBracket, _⟩ :: _ =>
      obtain ⟨place, left, rfl, behind⟩ := alike.cons_left
      simp only [expr]
      exact .refused rfl rfl
termination_by (tokens.length, 0)

theorem inStep_items {tokens other : List Lexeme} (alike : Alike tokens other) :
    InStep (fun _ => ()) (items tokens) (items other) := by
  by_cases closes : nextToken tokens = some .rightBracket
  · obtain ⟨span, rest, rfl⟩ := exists_of_nextToken closes
    obtain ⟨place, left, rfl, behind⟩ := alike.cons_left
    rw [items, items]
    exact .taken rfl behind
  · have closesOther := alike.nextToken_eq ▸ closes
    rw [items.eq_2 _ (nextToken_ne_iff.mp closes), items.eq_2 _ (nextToken_ne_iff.mp closesOther)]
    refine (inStep_expr alike).bind ?_
    rintro ⟨_, rest, shorter⟩ ⟨_, left, less⟩ - behind
    dsimp only at behind ⊢
    split
    · next span after =>
        obtain ⟨_, inside, rfl, inner⟩ := behind.cons_left
        have progress : after.length < tokens.length :=
          Nat.lt_of_le_of_lt (Nat.le_succ _) shorter
        exact (inStep_items inner).bind fun _ _ _ ends => .taken rfl ends
    · next unparted =>
        split
        · next span after =>
            exact absurd behind.nextToken_eq (nextToken_ne_iff.mpr unparted)
        · exact (inStep_expectToken _ behind).bind fun _ _ _ ends => .taken rfl ends
termination_by (tokens.length, 1)

theorem inStep_argument {tokens other : List Lexeme} (alike : Alike tokens other) :
    InStep (fun _ => ()) (argument tokens) (argument other) := by
  by_cases named : ∃ name span colon inside,
      tokens = ⟨.identifier name, span⟩ :: ⟨.colon, colon⟩ :: inside
  · obtain ⟨name, span, colon, inside, rfl⟩ := named
    obtain ⟨_, _, rfl, behind⟩ := alike.cons_left
    obtain ⟨_, left, rfl, inner⟩ := behind.cons_left
    rw [argument.eq_1, argument.eq_1]
    exact (inStep_expr inner).bind fun _ _ _ ends => .taken rfl ends
  · have unnamed : ∀ name span colon inside,
        tokens = ⟨.identifier name, span⟩ :: ⟨.colon, colon⟩ :: inside → False :=
      fun name span colon inside same => named ⟨name, span, colon, inside, same⟩
    have unnamedOther : ∀ name span colon inside,
        other = ⟨.identifier name, span⟩ :: ⟨.colon, colon⟩ :: inside → False := by
      rintro name span colon inside rfl
      exact not_startsNamed unnamed (alike.startsNamed_iff.mpr ⟨name, rfl, rfl⟩)
    rw [argument.eq_2 _ unnamed, argument.eq_2 _ unnamedOther]
    exact (inStep_expr alike).bind fun _ _ _ ends => .taken rfl ends
termination_by (tokens.length, 1)

theorem inStep_arguments {tokens other : List Lexeme} (alike : Alike tokens other) :
    InStep (fun _ => ()) (arguments tokens) (arguments other) := by
  by_cases closes : nextToken tokens = some .rightParen
  · obtain ⟨span, rest, rfl⟩ := exists_of_nextToken closes
    obtain ⟨place, left, rfl, behind⟩ := alike.cons_left
    rw [arguments, arguments]
    exact .taken rfl behind
  · have closesOther := alike.nextToken_eq ▸ closes
    rw [arguments.eq_2 _ (nextToken_ne_iff.mp closes),
      arguments.eq_2 _ (nextToken_ne_iff.mp closesOther)]
    refine (inStep_argument alike).bind ?_
    rintro ⟨_, rest, shorter⟩ ⟨_, left, less⟩ - behind
    dsimp only at behind ⊢
    split
    · next span after =>
        obtain ⟨_, inside, rfl, inner⟩ := behind.cons_left
        have progress : after.length < tokens.length :=
          Nat.lt_of_le_of_lt (Nat.le_succ _) shorter
        exact (inStep_arguments inner).bind fun _ _ _ ends => .taken rfl ends
    · next unparted =>
        split
        · next span after =>
            exact absurd behind.nextToken_eq (nextToken_ne_iff.mpr unparted)
        · exact (inStep_expectToken _ behind).bind fun _ _ _ ends => .taken rfl ends
termination_by (tokens.length, 2)

end

section

variable {tokens other : List Lexeme}

theorem inStep_dotted {name start : Name} (alike : Alike tokens other)
    (same : name.text = start.text) :
    InStep Name.text (dotted name tokens) (dotted start other) := by
  induction name, tokens using dotted.induct generalizing start other with
  | case1 name dot part span inside ih =>
      obtain ⟨_, _, rfl, behind⟩ := alike.cons_left
      obtain ⟨_, left, rfl, inner⟩ := behind.cons_left
      rw [dotted, dotted]
      refine (ih inner ?_).bind fun _ _ named ends => .taken named ends
      rw [same]
  | case2 name dot inside unnamed =>
      obtain ⟨_, left, rfl, behind⟩ := alike.cons_left
      have unnamedOther : ∀ part span rest, left = ⟨.identifier part, span⟩ :: rest → False := by
        rintro part span rest rfl
        obtain ⟨_, _, same, -⟩ := behind.symm.cons_left
        exact unnamed _ _ _ same
      rw [dotted.eq_2 _ _ _ unnamed, dotted.eq_2 _ _ _ unnamedOther]
      exact .refused rfl behind.nextToken_eq
  | case3 name tokens unnamed ends =>
      have endsOther := nextToken_ne_iff.mp (alike.nextToken_eq ▸ nextToken_ne_iff.mpr ends)
      rw [dotted.eq_3 _ _ unnamed ends,
        dotted.eq_3 _ _ (fun _ _ _ _ same => endsOther _ _ same) endsOther]
      exact .taken same alike

theorem inStep_optionalArguments {stop last : Nat} (alike : Alike tokens other) :
    InStep (fun _ => ()) (optionalArguments stop tokens) (optionalArguments last other) := by
  by_cases opens : nextToken tokens = some .leftParen
  · obtain ⟨span, inside, rfl⟩ := exists_of_nextToken opens
    obtain ⟨_, left, rfl, inner⟩ := alike.cons_left
    exact (inStep_arguments inner).bind fun _ _ _ ends => .taken rfl ends
  · have opensOther := alike.nextToken_eq ▸ opens
    rw [optionalArguments.eq_2 _ _ (nextToken_ne_iff.mp opens),
      optionalArguments.eq_2 _ _ (nextToken_ne_iff.mp opensOther)]
    exact .taken rfl alike

theorem inStep_markAfter {sign place : Span} (alike : Alike tokens other) :
    InStep (fun _ => ()) (markAfter sign tokens) (markAfter place other) := by
  refine (inStep_expectName _ alike).bind fun _ _ same named => ?_
  refine (inStep_dotted named same).bind fun _ _ _ behind => ?_
  exact (inStep_optionalArguments behind).bind fun _ _ _ ends => .taken rfl ends

theorem inStep_attributes (alike : Alike tokens other) :
    InStep (fun _ => ()) (attributes tokens) (attributes other) := by
  induction tokens using attributes.induct generalizing other with
  | case1 sign inside ih =>
      obtain ⟨place, left, rfl, inner⟩ := alike.cons_left
      rw [attributes, attributes]
      refine (inStep_markAfter inner).bind fun first _ _ behind => ?_
      exact (ih first behind).bind fun _ _ _ ends => .taken rfl ends
  | case2 tokens unmarked =>
      have unmarkedOther := nextToken_ne_iff.mp (alike.nextToken_eq ▸ nextToken_ne_iff.mpr unmarked)
      rw [attributes.eq_2 _ unmarked, attributes.eq_2 _ unmarkedOther]
      exact .taken rfl alike

theorem inStep_unsupportedType {name start : Name} (same : name.text = start.text)
    (alike : Alike tokens other) :
    InStep (fun _ => ()) (unsupportedType name tokens) (unsupportedType start other) := by
  by_cases opens : nextToken tokens = some .leftParen
  · obtain ⟨span, inside, rfl⟩ := exists_of_nextToken opens
    obtain ⟨_, left, rfl, inner⟩ := alike.cons_left
    rw [unsupportedType, unsupportedType, same]
    split
    · refine (inStep_expectText inner).bind fun _ _ _ behind => ?_
      exact (inStep_expectToken _ behind).bind fun _ _ _ ends => .taken rfl ends
    · exact .taken rfl alike
  · have opensOther := alike.nextToken_eq ▸ opens
    rw [unsupportedType.eq_2 _ _ (nextToken_ne_iff.mp opens),
      unsupportedType.eq_2 _ _ (nextToken_ne_iff.mp opensOther)]
    exact .taken rfl alike

theorem inStep_arity {stop last : Nat} (alike : Alike tokens other) :
    InStep (fun _ => ()) (arity stop tokens) (arity last other) := by
  by_cases opens : nextToken tokens = some .leftBracket
  · obtain ⟨span, inside, rfl⟩ := exists_of_nextToken opens
    obtain ⟨_, left, rfl, inner⟩ := alike.cons_left
    exact (inStep_expectToken _ inner).bind fun _ _ _ ends => .taken rfl ends
  by_cases asks : nextToken tokens = some .question
  · obtain ⟨span, inside, rfl⟩ := exists_of_nextToken asks
    obtain ⟨_, left, rfl, ends⟩ := alike.cons_left
    exact .taken rfl ends
  · have opensOther := alike.nextToken_eq ▸ opens
    have asksOther := alike.nextToken_eq ▸ asks
    rw [arity.eq_3 _ _ (nextToken_ne_iff.mp opens) (nextToken_ne_iff.mp asks),
      arity.eq_3 _ _ (nextToken_ne_iff.mp opensOther) (nextToken_ne_iff.mp asksOther)]
    exact .taken rfl alike

theorem inStep_typeRef (alike : Alike tokens other) :
    InStep (fun _ => ()) (typeRef tokens) (typeRef other) := by
  refine (inStep_expectName _ alike).bind fun _ _ same named => ?_
  refine (inStep_unsupportedType same named).bind fun _ _ _ typed => ?_
  exact (inStep_arity typed).bind fun _ _ _ ends => .taken rfl ends

theorem inStep_field (text : Option String) (alike : Alike tokens other) :
    InStep (fun _ => ()) (field text tokens) (field text other) := by
  refine (inStep_expectName _ alike).bind fun _ _ _ named => ?_
  refine (inStep_typeRef named).bind fun _ _ _ typed => ?_
  exact (inStep_attributes typed).bind fun _ _ _ ends => .taken rfl ends

theorem inStep_enumValue (text : Option String) (alike : Alike tokens other) :
    InStep (fun _ => ()) (enumValue text tokens) (enumValue text other) := by
  refine (inStep_expectName _ alike).bind fun _ _ _ named => ?_
  exact (inStep_attributes named).bind fun _ _ _ ends => .taken rfl ends

section Members

variable {wanted : Expectation} {α : Type}
  {declaration : Option String → (tokens : List Lexeme) → Parsed α tokens.length}
  {tokens other rest left : List Lexeme}

theorem inStep_members_close {span place : Span}
    (start : afterDocs tokens = ⟨.rightBrace, span⟩ :: rest)
    (found : afterDocs other = ⟨.rightBrace, place⟩ :: left) (behind : Alike rest left) :
    InStep (fun _ => ()) (members wanted declaration tokens)
      (members wanted declaration other) := by
  rw [members, members]
  split
  · next same =>
      cases start.symm.trans same
      split
      · next same =>
          cases found.symm.trans same
          exact .taken rfl behind
      all_goals simp_all
  all_goals simp_all

theorem inStep_members_mark {sign place : Span}
    (start : afterDocs tokens = ⟨.doubleAtSign, sign⟩ :: rest)
    (found : afterDocs other = ⟨.doubleAtSign, place⟩ :: left) (behind : Alike rest left)
    (more : ∀ {first second}, Alike first second → first.length < tokens.length →
      InStep (fun _ => ()) (members wanted declaration first)
        (members wanted declaration second)) :
    InStep (fun _ => ()) (members wanted declaration tokens)
      (members wanted declaration other) := by
  have within := length_afterDocs_le tokens
  rw [start, List.length_cons] at within
  rw [members, members]
  split
  · simp_all
  · next same =>
      cases start.symm.trans same
      split
      · simp_all
      · next same =>
          cases found.symm.trans same
          refine (inStep_markAfter behind).bind fun first _ _ between => ?_
          have progress : first.rest.length < tokens.length := by
            have shorter := first.shorter
            omega
          exact (more between progress).bind fun _ _ _ ends => .taken rfl ends
      all_goals simp_all
  all_goals simp_all

theorem inStep_members_declaration {name : String} {span place : Span} (alike : Alike tokens other)
    (start : afterDocs tokens = ⟨.identifier name, span⟩ :: rest)
    (found : afterDocs other = ⟨.identifier name, place⟩ :: left)
    (declares : ∀ text {tokens other}, Alike tokens other →
      InStep (fun _ => ()) (declaration text tokens) (declaration text other))
    (more : ∀ {first second}, Alike first second → first.length < tokens.length →
      InStep (fun _ => ()) (members wanted declaration first)
        (members wanted declaration second)) :
    InStep (fun _ => ()) (members wanted declaration tokens)
      (members wanted declaration other) := by
  have behindDocs := alike.afterDocs
  have within := length_afterDocs_le tokens
  rw [start, found] at behindDocs
  rw [start] at within
  rw [members, members]
  split
  · simp_all
  · simp_all
  · next same =>
      cases start.symm.trans same
      split
      · simp_all
      · simp_all
      · next same =>
          cases found.symm.trans same
          rw [alike.documentation_eq]
          refine (declares _ behindDocs).bind fun first _ _ between => ?_
          have progress : first.rest.length < tokens.length := by
            have shorter := first.shorter
            omega
          exact (more between progress).bind fun _ _ _ ends => .taken rfl ends
      · simp_all
  · simp_all

theorem inStep_members_refused (alike : Alike tokens other)
    (closes : nextToken (afterDocs tokens) ≠ some .rightBrace)
    (marks : nextToken (afterDocs tokens) ≠ some .doubleAtSign)
    (names : ∀ name, nextToken (afterDocs tokens) ≠ some (.identifier name)) :
    InStep (fun _ => ()) (members wanted declaration tokens)
      (members wanted declaration other) := by
  have same := alike.afterDocs.nextToken_eq
  rw [members_refused closes marks names]
  rw [same] at closes marks names
  rw [members_refused closes marks names]
  exact .refused rfl same

end Members

theorem inStep_members (wanted : Expectation) {α : Type}
    {declaration : Option String → (tokens : List Lexeme) → Parsed α tokens.length}
    (declares : ∀ text {tokens other}, Alike tokens other →
      InStep (fun _ => ()) (declaration text tokens) (declaration text other))
    {tokens other : List Lexeme} (alike : Alike tokens other) :
    InStep (fun _ => ()) (members wanted declaration tokens)
      (members wanted declaration other) := by
  have behindDocs := alike.afterDocs
  by_cases closes : nextToken (afterDocs tokens) = some .rightBrace
  · obtain ⟨span, rest, start⟩ := exists_of_nextToken closes
    obtain ⟨_, left, found, behind⟩ := (start ▸ behindDocs).cons_left
    exact inStep_members_close start found behind
  by_cases marks : nextToken (afterDocs tokens) = some .doubleAtSign
  · obtain ⟨sign, rest, start⟩ := exists_of_nextToken marks
    obtain ⟨_, left, found, behind⟩ := (start ▸ behindDocs).cons_left
    exact inStep_members_mark start found behind fun between shorter =>
      inStep_members wanted declares between
  by_cases names : ∃ name, nextToken (afterDocs tokens) = some (.identifier name)
  · obtain ⟨name, named⟩ := names
    obtain ⟨span, rest, start⟩ := exists_of_nextToken named
    obtain ⟨_, left, found, -⟩ := (start ▸ behindDocs).cons_left
    exact inStep_members_declaration alike start found declares fun between shorter =>
      inStep_members wanted declares between
  · exact inStep_members_refused alike closes marks (not_exists.mp names)
termination_by tokens.length

theorem inStep_properties {tokens other : List Lexeme} (alike : Alike tokens other) :
    InStep (fun _ => ()) (properties tokens) (properties other) := by
  have behindDocs := alike.afterDocs
  have within := length_afterDocs_le tokens
  rw [properties, properties]
  split
  · next start =>
      obtain ⟨_, left, found, behind⟩ := (start ▸ behindDocs).cons_left
      split
      · next same =>
          cases found.symm.trans same
          exact .taken rfl behind
      · next open_ => exact (open_ _ _ found).elim
  · next open_ =>
      split
      · next same =>
          obtain ⟨_, _, start, -⟩ := (same ▸ behindDocs.symm).cons_left
          exact (open_ _ _ start).elim
      · refine (inStep_expectName _ behindDocs).bind fun key _ _ keyed => ?_
        refine (inStep_expectToken _ keyed).bind fun equals _ _ equated => ?_
        refine (inStep_expr equated).bind fun value _ _ valued => ?_
        have progress : value.rest.length < tokens.length := by
          have behindKey := key.shorter
          have behindEquals := equals.shorter
          have behindValue := value.shorter
          omega
        exact (inStep_properties valued).bind fun _ _ _ ends => .taken rfl ends
termination_by tokens.length

theorem inStep_skipBraces {depth : Nat} (alike : Alike tokens other) :
    InStep (fun _ => ()) (skipBraces depth tokens) (skipBraces depth other) := by
  induction tokens generalizing depth other with
  | nil =>
      obtain rfl : other = [] := List.map_eq_nil_iff.mp alike.symm
      exact .refused rfl rfl
  | cons lexeme rest ih =>
      obtain ⟨token, span⟩ := lexeme
      obtain ⟨place, left, rfl, behind⟩ := alike.cons_left
      rw [skipBraces.eq_def, skipBraces.eq_def]
      dsimp only
      split
      · exact (ih behind).bind fun _ _ _ ends => .taken rfl ends
      · exact .taken rfl behind
      · exact (ih behind).bind fun _ _ _ ends => .taken rfl ends
      · exact (ih behind).bind fun _ _ _ ends => .taken rfl ends

theorem inStep_blockName (alike : Alike tokens other) :
    InStep (fun _ => ()) (blockName tokens) (blockName other) := by
  refine (inStep_expectName _ alike).bind fun _ _ _ named => ?_
  exact (inStep_expectToken _ named).bind fun _ _ _ ends => .taken rfl ends

theorem inStep_propertyBlock (alike : Alike tokens other) :
    InStep (fun _ => ()) (propertyBlock tokens) (propertyBlock other) := by
  refine (inStep_blockName alike).bind fun _ _ _ named => ?_
  exact (inStep_properties named).bind fun _ _ _ ends => .taken rfl ends

theorem inStep_modelBlock (text : Option String) (alike : Alike tokens other) :
    InStep (fun _ => ()) (modelBlock text tokens) (modelBlock text other) := by
  refine (inStep_blockName alike).bind fun _ _ _ named => ?_
  have inside := inStep_members .modelMember (fun text _ _ => inStep_field text) named
  exact inside.bind fun _ _ _ ends => .taken rfl ends

theorem inStep_enumBlock (text : Option String) (alike : Alike tokens other) :
    InStep (fun _ => ()) (enumBlock text tokens) (enumBlock text other) := by
  refine (inStep_blockName alike).bind fun _ _ _ named => ?_
  have inside := inStep_members .enumMember (fun text _ _ => inStep_enumValue text) named
  exact inside.bind fun _ _ _ ends => .taken rfl ends

theorem inStep_otherBlock (keyword : String) (alike : Alike tokens other) :
    InStep (fun _ => ()) (otherBlock keyword tokens) (otherBlock keyword other) := by
  refine (inStep_blockName alike).bind fun _ _ _ named => ?_
  exact (inStep_skipBraces named).bind fun _ _ _ ends => .taken rfl ends

theorem inStep_blockAfter (text : Option String) {keyword start : Name}
    (same : keyword.text = start.text) (alike : Alike tokens other) :
    InStep (fun _ => ()) (blockAfter text keyword tokens) (blockAfter text start other) := by
  rw [blockAfter, blockAfter, same]
  split
  · exact (inStep_propertyBlock alike).bind fun _ _ _ ends => .taken rfl ends
  split
  · exact (inStep_propertyBlock alike).bind fun _ _ _ ends => .taken rfl ends
  split
  · exact (inStep_modelBlock text alike).bind fun _ _ _ ends => .taken rfl ends
  split
  · exact (inStep_enumBlock text alike).bind fun _ _ _ ends => .taken rfl ends
  split
  · exact inStep_otherBlock _ alike
  · exact .refused rfl rfl

end

/-- Where the first is refused the second is refused for the same reason. -/
def RefusedAlike {α β : Type} (x : Except Mismatch α) (y : Except Mismatch β) : Prop :=
  ∀ mismatch, x = .error mismatch → ∃ other, y = .error other ∧
    mismatch.wanted = other.wanted ∧ mismatch.found.map (·.token) = other.found.map (·.token)

theorem InStep.refusedAlike_bind {α β κ : Type} {n m : Nat} {key : α → κ} {x : Parsed α n}
    {y : Parsed α m} {f : Reading Lexeme n α → Except Mismatch β}
    {g : Reading Lexeme m α → Except Mismatch β} (begun : InStep key x y)
    (more : ∀ first second, key first.value = key second.value → Alike first.rest second.rest →
      RefusedAlike (f first) (g second)) : RefusedAlike (x >>= f) (y >>= g) := by
  cases begun with
  | taken same behind => exact more _ _ same behind
  | refused wanted found =>
      rintro _ refused
      cases refused
      exact ⟨_, rfl, wanted, found⟩

theorem RefusedAlike.bind_pure {α β : Type} {x y : Except Mismatch α} {f g : α → β}
    (alike : RefusedAlike x y) :
    RefusedAlike (x >>= fun value => pure (f value)) (y >>= fun value => pure (g value)) := by
  rintro mismatch refused
  cases x with
  | ok value => cases refused
  | error first =>
      cases refused
      obtain ⟨second, rfl, same⟩ := alike _ rfl
      exact ⟨second, rfl, same⟩

theorem refusedAlike_blocks {tokens other : List Lexeme} (alike : Alike tokens other) :
    RefusedAlike (blocks tokens) (blocks other) := by
  have behindDocs := alike.afterDocs
  rw [blocks, blocks]
  split
  · intro mismatch refused
    cases refused
  · next first rest start =>
      split
      · next none =>
          rw [start, none] at behindDocs
          cases behindDocs
      · next same =>
          rw [alike.documentation_eq]
          rw [start, same] at behindDocs
          refine (inStep_expectName _ behindDocs).refusedAlike_bind fun keyword _ same named => ?_
          refine (inStep_blockAfter _ same named).refusedAlike_bind fun block _ _ behind => ?_
          have progress : block.rest.length < tokens.length := by
            have behindKeyword := keyword.shorter
            have behindBlock := block.shorter
            have within := length_afterDocs_le tokens
            rw [start] at within
            omega
          exact (refusedAlike_blocks behind).bind_pure
termination_by tokens.length

theorem refusedAlike_parseDocument {tokens other : List Lexeme} (alike : Alike tokens other) :
    RefusedAlike (parseDocument tokens) (parseDocument other) :=
  (refusedAlike_blocks alike).bind_pure

end Modelwright.Source
