import Modelwright.Format.Json.Numeral
import Modelwright.Format.Node
import Modelwright.Reading

namespace Modelwright.Json

/-! Strict JSON text.  A value that cannot be represented is noticed only where it is wanted: a
number out of range or a lone surrogate spoils its scalar, not the document. -/

def isSpace (c : Char) : Bool :=
  c == ' ' || c == '\t' || c == '\n' || c == '\r'

def skipSpace (chars : List Char) : List Char :=
  chars.dropWhile isSpace

theorem length_skipSpace_le (chars : List Char) : (skipSpace chars).length ≤ chars.length :=
  length_dropWhile_le _ _

/-- One element of a string: a character, or a code unit of 16 bits given by number. -/
inductive TextUnit where
  | char (c : Char)
  | code (unit : Nat)
  deriving Repr

def hexDigit? (c : Char) : Option Nat :=
  if c.isDigit then some (c.toNat - '0'.toNat)
  else if 'a' ≤ c ∧ c ≤ 'f' then some (c.toNat - 'a'.toNat + 10)
  else if 'A' ≤ c ∧ c ≤ 'F' then some (c.toNat - 'A'.toNat + 10)
  else none

def simpleEscape? : Char → Option Char
  | '"' => some '"'
  | '\\' => some '\\'
  | '/' => some '/'
  | 'b' => some '\x08'
  | 'f' => some '\x0c'
  | 'n' => some '\n'
  | 'r' => some '\r'
  | 't' => some '\t'
  | _ => none

def textUnits : List Char → Option (List TextUnit × List Char)
  | [] => none
  | '"' :: rest => some ([], rest)
  | '\\' :: 'u' :: a :: b :: c :: d :: rest => do
    let unit := (((← hexDigit? a) * 16 + (← hexDigit? b)) * 16 + (← hexDigit? c)) * 16 +
      (← hexDigit? d)
    let (units, rest) ← textUnits rest
    return (.code unit :: units, rest)
  | '\\' :: c :: rest => do
    let char ← simpleEscape? c
    let (units, rest) ← textUnits rest
    return (.char char :: units, rest)
  | c :: rest =>
    if c.toNat < 0x20 then none
    else do
      let (units, rest) ← textUnits rest
      return (.char c :: units, rest)

def isHighSurrogate (unit : Nat) : Bool := 0xD800 ≤ unit && unit < 0xDC00

def isLowSurrogate (unit : Nat) : Bool := 0xDC00 ≤ unit && unit < 0xE000

/-- The characters of a string; a surrogate without its partner is none. -/
def charsOfUnits? : List TextUnit → Option (List Char)
  | [] => some []
  | .char c :: units => (charsOfUnits? units).map (c :: ·)
  | .code high :: .code low :: units =>
    if isHighSurrogate high then
      if isLowSurrogate low then
        (charsOfUnits? units).map
          (Char.ofNat (0x10000 + (high - 0xD800) * 0x400 + (low - 0xDC00)) :: ·)
      else none
    else if isLowSurrogate high then none
    else (charsOfUnits? (.code low :: units)).map (Char.ofNat high :: ·)
  | .code unit :: units =>
    if isHighSurrogate unit || isLowSurrogate unit then none
    else (charsOfUnits? units).map (Char.ofNat unit :: ·)

theorem length_of_textUnits {chars rest : List Char} {units : List TextUnit}
    (h : textUnits chars = some (units, rest)) : rest.length < chars.length := by
  fun_induction textUnits chars generalizing units with
  | case1 => simp at h
  | case2 => simp_all
  | case3 a b c d tail ih =>
    simp only [Option.bind_eq_bind, Option.bind_eq_some_iff] at h
    obtain ⟨_, _, _, _, _, _, _, _, ⟨more, left⟩, hmore, hout⟩ := h
    cases hout
    have := ih hmore
    simp only [List.length_cons] at *
    omega
  | case4 c tail _ ih =>
    simp only [Option.bind_eq_bind, Option.bind_eq_some_iff] at h
    obtain ⟨_, _, ⟨more, left⟩, hmore, hout⟩ := h
    cases hout
    have := ih hmore
    simp only [List.length_cons] at *
    omega
  | case5 => simp at h
  | case6 c tail _ _ _ _ ih =>
    simp only [Option.bind_eq_bind, Option.bind_eq_some_iff] at h
    obtain ⟨⟨more, left⟩, hmore, hout⟩ := h
    cases hout
    have := ih hmore
    simp only [List.length_cons] at *
    omega

def text? (chars : List Char) : Option (Reading Char chars.length Scalar) :=
  match h : textUnits chars with
  | none => none
  | some (units, rest) =>
    some ⟨.ofText? ((charsOfUnits? units).map String.ofList), rest, length_of_textUnits h⟩

def digitsOf (chars : List Char) : List Nat :=
  (chars.takeWhile Char.isDigit).map fun c => c.toNat - '0'.toNat

def afterDigits (chars : List Char) : List Char :=
  chars.dropWhile Char.isDigit

theorem length_afterDigits_le (chars : List Char) : (afterDigits chars).length ≤ chars.length :=
  length_dropWhile_le _ _

def fraction? (chars : List Char) : Option (Option (List Nat) × List Char) :=
  match chars with
  | '.' :: rest =>
    if (digitsOf rest).isEmpty then none else some (some (digitsOf rest), afterDigits rest)
  | _ => some (none, chars)

def exponentDigits? (negative : Bool) (chars : List Char) :
    Option (Option (Bool × List Nat) × List Char) :=
  if (digitsOf chars).isEmpty then none
  else some (some (negative, digitsOf chars), afterDigits chars)

def exponent? (chars : List Char) : Option (Option (Bool × List Nat) × List Char) :=
  match chars with
  | c :: rest =>
    if c = 'e' ∨ c = 'E' then
      match rest with
      | '+' :: digits => exponentDigits? false digits
      | '-' :: digits => exponentDigits? true digits
      | digits => exponentDigits? false digits
    else some (none, chars)
  | [] => some (none, [])

/-- The whole part has at least one digit and no needless zero in front. -/
def numeral? (negative : Bool) (chars : List Char) : Option (Numeral × List Char) := do
  let whole := digitsOf chars
  if whole.isEmpty || (whole.head? == some 0 && whole.length != 1) then none
  else
    let (fraction, rest) ← fraction? (afterDigits chars)
    let (exponent, rest) ← exponent? rest
    return (⟨negative, whole, fraction, exponent⟩, rest)

theorem length_of_fraction? {chars rest : List Char} {f : Option (List Nat)}
    (h : fraction? chars = some (f, rest)) : rest.length ≤ chars.length := by
  unfold fraction? at h
  split at h
  · split at h
    · simp at h
    · cases h
      exact Nat.le_succ_of_le (length_afterDigits_le _)
  · cases h
    exact Nat.le_refl _

theorem length_of_exponentDigits? {negative : Bool} {chars rest : List Char}
    {e : Option (Bool × List Nat)} (h : exponentDigits? negative chars = some (e, rest)) :
    rest.length ≤ chars.length := by
  unfold exponentDigits? at h
  split at h
  · simp at h
  · cases h
    exact length_afterDigits_le _

theorem length_of_exponent? {chars rest : List Char} {e : Option (Bool × List Nat)}
    (h : exponent? chars = some (e, rest)) : rest.length ≤ chars.length := by
  unfold exponent? at h
  split at h
  · split at h
    · split at h <;> have := length_of_exponentDigits? h <;> simp only [List.length_cons] at * <;>
        omega
    · cases h
      exact Nat.le_refl _
  · cases h
    exact Nat.le_refl _

theorem length_afterDigits_lt {chars : List Char} (h : (digitsOf chars).isEmpty = false) :
    (afterDigits chars).length < chars.length := by
  cases chars with
  | nil => simp [digitsOf] at h
  | cons c rest =>
    by_cases hc : c.isDigit
    · have := length_dropWhile_le Char.isDigit rest
      simp only [afterDigits, List.dropWhile_cons, hc, ↓reduceIte, List.length_cons]
      omega
    · simp [digitsOf, hc] at h

theorem length_of_numeral? {negative : Bool} {chars rest : List Char} {n : Numeral}
    (h : numeral? negative chars = some (n, rest)) : rest.length < chars.length := by
  simp only [numeral?] at h
  split at h
  · simp at h
  · rename_i hdigits
    simp only [Bool.or_eq_true, not_or, Bool.not_eq_true] at hdigits
    simp only [Option.bind_eq_bind, Option.bind_eq_some_iff] at h
    obtain ⟨⟨f, afterFraction⟩, hf, ⟨e, afterExponent⟩, he, hout⟩ := h
    cases hout
    have h1 := length_afterDigits_lt hdigits.1
    have h2 := length_of_fraction? hf
    have h3 := length_of_exponent? he
    simp only at *
    omega

def number? (negative : Bool) (chars : List Char) : Option (Reading Char chars.length Scalar) :=
  match h : numeral? negative chars with
  | none => none
  | some (numeral, rest) => some ⟨.ofNumber? numeral.value?, rest, length_of_numeral? h⟩

mutual

def value? (chars : List Char) : Option (Reading Char chars.length Node) :=
  match chars with
  | [] => none
  | '"' :: rest => (text? rest).map fun r => (r.map .scalar).weaken (by simp)
  | '-' :: rest => (number? true rest).map fun r => (r.map .scalar).weaken (by simp)
  | '[' :: rest =>
    match hspace : skipSpace rest with
    | ']' :: after => some ⟨.sequence [], after, by
        have := length_skipSpace_le rest
        simp only [hspace, List.length_cons] at *
        omega⟩
    | inside =>
      have : inside.length ≤ rest.length := hspace ▸ length_skipSpace_le rest
      (items? inside).map fun r => (r.map .sequence).weaken (by simp only [List.length_cons]; omega)
  | '\x7b' :: rest =>
    match hspace : skipSpace rest with
    | '\x7d' :: after => some ⟨.mapping [], after, by
        have := length_skipSpace_le rest
        simp only [hspace, List.length_cons] at *
        omega⟩
    | inside =>
      have : inside.length ≤ rest.length := hspace ▸ length_skipSpace_le rest
      (entries? inside).map fun r =>
        (r.map .mapping).weaken (by simp only [List.length_cons]; omega)
  | 'n' :: 'u' :: 'l' :: 'l' :: rest =>
    some ⟨.scalar .null, rest, by simp only [List.length_cons]; omega⟩
  | 't' :: 'r' :: 'u' :: 'e' :: rest =>
    some ⟨.scalar (.ofBool true), rest, by simp only [List.length_cons]; omega⟩
  | 'f' :: 'a' :: 'l' :: 's' :: 'e' :: rest =>
    some ⟨.scalar (.ofBool false), rest, by simp only [List.length_cons]; omega⟩
  | c :: rest => (number? false (c :: rest)).map (·.map .scalar)
termination_by (chars.length, 0)

def items? (chars : List Char) : Option (Reading Char chars.length (List Node)) := do
  let first ← value? chars
  match hspace : skipSpace first.rest with
  | ',' :: after =>
    have : (skipSpace after).length < chars.length := by
      have h1 := length_skipSpace_le first.rest
      have h2 := length_skipSpace_le after
      have h3 := first.shorter
      simp only [hspace, List.length_cons] at *
      omega
    let more ← items? (skipSpace after)
    return (more.map (first.value :: ·)).weaken (by omega)
  | ']' :: after => return ⟨[first.value], after, by
      have h1 := length_skipSpace_le first.rest
      have h3 := first.shorter
      simp only [hspace, List.length_cons] at *
      omega⟩
  | _ => none
termination_by (chars.length, 1)

def entries? (chars : List Char) : Option (Reading Char chars.length (List (Node × Node))) :=
  match chars with
  | '"' :: afterQuote => do
    let key ← text? afterQuote
    match hcolon : skipSpace key.rest with
    | ':' :: afterColon =>
      have hvalue : (skipSpace afterColon).length < afterQuote.length := by
        have h1 := length_skipSpace_le key.rest
        have h2 := length_skipSpace_le afterColon
        have h3 := key.shorter
        simp only [hcolon, List.length_cons] at *
        omega
      let first ← value? (skipSpace afterColon)
      have hrest : (skipSpace first.rest).length < afterQuote.length := by
        have h1 := length_skipSpace_le first.rest
        have h2 := first.shorter
        omega
      match hspace : skipSpace first.rest with
      | ',' :: after =>
        have : (skipSpace after).length < afterQuote.length := by
          have h1 := length_skipSpace_le after
          simp only [hspace, List.length_cons] at hrest
          omega
        let more ← entries? (skipSpace after)
        return (more.map ((.scalar key.value, first.value) :: ·)).weaken
          (by simp only [List.length_cons]; omega)
      | '\x7d' :: after => return ⟨[(.scalar key.value, first.value)], after, by
          simp only [hspace, List.length_cons] at *
          omega⟩
      | _ => none
    | _ => none
  | _ => none
termination_by (chars.length, 1)

end

/-- A whole document: one value with white space around it. -/
def document? (chars : List Char) : Option Node := do
  let read ← value? (skipSpace chars)
  if (skipSpace read.rest).isEmpty then some read.value else none

def dialect : Dialect := ⟨true, true, some 127⟩

/-- Values that are already in memory nest as deep as they like. -/
def valueDialect : Dialect := ⟨true, true, none⟩

def ofText? (s : String) : Option Json := do
  let node ← document? s.toList
  if node.fits dialect 0 then node.json? else none

end Modelwright.Json
