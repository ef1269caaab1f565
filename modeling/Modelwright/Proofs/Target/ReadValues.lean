import Modelwright.Proofs.Target.Escapes
import Modelwright.Proofs.Target.Numerals

namespace Modelwright.Reading

variable {bound : Nat}

def of? (read : Option (α × List τ)) (shorter : ∀ r ∈ read, r.2.length < bound) :
    Option (Reading τ bound α) :=
  read.pmap (fun r less => ⟨r.1, r.2, less⟩) shorter

def parts (r : Reading τ bound α) : α × List τ :=
  (r.value, r.rest)

theorem map_parts_of? {read : Option (α × List τ)} (shorter : ∀ r ∈ read, r.2.length < bound) :
    (of? read shorter).map parts = read := by
  cases read with
  | none => rfl
  | some r => rfl

end Modelwright.Reading

namespace Modelwright.Target

open Modelwright.Text
open Modelwright.Outline (isIdentifierChar)

/-- What a literal denotes.  A number is kept as it is written, and entries in their order. -/
inductive Literal where
  | null
  | bool (value : Bool)
  | number (text : String)
  | text (value : String)
  | list (items : List Literal)
  | dict (entries : List (String × Literal))

namespace Literal

def isGap (c : Char) : Bool :=
  c == ' ' || c == '\t' || c == '\n' || c == '\r' || c == '\x0c'

def skipGap (chars : List Char) : List Char :=
  chars.dropWhile isGap

theorem length_skipGap_le (chars : List Char) : (skipGap chars).length ≤ chars.length :=
  length_dropWhile_le _ _

theorem length_behind {c : Char} {chars rest : List Char} (leads : skipGap chars = c :: rest) :
    rest.length < chars.length := by
  have within := length_skipGap_le chars
  rwa [leads, List.length_cons] at within

def constants : List (String × Literal) :=
  [("None", .null), ("True", .bool true), ("False", .bool false)]

def constant? (chars : List Char) : Option (Literal × List Char) :=
  (constants.lookup (String.ofList (chars.takeWhile isIdentifierChar))).map fun value =>
    (value, chars.dropWhile isIdentifierChar)

/-- Numbers and names: literals that a character behind them could continue. -/
def atom? (chars : List Char) : Option (Literal × List Char) :=
  ((number? chars).map (Prod.map (fun text => .number (String.ofList text)) id)).or
    (constant? chars)

theorem length_of_constant? {chars rest : List Char} {value : Literal}
    (read : constant? chars = some (value, rest)) : rest.length < chars.length := by
  obtain ⟨_, found, same⟩ := Option.map_eq_some_iff.mp read
  cases same
  cases chars with
  | nil => cases found
  | cons c more =>
      by_cases part : isIdentifierChar c = true
      · rw [List.dropWhile_cons_of_pos part]
        exact Nat.lt_succ_of_le (length_dropWhile_le _ _)
      · rw [List.takeWhile_cons_of_neg part] at found
        cases found

theorem length_of_atom? {chars rest : List Char} {value : Literal}
    (read : atom? chars = some (value, rest)) : rest.length < chars.length := by
  rcases Option.or_eq_some_iff.mp read with number | ⟨-, constant⟩
  · obtain ⟨⟨text, behind⟩, found, same⟩ := Option.map_eq_some_iff.mp number
    cases same
    obtain ⟨something, rfl⟩ := append_of_number? found
    simp [List.length_pos_of_ne_nil something]
  · exact length_of_constant? constant

def atomReading? (chars : List Char) : Option (Reading Char chars.length Literal) :=
  Reading.of? (atom? (skipGap chars)) fun _ read =>
    (length_of_atom? read).trans_le (length_skipGap_le chars)

def text? (chars : List Char) : Option (Reading Char chars.length String) :=
  Reading.of? ((contents? (singleQuoted false) chars).map (Prod.map String.ofList id)) <| by
    intro r read
    obtain ⟨_, found, rfl⟩ := Option.map_eq_some_iff.mp read
    exact length_of_contents? found

end Literal

inductive Bracket where
  | square
  | curly

namespace Bracket

def opening : Bracket → Char
  | square => '['
  | curly => '\x7b'

def close : Bracket → Char
  | square => ']'
  | curly => '\x7d'

abbrev Element : Bracket → Type
  | square => Literal
  | curly => String × Literal

def literal : (b : Bracket) → List b.Element → Literal
  | square => .list
  | curly => .dict

end Bracket

namespace Literal

mutual

/-- The literal at the start of a text, behind white space.  Strings stand between single quotes. -/
def value? (chars : List Char) : Option (Reading Char chars.length Literal) :=
  match opens : skipGap chars with
  | '\'' :: rest => (text? rest).map fun r => (r.map .text).weaken (length_behind opens).le
  | '[' :: rest =>
    have := length_behind opens
    (elements? .square rest).map fun r => (r.map .list).weaken this.le
  | '\x7b' :: rest =>
    have := length_behind opens
    (elements? .curly rest).map fun r => (r.map .dict).weaken this.le
  | _ => atomReading? chars
termination_by (chars.length, 0)

def element? (b : Bracket) (chars : List Char) : Option (Reading Char chars.length b.Element) :=
  match b with
  | .square => value? chars
  | .curly =>
    match opens : skipGap chars with
    | '\'' :: rest =>
      (text? rest).bind fun key =>
        match colon : skipGap key.rest with
        | ':' :: after =>
          have := ((length_behind colon).trans key.shorter).trans (length_behind opens)
          (value? after).map fun r => (r.map (key.value, ·)).weaken this.le
        | _ => none
    | _ => none
termination_by (chars.length, 1)

def elements? (b : Bracket) (chars : List Char) :
    Option (Reading Char chars.length (List b.Element)) :=
  match start : skipGap chars with
  | [] => none
  | c :: after =>
    if c = b.close then some ⟨[], after, length_behind start⟩
    else
      (element? b chars).bind fun first =>
        match follows : skipGap first.rest with
        | [] => none
        | d :: after =>
          have shorter := (length_behind follows).trans first.shorter
          if d = ',' then
            (elements? b after).map fun more => (more.map (first.value :: ·)).weaken shorter.le
          else if d = b.close then some ⟨[first.value], after, shorter⟩
          else none
termination_by (chars.length, 2)

end

def read? (chars : List Char) : Option (Literal × List Char) :=
  (value? chars).map Reading.parts

def readElement? (b : Bracket) (chars : List Char) : Option (b.Element × List Char) :=
  (element? b chars).map Reading.parts

def readElements? (b : Bracket) (chars : List Char) : Option (List b.Element × List Char) :=
  (elements? b chars).map Reading.parts

def ofData : Json → Literal
  | .null => null
  | .bool value => bool value
  | .number n => number n.text
  | .string s => text s
  | .array items => list (ofItems items)
  | .object entries => dict (ofEntries entries)
where
  ofItems : List Json → List Literal
    | [] => []
    | item :: items => ofData item :: ofItems items
  ofEntries : List (String × Json) → List (String × Literal)
    | [] => []
    | (key, value) :: entries => (key, ofData value) :: ofEntries entries

theorem parts_text? (chars : List Char) :
    (text? chars).map Reading.parts =
      (contents? (singleQuoted false) chars).map (Prod.map String.ofList id) :=
  Reading.map_parts_of? _

theorem read?_eq (chars : List Char) :
    read? chars =
      match skipGap chars with
      | '\'' :: rest => ((text? rest).map Reading.parts).map (Prod.map text id)
      | '[' :: rest => (readElements? .square rest).map (Prod.map list id)
      | '\x7b' :: rest => (readElements? .curly rest).map (Prod.map dict id)
      | inside => atom? inside := by
  rw [read?, value?]
  dsimp only
  split
  next rest opens =>
    simp only [opens, Option.map_map]
    rfl
  next rest opens =>
    simp only [opens, readElements?, Option.map_map]
    rfl
  next rest opens =>
    simp only [opens, readElements?, Option.map_map]
    rfl
  next text square curly =>
    rw [atomReading?, Reading.map_parts_of?]
    split
    next opens => exact absurd opens (text _)
    next opens => exact absurd opens (square _)
    next opens => exact absurd opens (curly _)
    next => rfl

theorem readElement?_square (chars : List Char) : readElement? .square chars = read? chars := by
  rw [readElement?, element?]
  rfl

theorem readElement?_curly (chars : List Char) :
    readElement? .curly chars =
      match skipGap chars with
      | '\'' :: rest =>
        ((text? rest).map Reading.parts).bind fun key =>
          match skipGap key.2 with
          | ':' :: after => (read? after).map (Prod.map (key.1, ·) id)
          | _ => none
      | _ => none := by
  rw [readElement?, element?]
  dsimp only
  split
  next rest opens =>
    simp only [opens]
    cases text? rest with
    | none => rfl
    | some key =>
        simp only [Option.bind_some, Option.map_some]
        split
        next after colon =>
          have same : skipGap key.parts.2 = ':' :: after := colon
          simp only [same, read?, Option.map_map]
          rfl
        next other =>
          split
          next colon => exact absurd colon (other _)
          next => rfl
  next other =>
    split
    next opens => exact absurd opens (other _)
    next => rfl

theorem readElements?_eq (b : Bracket) (chars : List Char) :
    readElements? b chars =
      match skipGap chars with
      | [] => none
      | c :: after =>
        if c = b.close then some ([], after)
        else
          (readElement? b chars).bind fun first =>
            match skipGap first.2 with
            | [] => none
            | d :: after =>
              if d = ',' then (readElements? b after).map (Prod.map (first.1 :: ·) id)
              else if d = b.close then some ([first.1], after)
              else none := by
  rw [readElements?, elements?]
  dsimp only
  split
  next start => simp only [start, Option.map_none]
  next c after start =>
    simp only [start]
    split
    next closes => rfl
    next opens =>
      rw [readElement?]
      cases element? b chars with
      | none => rfl
      | some first =>
          simp only [Option.bind_some, Option.map_some]
          split
          next follows =>
            have same : skipGap first.parts.2 = [] := follows
            simp only [same, Option.map_none]
          next d more follows =>
            have same : skipGap first.parts.2 = d :: more := follows
            simp only [same]
            split
            next =>
              simp only [readElements?, Option.map_map]
              rfl
            next =>
              split
              next => rfl
              next => rfl

theorem skipGap_space (chars : List Char) : skipGap (' ' :: chars) = skipGap chars := rfl

theorem readElement?_space (b : Bracket) (chars : List Char) :
    readElement? b (' ' :: chars) = readElement? b chars := by
  cases b with
  | square => rw [readElement?_square, readElement?_square, read?_eq, read?_eq, skipGap_space]
  | curly => rw [readElement?_curly, readElement?_curly, skipGap_space]

theorem readElements?_space (b : Bracket) (chars : List Char) :
    readElements? b (' ' :: chars) = readElements? b chars := by
  rw [readElements?_eq, readElements?_eq, skipGap_space, readElement?_space]

theorem atom?_close (rest : List Char) : atom? (']' :: rest) = none := by
  have noName : isIdentifierChar ']' = false := by decide +kernel
  have noNumber : number? (']' :: rest) = none := by
    refine Option.eq_none_iff_forall_ne_some.mpr fun read found => ?_
    exact absurd (leads_of_number? found) (by decide)
  have noConstant : constant? (']' :: rest) = none := by
    rw [constant?, List.takeWhile_cons_of_neg (by simp [noName])]
    rfl
  rw [atom?, noNumber, noConstant]
  rfl

theorem readElement?_close {b : Bracket} {chars after : List Char}
    (start : skipGap chars = b.close :: after) : readElement? b chars = none := by
  cases b with
  | square =>
      rw [readElement?_square, read?_eq, start]
      exact atom?_close after
  | curly =>
      rw [readElement?_curly, start]
      rfl

theorem readElement?_nil {b : Bracket} {chars : List Char} (start : skipGap chars = []) :
    readElement? b chars = none := by
  cases b with
  | square =>
      rw [readElement?_square, read?_eq, start]
      rfl
  | curly => rw [readElement?_curly, start]

section Elements

variable {b : Bracket} {chars after : List Char} {value : b.Element}

theorem readElements?_close (b : Bracket) (rest : List Char) :
    readElements? b (b.close :: rest) = some ([], rest) := by
  have start : skipGap (b.close :: rest) = b.close :: rest := by
    cases b with
    | square => rfl
    | curly => rfl
  rw [readElements?_eq, start]
  exact if_pos rfl

theorem readElements?_of_element {d : Char}
    (first : readElement? b chars = some (value, d :: after)) (stands : isGap d = false) :
    readElements? b chars =
      if d = ',' then (readElements? b after).map (Prod.map (value :: ·) id)
      else if d = b.close then some ([value], after)
      else none := by
  have behind : skipGap (d :: after) = d :: after :=
    List.dropWhile_cons_of_neg (by simp [stands])
  rw [readElements?_eq]
  cases start : skipGap chars with
  | nil => cases (readElement?_nil start).symm.trans first
  | cons c more =>
      -- A text that an element has been read from does not close.
      have opens : c ≠ b.close := by
        rintro rfl
        cases (readElement?_close start).symm.trans first
      dsimp only
      rw [if_neg opens, first, Option.bind_some]
      dsimp only
      rw [behind]

end Elements

/-- The text is read as the element, whatever follows it. -/
def Reads (b : Bracket) (text : List Char) (value : b.Element) : Prop :=
  ∀ rest, EndsToken rest → readElement? b (text ++ rest) = some (value, rest)

theorem endsToken_comma (rest : List Char) : EndsToken (',' :: rest) :=
  endsToken_cons (by decide +kernel) (by decide) rest

theorem endsToken_close (b : Bracket) (rest : List Char) : EndsToken (b.close :: rest) := by
  cases b with
  | square => exact endsToken_cons (by decide +kernel) (by decide) rest
  | curly => exact endsToken_cons (by decide +kernel) (by decide) rest

theorem readElements?_intercalate {b : Bracket} {texts : List String} {values : List b.Element}
    (reads : List.Forall₂ (fun text value => Reads b text.toList value) texts values)
    (rest : List Char) :
    readElements? b ((", ".intercalate texts).toList ++ b.close :: rest) = some (values, rest) := by
  induction reads with
  | nil => exact readElements?_close b rest
  | @cons text value texts values first more ih =>
      cases more with
      | nil =>
          have last := first _ (endsToken_close b rest)
          have noComma : b.close ≠ ',' := by cases b <;> decide
          rw [String.intercalate_singleton, readElements?_of_element last (by cases b <;> rfl),
            if_neg noComma, if_pos rfl]
      | cons second others =>
          -- The space behind the comma is passed over with the next element.
          have separator : ", ".toList = [',', ' '] := rfl
          rw [String.intercalate_cons_cons, String.toList_append, String.toList_append, separator,
            List.append_assoc, List.append_assoc, List.cons_append, List.singleton_append,
            readElements?_of_element (first _ (endsToken_comma _)) rfl, if_pos rfl,
            readElements?_space, ih]
          rfl

/-- The characters that no number and no name starts with, because something else does. -/
def openings : List Char :=
  [' ', '\t', '\n', '\r', '\x0c', '\'', '[', '\x7b']

theorem read?_atom {c : Char} (apart : c ∉ openings) (rest : List Char) :
    read? (c :: rest) = atom? (c :: rest) := by
  have start : skipGap (c :: rest) = c :: rest := by
    refine List.dropWhile_cons_of_neg fun gap => apart ?_
    simp only [isGap, Bool.or_eq_true, beq_iff_eq] at gap
    simp only [openings, List.mem_cons]
    tauto
  rw [read?_eq, start]
  split
  next opens =>
    cases opens
    exact absurd (by decide) apart
  next opens =>
    cases opens
    exact absurd (by decide) apart
  next opens =>
    cases opens
    exact absurd (by decide) apart
  next => rfl

theorem reads_number (n : Number) : Reads .square n.text.toList (number n.text) := by
  intro rest ends
  have found := number?_append n ends
  cases text : n.text.toList ++ rest with
  | nil =>
      rw [text] at found
      cases found
  | cons c more =>
      have apart : c ∉ openings := by
        have each : (openings.all fun d => d != '-' && !d.isDigit) = true := by decide
        rw [text] at found
        intro opening
        have other := List.all_eq_true.mp each c opening
        rcases leads_of_number? found with rfl | digit
        · cases other
        · simp [digit] at other
      rw [readElement?_square, read?_atom apart, ← text, atom?, found, Option.map_some,
        Prod.map_apply, String.ofList_toList]
      rfl

theorem constant?_append {word : String} {value : Literal} (listed : (word, value) ∈ constants)
    {rest : List Char} (ends : EndsToken rest) :
    constant? (word.toList ++ rest) = some (value, rest) := by
  have parts : (constants.all fun entry => entry.1.toList.all isIdentifierChar) = true := by
    decide +kernel
  have part := List.all_eq_true.mp (List.all_eq_true.mp parts _ listed)
  have found : constants.lookup word = some value := by
    simp only [constants, List.mem_cons, Prod.mk.injEq, List.not_mem_nil, or_false] at listed
    rcases listed with ⟨rfl, rfl⟩ | ⟨rfl, rfl⟩ | ⟨rfl, rfl⟩
    · rfl
    · rfl
    · rfl
  obtain ⟨front, behind⟩ := cut_append part ends.ends
  rw [constant?, front, behind, String.ofList_toList, found, Option.map_some]

theorem reads_constant {word : String} {value : Literal} (listed : (word, value) ∈ constants) :
    Reads .square word.toList value := by
  intro rest ends
  have found := constant?_append listed ends
  have leads : ∃ c more, word.toList = c :: more ∧ c ∉ openings ∧
      ¬ (c = '-' ∨ c.isDigit = true) := by
    simp only [constants, List.mem_cons, Prod.mk.injEq, List.not_mem_nil, or_false] at listed
    rcases listed with ⟨rfl, -⟩ | ⟨rfl, -⟩ | ⟨rfl, -⟩
    · exact ⟨'N', "one".toList, rfl, by decide, by decide⟩
    · exact ⟨'T', "rue".toList, rfl, by decide, by decide⟩
    · exact ⟨'F', "alse".toList, rfl, by decide, by decide⟩
  obtain ⟨c, more, text, apart, noNumber⟩ := leads
  rw [text, List.cons_append] at found ⊢
  have noNumber : number? (c :: (more ++ rest)) = none :=
    Option.eq_none_iff_forall_ne_some.mpr fun _ read => noNumber (leads_of_number? read)
  rw [readElement?_square, read?_atom apart, atom?, noNumber, Option.map_none, Option.none_or,
    found]

theorem parts_text?_escaped (s : String) (rest : List Char) :
    (text? (s.toList.flatMap escapeChar ++ '\'' :: rest)).map Reading.parts = some (s, rest) := by
  rw [parts_text?, contents?_escaped, Option.map_some, Prod.map_apply, String.ofList_toList]
  rfl

theorem skipGap_textLiteral (s : String) (rest : List Char) :
    skipGap ((textLiteral s).toList ++ rest) =
      '\'' :: (s.toList.flatMap escapeChar ++ '\'' :: rest) := by
  rw [textLiteral, String.toList_ofList, List.append_assoc]
  rfl

theorem read?_textLiteral (s : String) (rest : List Char) :
    read? ((textLiteral s).toList ++ rest) = some (text s, rest) := by
  simp only [read?_eq, skipGap_textLiteral, parts_text?_escaped, Option.map_some]
  rfl

theorem reads_textLiteral (s : String) : Reads .square (textLiteral s).toList (text s) :=
  fun rest _ => (readElement?_square _).trans (read?_textLiteral s rest)

theorem read?_opening (b : Bracket) (rest : List Char) :
    read? (b.opening :: rest) = (readElements? b rest).map (Prod.map b.literal id) := by
  cases b with
  | square =>
      rw [read?_eq]
      rfl
  | curly =>
      rw [read?_eq]
      rfl

theorem reads_brackets {b : Bracket} {first last : String} (opens : first.toList = [b.opening])
    (closes : last.toList = [b.close]) {texts : List String} {values : List b.Element}
    (reads : List.Forall₂ (fun text value => Reads b text.toList value) texts values) :
    Reads .square (first ++ ", ".intercalate texts ++ last).toList (b.literal values) := by
  intro rest _
  rw [readElement?_square, String.toList_append, String.toList_append, opens, closes,
    List.append_assoc, List.append_assoc, List.singleton_append, List.singleton_append,
    read?_opening, readElements?_intercalate reads]
  rfl

theorem reads_entry {key : String} {value : Literal} {valueText : String}
    (reads : Reads .square valueText.toList value) :
    Reads .curly (textLiteral key ++ ": " ++ valueText).toList (key, value) := by
  intro rest ends
  have colon : ": ".toList = [':', ' '] := rfl
  have read := reads rest ends
  rw [← readElement?_space, readElement?_square] at read
  rw [String.toList_append, String.toList_append, List.append_assoc, List.append_assoc, colon,
    readElement?_curly]
  simp only [skipGap_textLiteral, parts_text?_escaped, Option.bind_some]
  change (read? (' ' :: (valueText.toList ++ rest))).map (Prod.map (key, ·) id) = _
  rw [read]
  rfl

mutual

theorem reads_dataLiteral : ∀ v : Json, Reads .square (dataLiteral v).toList (ofData v)
  | .null => reads_constant (.head _)
  | .bool true => reads_constant (.tail _ (.head _))
  | .bool false => reads_constant (.tail _ (.tail _ (.head _)))
  | .number n => reads_number n
  | .string s => reads_textLiteral s
  | .array items => reads_brackets rfl rfl (forall₂_itemLiterals items)
  | .object entries => reads_brackets rfl rfl (forall₂_entryLiterals entries)

theorem forall₂_itemLiterals : ∀ items : List Json,
    List.Forall₂ (fun text value => Reads .square text.toList value)
      (dataLiteral.itemLiterals items) (ofData.ofItems items)
  | [] => .nil
  | item :: items => .cons (reads_dataLiteral item) (forall₂_itemLiterals items)

theorem forall₂_entryLiterals : ∀ entries : List (String × Json),
    List.Forall₂ (fun text value => Reads .curly text.toList value)
      (dataLiteral.entryLiterals entries) (ofData.ofEntries entries)
  | [] => .nil
  | (_, value) :: entries =>
      .cons (reads_entry (reads_dataLiteral value)) (forall₂_entryLiterals entries)

end

/-- A value is read back from its literal, and a string from its own whatever follows, which is
written without any control character. -/
theorem read?_dataLiteral (v : Json) {rest : List Char} (ends : EndsToken rest) :
    read? ((dataLiteral v).toList ++ rest) = some (ofData v, rest) ∧
      ∀ (s : String) (after : List Char),
        read? ((textLiteral s).toList ++ after) = some (text s, after) ∧
          ∀ c ∈ (textLiteral s).toList, isControl c = false := by
  constructor
  · rw [← readElement?_square]
    exact reads_dataLiteral v rest ends
  · exact fun s after => ⟨read?_textLiteral s after, not_isControl_textLiteral s⟩

theorem read?_dataLiteral_label :
    EndsToken [')'] ∧
      read? ("\x7b'it\\'s': [None, -3, 'a\\\\b\\x07']\x7d".toList ++ [')']) =
        some (dict [("it's", list [null, number "-3", text "a\\b\x07"])], [')']) := by
  have ends : EndsToken [')'] := endsToken_cons (by decide +kernel) (by decide) []
  have literal : dataLiteral (.object [("it's", .array [.null, .number (.int (-3)),
      .string "a\\b\x07"])]) = "\x7b'it\\'s': [None, -3, 'a\\\\b\\x07']\x7d" := by
    decide +kernel
  have read := (read?_dataLiteral (.object [("it's", .array [.null, .number (.int (-3)),
    .string "a\\b\x07"])]) ends).1
  rw [literal] at read
  exact ⟨ends, read⟩

end Literal

end Modelwright.Target
