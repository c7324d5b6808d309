import Mathlib.Data.Char
import Mathlib.Data.Nat.Digits.Defs
import PolicyOS.Foundation.Text

/-!
# JSON texts

How a value is written as JSON in ASCII, with a blank after every comma and colon. The text
tells the value: `dumps_injective`. What is read is always followed by a character that cannot
continue it, so the values of a collection are read one after the other; `Ends` says which
characters those are.
-/

namespace PolicyOS.Foundation

/-! ## Digits -/

/-- The lowest digits of a number in a base of at most sixteen, most significant first. -/
def digitsText (base count value : Nat) : Text :=
  (List.range count).reverse.map fun place => Nat.digitChar (value / base ^ place % base)

/-- Hexadecimal digits. -/
abbrev hexText : Nat → Nat → Text := digitsText 16

/-- Decimal digits. -/
abbrev decimalText : Nat → Nat → Text := digitsText 10

@[simp] theorem length_digitsText (base count value : Nat) :
    (digitsText base count value).length = count := by
  simp [digitsText]

theorem digitsText_succ (base count value : Nat) :
    digitsText base (count + 1) value =
      Nat.digitChar (value / base ^ count % base) :: digitsText base count value := by
  simp [digitsText, List.range_succ]

theorem digitChar_injective {first second : Nat} (isFirst : first < 16) (isSecond : second < 16)
    (same : Nat.digitChar first = Nat.digitChar second) : first = second := by
  have every : ∀ first < 16, ∀ second < 16,
      Nat.digitChar first = Nat.digitChar second → first = second := by decide
  exact every first isFirst second isSecond same

/-- The digits tell the number up to higher digits. -/
theorem digitsText_inj {base count first second : Nat} (positive : 0 < base) (small : base ≤ 16) :
    digitsText base count first = digitsText base count second ↔
      first % base ^ count = second % base ^ count := by
  induction count with
  | zero => simp [digitsText, Nat.mod_one]
  | succ count ih =>
      have split : ∀ value, value % base ^ (count + 1) =
          value % base ^ count + base ^ count * (value / base ^ count % base) := by
        intro value
        rw [Nat.pow_succ, Nat.mod_mul]
      have low : ∀ value, value % base ^ count < base ^ count :=
        fun value => Nat.mod_lt _ (Nat.pow_pos positive)
      have digit : ∀ value, value % base < 16 :=
        fun value => Nat.lt_of_lt_of_le (Nat.mod_lt _ positive) small
      rw [digitsText_succ, digitsText_succ, List.cons.injEq, ih, split first, split second]
      constructor
      · rintro ⟨sameDigit, sameRest⟩
        rw [sameRest, digitChar_injective (digit _) (digit _) sameDigit]
      · intro same
        have rest := congrArg (· % base ^ count) same
        simp only [Nat.add_mul_mod_self_left, Nat.mod_eq_of_lt (low _)] at rest
        rw [rest, Nat.add_left_cancel_iff] at same
        exact ⟨congrArg _ (Nat.eq_of_mul_eq_mul_left (Nat.pow_pos positive) same), rest⟩

theorem eq_of_digitsText {base count first second : Nat} (positive : 0 < base) (small : base ≤ 16)
    (isFirst : first < base ^ count) (isSecond : second < base ^ count)
    (same : digitsText base count first = digitsText base count second) : first = second := by
  have values := (digitsText_inj positive small).mp same
  rwa [Nat.mod_eq_of_lt isFirst, Nat.mod_eq_of_lt isSecond] at values

/-! ## Strings -/

/-- The characters that are escaped by a letter. -/
def shortEscapes : List (Char × Char) :=
  [('"', '"'), ('\\', '\\'), ('\n', 'n'), ('\r', 'r'), ('\t', 't'), (Char.ofNat 12, 'f'),
    (Char.ofNat 8, 'b')]

/-- The letter a character is escaped by. -/
def shortEscape? (char : Char) : Option Char :=
  (shortEscapes.find? fun entry => entry.1 = char).map (·.2)

/-- A unit of sixteen bits. -/
def unitText (value : Nat) : Text := '\\' :: 'u' :: hexText 4 value

/-- A character in units of sixteen bits: one, or two if it has more. -/
def unicodeEscape (char : Char) : Text :=
  if char.toNat < 0x10000 then unitText char.toNat
  else unitText (0xd800 + (char.toNat - 0x10000) / 0x400) ++
    unitText (0xdc00 + (char.toNat - 0x10000) % 0x400)

/-- How a character is written in a string, if some characters are written as they are. -/
def escapeWith (plain : Char → Bool) (char : Char) : Text :=
  match shortEscape? char with
  | some letter => ['\\', letter]
  | none => if plain char then [char] else unicodeEscape char

/-- A string with its characters escaped. -/
def quotedText (plain : Char → Bool) (text : Text) : Text :=
  '"' :: text.flatMap (escapeWith plain) ++ ['"']

/-- How a character is written in a string. -/
def escapeChar (char : Char) : Text :=
  match shortEscape? char with
  | some letter => ['\\', letter]
  | none => if 0x20 ≤ char.toNat ∧ char.toNat ≤ 0x7e then [char] else unicodeEscape char

/-- How a string is written. -/
def stringText (text : Text) : Text := '"' :: text.flatMap escapeChar ++ ['"']

/-- The characters of ASCII are those written as they are. -/
theorem stringText_eq :
    stringText = quotedText fun char => decide (0x20 ≤ char.toNat ∧ char.toNat ≤ 0x7e) := by
  have escapes : escapeChar =
      escapeWith fun char => decide (0x20 ≤ char.toNat ∧ char.toNat ≤ 0x7e) := by
    funext char
    simp [escapeChar, escapeWith]
  funext text
  rw [stringText, quotedText, escapes]

example : stringText "a\"é".toList = "\"a\\\"\\u00e9\"".toList := by decide

theorem shortEscape?_eq_some {char letter : Char} (escaped : shortEscape? char = some letter) :
    (char, letter) ∈ shortEscapes := by
  obtain ⟨⟨own, other⟩, found, rfl⟩ := Option.map_eq_some_iff.mp escaped
  obtain rfl : own = char := by simpa using List.find?_some found
  exact List.mem_of_find?_eq_some found

theorem shortEscapes_apart : ∀ first ∈ shortEscapes, ∀ second ∈ shortEscapes,
    first.2 = second.2 → first.1 = second.1 := by decide

theorem shortEscapes_ne_unit : ∀ entry ∈ shortEscapes, entry.2 ≠ 'u' := by decide

theorem plain_of_none {char : Char} (plain : shortEscape? char = none) :
    char ≠ '"' ∧ char ≠ '\\' := by
  constructor <;> rintro rfl <;> revert plain <;> decide

theorem unitText_inj {first second : Nat} {before after : Text} (isFirst : first < 0x10000)
    (isSecond : second < 0x10000)
    (same : unitText first ++ before = unitText second ++ after) :
    first = second ∧ before = after := by
  simp only [unitText, List.cons_append, List.cons.injEq, true_and] at same
  obtain ⟨digits, rest⟩ := List.append_inj same (by simp)
  exact ⟨eq_of_digitsText (by decide) (by decide) isFirst isSecond digits, rest⟩

theorem char_not_surrogate (char : Char) : char.toNat < 0xd800 ∨ 0xdfff < char.toNat := by
  have valid := char.valid
  have isVal : char.toNat = char.val.toNat := rfl
  simp only [UInt32.isValidChar, Nat.isValidChar] at valid
  omega

theorem char_lt (char : Char) : char.toNat < 0x110000 := by
  have valid := char.valid
  have isVal : char.toNat = char.val.toNat := rfl
  simp only [UInt32.isValidChar, Nat.isValidChar] at valid
  omega

/-- Characters in units that are read at the same place are the same. -/
theorem unicodeEscape_inj {first second : Char} {before after : Text}
    (same : unicodeEscape first ++ before = unicodeEscape second ++ after) :
    first = second ∧ before = after := by
  have firstUnits := char_not_surrogate first
  have secondUnits := char_not_surrogate second
  have firstBound := char_lt first
  have secondBound := char_lt second
  unfold unicodeEscape at same
  split_ifs at same with firstSmall secondSmall secondSmall
  · obtain ⟨sameUnit, rest⟩ := unitText_inj firstSmall secondSmall same
    exact ⟨Char.toNat_inj.mp sameUnit, rest⟩
  · rw [List.append_assoc] at same
    obtain ⟨sameUnit, -⟩ := unitText_inj firstSmall (by omega) same
    omega
  · rw [List.append_assoc] at same
    obtain ⟨sameUnit, -⟩ := unitText_inj (by omega) secondSmall same
    omega
  · rw [List.append_assoc, List.append_assoc] at same
    obtain ⟨high, others⟩ := unitText_inj (by omega) (by omega) same
    obtain ⟨low, rest⟩ := unitText_inj (by omega) (by omega) others
    exact ⟨Char.toNat_inj.mp (by omega), rest⟩

/-- Characters that are escaped at the same place are the same. -/
theorem escapeWith_inj {plain : Char → Bool} {first second : Char} {before after : Text}
    (same : escapeWith plain first ++ before = escapeWith plain second ++ after) :
    first = second ∧ before = after := by
  -- A letter never starts a unit, and a plain character is never a backslash.
  have unit : ∀ char, ∃ rest, unicodeEscape char = '\\' :: 'u' :: rest := by
    intro char
    unfold unicodeEscape
    split_ifs
    · exact ⟨_, rfl⟩
    · exact ⟨_, rfl⟩
  unfold escapeWith at same
  cases isFirst : shortEscape? first with
  | some letter =>
      have inFirst := shortEscape?_eq_some isFirst
      cases isSecond : shortEscape? second with
      | some other =>
          simp only [isFirst, isSecond, List.cons_append, List.nil_append, List.cons.injEq,
            true_and] at same
          exact ⟨shortEscapes_apart _ inFirst _ (shortEscape?_eq_some isSecond) same.1, same.2⟩
      | none =>
          simp only [isFirst, isSecond, List.cons_append, List.nil_append] at same
          split_ifs at same
          · exact absurd (List.cons.inj same).1.symm (plain_of_none isSecond).2
          · obtain ⟨rest, isUnit⟩ := unit second
            simp only [isUnit, List.cons_append, List.cons.injEq, true_and] at same
            exact absurd same.1 (shortEscapes_ne_unit _ inFirst)
  | none =>
      cases isSecond : shortEscape? second with
      | some other =>
          simp only [isFirst, isSecond, List.cons_append, List.nil_append] at same
          split_ifs at same
          · exact absurd (List.cons.inj same).1 (plain_of_none isFirst).2
          · obtain ⟨rest, isUnit⟩ := unit first
            simp only [isUnit, List.cons_append, List.cons.injEq, true_and] at same
            exact absurd same.1.symm (shortEscapes_ne_unit _ (shortEscape?_eq_some isSecond))
      | none =>
          simp only [isFirst, isSecond] at same
          split_ifs at same
          · exact List.cons.inj same
          · obtain ⟨rest, isUnit⟩ := unit second
            rw [isUnit] at same
            exact absurd (List.cons.inj same).1 (plain_of_none isFirst).2
          · obtain ⟨rest, isUnit⟩ := unit first
            rw [isUnit] at same
            exact absurd (List.cons.inj same).1.symm (plain_of_none isSecond).2
          · exact unicodeEscape_inj same

/-- A quote ends a string: no character is written with one first. -/
theorem escapeWith_ne_quote {plain : Char → Bool} (char : Char) {rest after : Text} :
    escapeWith plain char ++ rest ≠ '"' :: after := by
  intro same
  unfold escapeWith at same
  cases escaped : shortEscape? char with
  | some letter =>
      rw [escaped] at same
      exact absurd (List.cons.inj same).1 (by decide)
  | none =>
      rw [escaped] at same
      simp only [unicodeEscape, unitText] at same
      split_ifs at same
      · exact absurd (List.cons.inj same).1 (plain_of_none escaped).1
      · exact absurd (List.cons.inj same).1 (by decide)
      · exact absurd (List.cons.inj same).1 (by decide)

/-- Strings that are read at the same place are the same. -/
theorem quotedText_inj {plain : Char → Bool} {first second before after : Text}
    (same : quotedText plain first ++ before = quotedText plain second ++ after) :
    first = second ∧ before = after := by
  simp only [quotedText, List.cons_append, List.cons.injEq, true_and, List.append_assoc,
    List.nil_append] at same
  induction first generalizing second with
  | nil =>
      cases second with
      | nil => exact ⟨rfl, (List.cons.inj same).2⟩
      | cons char rest =>
          rw [List.flatMap_cons, List.append_assoc] at same
          exact absurd same.symm (escapeWith_ne_quote char)
  | cons char rest ih =>
      cases second with
      | nil =>
          rw [List.flatMap_cons, List.append_assoc] at same
          exact absurd same (escapeWith_ne_quote char)
      | cons other others =>
          rw [List.flatMap_cons, List.flatMap_cons, List.append_assoc, List.append_assoc] at same
          obtain ⟨rfl, sameRest⟩ := escapeWith_inj same
          obtain ⟨rfl, rfl⟩ := ih sameRest
          exact ⟨rfl, rfl⟩

/-- Strings that are read at the same place are the same. -/
theorem stringText_inj {first second before after : Text}
    (same : stringText first ++ before = stringText second ++ after) :
    first = second ∧ before = after := by
  rw [stringText_eq] at same
  exact quotedText_inj same

/-! ## Values -/

/-- What a character says about the value it starts. -/
inductive JsonKind
  | null | true_ | false_ | number | string | list | dict
  deriving DecidableEq

/-- The kind of value a character starts. -/
def kindOf (char : Char) : JsonKind :=
  if char = 'n' then .null else if char = 't' then .true_ else if char = 'f' then .false_
  else if char = '"' then .string else if char = '[' then .list else if char = '{' then .dict
  else .number

/-- The characters that may follow a value. -/
def isEnd (char : Char) : Bool := char = ',' || char = ']' || char = '}'

/-- A number as it is written: it starts like none of the other values, and no character of it
may follow a value. -/
structure NumberText where
  text : Text
  starts : (text.head?.map kindOf) = some .number := by decide
  unended : text.all (fun char => !isEnd char) = true := by decide
  deriving DecidableEq

/-- A decimal digit starts a number, and may not follow a value. -/
theorem kindOf_digit {char : Char} (digit : char.isDigit = true) :
    kindOf char = .number ∧ isEnd char = false := by
  have others : ['n', 't', 'f', '"', '[', '{', ',', ']', '}'].all (fun other => !other.isDigit) =
      true := by
    decide
  have apart : ∀ other ∈ ['n', 't', 'f', '"', '[', '{', ',', ']', '}'], char ≠ other := by
    rintro other among rfl
    have noDigit := List.all_eq_true.mp others char among
    rw [digit] at noDigit
    cases noDigit
  simp only [List.forall_mem_cons, ne_eq] at apart
  simp [kindOf, isEnd, apart]

/-- A number that counts. -/
def NumberText.ofNat (value : Nat) : NumberText where
  text := Nat.toDigits 10 value
  starts := by
    obtain ⟨first, rest, written⟩ := List.exists_cons_of_ne_nil (Nat.toDigits_ne_nil (n := value)
      (b := 10))
    have digit := Nat.isDigit_of_mem_toDigits (b := 10) (n := value) (c := first) (by decide)
      (by decide) (by simp [written])
    simp [written, kindOf_digit digit]
  unended := by
    rw [List.all_eq_true]
    intro char among
    simp [kindOf_digit (Nat.isDigit_of_mem_toDigits (by decide) (by decide) among)]

theorem NumberText.ofNat_injective : Function.Injective NumberText.ofNat := by
  intro first second same
  have digits : Nat.toDigits 10 first = Nat.toDigits 10 second := congrArg NumberText.text same
  rw [← Nat.ofDigitChars_ten_toDigits (n := first), digits, Nat.ofDigitChars_ten_toDigits]

/-- A value. A dictionary is kept with its keys in the order in which they are written. -/
inductive Json
  | null
  | boolean (value : Bool)
  | number (value : NumberText)
  | string (text : Text)
  | list (items : List Json)
  | dict (members : List (Text × Json))

namespace Json

mutual

/-- How a value is written. -/
def dumps : Json → Text
  | null => "null".toList
  | boolean value => if value then "true".toList else "false".toList
  | number value => value.text
  | string text => stringText text
  | list [] => ['[', ']']
  | list (item :: rest) => '[' :: dumps item ++ dumpsItems rest
  | dict [] => ['{', '}']
  | dict ((key, value) :: rest) =>
      '{' :: stringText key ++ ':' :: ' ' :: dumps value ++ dumpsMembers rest

/-- How further items are written, up to the closing bracket. -/
def dumpsItems : List Json → Text
  | [] => [']']
  | item :: rest => ',' :: ' ' :: dumps item ++ dumpsItems rest

/-- How further members are written, up to the closing brace. -/
def dumpsMembers : List (Text × Json) → Text
  | [] => ['}']
  | (key, value) :: rest =>
      ',' :: ' ' :: stringText key ++ ':' :: ' ' :: dumps value ++ dumpsMembers rest

end

example : dumps (.dict [("a".toList, .list [.number { text := "1".toList }, .null]),
    ("b".toList, .boolean true)]) = "\x7b\"a\": [1, null], \"b\": true\x7d".toList := by decide

/-- The kind of a value. -/
def kind : Json → JsonKind
  | null => .null
  | boolean value => if value then .true_ else .false_
  | number _ => .number
  | string _ => .string
  | list _ => .list
  | dict _ => .dict

theorem head_dumps (value : Json) : (value.dumps.head?.map kindOf) = some value.kind := by
  cases value with
  | null => decide
  | boolean value => cases value <;> decide
  | number value =>
      rw [dumps]
      exact value.starts
  | string text => rw [dumps]; rfl
  | list items => cases items <;> (rw [dumps]; rfl)
  | dict members => cases members <;> (rw [dumps]; rfl)

/-! ## Reading values back -/

/-- What follows a value does not continue it. -/
def Ends (rest : Text) : Prop := ∀ char ∈ rest.head?, isEnd char = true

theorem ends_cons {char : Char} {rest : Text} (isEnd_ : isEnd char = true) : Ends (char :: rest) := by
  intro other isHead
  cases isHead
  exact isEnd_

theorem ends_dumpsItems (items : List Json) (rest : Text) : Ends (dumpsItems items ++ rest) := by
  cases items <;> (rw [dumpsItems]; exact ends_cons (by decide))

theorem ends_dumpsMembers (members : List (Text × Json)) (rest : Text) :
    Ends (dumpsMembers members ++ rest) := by
  cases members <;> (rw [dumpsMembers]; exact ends_cons (by decide))

/-- Values that are read at the same place are of one kind. -/
theorem kind_eq {first second : Json} {before after : Text}
    (same : first.dumps ++ before = second.dumps ++ after) : first.kind = second.kind := by
  have head : ∀ (value : Json) (rest : Text),
      ((value.dumps ++ rest).head?.map kindOf) = some value.kind := by
    intro value rest
    have own := head_dumps value
    cases written : value.dumps with
    | nil =>
        rw [written] at own
        cases own
    | cons char others =>
        rw [written] at own
        exact own
  exact Option.some.inj ((head first before).symm.trans ((congrArg _ (congrArg _ same)).trans
    (head second after)))

/-- Numbers that are read at the same place are the same. -/
theorem numberText_inj {first second : NumberText} {before after : Text} (ends : Ends before)
    (endsAfter : Ends after) (same : first.text ++ before = second.text ++ after) :
    first = second ∧ before = after := by
  have whole : ∀ (number : NumberText) {rest : Text}, Ends rest →
      (number.text ++ rest).takeWhile (fun char => !isEnd char) = number.text := by
    intro number rest ends
    rw [List.takeWhile_append_of_pos fun char isChar => List.all_eq_true.mp number.unended char isChar]
    cases rest with
    | nil => simp
    | cons char others =>
        rw [List.takeWhile_cons_of_neg (by simp [ends char rfl]), List.append_nil]
  have texts : first.text = second.text := by
    rw [← whole first ends, same, whole second endsAfter]
  rw [texts] at same
  cases first
  cases second
  cases texts
  exact ⟨rfl, List.append_cancel_left same⟩

/-- No value starts with a character that may follow one. -/
theorem dumps_ne_end (value : Json) {char : Char} {rest others : Text} (isEnd_ : isEnd char = true) :
    value.dumps ++ rest ≠ char :: others := by
  intro same
  have head := head_dumps value
  cases written : value.dumps with
  | nil =>
      rw [written] at head
      cases head
  | cons first tail =>
      rw [written] at head same
      obtain rfl : first = char := (List.cons.inj same).1
      have isKind : kindOf first = value.kind := Option.some.inj head
      have number : kindOf first = .number := by
        simp only [isEnd, Bool.or_eq_true, decide_eq_true_eq] at isEnd_
        rcases isEnd_ with (rfl | rfl) | rfl <;> decide
      rw [number] at isKind
      cases value <;> simp only [kind, reduceCtorEq] at isKind
      case boolean => split_ifs at isKind
      case number value =>
        rw [dumps] at written
        have plain := List.all_eq_true.mp value.unended first (by simp [written])
        simp [isEnd_] at plain

mutual

/-- Values that are read at the same place are the same. -/
theorem dumps_inj : ∀ (first second : Json) {before after : Text}, Ends before → Ends after →
    first.dumps ++ before = second.dumps ++ after → first = second ∧ before = after
  | .null, second, _, _, _, _, same => by
      cases second <;> have kinds := kind_eq same <;> simp only [kind, reduceCtorEq] at kinds
      · exact ⟨rfl, List.append_cancel_left same⟩
      · split_ifs at kinds
  | .boolean value, second, _, _, _, _, same => by
      cases second <;> have kinds := kind_eq same <;> simp only [kind] at kinds
      case boolean other =>
        have same_ : value = other := by cases value <;> cases other <;> simp_all
        cases same_
        exact ⟨rfl, List.append_cancel_left same⟩
      all_goals split_ifs at kinds
  | .number value, second, _, _, ends, endsAfter, same => by
      cases second <;> have kinds := kind_eq same <;> simp only [kind, reduceCtorEq] at kinds
      · split_ifs at kinds
      · rw [dumps, dumps] at same
        obtain ⟨rfl, rest⟩ := numberText_inj ends endsAfter same
        exact ⟨rfl, rest⟩
  | .string text, second, _, _, _, _, same => by
      cases second <;> have kinds := kind_eq same <;> simp only [kind, reduceCtorEq] at kinds
      · split_ifs at kinds
      · rw [dumps, dumps] at same
        obtain ⟨rfl, rest⟩ := stringText_inj same
        exact ⟨rfl, rest⟩
  | .list [], second, _, _, _, _, same => by
      cases second <;> have kinds := kind_eq same <;> simp only [kind, reduceCtorEq] at kinds
      · split_ifs at kinds
      case list others =>
        cases others with
        | nil => exact ⟨rfl, List.append_cancel_left same⟩
        | cons other rest =>
            rw [dumps, dumps, List.cons_append, List.cons_append, List.append_assoc] at same
            exact absurd (List.cons.inj same).2.symm (dumps_ne_end other (by decide))
  | .list (item :: rest), second, _, _, _, _, same => by
      cases second <;> have kinds := kind_eq same <;> simp only [kind, reduceCtorEq] at kinds
      · split_ifs at kinds
      case list others =>
        cases others with
        | nil =>
            rw [dumps, dumps, List.cons_append, List.cons_append, List.append_assoc] at same
            exact absurd (List.cons.inj same).2 (dumps_ne_end item (by decide))
        | cons other others =>
            rw [dumps, dumps, List.cons_append, List.cons_append, List.append_assoc,
              List.append_assoc] at same
            obtain ⟨rfl, sameRest⟩ := dumps_inj item other (ends_dumpsItems _ _)
              (ends_dumpsItems _ _) (List.cons.inj same).2
            obtain ⟨rfl, sameAfter⟩ := dumpsItems_inj rest others sameRest
            exact ⟨rfl, sameAfter⟩
  | .dict [], second, _, _, _, _, same => by
      cases second <;> have kinds := kind_eq same <;> simp only [kind, reduceCtorEq] at kinds
      · split_ifs at kinds
      case dict others =>
        cases others with
        | nil => exact ⟨rfl, List.append_cancel_left same⟩
        | cons other rest =>
            rw [dumps, dumps] at same
            exact absurd (List.cons.inj (List.cons.inj same).2).1 (by decide)
  | .dict ((key, value) :: rest), second, _, _, _, _, same => by
      cases second <;> have kinds := kind_eq same <;> simp only [kind, reduceCtorEq] at kinds
      · split_ifs at kinds
      case dict others =>
        cases others with
        | nil =>
            rw [dumps, dumps] at same
            exact absurd (List.cons.inj (List.cons.inj same).2).1 (by decide)
        | cons other others =>
            obtain ⟨otherKey, otherValue⟩ := other
            simp only [dumps, List.cons_append, List.append_assoc, List.cons.injEq,
              true_and] at same
            obtain ⟨rfl, sameValue⟩ := stringText_inj same
            simp only [List.cons.injEq, true_and] at sameValue
            obtain ⟨rfl, sameRest⟩ := dumps_inj value otherValue (ends_dumpsMembers _ _)
              (ends_dumpsMembers _ _) sameValue
            obtain ⟨rfl, sameAfter⟩ := dumpsMembers_inj rest others sameRest
            exact ⟨rfl, sameAfter⟩

/-- Further items that are read at the same place are the same. -/
theorem dumpsItems_inj : ∀ (first second : List Json) {before after : Text},
    dumpsItems first ++ before = dumpsItems second ++ after → first = second ∧ before = after
  | [], [], _, _, same => ⟨rfl, List.append_cancel_left same⟩
  | [], _ :: _, _, _, same => by
      rw [dumpsItems, dumpsItems] at same
      exact absurd (List.cons.inj same).1 (by decide)
  | _ :: _, [], _, _, same => by
      rw [dumpsItems, dumpsItems] at same
      exact absurd (List.cons.inj same).1 (by decide)
  | item :: rest, other :: others, _, _, same => by
      simp only [dumpsItems, List.cons_append, List.append_assoc, List.cons.injEq, true_and] at same
      obtain ⟨rfl, sameRest⟩ := dumps_inj item other (ends_dumpsItems _ _) (ends_dumpsItems _ _)
        same
      obtain ⟨rfl, sameAfter⟩ := dumpsItems_inj rest others sameRest
      exact ⟨rfl, sameAfter⟩

/-- Further members that are read at the same place are the same. -/
theorem dumpsMembers_inj : ∀ (first second : List (Text × Json)) {before after : Text},
    dumpsMembers first ++ before = dumpsMembers second ++ after → first = second ∧ before = after
  | [], [], _, _, same => ⟨rfl, List.append_cancel_left same⟩
  | [], _ :: _, _, _, same => by
      rw [dumpsMembers, dumpsMembers] at same
      exact absurd (List.cons.inj same).1 (by decide)
  | _ :: _, [], _, _, same => by
      rw [dumpsMembers, dumpsMembers] at same
      exact absurd (List.cons.inj same).1 (by decide)
  | (key, value) :: rest, (otherKey, otherValue) :: others, _, _, same => by
      simp only [dumpsMembers, List.cons_append, List.append_assoc, List.cons.injEq,
        true_and] at same
      obtain ⟨rfl, sameValue⟩ := stringText_inj same
      simp only [List.cons.injEq, true_and] at sameValue
      obtain ⟨rfl, sameRest⟩ := dumps_inj value otherValue (ends_dumpsMembers _ _)
        (ends_dumpsMembers _ _) sameValue
      obtain ⟨rfl, sameAfter⟩ := dumpsMembers_inj rest others sameRest
      exact ⟨rfl, sameAfter⟩

end

theorem dumps_injective : Function.Injective dumps := by
  intro first second same
  have ends : Ends [] := nofun
  have whole : first.dumps ++ [] = second.dumps ++ [] := congrArg (· ++ []) same
  exact (dumps_inj first second ends ends whole).1

end Json

end PolicyOS.Foundation
