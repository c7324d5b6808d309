import PolicyOS.Domain.Primitives

/-!
# Identifier texts

The patterns identifiers are written in, and the text of a UUID. A pattern is a fixed
start followed by a bounded number of characters of one alphabet, so identifiers made of
others keep to a pattern by their characters and their lengths.
-/

namespace PolicyOS

/-- `[a-z0-9_.-]`. -/
def isNameChar (char : Char) : Bool :=
  char.isLower || char.isDigit || char = '_' || char = '.' || char = '-'

/-- `^start[a-z0-9_.-]{1,maximum}$`. -/
def prefixedName (start : String) (maximum : Nat) (text : String) : Bool :=
  let rest := text.toList.drop start.toList.length
  start.toList.isPrefixOf text.toList && 1 ≤ rest.length && rest.length ≤ maximum &&
    rest.all isNameChar

/-- `^[A-Za-z][A-Za-z0-9_.-]{0,maximum}$`, where further characters may be allowed. -/
def leadingName (further : Char → Bool) (maximum : Nat) (text : String) : Bool :=
  match text.toList with
  | [] => false
  | first :: rest =>
      first.isAlpha && rest.length ≤ maximum && rest.all fun char =>
        char.isAlphanum || char = '_' || char = '.' || char = '-' || further char

/-- The pattern of step identifiers. -/
def stepIdPattern (text : String) : Bool := leadingName (fun _ => false) 99 text

/-- The pattern of reference identifiers. -/
def referenceIdPattern (text : String) : Bool := leadingName (· = ':') 199 text

/-- The lowest hexadecimal digits of a number, most significant first. -/
def hexDigits (count value : Nat) : List Char :=
  (List.range count).reverse.map fun place => Nat.digitChar (value / 16 ^ place % 16)

/-- The characters of a UUID: five groups of digits, lower case. -/
def uuidChars (id : UUID) : List Char :=
  hexDigits 8 (id / 16 ^ 24) ++ '-' :: hexDigits 4 (id / 16 ^ 20) ++
    '-' :: hexDigits 4 (id / 16 ^ 16) ++ '-' :: hexDigits 4 (id / 16 ^ 12) ++
      '-' :: hexDigits 12 id

/-- The text of a UUID. -/
def uuidText (id : UUID) : String := String.ofList (uuidChars id)

example : uuidText 0x12345678123456781234567812345678 = "12345678-1234-5678-1234-567812345678" := by
  decide

/-! ## What keeps to a pattern -/

/-- A name is its start and the characters after it. -/
theorem prefixedName_iff {start : String} {maximum : Nat} {text : String} :
    prefixedName start maximum text = true ↔
      ∃ rest, text.toList = start.toList ++ rest ∧ 1 ≤ rest.length ∧ rest.length ≤ maximum ∧
        rest.all isNameChar = true := by
  simp only [prefixedName, Bool.and_eq_true, decide_eq_true_eq, List.isPrefixOf_iff_prefix,
    and_assoc]
  constructor
  · rintro ⟨⟨rest, split⟩, bounds⟩
    rw [← split, List.drop_left] at bounds
    exact ⟨rest, split.symm, bounds⟩
  · rintro ⟨rest, split, bounds⟩
    rw [split, List.drop_left]
    exact ⟨List.prefix_append _ _, bounds⟩

theorem uuidChars_all (allowed : Char → Bool)
    (digits : ∀ digit < 16, allowed (Nat.digitChar digit) = true) (dash : allowed '-' = true)
    (id : UUID) : (uuidChars id).all allowed = true := by
  have group : ∀ count value, (hexDigits count value).all allowed = true := by
    intro count value
    rw [hexDigits, List.all_map, List.all_eq_true]
    exact fun place _ => digits _ (Nat.mod_lt _ (by decide))
  simp only [uuidChars, List.all_append, List.all_cons, group, dash, Bool.and_true]

theorem uuidChars_isNameChar (id : UUID) : (uuidChars id).all isNameChar = true :=
  uuidChars_all isNameChar (by decide) (by decide) id

/-- There are 36 of them. -/
@[simp] theorem length_uuidChars (id : UUID) : (uuidChars id).length = 36 := by
  simp [uuidChars, hexDigits]

/-- The text of a UUID has its characters. -/
@[simp] theorem toList_uuidText (id : UUID) : (uuidText id).toList = uuidChars id :=
  String.toList_ofList

theorem isNameChar_lt {char : Char} (named : isNameChar char = true) : char.toNat < 128 := by
  delta isNameChar Char.isLower at named
  simp only [Bool.or_eq_true, Char.isDigit, Bool.and_eq_true, decide_eq_true_eq, ge_iff_le,
    UInt32.le_iff_toNat_le] at named
  have isVal : char.toNat = char.val.toNat := rfl
  have letters : 'z'.val.toNat = 122 := rfl
  have digits : '9'.val.toNat = 57 := rfl
  rcases named with (((lower | digit) | rfl) | rfl) | rfl
  · omega
  · omega
  all_goals decide

theorem forall_isNameChar (property : Char → Prop)
    (ascii : ∀ code < 128, isNameChar (Char.ofNat code) = true → property (Char.ofNat code))
    {char : Char} (named : isNameChar char = true) : property char := by
  have held := ascii char.toNat (isNameChar_lt named)
  rw [Char.ofNat_toNat] at held
  exact held named

/-- The bytes of a text are those of its characters. -/
theorem utf8ByteSize_eq_sum (text : String) :
    text.utf8ByteSize = (text.toList.map Char.utf8Size).sum := by
  have ofChars : ∀ chars : List Char,
      (String.ofList chars).utf8ByteSize = (chars.map Char.utf8Size).sum := by
    intro chars
    induction chars with
    | nil => rfl
    | cons char rest ih =>
        rw [← List.singleton_append, String.ofList_append, String.utf8ByteSize_append, ih,
          List.map_append, List.sum_append]
        simp
  rw [← ofChars, String.ofList_toList]

end PolicyOS
