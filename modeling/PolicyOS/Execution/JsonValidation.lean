import PolicyOS.Domain.Identifiers
import PolicyOS.Execution.Json
import PolicyOS.Execution.Validation

/-!
# Bounded JSON

A JSON value is accepted when it is not nested too deeply, its collections and
its text are bounded, and no key or text of it looks like a secret. The patterns
are matched as they are written, over characters.
-/

namespace PolicyOS.Execution

open Foundation

/-- The bounds of a collection and of nesting. -/
def maxCollectionItems : Nat := 100
def maxNesting : Nat := 5

/-- The sizes of metadata and of an output, in bytes. -/
def maxMetadataBytes : Nat := 16000
def maxOutputBytes : Nat := 1000000

/-! ## Patterns -/

/-- The characters `\s` matches. -/
def isSpace (char : Char) : Bool :=
  [0x20, 0x85, 0xa0, 0x1680, 0x2028, 0x2029, 0x202f, 0x205f, 0x3000].contains char.toNat ||
    (0x09 ≤ char.toNat && char.toNat ≤ 0x0d) || (0x1c ≤ char.toNat && char.toNat ≤ 0x1f) ||
    (0x2000 ≤ char.toNat && char.toNat ≤ 0x200a)

/-- The letter a character counts as where case is ignored. -/
def caseless (char : Char) : Char :=
  if char.toNat = 0x17f then 's'
  else if char.toNat = 0x212a then 'k'
  else if char.toNat = 0x130 ∨ char.toNat = 0x131 then 'i'
  else char.toLower

/-- `[A-Za-z0-9_-]`. -/
def isWordChar (char : Char) : Bool := char.isAlphanum || char = '_' || char = '-'

/-- Text that starts with a word, where case is ignored. -/
def startsWithWord (word : List Char) (text : List Char) : Bool :=
  word.isPrefixOf (text.map caseless)

/-- Text that starts with two words, with at most one character between them. -/
def startsWithPair (first second : List Char) (text : List Char) : Bool :=
  startsWithWord first text &&
    (startsWithWord second (text.drop first.length) ||
      match text.drop first.length with
      | [] => false
      | separator :: rest => separator != '\n' && startsWithWord second rest)

/-- Text that starts with a bearer token. -/
def startsWithBearer (text : List Char) : Bool :=
  startsWithWord ['b', 'e', 'a', 'r', 'e', 'r'] text &&
    !((text.drop 6).takeWhile isSpace).isEmpty && !((text.drop 6).dropWhile isSpace).isEmpty

/-- Text that starts with a provider key. -/
def startsWithProviderKey (text : List Char) : Bool :=
  startsWithWord ['s', 'k', '-'] text && 12 ≤ (text.drop 3).length &&
    ((text.drop 3).take 12).all fun char => isWordChar (caseless char)

/-- Text that contains a secret. -/
def secretValue (value : String) : Bool :=
  value.toList.tails.any fun text => startsWithBearer text || startsWithProviderKey text

/-- The words that make a key look like a secret. -/
def secretWords : List (List Char) :=
  ["authorization", "cookie", "credential", "password", "passwd", "secret", "token"].map
    String.toList

/-- A key that looks like a secret. -/
def secretKey (key : String) : Bool :=
  key.toList.tails.any fun text =>
    secretWords.any (startsWithWord · text) ||
      startsWithPair ['a', 'p', 'i'] ['k', 'e', 'y'] text ||
      startsWithPair ['p', 'r', 'i', 'v', 'a', 't', 'e'] ['k', 'e', 'y'] text

/-- A key of letters, digits and `_.-` that starts with a letter. -/
def safeKey (key : String) : Bool :=
  match key.toList with
  | [] => false
  | first :: rest =>
      first.isAlpha && rest.length ≤ 63 && rest.all fun char => isWordChar char || char = '.'

/-! ## Sizes -/

/-- The bytes a character takes in JSON text. -/
def charSize (char : Char) : Nat :=
  if char = '"' ∨ char = '\\' ∨ char.toNat ∈ [0x08, 0x09, 0x0a, 0x0c, 0x0d] then 2
  else if char.toNat < 0x20 then 6
  else char.utf8Size

/-- The bytes of a JSON string. -/
def textSize (value : String) : Nat := 2 + (value.toList.map charSize).sum

namespace JsonValue

mutual

/-- The bytes of a value, written without blanks. -/
def size : JsonValue → Nat
  | null => 4
  | boolean value => if value then 4 else 5
  | integer value => (toString value).length
  | decimal digits => digits.length
  | text value => textSize value
  | array items => 2 + (items.length - 1) + itemsSize items
  | object members => 2 + (members.length - 1) + membersSize members

/-- The bytes of items, without their separators. -/
def itemsSize : List JsonValue → Nat
  | [] => 0
  | item :: rest => size item + itemsSize rest

/-- The bytes of members, without their separators. -/
def membersSize : List (String × JsonValue) → Nat
  | [] => 0
  | (key, value) :: rest => textSize key + 1 + size value + membersSize rest

end

end JsonValue

/-! ## Validation -/

/-- A rejected field, with its message. -/
def jsonError (field message : String) : ExecutionDomainError := ⟨.contract, field ++ message⟩

section

variable (maxBytes : Nat) (field : String)

mutual

/-- Reject unsafe and unbounded values. -/
def validateJson (depth : Nat) : JsonValue → Except ExecutionDomainError Unit
  | .null | .boolean _ | .integer _ | .decimal _ =>
      rejectIf (depth > maxNesting) (jsonError field " nesting exceeds limit")
  | .text value => do
      rejectIf (depth > maxNesting) (jsonError field " nesting exceeds limit")
      rejectIf (value.utf8ByteSize > maxBytes) (jsonError field " exceeds size limit")
      rejectIf (secretValue value = true) (jsonError field " contains secret-like content")
  | .array items => do
      rejectIf (depth > maxNesting) (jsonError field " nesting exceeds limit")
      rejectIf (items.length > maxCollectionItems) (jsonError field " collection exceeds limit")
      validateItems (depth + 1) items
      rejectIf ((JsonValue.array items).size > maxBytes) (jsonError field " exceeds size limit")
  | .object members => do
      rejectIf (depth > maxNesting) (jsonError field " nesting exceeds limit")
      rejectIf (members.length > maxCollectionItems) (jsonError field " collection exceeds limit")
      validateMembers (depth + 1) members
      rejectIf ((JsonValue.object members).size > maxBytes) (jsonError field " exceeds size limit")

/-- Every item of an array must be accepted. -/
def validateItems (depth : Nat) : List JsonValue → Except ExecutionDomainError Unit
  | [] => .ok ()
  | item :: rest => do
      validateJson depth item
      validateItems depth rest

/-- Every key and value of an object must be accepted. -/
def validateMembers (depth : Nat) :
    List (String × JsonValue) → Except ExecutionDomainError Unit
  | [] => .ok ()
  | (key, value) :: rest => do
      rejectIf (safeKey key = false) (jsonError field " contains an invalid key")
      rejectIf (secretKey key = true) (jsonError field " contains a secret-like key")
      validateJson depth value
      validateMembers depth rest

end

end

example : secretValue "task.risk-assessment-report" = true := by decide +kernel
example : secretKey "assignment_request_id" = false := by decide +kernel

end PolicyOS.Execution

/-!
# What JSON is admitted

A value is accepted if its nesting, its collections, its keys and its texts are admitted and it
is not too large. The size is checked at every collection and every text, so for a whole value
only the outermost check counts.
-/

namespace PolicyOS.Execution

open Foundation

/-! ## Admitted values -/

mutual

/-- A value that is admitted at a depth, whatever its size. -/
def Admitted (depth : Nat) : JsonValue → Prop
  | .null | .boolean _ | .integer _ | .decimal _ => depth ≤ maxNesting
  | .text value => depth ≤ maxNesting ∧ secretValue value = false
  | .array items =>
      depth ≤ maxNesting ∧ items.length ≤ maxCollectionItems ∧ AdmittedItems (depth + 1) items
  | .object members =>
      depth ≤ maxNesting ∧ members.length ≤ maxCollectionItems ∧
        AdmittedMembers (depth + 1) members

/-- Items that are admitted. -/
def AdmittedItems (depth : Nat) : List JsonValue → Prop
  | [] => True
  | item :: rest => Admitted depth item ∧ AdmittedItems depth rest

/-- Members that are admitted, under keys that are. -/
def AdmittedMembers (depth : Nat) : List (String × JsonValue) → Prop
  | [] => True
  | (key, value) :: rest =>
      (safeKey key = true ∧ secretKey key = false) ∧ Admitted depth value ∧
        AdmittedMembers depth rest

end

theorem admittedItems_iff {depth : Nat} {items : List JsonValue} :
    AdmittedItems depth items ↔ ∀ item ∈ items, Admitted depth item := by
  induction items with
  | nil => simp [AdmittedItems]
  | cons item rest ih => simp [AdmittedItems, ih]

/-- A value that is not too large. The size of a text is that of its characters, and numbers are
not measured by themselves. -/
def Measured (maxBytes : Nat) : JsonValue → Prop
  | .null | .boolean _ | .integer _ | .decimal _ => True
  | .text value => value.utf8ByteSize ≤ maxBytes
  | .array items => (JsonValue.array items).size ≤ maxBytes
  | .object members => (JsonValue.object members).size ≤ maxBytes

/-- A text is written with at least its own bytes. -/
theorem utf8ByteSize_le_textSize (value : String) : value.utf8ByteSize ≤ textSize value := by
  have atLeast : ∀ char : Char, char.utf8Size ≤ charSize char := by
    intro char
    unfold charSize
    split
    · rename_i escaped
      rcases escaped with rfl | rfl | control
      · decide
      · decide
      · have small : char.toNat ≤ 0x7f := by
          simp only [List.mem_cons, List.not_mem_nil, or_false] at control
          omega
        have one : char.utf8Size = 1 := Char.utf8Size_eq_one_iff.mpr small
        omega
    · split
      · exact le_trans (Char.utf8Size_le_four char) (by omega)
      · exact le_rfl
  rw [utf8ByteSize_eq_sum, textSize]
  have sums : (value.toList.map Char.utf8Size).sum ≤ (value.toList.map charSize).sum := by
    induction value.toList with
    | nil => rfl
    | cons char rest ih =>
        have own := atLeast char
        simp only [List.map_cons, List.sum_cons]
        omega
  omega

theorem Measured.of_size {maxBytes : Nat} {value : JsonValue} (small : value.size ≤ maxBytes) :
    Measured maxBytes value := by
  cases value with
  | text value => exact (utf8ByteSize_le_textSize value).trans small
  | array items => exact small
  | object members => exact small
  | _ => trivial

theorem size_le_itemsSize {item : JsonValue} {items : List JsonValue} (present : item ∈ items) :
    item.size ≤ JsonValue.itemsSize items := by
  induction items with
  | nil => cases present
  | cons first rest ih =>
      rw [JsonValue.itemsSize]
      rcases List.mem_cons.mp present with rfl | later
      · omega
      · have := ih later
        omega

theorem size_le_membersSize {member : String × JsonValue} {members : List (String × JsonValue)}
    (present : member ∈ members) : member.2.size ≤ JsonValue.membersSize members := by
  induction members with
  | nil => cases present
  | cons first rest ih =>
      rw [JsonValue.membersSize]
      rcases List.mem_cons.mp present with rfl | later
      · omega
      · have := ih later
        omega

/-! ## Accepted values -/

section

variable {maxBytes : Nat} {field : String}

mutual

/-- A value is accepted exactly if it is admitted and not too large. -/
theorem validateJson_iff (depth : Nat) : ∀ value : JsonValue,
    validateJson maxBytes field depth value = .ok () ↔
      Admitted depth value ∧ Measured maxBytes value
  | .null | .boolean _ | .integer _ | .decimal _ => by
      simp [validateJson, Admitted, Measured]
  | .text value => by
      simp only [validateJson, Admitted, Measured, bind_eq_ok_iff, exists_unit_iff,
        rejectIf_eq_ok_iff, gt_iff_lt, not_lt, Bool.not_eq_true]
      tauto
  | .array items => by
      simp only [validateJson, Admitted, Measured, bind_eq_ok_iff, exists_unit_iff,
        rejectIf_eq_ok_iff, gt_iff_lt, not_lt, validateItems_iff (depth + 1) items, and_assoc]
      refine and_congr_right fun _ => and_congr_right fun _ => and_congr_right fun _ =>
        and_iff_right_of_imp fun small item present => Measured.of_size ?_
      have within := size_le_itemsSize present
      rw [JsonValue.size] at small
      omega
  | .object members => by
      simp only [validateJson, Admitted, Measured, bind_eq_ok_iff, exists_unit_iff,
        rejectIf_eq_ok_iff, gt_iff_lt, not_lt, validateMembers_iff (depth + 1) members, and_assoc]
      refine and_congr_right fun _ => and_congr_right fun _ => and_congr_right fun _ =>
        and_iff_right_of_imp fun small member present => Measured.of_size ?_
      have within := size_le_membersSize present
      rw [JsonValue.size] at small
      omega

theorem validateItems_iff (depth : Nat) : ∀ items : List JsonValue,
    validateItems maxBytes field depth items = .ok () ↔
      AdmittedItems depth items ∧ ∀ item ∈ items, Measured maxBytes item
  | [] => by simp [validateItems, AdmittedItems]
  | item :: rest => by
      simp only [validateItems, AdmittedItems, bind_eq_ok_iff, exists_unit_iff,
        validateJson_iff depth item, validateItems_iff depth rest, List.forall_mem_cons]
      tauto

theorem validateMembers_iff (depth : Nat) : ∀ members : List (String × JsonValue),
    validateMembers maxBytes field depth members = .ok () ↔
      AdmittedMembers depth members ∧ ∀ member ∈ members, Measured maxBytes member.2
  | [] => by simp [validateMembers, AdmittedMembers]
  | (key, value) :: rest => by
      simp only [validateMembers, AdmittedMembers, bind_eq_ok_iff, exists_unit_iff,
        rejectIf_eq_ok_iff, Bool.not_eq_false, Bool.not_eq_true, validateJson_iff depth value,
        validateMembers_iff depth rest, List.forall_mem_cons]
      tauto

end

end

end PolicyOS.Execution
