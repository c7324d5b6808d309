import PolicyOS.Domain.IdentifierTexts
import PolicyOS.Foundation.Checked
import PolicyOS.Foundation.PrefixFree

/-!
# The identity of a command

A replayed command is found under a key made of its identity: tenant, organization, principal,
operation, version and idempotency key, each behind its length in two bytes.
-/

namespace PolicyOS.Runtime

open Foundation

/-- What a command asks for. -/
inductive RuntimeApiOperation
  | submitInvocation | getInvocation | requestReconciliation
  deriving DecidableEq

/-- The value an operation is stored under. -/
def RuntimeApiOperation.value : RuntimeApiOperation → String
  | .submitInvocation => "submit_invocation"
  | .getInvocation => "get_invocation"
  | .requestReconciliation => "request_reconciliation"

/-- A letter or digit of ASCII. -/
def isWordChar (char : Char) : Bool := char.isAlphanum

/-- The pattern of command versions. -/
def commandVersionPattern (text : String) : Bool :=
  1 ≤ text.toList.length && text.toList.length ≤ 40 &&
    text.toList.all fun char => isWordChar char || char ∈ ['_', '.', '-']

/-- The pattern of idempotency keys. -/
def idempotencyKeyPattern (text : String) : Bool :=
  match text.toList with
  | [] => false
  | first :: rest =>
      isWordChar first && rest.length ≤ 99 &&
        rest.all fun char => isWordChar char || char ∈ ['_', '.', ':', '/', '-']

/-- What identifies a command. The command's own id, its digest and its correlation are not part
of what it is locked under. -/
structure RuntimeApiCommandIdentity where
  commandId : UUID
  operation : RuntimeApiOperation
  tenantId : UUID
  organizationId : UUID
  principalId : UUID
  commandVersion : String
  idempotencyKey : String
  commandDigest : String
  correlationReference : BoundedId
  tenantBound : tenantId < 2 ^ 128 := by decide
  organizationBound : organizationId < 2 ^ 128 := by decide
  principalBound : principalId < 2 ^ 128 := by decide
  versionPattern : commandVersionPattern commandVersion = true := by decide
  keyPattern : idempotencyKeyPattern idempotencyKey = true := by decide
  deriving DecidableEq

/-- What writing the key of a command may raise. -/
inductive LockMaterialError
  | unicodeEncode | overflow
  deriving DecidableEq

/-- The bytes of an ASCII text. -/
def encodeAscii (text : String) : Except LockMaterialError (List UInt8) := do
  rejectIf (text.toList.any fun char => 128 ≤ char.toNat) .unicodeEncode
  pure (text.toList.map fun char => UInt8.ofNat char.toNat)

/-- A number in two bytes, the higher one first. -/
def twoBytes (value : Nat) : List UInt8 := [UInt8.ofNat (value / 256), UInt8.ofNat (value % 256)]

/-- An ASCII text behind its length. -/
def lengthPrefixed (text : String) : Except LockMaterialError (List UInt8) := do
  let encoded ← encodeAscii text
  rejectIf (65536 ≤ encoded.length) .overflow
  pure (twoBytes encoded.length ++ encoded)

/-- The values a command is locked under. -/
def lockValues (identity : RuntimeApiCommandIdentity) : List String :=
  [uuidText identity.tenantId, uuidText identity.organizationId, uuidText identity.principalId,
    identity.operation.value, identity.commandVersion, identity.idempotencyKey]

/-- What a command is locked under, in bytes. -/
def lockMaterial (identity : RuntimeApiCommandIdentity) :
    Except LockMaterialError (List UInt8) := do
  let values ← (lockValues identity).mapM lengthPrefixed
  pure values.flatten

/-! ## Bytes -/

/-- Texts that are written: in ASCII, and short enough. -/
def Written (text : String) : Prop :=
  (∀ char ∈ text.toList, char.toNat < 128) ∧ text.toList.length < 65536

/-- The bytes of a text that is written. -/
def asciiBytes (text : String) : List UInt8 := text.toList.map fun char => UInt8.ofNat char.toNat

theorem lengthPrefixed_of_written {text : String} (written : Written text) :
    lengthPrefixed text = .ok (twoBytes (asciiBytes text).length ++ asciiBytes text) := by
  simp only [lengthPrefixed, encodeAscii, bind_eq_ok_iff, exists_unit_iff, rejectIf_eq_ok_iff,
    pure_eq_ok_iff]
  refine ⟨_, ⟨by simpa using written.1, rfl⟩, ?_, rfl⟩
  simpa using written.2

/-- The characters of ASCII are read back from their bytes. -/
theorem chars_of_asciiBytes {text : String} (ascii : ∀ char ∈ text.toList, char.toNat < 128) :
    (asciiBytes text).map (fun byte => Char.ofNat byte.toNat) = text.toList := by
  rw [asciiBytes, List.map_map]
  refine (List.map_congr_left fun char among => ?_).trans (List.map_id _)
  have bound := ascii char among
  have small : char.toNat % 256 = char.toNat := Nat.mod_eq_of_lt (by omega)
  simp [UInt8.toNat_ofNat', small]

/-- A length below 65536 is told by its two bytes. -/
theorem twoBytes_prefixFree : PrefixFree (· < 65536) twoBytes := by
  have long : ∀ value, value < 65536 → (twoBytes value).length = 2 := fun _ _ => rfl
  refine PrefixFree.of_length long fun first second isFirst isSecond same => ?_
  simp only [twoBytes, List.cons.injEq, and_true] at same
  have high := congrArg UInt8.toNat same.1
  have low := congrArg UInt8.toNat same.2
  simp only [UInt8.toNat_ofNat'] at high low
  omega

/-- A written text behind its length is told by its bytes. -/
theorem lengthPrefixed_prefixFree :
    PrefixFree (fun text : String => (∀ char ∈ text.toList, char.toNat < 128) ∧
        (asciiBytes text).length < 65536)
      fun text => twoBytes (asciiBytes text).length ++ asciiBytes text := by
  refine twoBytes_prefixFree.framed fun first second isFirst isSecond same => ?_
  rw [← String.toList_inj, ← chars_of_asciiBytes isFirst, same, chars_of_asciiBytes isSecond]

/-! ## Commands -/

theorem toNat_lt_of_isAlphanum {char : Char} (word : char.isAlphanum = true) :
    char.toNat < 128 := by
  have isVal : char.toNat = char.val.toNat := rfl
  have upper : 'Z'.val.toNat = 90 := rfl
  have lower : 'z'.val.toNat = 122 := rfl
  have digit : '9'.val.toNat = 57 := rfl
  delta Char.isAlphanum Char.isAlpha Char.isUpper Char.isLower at word
  simp only [Char.isDigit, Bool.or_eq_true, Bool.and_eq_true, decide_eq_true_eq, ge_iff_le,
    UInt32.le_iff_toNat_le] at word
  omega

/-- Whatever is locked under is ASCII and short. -/
theorem written_of_lockValues (identity : RuntimeApiCommandIdentity) :
    ∀ text ∈ lockValues identity, Written text := by
  have ascii : ∀ (extra : List Char) (text : List Char), (∀ char ∈ extra, char.toNat < 128) →
      text.all (fun char => isWordChar char || char ∈ extra) = true →
      ∀ char ∈ text, char.toNat < 128 := by
    intro extra text small all char among
    have allowed := List.all_eq_true.mp all char among
    simp only [isWordChar, Bool.or_eq_true, decide_eq_true_eq] at allowed
    exact allowed.elim toNat_lt_of_isAlphanum (small char)
  have identifier : ∀ id : UUID, Written (uuidText id) := by
    intro id
    refine ⟨fun char among => ?_, by simp⟩
    rw [toList_uuidText] at among
    exact isNameChar_lt (List.all_eq_true.mp (uuidChars_isNameChar id) char among)
  have version : Written identity.commandVersion := by
    have pattern := identity.versionPattern
    simp only [commandVersionPattern, Bool.and_eq_true, decide_eq_true_eq] at pattern
    exact ⟨ascii _ _ (by simp) pattern.2, by omega⟩
  have key : Written identity.idempotencyKey := by
    have pattern := identity.keyPattern
    simp only [idempotencyKeyPattern] at pattern
    split at pattern
    · cases pattern
    · next first rest isText =>
        simp only [Bool.and_eq_true, decide_eq_true_eq] at pattern
        rw [Written, isText]
        refine ⟨List.forall_mem_cons.mpr ⟨toNat_lt_of_isAlphanum pattern.1.1,
          ascii _ _ (by simp) pattern.2⟩, ?_⟩
        rw [List.length_cons]
        omega
  intro text among
  simp only [lockValues, List.mem_cons, List.not_mem_nil, or_false] at among
  rcases among with rfl | rfl | rfl | rfl | rfl | rfl
  · exact identifier _
  · exact identifier _
  · exact identifier _
  · cases identity.operation <;> simp [Written, RuntimeApiOperation.value]
  · exact version
  · exact key

/-- The lock material of a command: its values behind their lengths. -/
theorem lockMaterial_eq (identity : RuntimeApiCommandIdentity) :
    lockMaterial identity = .ok ((lockValues identity).flatMap fun text =>
      twoBytes (asciiBytes text).length ++ asciiBytes text) := by
  have each : ∀ texts : List String, (∀ text ∈ texts, Written text) →
      texts.mapM lengthPrefixed =
        .ok (texts.map fun text => twoBytes (asciiBytes text).length ++ asciiBytes text) := by
    intro texts written
    induction texts with
    | nil => rfl
    | cons text rest ih =>
        rw [List.forall_mem_cons] at written
        rw [List.mapM_cons, lengthPrefixed_of_written written.1, ih written.2]
        rfl
  rw [lockMaterial, each _ (written_of_lockValues identity), List.flatMap]
  rfl

theorem RuntimeApiOperation.value_injective : Function.Injective RuntimeApiOperation.value := by
  intro first second same
  cases first <;> cases second <;> first | rfl | exact absurd same (by decide)

/-- Every command has lock material, and commands have the same exactly if they agree on tenant,
organization, principal, operation, version and key. -/
theorem lockMaterial_injective (first second : RuntimeApiCommandIdentity) :
    ∃ material other, lockMaterial first = .ok material ∧ lockMaterial second = .ok other ∧
      (material = other ↔
        first.tenantId = second.tenantId ∧ first.organizationId = second.organizationId ∧
          first.principalId = second.principalId ∧ first.operation = second.operation ∧
          first.commandVersion = second.commandVersion ∧
          first.idempotencyKey = second.idempotencyKey) := by
  refine ⟨_, _, lockMaterial_eq first, lockMaterial_eq second, ⟨fun same => ?_, ?_⟩⟩
  · have values : lockValues first = lockValues second := by
      have valid : ∀ identity, ∀ text ∈ lockValues identity,
          (∀ char ∈ text.toList, char.toNat < 128) ∧ (asciiBytes text).length < 65536 :=
        fun identity text among =>
          (written_of_lockValues identity text among).imp id fun short => by
            simpa [asciiBytes] using short
      exact lengthPrefixed_prefixFree.flatMap_inj (valid first) (valid second) rfl same
    simp only [lockValues, List.cons.injEq, and_true] at values
    obtain ⟨tenant, organization, principal, operation, version, key⟩ := values
    exact ⟨eq_of_uuidText first.tenantBound second.tenantBound tenant,
      eq_of_uuidText first.organizationBound second.organizationBound organization,
      eq_of_uuidText first.principalBound second.principalBound principal,
      RuntimeApiOperation.value_injective operation, version, key⟩
  · rintro ⟨tenant, organization, principal, operation, version, key⟩
    simp only [lockValues, tenant, organization, principal, operation, version, key]

end PolicyOS.Runtime
