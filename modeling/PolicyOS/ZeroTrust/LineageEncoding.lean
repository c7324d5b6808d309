import PolicyOS.Domain.IdentifierTexts
import PolicyOS.Foundation.Calendar
import PolicyOS.Foundation.CompactJson
import PolicyOS.ZeroTrust.LineageChain

/-!
# The bytes of lineage facts

What a lineage digest is taken of: an object with the facts under their names, in their declared
order. An instant is written in UTC, so it has bytes if its year there is one of the calendar's.
Facts are told by their bytes, and records by their digests up to collisions.
-/

namespace PolicyOS.ZeroTrust

open Foundation

/-- What canonicalization may raise. -/
inductive LineageEncodingError
  /-- The instant has no date in UTC. -/
  | dateOverflow
  /-- A list is no lineage fact. -/
  | notScalar
  deriving DecidableEq

/-- An instant in UTC, to the microsecond. -/
def utcIso (value : DateTime) : Except LineageEncodingError Text := do
  let year := (civilDate (value / 86400000000)).1
  rejectIf (year < 1 ∨ 9999 < year) .dateOverflow
  pure (padded 4 year ++ dayTime value)

/-- The text of a fact. -/
def canonicalScalar : MetadataValue → Except LineageEncodingError Text
  | .instant value => utcIso value
  | .uuid value => pure (uuidChars value)
  | .text value => pure value.toList
  | .list _ => throw .notScalar

/-- A fact under its name; an absent one is null. -/
def canonicalMember (member : String × Option MetadataValue) :
    Except LineageEncodingError (Text × Option Text) :=
  match member.2 with
  | none => pure (member.1.toList, none)
  | some value => do
      let text ← canonicalScalar value
      pure (member.1.toList, some text)

/-- The bytes of facts under their names. -/
def canonicalJson (values : CanonicalLineage) : Except LineageEncodingError (List UInt8) := do
  let payload ← collectEach canonicalMember values
  pure (utf8 (String.ofList (objectText payload)))

/-- A digest of the bytes of facts. Facts without bytes have none. -/
def digestOfBytes (sha256 : List UInt8 → String) (values : CanonicalLineage) : String :=
  match canonicalJson values with
  | .ok canonical => sha256 canonical
  | .error _ => ""

/-- The identifiers among the facts. -/
def DelegationLineageFacts.identifiers (facts : DelegationLineageFacts) : List UUID :=
  [facts.delegationId, facts.tenantId, facts.organizationId, facts.onBehalfOfUserId,
    facts.serviceActorId, facts.agentInstanceId, facts.taskId, facts.authorizationDecisionId] ++
  [facts.parentDelegationId, facts.crossValidationPlanId, facts.crossValidationRunId].flatMap
    Option.toList

/-- Every identifier has 128 bits. -/
def DelegationLineageFacts.Identified (facts : DelegationLineageFacts) : Prop :=
  ∀ id ∈ facts.identifiers, id < 2 ^ 128

instance (facts : DelegationLineageFacts) : Decidable facts.Identified :=
  inferInstanceAs (Decidable (∀ id ∈ facts.identifiers, id < 2 ^ 128))

/-! ## Facts are told by their texts -/

/-- An instant is told by its text in UTC. -/
theorem utcIso_inj {first second : DateTime} {text : Text} (isFirst : utcIso first = .ok text)
    (isSecond : utcIso second = .ok text) : first = second := by
  simp only [utcIso, bind_eq_ok_iff, exists_unit_iff, rejectIf_eq_ok_iff, pure_eq_ok_iff, not_or,
    Int.not_lt] at isFirst isSecond
  obtain ⟨⟨firstLow, firstHigh⟩, rfl⟩ := isFirst
  obtain ⟨⟨secondLow, secondHigh⟩, same⟩ := isSecond
  have four : ∀ year : Int, year ≤ 9999 → (padded 4 year).length = 4 := fun year high =>
    length_padded (by decide) (by norm_num; omega)
  obtain ⟨year, rest⟩ := List.append_inj same
    ((four _ secondHigh).trans (four _ firstHigh).symm)
  exact (eq_of_dayTime (padded_injective (by omega) (by omega) year) rest).symm

theorem classificationValue_injective : Function.Injective classificationValue := by
  intro first second same
  cases first <;> cases second <;> first | rfl | exact absurd same (by decide)

/-- The valid values of a kind are told by their texts. -/
def Told {Value : Type} (valid : Value → Prop) (make : Value → MetadataValue) : Prop :=
  ∀ ⦃first second : Value⦄ ⦃text : Text⦄, valid first → valid second →
    canonicalScalar (make first) = .ok text → canonicalScalar (make second) = .ok text →
      first = second

theorem uuid_told : Told (· < 2 ^ 128) .uuid := by
  intro first second text isFirst isSecond written again
  exact eq_of_uuidChars isFirst isSecond
    ((pure_eq_ok_iff.mp written).trans (pure_eq_ok_iff.mp again).symm)

theorem text_told : Told (fun _ => True) .text := by
  intro first second text _ _ written again
  exact String.toList_inj.mp ((pure_eq_ok_iff.mp written).trans (pure_eq_ok_iff.mp again).symm)

theorem instant_told : Told (fun _ => True) .instant :=
  fun _ _ _ _ _ written again => utcIso_inj written again

theorem classification_told :
    Told (fun _ => True) fun value => .text (classificationValue value) :=
  fun _ _ _ _ _ written again =>
    classificationValue_injective (text_told trivial trivial written again)

/-- Members of one text. -/
def SameMember (first second : String × Option MetadataValue) : Prop :=
  ∃ member, canonicalMember first = .ok member ∧ canonicalMember second = .ok member

section Members

variable {Value : Type} {valid : Value → Prop} {make : Value → MetadataValue} {key : String}

/-- An optional fact is told by its member. -/
theorem Told.optional (told : Told valid make) {first second : Option Value}
    (isFirst : ∀ value ∈ first, valid value) (isSecond : ∀ value ∈ second, valid value)
    (same : SameMember (key, first.map make) (key, second.map make)) : first = second := by
  obtain ⟨⟨name, text⟩, written, again⟩ := same
  cases first with
  | none =>
      cases second with
      | none => rfl
      | some second =>
          simp only [canonicalMember, Option.map_none, Option.map_some, bind_eq_ok_iff,
            pure_eq_ok_iff, Prod.mk.injEq] at written again
          obtain ⟨other, -, -, rfl⟩ := again
          cases written.2
  | some first =>
      cases second with
      | none =>
          simp only [canonicalMember, Option.map_none, Option.map_some, bind_eq_ok_iff,
            pure_eq_ok_iff, Prod.mk.injEq] at written again
          obtain ⟨other, -, -, rfl⟩ := written
          cases again.2
      | some second =>
          simp only [canonicalMember, Option.map_some, bind_eq_ok_iff, pure_eq_ok_iff,
            Prod.mk.injEq] at written again
          obtain ⟨one, isOne, -, rfl⟩ := written
          obtain ⟨other, isOther, -, same⟩ := again
          cases same
          rw [told (isFirst _ rfl) (isSecond _ rfl) isOne isOther]

/-- A fact is told by its member. -/
theorem Told.required (told : Told valid make) {first second : Value} (isFirst : valid first)
    (isSecond : valid second) (same : SameMember (key, some (make first)) (key, some (make second))) :
    first = second :=
  Option.some.inj (@optional _ _ _ key told (some first) (some second)
    (by simpa using isFirst) (by simpa using isSecond) same)

end Members

/-- Lineages of one number of facts and of one text have the same members. -/
theorem sameMembers {first second : CanonicalLineage} {bytes : List UInt8}
    (long : first.length = second.length) (isFirst : canonicalJson first = .ok bytes)
    (isSecond : canonicalJson second = .ok bytes) : List.Forall₂ SameMember first second := by
  simp only [canonicalJson, bind_eq_ok_iff, pure_eq_ok_iff] at isFirst isSecond
  obtain ⟨members, written, rfl⟩ := isFirst
  obtain ⟨others, again, same⟩ := isSecond
  rw [collectEach_eq_ok_iff] at written again
  have equal := objectText_inj (written.length_eq.symm.trans (long.trans again.length_eq)).symm
    (String.ofList_injective (utf8_injective same))
  subst equal
  clear long same
  induction written generalizing second with
  | nil =>
      cases again
      exact .nil
  | cons isMember _ ih =>
      cases again with
      | cons isOther rest => exact .cons ⟨_, isMember, isOther⟩ (ih rest)

/-- Facts are told by their bytes. -/
theorem facts_of_bytes {first second : DelegationLineageFacts} {bytes : List UInt8}
    (isFirst : first.Identified) (isSecond : second.Identified)
    (written : canonicalJson (canonicalizeDelegationLineage first) = .ok bytes)
    (again : canonicalJson (canonicalizeDelegationLineage second) = .ok bytes) :
    first = second := by
  have long : (canonicalizeDelegationLineage first).length =
      (canonicalizeDelegationLineage second).length := rfl
  have members := sameMembers long written again
  simp only [canonicalizeDelegationLineage, List.forall₂_cons, List.forall₂_nil_left_iff,
    and_true] at members
  simp only [DelegationLineageFacts.Identified, DelegationLineageFacts.identifiers,
    List.flatMap_cons, List.flatMap_nil, List.cons_append, List.nil_append, List.append_nil,
    List.forall_mem_cons, List.forall_mem_append, Option.mem_toList] at isFirst isSecond
  obtain ⟨f1, f2, f3, f4, f5, f6, f7, f8, f9, f10, f11⟩ := isFirst
  obtain ⟨s1, s2, s3, s4, s5, s6, s7, s8, s9, s10, s11⟩ := isSecond
  obtain ⟨m1, m2, m3, m4, m5, m6, m7, m8, m9, m10, m11, m12, m13, m14, m15, m16, m17, m18, m19,
    m20, m21, m22, m23, m24, m25⟩ := members
  cases first
  cases second
  simp only [DelegationLineageFacts.mk.injEq]
  have free : ∀ {kind : Type} {value : Option kind}, ∀ fact ∈ value, True := fun _ _ => trivial
  exact ⟨uuid_told.required f1 s1 m1, uuid_told.required f2 s2 m2, uuid_told.required f3 s3 m3,
    uuid_told.required f4 s4 m4, uuid_told.required f5 s5 m5, uuid_told.required f6 s6 m6,
    uuid_told.required f7 s7 m7, text_told.required trivial trivial m8,
    text_told.required trivial trivial m9, text_told.required trivial trivial m10,
    text_told.required trivial trivial m11, text_told.required trivial trivial m12,
    classification_told.required trivial trivial m13, text_told.required trivial trivial m14,
    uuid_told.required f8 s8 m15, instant_told.required trivial trivial m16,
    instant_told.optional free free m17, uuid_told.optional f9 s9 m18,
    uuid_told.optional f10 s10 m19, uuid_told.optional f11 s11 m20,
    text_told.optional free free m21, text_told.optional free free m22,
    text_told.optional free free m23, text_told.optional free free m24,
    text_told.optional free free m25⟩

/-- A record's digest is that of the bytes of its facts. -/
theorem digestValue_of_bytes {sha256 : List UInt8 → String}
    (record : DelegationLineageRecord (digestOfBytes sha256)) {bytes : List UInt8}
    (written : canonicalJson (canonicalizeDelegationLineage record.facts) = .ok bytes) :
    record.digest.digestValue = sha256 bytes := by
  rw [← record.digestValue_eq, digestOfBytes, written]

/-- Facts have the same bytes exactly if they are the same, and two records share a digest only
with the same facts or by a collision. -/
theorem canonicalLineage_inj {first second : DelegationLineageFacts} {one other : List UInt8}
    (isFirst : first.Identified) (isSecond : second.Identified)
    (written : canonicalJson (canonicalizeDelegationLineage first) = .ok one)
    (again : canonicalJson (canonicalizeDelegationLineage second) = .ok other) :
    (one = other ↔ first = second) ∧
    ∀ (sha256 : List UInt8 → String)
      (record next : DelegationLineageRecord (digestOfBytes sha256)),
      record.facts = first → next.facts = second →
      record.digest.digestValue = next.digest.digestValue →
        first = second ∨ (one ≠ other ∧ sha256 one = sha256 other) := by
  have told : one = other ↔ first = second := by
    constructor
    · rintro rfl
      exact facts_of_bytes isFirst isSecond written again
    · rintro rfl
      exact Except.ok.inj (written.symm.trans again)
  refine ⟨told, ?_⟩
  rintro sha256 record next rfl rfl digest
  rw [digestValue_of_bytes record written, digestValue_of_bytes next again] at digest
  by_cases same : one = other
  · exact .inl (told.mp same)
  · exact .inr ⟨same, digest⟩

namespace Sample

/-- What the facts of the sample are digested as. -/
def lineageBytes (facts : DelegationLineageFacts) : List UInt8 :=
  (canonicalJson (canonicalizeDelegationLineage facts)).toOption.getD []

theorem lineageBytes_eq {facts : DelegationLineageFacts}
    (written : (canonicalJson (canonicalizeDelegationLineage facts)).isOk = true) :
    canonicalJson (canonicalizeDelegationLineage facts) = .ok (lineageBytes facts) := by
  unfold lineageBytes
  cases canonical : canonicalJson (canonicalizeDelegationLineage facts) with
  | error _ =>
      rw [canonical] at written
      cases written
  | ok _ => rfl

/-- An expiry changes the bytes. -/
theorem canonicalLineage_inj_expiry :
    ((lineageBytes delegatedReview = lineageBytes expiringReview ↔
        delegatedReview = expiringReview) ∧
      ∀ (sha256 : List UInt8 → String)
        (record next : DelegationLineageRecord (digestOfBytes sha256)),
        record.facts = delegatedReview → next.facts = expiringReview →
        record.digest.digestValue = next.digest.digestValue →
          delegatedReview = expiringReview ∨
            (lineageBytes delegatedReview ≠ lineageBytes expiringReview ∧
              sha256 (lineageBytes delegatedReview) = sha256 (lineageBytes expiringReview))) ∧
      delegatedReview ≠ expiringReview :=
  ⟨@canonicalLineage_inj delegatedReview expiringReview (lineageBytes delegatedReview)
    (lineageBytes expiringReview) (by decide) (by decide) (lineageBytes_eq (by decide +kernel))
    (lineageBytes_eq (by decide +kernel)),
    fun same => absurd (congrArg DelegationLineageFacts.expiresAt same) (by decide)⟩

end Sample

end PolicyOS.ZeroTrust
