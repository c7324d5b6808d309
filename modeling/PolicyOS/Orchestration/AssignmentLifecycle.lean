import PolicyOS.Orchestration.AssignmentRuntime

/-!
# The lifecycle of an assignment

What an accepted operation does to a record is said once, and every law of a run follows
from it. The checks of an operation are enough for the record it builds, so a record never
refuses what its operation accepted; only a preparation may, of identifiers that are too
long or empty.
-/

namespace PolicyOS.Orchestration

open Foundation

variable {record next : AssignmentExecutionRecord} {fields : AssignmentExecutionRecordFields}
  {operation : AssignmentOperation} {context : AssignmentExecutionRuntimeContext}

/-! ## Valid records -/

/-- What a record checks on itself. -/
structure ValidRecord (record : AssignmentExecutionRecordFields) : Prop where
  requestId : boundedText 200 record.assignmentRequestId
  taskId : boundedText 100 record.taskId
  stepId : boundedText 100 record.executionStepId
  attempt : record.attempt = 1
  deadline : record.preparedAt < record.deadline
  prepared : record.status = .prepared → record.lease = none ∧ record.claimedAt = none ∧
    record.startedAt = none
  claimed : record.status = .claimed → record.startedAt = none ∧
    ∃ lease, record.lease = some lease ∧ record.claimedAt = some lease.claimedAt
  running : record.status = .running →
    record.lease ≠ none ∧ record.claimedAt ≠ none ∧ record.startedAt ≠ none
  claim : ∀ claimedAt ∈ record.claimedAt, record.preparedAt ≤ claimedAt
  start : ∀ startedAt ∈ record.startedAt, ∃ claimedAt ∈ record.claimedAt, claimedAt ≤ startedAt
  completion : ∀ completedAt ∈ record.completedAt,
    record.startedAt.getD record.preparedAt ≤ completedAt
  ended : record.completedAt ≠ none ↔ record.status ∈ AssignmentExecutionRuntimeStatus.terminal
  failure : record.failure ≠ none ↔ record.status = .failed
  cancellation : record.cancellation ≠ none ↔ record.status = .cancelled
  expiration : record.expiration ≠ none ↔ record.status = .expired
  terminalTimes : ∀ occurredAt ∈ record.terminalTimes, some occurredAt = record.completedAt

/-- A record is built of exactly the valid data. -/
theorem validate_eq_ok_iff : fields.validate = .ok () ↔ ValidRecord fields := by
  simp only [AssignmentExecutionRecordFields.validate, AssignmentExecutionRecordFields.bounds,
    AssignmentExecutionRecordFields.lifecycle, bind_eq_ok_iff, exists_unit_iff,
    checkText_eq_ok_iff, rejectIf_eq_ok_iff, not_not, not_le, not_and, not_or, not_exists, not_lt]
  constructor
  · rintro ⟨⟨requestId, taskId, stepId, least, most⟩, deadline, prepared, lease, claimed, running,
      incomplete, claim, start, completion, terminal, nonterminal, failure, cancellation,
      expiration, times⟩
    refine ⟨requestId, taskId, stepId, le_antisymm most least, deadline, fun isPrepared => ?_,
      fun isClaimed => ⟨(claimed isClaimed).1, ?_⟩, running, claim, fun startedAt isStart => ?_,
      completion, ⟨fun isEnded => ?_, terminal⟩, failure, cancellation, expiration, times⟩
    · obtain ⟨noLease, noClaim, noStart, -⟩ := prepared isPrepared
      exact ⟨noLease, noClaim, noStart⟩
    · obtain ⟨hasLease, exact_⟩ := lease isClaimed
      obtain ⟨own, isLease⟩ := Option.ne_none_iff_exists'.mp hasLease
      exact ⟨own, isLease, by rw [exact_, isLease]; rfl⟩
    · obtain ⟨hasClaim, notBefore⟩ := start startedAt isStart
      obtain ⟨claimedAt, isClaim⟩ := Option.ne_none_iff_exists'.mp hasClaim
      exact ⟨claimedAt, isClaim, notBefore claimedAt isClaim⟩
    · by_contra open_
      exact isEnded (nonterminal open_)
  · intro valid
    have open_ : ∀ status, status ∉ AssignmentExecutionRuntimeStatus.terminal →
        fields.status = status → fields.completedAt = none := fun status other same => by
      by_contra ended
      exact other (same ▸ valid.ended.mp ended)
    refine ⟨⟨valid.requestId, valid.taskId, valid.stepId, valid.attempt.ge, valid.attempt.le⟩,
      valid.deadline,
      fun isPrepared => ?_, fun isClaimed => ?_, fun isClaimed => ⟨(valid.claimed isClaimed).1,
      open_ _ (by decide) isClaimed⟩, valid.running, open_ _ (by decide), valid.claim,
      fun startedAt isStart => ?_, valid.completion, valid.ended.mpr, fun other => open_ _ other rfl,
      valid.failure, valid.cancellation, valid.expiration, valid.terminalTimes⟩
    · obtain ⟨noLease, noClaim, noStart⟩ := valid.prepared isPrepared
      exact ⟨noLease, noClaim, noStart, open_ _ (by decide) isPrepared⟩
    · obtain ⟨-, lease, isLease, isClaim⟩ := valid.claimed isClaimed
      exact ⟨by simp [isLease], by rw [isClaim, isLease]; rfl⟩
    · obtain ⟨claimedAt, isClaim, notBefore⟩ := valid.start startedAt isStart
      refine ⟨Option.ne_none_iff_exists'.mpr ⟨claimedAt, isClaim⟩, fun other isOther => ?_⟩
      obtain rfl := Option.mem_unique isClaim isOther
      exact notBefore

theorem AssignmentExecutionRecord.valid (record : AssignmentExecutionRecord) :
    ValidRecord record.toAssignmentExecutionRecordFields :=
  validate_eq_ok_iff.mp record.consistent

theorem validated_eq_ok_iff :
    AssignmentExecutionRecord.validated fields = .ok record ↔
      record.toAssignmentExecutionRecordFields = fields := by
  rw [AssignmentExecutionRecord.validated, buildChecked_eq_ok_iff]
  constructor
  · rintro ⟨_, rfl⟩
    rfl
  · rintro rfl
    exact ⟨record.consistent, rfl⟩

/-! ## What an operation does -/

/-- A record that is ended at a time. -/
def endedAt (record : AssignmentExecutionRecordFields) (status : AssignmentExecutionRuntimeStatus)
    (at_ : DateTime) : AssignmentExecutionRecordFields :=
  { record with status := status, completedAt := some at_ }

section EndedAt

variable {status : AssignmentExecutionRuntimeStatus} {at_ : DateTime}

@[simp] theorem endedAt_failure : (endedAt fields status at_).failure = fields.failure := rfl

@[simp] theorem endedAt_cancellation :
    (endedAt fields status at_).cancellation = fields.cancellation := rfl

@[simp] theorem endedAt_expiration :
    (endedAt fields status at_).expiration = fields.expiration := rfl

end EndedAt

/-- What an accepted operation makes of a record, and what it needed. -/
inductive Advance (record : AssignmentExecutionRecordFields) :
    AssignmentOperation → AssignmentExecutionRecordFields → Prop where
  | claim {context lease} (prepared : record.status = .prepared)
      (notBefore : record.preparedAt ≤ lease.claimedAt) (inTime : lease.claimedAt < record.deadline)
      (within : lease.expiresAt ≤ record.deadline) :
      Advance record (.claim context lease) { record with
        status := .claimed, lease := some lease, claimedAt := some lease.claimedAt }
  | start {context lease at_} (claimed : record.status = .claimed) (isLease : record.lease = some lease)
      (notBefore : record.latest ≤ at_) (held : at_ < lease.expiresAt) (inTime : at_ < record.deadline) :
      Advance record (.start context lease.ownerId (.aware at_)) { record with
        status := .running, startedAt := some at_ }
  | succeed {context lease at_} (running : record.status = .running)
      (isLease : record.lease = some lease) (notBefore : record.latest ≤ at_)
      (held : at_ < lease.expiresAt) (inTime : at_ < record.deadline) :
      Advance record (.succeed context lease.ownerId (.aware at_)) (endedAt record .succeeded at_)
  | fail {context failure lease} (running : record.status = .running)
      (isLease : record.lease = some lease) (notBefore : record.latest ≤ failure.failedAt) :
      Advance record (.fail context lease.ownerId failure)
        { endedAt record .failed failure.failedAt with failure := some failure }
  | cancel {context cancellation policy}
      (open_ : record.status ∉ AssignmentExecutionRuntimeStatus.terminal)
      (notBefore : record.latest ≤ cancellation.cancelledAt) :
      Advance record (.cancel context cancellation policy)
        { endedAt record .cancelled cancellation.cancelledAt with cancellation := some cancellation }
  | expire {context cause at_} (open_ : record.status ∉ AssignmentExecutionRuntimeStatus.terminal)
      (notBefore : record.latest ≤ at_) :
      Advance record (.expire context (.aware at_))
        { endedAt record .expired at_ with expiration := some { cause, expiredAt := at_ } }

/-- A time of a record that is required is not before its last one. -/
theorem requireTime_eq_ok {moment : Moment} {instant : DateTime}
    (required : requireTime record moment = .ok instant) :
    moment = .aware instant ∧ record.latest ≤ instant := by
  simp only [requireTime, bind_eq_ok_iff, exists_unit_iff, rejectIf_eq_ok_iff, pure_eq_ok_iff,
    not_lt] at required
  obtain ⟨_, isAware, notBefore, rfl⟩ := required
  cases moment with
  | aware at_ =>
      cases isAware
      exact ⟨rfl, notBefore⟩
  | naive => cases isAware

theorem requireLease_eq_ok {status : AssignmentExecutionRuntimeStatus} {message : String}
    {lease : AssignmentExecutionLease} (required : requireLease record status message = .ok lease) :
    record.status = status ∧ record.lease = some lease := by
  unfold requireLease at required
  split at required
  next own isLease =>
    split_ifs at required with inState
    cases required
    exact ⟨inState, isLease⟩
  next => cases required

/-- An accepted operation advances its record. -/
theorem advance_of_apply (applied : operation.apply record = .ok next) :
    Advance record.toAssignmentExecutionRecordFields operation
      next.toAssignmentExecutionRecordFields := by
  cases operation with
  | claim context lease =>
      simp only [AssignmentOperation.apply, claimAssignmentExecution, bind_eq_ok_iff,
        exists_unit_iff, rejectIf_eq_ok_iff, validated_eq_ok_iff, not_not, not_lt, not_or,
        not_le] at applied
      obtain ⟨-, -, -, prepared, notBefore, ⟨inTime, within⟩, result⟩ := applied
      rw [result]
      exact .claim prepared notBefore inTime within
  | start context ownerId startedAt =>
      simp only [AssignmentOperation.apply, startAssignmentExecution, bind_eq_ok_iff,
        exists_unit_iff, rejectIf_eq_ok_iff, validated_eq_ok_iff, not_not, not_le] at applied
      obtain ⟨-, -, at_, timely, lease, leased, rfl, held, inTime, result⟩ := applied
      obtain ⟨rfl, notBefore⟩ := requireTime_eq_ok timely
      obtain ⟨claimed, isLease⟩ := requireLease_eq_ok leased
      rw [result]
      exact .start claimed isLease notBefore held inTime
  | succeed context ownerId completedAt =>
      simp only [AssignmentOperation.apply, succeedAssignmentExecution, bind_eq_ok_iff,
        exists_unit_iff, rejectIf_eq_ok_iff, validated_eq_ok_iff, not_not, not_le] at applied
      obtain ⟨-, -, at_, timely, lease, leased, rfl, held, inTime, result⟩ := applied
      obtain ⟨rfl, notBefore⟩ := requireTime_eq_ok timely
      obtain ⟨running, isLease⟩ := requireLease_eq_ok leased
      rw [result]
      exact .succeed running isLease notBefore held inTime
  | fail context ownerId failure =>
      simp only [AssignmentOperation.apply, failAssignmentExecution, bind_eq_ok_iff,
        exists_unit_iff, rejectIf_eq_ok_iff, validated_eq_ok_iff, not_not] at applied
      obtain ⟨-, -, at_, timely, lease, leased, rfl, result⟩ := applied
      obtain ⟨same, notBefore⟩ := requireTime_eq_ok timely
      cases same
      obtain ⟨running, isLease⟩ := requireLease_eq_ok leased
      rw [result]
      exact .fail running isLease notBefore
  | cancel context cancellation policy =>
      simp only [AssignmentOperation.apply, cancelAssignmentExecution, requireNonterminal,
        bind_eq_ok_iff, exists_unit_iff, rejectIf_eq_ok_iff, validated_eq_ok_iff] at applied
      obtain ⟨-, open_, at_, timely, -, -, result⟩ := applied
      obtain ⟨same, notBefore⟩ := requireTime_eq_ok timely
      cases same
      rw [result]
      exact .cancel open_ notBefore
  | expire context evaluatedAt =>
      simp only [AssignmentOperation.apply, expireAssignmentExecution, requireNonterminal,
        bind_eq_ok_iff, exists_unit_iff, rejectIf_eq_ok_iff, validated_eq_ok_iff] at applied
      obtain ⟨-, open_, at_, timely, -, result⟩ := applied
      obtain ⟨rfl, notBefore⟩ := requireTime_eq_ok timely
      rw [result]
      exact .expire open_ notBefore

/-! ## What is built is valid -/

/-- The last time of a valid record is not before any of its times. -/
theorem ValidRecord.latest_bounds (valid : ValidRecord fields) :
    fields.preparedAt ≤ fields.latest ∧ (∀ claimedAt ∈ fields.claimedAt, claimedAt ≤ fields.latest) ∧
      fields.startedAt.getD fields.preparedAt ≤ fields.latest := by
  rw [AssignmentExecutionRecordFields.latest]
  cases isStart : fields.startedAt with
  | none =>
      cases isClaim : fields.claimedAt with
      | none => simp
      | some claimedAt => simpa using valid.claim claimedAt isClaim
  | some startedAt =>
      obtain ⟨claimedAt, isClaim, notBefore⟩ := valid.start startedAt isStart
      have prepared := valid.claim claimedAt isClaim
      refine ⟨by simpa using prepared.trans notBefore, fun other isOther => ?_, by simp⟩
      obtain rfl := Option.mem_unique isClaim isOther
      simpa using notBefore

/-- A valid record that has not ended carries no terminal information. -/
theorem ValidRecord.no_information (valid : ValidRecord fields)
    (open_ : fields.status ∉ AssignmentExecutionRuntimeStatus.terminal) :
    fields.failure = none ∧ fields.cancellation = none ∧ fields.expiration = none ∧
      fields.completedAt = none := by
  have other : ∀ status ∈ AssignmentExecutionRuntimeStatus.terminal, fields.status ≠ status :=
    fun status isTerminal same => open_ (same ▸ isTerminal)
  refine ⟨?_, ?_, ?_, ?_⟩
  · by_contra failed
    exact other .failed (by decide) (valid.failure.mp failed)
  · by_contra cancelled
    exact other .cancelled (by decide) (valid.cancellation.mp cancelled)
  · by_contra expired
    exact other .expired (by decide) (valid.expiration.mp expired)
  · by_contra ended
    exact open_ (valid.ended.mp ended)

/-- A valid record that is ended stays valid, with the information of how it ended. -/
theorem ValidRecord.endedAt (valid : ValidRecord fields)
    {status : AssignmentExecutionRuntimeStatus} {at_ : DateTime} (notBefore : fields.latest ≤ at_)
    {failure : Option AssignmentExecutionFailure}
    {cancellation : Option AssignmentExecutionCancellation}
    {expiration : Option AssignmentExecutionExpiration}
    (terminal : status ∈ AssignmentExecutionRuntimeStatus.terminal)
    (failed : failure ≠ none ↔ status = .failed)
    (cancelled : cancellation ≠ none ↔ status = .cancelled)
    (expired : expiration ≠ none ↔ status = .expired)
    (times : ∀ occurredAt ∈ { Orchestration.endedAt fields status at_ with
      failure, cancellation, expiration }.terminalTimes, occurredAt = at_) :
    ValidRecord { Orchestration.endedAt fields status at_ with failure, cancellation, expiration } := by
  have bounds := valid.latest_bounds
  have notOpen : ∀ other, other ∉ AssignmentExecutionRuntimeStatus.terminal → status ≠ other :=
    fun other isOpen same => isOpen (same ▸ terminal)
  exact
    { requestId := valid.requestId
      taskId := valid.taskId
      stepId := valid.stepId
      attempt := valid.attempt
      deadline := valid.deadline
      prepared := fun same => absurd same (notOpen _ (by decide))
      claimed := fun same => absurd same (notOpen _ (by decide))
      running := fun same => absurd same (notOpen _ (by decide))
      claim := valid.claim
      start := valid.start
      completion := by
        rintro _ ⟨⟩
        exact bounds.2.2.trans notBefore
      ended := by simp [Orchestration.endedAt, terminal]
      failure := failed
      cancellation := cancelled
      expiration := expired
      terminalTimes := fun occurredAt isTime => congrArg some (times occurredAt isTime) }

/-- What an operation makes of a valid record is valid. -/
theorem Advance.valid {made : AssignmentExecutionRecordFields} (valid : ValidRecord fields)
    (advance : Advance fields operation made) : ValidRecord made := by
  cases advance with
  | @claim _ lease prepared notBefore inTime within =>
      obtain ⟨-, -, noStart⟩ := valid.prepared prepared
      obtain ⟨noFailure, noCancellation, noExpiration, open_⟩ :=
        valid.no_information (by rw [prepared]; decide)
      exact
        { valid with
          prepared := nofun
          claimed := fun _ => ⟨noStart, lease, rfl, rfl⟩
          running := nofun
          claim := by
            rintro _ ⟨⟩
            exact notBefore
          start := by simp [noStart]
          ended := by simp [open_, AssignmentExecutionRuntimeStatus.terminal]
          failure := by simp [noFailure]
          cancellation := by simp [noCancellation]
          expiration := by simp [noExpiration] }
  | @start _ lease at_ claimed isLease notBefore held inTime =>
      obtain ⟨-, own, isOwn, isClaim⟩ := valid.claimed claimed
      obtain ⟨noFailure, noCancellation, noExpiration, open_⟩ :=
        valid.no_information (by rw [claimed]; decide)
      have afterClaim := (valid.latest_bounds.2.1 own.claimedAt isClaim).trans notBefore
      exact
        { valid with
          prepared := nofun
          claimed := nofun
          running := fun _ => ⟨by simp [isLease], by simp [isClaim], by simp⟩
          start := by
            rintro _ ⟨⟩
            exact ⟨own.claimedAt, isClaim, afterClaim⟩
          completion := by simp [open_]
          ended := by simp [open_, AssignmentExecutionRuntimeStatus.terminal]
          failure := by simp [noFailure]
          cancellation := by simp [noCancellation]
          expiration := by simp [noExpiration] }
  | @succeed _ lease at_ running isLease notBefore held inTime =>
      have open_ : fields.status ∉ AssignmentExecutionRuntimeStatus.terminal := by
        rw [running]
        decide
      obtain ⟨noFailure, noCancellation, noExpiration, -⟩ := valid.no_information open_
      exact valid.endedAt notBefore (by decide) (by simp [noFailure])
        (by simp [noCancellation]) (by simp [noExpiration])
        (by simp [AssignmentExecutionRecordFields.terminalTimes, noFailure, noCancellation,
          noExpiration])
  | @fail _ failure lease running isLease notBefore =>
      have open_ : fields.status ∉ AssignmentExecutionRuntimeStatus.terminal := by
        rw [running]
        decide
      obtain ⟨-, noCancellation, noExpiration, -⟩ := valid.no_information open_
      exact valid.endedAt notBefore (by decide) (by simp) (by simp [noCancellation])
        (by simp [noExpiration])
        (by simp [AssignmentExecutionRecordFields.terminalTimes, noCancellation, noExpiration])
  | @cancel _ cancellation policy open_ notBefore =>
      obtain ⟨noFailure, -, noExpiration, -⟩ := valid.no_information open_
      exact valid.endedAt notBefore (by decide) (by simp [noFailure]) (by simp)
        (by simp [noExpiration])
        (by simp [AssignmentExecutionRecordFields.terminalTimes, noFailure, noExpiration])
  | @expire _ cause at_ open_ notBefore =>
      obtain ⟨noFailure, noCancellation, -, -⟩ := valid.no_information open_
      exact valid.endedAt notBefore (by decide) (by simp [noFailure])
        (by simp [noCancellation]) (by simp)
        (by simp [AssignmentExecutionRecordFields.terminalTimes, noFailure, noCancellation])

/-! ## Records never refuse what was checked -/

/-- A computation never raises that a record is not valid. -/
def NeverInvalid {Value : Type} (result : Except AssignmentRuntimeError Value) : Prop :=
  ∀ error, result = .error error → error.kind ≠ .recordValidation

section NeverInvalid

variable {First Value : Type}

theorem NeverInvalid.bind {first : Except AssignmentRuntimeError First}
    {later : First → Except AssignmentRuntimeError Value} (isFirst : NeverInvalid first)
    (isLater : ∀ value, first = .ok value → NeverInvalid (later value)) :
    NeverInvalid (first >>= later) := by
  intro error raised
  rcases bind_eq_error_iff.mp raised with early | ⟨value, returned, late⟩
  · exact isFirst error early
  · exact isLater value returned error late

theorem neverInvalid_rejectIf {condition : Prop} [Decidable condition]
    {error : AssignmentRuntimeError} (own : error.kind ≠ .recordValidation) :
    NeverInvalid (rejectIf condition error) := by
  intro raised isRaised
  rw [← (rejectIf_eq_error_iff.mp isRaised).2]
  exact own

theorem neverInvalid_validateScope : NeverInvalid (validateScope record context) :=
  .bind (neverInvalid_rejectIf (by decide)) fun _ _ =>
    .bind (neverInvalid_rejectIf (by decide)) fun _ _ => neverInvalid_rejectIf (by decide)

theorem neverInvalid_requireNonterminal : NeverInvalid (requireNonterminal record) :=
  neverInvalid_rejectIf (by decide)

theorem neverInvalid_requireTime {moment : Moment} : NeverInvalid (requireTime record moment) := by
  refine .bind ?_ fun instant _ => .bind (neverInvalid_rejectIf (by decide)) fun _ _ => nofun
  cases moment with
  | aware instant => exact nofun
  | naive reading =>
      rintro error ⟨⟩
      decide

theorem neverInvalid_requireLease {status : AssignmentExecutionRuntimeStatus} {message : String} :
    NeverInvalid (requireLease record status message) := by
  unfold requireLease
  intro error raised
  split at raised
  · split_ifs at raised
    cases raised
    exact nofun
  · cases raised
    exact nofun

theorem ValidRecord.neverInvalid (valid : ValidRecord fields) :
    NeverInvalid (AssignmentExecutionRecord.validated fields) := by
  intro error raised
  have built : AssignmentExecutionRecord.validated fields =
      .ok ⟨fields, validate_eq_ok_iff.mpr valid⟩ := validated_eq_ok_iff.mpr rfl
  rw [built] at raised
  cases raised

end NeverInvalid

/-- No operation fails in the record it builds. -/
theorem neverInvalid_apply : NeverInvalid (operation.apply record) := by
  have advanced : ∀ {fields}, Advance record.toAssignmentExecutionRecordFields operation fields →
      NeverInvalid (AssignmentExecutionRecord.validated fields) := fun advance =>
    (advance.valid record.valid).neverInvalid
  cases operation with
  | claim context lease =>
      refine .bind neverInvalid_validateScope fun _ _ => .bind neverInvalid_requireNonterminal
        fun _ _ => .bind (neverInvalid_rejectIf (by decide)) fun _ _ =>
        .bind (neverInvalid_rejectIf (by decide)) fun _ prepared =>
        .bind (neverInvalid_rejectIf (by decide)) fun _ notBefore =>
        .bind (neverInvalid_rejectIf (by decide)) fun _ inTime => ?_
      rw [rejectIf_eq_ok_iff, not_or, not_le, not_lt] at inTime
      exact advanced (.claim (not_not.mp (rejectIf_eq_ok_iff.mp prepared))
        (not_lt.mp (rejectIf_eq_ok_iff.mp notBefore)) inTime.1 inTime.2)
  | start context ownerId startedAt =>
      refine .bind neverInvalid_validateScope fun _ _ => .bind neverInvalid_requireNonterminal
        fun _ _ => .bind neverInvalid_requireTime fun at_ timely =>
        .bind neverInvalid_requireLease fun lease leased =>
        .bind (neverInvalid_rejectIf (by decide)) fun _ owned =>
        .bind (neverInvalid_rejectIf (by decide)) fun _ held =>
        .bind (neverInvalid_rejectIf (by decide)) fun _ inTime => ?_
      obtain ⟨rfl, notBefore⟩ := requireTime_eq_ok timely
      obtain ⟨claimed, isLease⟩ := requireLease_eq_ok leased
      obtain rfl := not_not.mp (rejectIf_eq_ok_iff.mp owned)
      exact advanced (.start claimed isLease notBefore (not_le.mp (rejectIf_eq_ok_iff.mp held))
        (not_le.mp (rejectIf_eq_ok_iff.mp inTime)))
  | succeed context ownerId completedAt =>
      refine .bind neverInvalid_validateScope fun _ _ => .bind neverInvalid_requireNonterminal
        fun _ _ => .bind neverInvalid_requireTime fun at_ timely =>
        .bind neverInvalid_requireLease fun lease leased =>
        .bind (neverInvalid_rejectIf (by decide)) fun _ owned =>
        .bind (neverInvalid_rejectIf (by decide)) fun _ held =>
        .bind (neverInvalid_rejectIf (by decide)) fun _ inTime => ?_
      obtain ⟨rfl, notBefore⟩ := requireTime_eq_ok timely
      obtain ⟨running, isLease⟩ := requireLease_eq_ok leased
      obtain rfl := not_not.mp (rejectIf_eq_ok_iff.mp owned)
      exact advanced (.succeed running isLease notBefore (not_le.mp (rejectIf_eq_ok_iff.mp held))
        (not_le.mp (rejectIf_eq_ok_iff.mp inTime)))
  | fail context ownerId failure =>
      refine .bind neverInvalid_validateScope fun _ _ => .bind neverInvalid_requireNonterminal
        fun _ _ => .bind neverInvalid_requireTime fun at_ timely =>
        .bind neverInvalid_requireLease fun lease leased =>
        .bind (neverInvalid_rejectIf (by decide)) fun _ owned => ?_
      obtain ⟨same, notBefore⟩ := requireTime_eq_ok timely
      cases same
      obtain ⟨running, isLease⟩ := requireLease_eq_ok leased
      obtain rfl := not_not.mp (rejectIf_eq_ok_iff.mp owned)
      exact advanced (.fail running isLease notBefore)
  | cancel context cancellation policy =>
      refine .bind neverInvalid_validateScope fun _ _ => .bind neverInvalid_requireNonterminal
        fun _ open_ => .bind neverInvalid_requireTime fun at_ timely =>
        .bind (neverInvalid_rejectIf (by decide)) fun _ _ =>
        .bind (neverInvalid_rejectIf (by decide)) fun _ _ => ?_
      obtain ⟨same, notBefore⟩ := requireTime_eq_ok timely
      cases same
      exact advanced (.cancel (rejectIf_eq_ok_iff.mp open_) notBefore)
  | expire context evaluatedAt =>
      refine .bind neverInvalid_validateScope fun _ _ => .bind neverInvalid_requireNonterminal
        fun _ open_ => .bind neverInvalid_requireTime fun at_ timely =>
        .bind (neverInvalid_rejectIf (by decide)) fun _ _ => ?_
      obtain ⟨rfl, notBefore⟩ := requireTime_eq_ok timely
      exact advanced (.expire (rejectIf_eq_ok_iff.mp open_) notBefore)

/-! ## Runs -/

/-- The identity of an assignment, with what bounds it. -/
def AssignmentExecutionRecordFields.identity (record : AssignmentExecutionRecordFields) :=
  (record.executionId, record.assignmentRequestId, record.assignmentId, record.taskId,
    record.executionStepId, record.organizationId, record.actorId, record.classification,
    record.deadline, record.preparedAt, record.attempt)

theorem Advance.identity {made : AssignmentExecutionRecordFields}
    (advance : Advance fields operation made) : made.identity = fields.identity := by
  cases advance <;> rfl

/-- The times of a record that are set are in order, and its lease ends by the deadline. -/
structure InTime (record : AssignmentExecutionRecordFields) : Prop where
  claim : ∀ claimedAt ∈ record.claimedAt, record.preparedAt ≤ claimedAt
  start : ∀ startedAt ∈ record.startedAt, ∃ claimedAt ∈ record.claimedAt, claimedAt ≤ startedAt
  completion : ∀ completedAt ∈ record.completedAt, record.preparedAt ≤ completedAt ∧
    (∀ claimedAt ∈ record.claimedAt, claimedAt ≤ completedAt) ∧
    ∀ startedAt ∈ record.startedAt, startedAt ≤ completedAt
  lease : ∀ lease ∈ record.lease, record.claimedAt = some lease.claimedAt ∧
    lease.claimedAt < lease.expiresAt ∧ lease.expiresAt ≤ record.deadline

/-- A record that is ended at its last time or later stays in time. -/
theorem InTime.endedAt (inTime : InTime fields) (valid : ValidRecord fields)
    {status : AssignmentExecutionRuntimeStatus} {at_ : DateTime} (notBefore : fields.latest ≤ at_) :
    InTime (endedAt fields status at_) := by
  obtain ⟨prepared, claimed, -⟩ := valid.latest_bounds
  refine ⟨inTime.claim, inTime.start, ?_, inTime.lease⟩
  rintro _ ⟨⟩
  refine ⟨prepared.trans notBefore, fun claimedAt isClaim =>
    (claimed claimedAt isClaim).trans notBefore, fun startedAt isStart => ?_⟩
  have isLatest : fields.latest = startedAt := by
    have set : fields.startedAt = some startedAt := isStart
    rw [AssignmentExecutionRecordFields.latest, set]
    rfl
  exact isLatest ▸ notBefore

/-- Operations keep a record in time. -/
theorem Advance.inTime {made : AssignmentExecutionRecordFields} (valid : ValidRecord fields)
    (inTime : InTime fields) (advance : Advance fields operation made) : InTime made := by
  have madeValid := advance.valid valid
  cases advance with
  | @claim _ lease prepared notBefore early within =>
      obtain ⟨-, -, -, open_⟩ := valid.no_information (by rw [prepared]; decide)
      refine ⟨madeValid.claim, madeValid.start, by simp [open_], ?_⟩
      rintro _ ⟨⟩
      exact ⟨rfl, lease.ordered, within⟩
  | @start _ lease at_ claimed isLease notBefore held early =>
      obtain ⟨-, -, -, open_⟩ := valid.no_information (by rw [claimed]; decide)
      exact ⟨inTime.claim, madeValid.start, by simp [open_], inTime.lease⟩
  | succeed _ _ notBefore => exact inTime.endedAt valid notBefore
  | fail _ _ notBefore =>
      have ended := @InTime.endedAt _ inTime valid .failed _ notBefore
      exact ⟨ended.claim, ended.start, ended.completion, ended.lease⟩
  | cancel _ notBefore =>
      have ended := @InTime.endedAt _ inTime valid .cancelled _ notBefore
      exact ⟨ended.claim, ended.start, ended.completion, ended.lease⟩
  | expire _ notBefore =>
      have ended := @InTime.endedAt _ inTime valid .expired _ notBefore
      exact ⟨ended.claim, ended.start, ended.completion, ended.lease⟩

theorem inTime_of_initial (initial : assignmentRuns.Initial record) :
    InTime record.toAssignmentExecutionRecordFields := by
  obtain ⟨executionId, request, binding, preparedAt, prepared⟩ := initial
  simp only [prepareAssignmentExecution, bind_eq_ok_iff, exists_unit_iff,
    validated_eq_ok_iff] at prepared
  obtain ⟨at_, -, -, -, -, -, -, result⟩ := prepared
  rw [result]
  exact ⟨by simp, by simp, by simp, by simp⟩

/-- Records of a run stay in time. -/
def staysInTime : assignmentRuns.Invariant where
  Holds record := InTime record.toAssignmentExecutionRecordFields
  initial _ initial := inTime_of_initial initial
  preserved inTime applied := (advance_of_apply applied).inTime (AssignmentExecutionRecord.valid _)
    inTime

/-- An operation of the owner of the lease, before the lease and the deadline end. -/
def ByOwnerInTime (record : AssignmentExecutionRecordFields) (operation : AssignmentOperation) :
    Prop :=
  ∃ lease ∈ record.lease, ∃ context at_, at_ < lease.expiresAt ∧ at_ < record.deadline ∧
    (operation = .start context lease.ownerId (.aware at_) ∨
      operation = .succeed context lease.ownerId (.aware at_))

/-- What holds of a record of a run, and of every operation on it. -/
structure LifecycleKept (start record : AssignmentExecutionRecord) : Prop where
  identity : record.identity = start.identity
  inTime : InTime record.toAssignmentExecutionRecordFields
  owned : ∀ operation next, AssignmentOperation.apply record operation = .ok next →
    next.status ∈ [.running, .succeeded] →
      ByOwnerInTime record.toAssignmentExecutionRecordFields operation
  terminal : record.status ∈ AssignmentExecutionRuntimeStatus.terminal →
    ∀ operation, ¬ Accepted (AssignmentOperation.apply record operation)
  rebuilt : ∀ operation, NeverInvalid (AssignmentOperation.apply record operation)

/-- A record becomes running or succeeded only by the owner of its lease, in time. -/
theorem Advance.owned {made : AssignmentExecutionRecordFields}
    (advance : Advance fields operation made) (working : made.status ∈ [.running, .succeeded]) :
    ByOwnerInTime fields operation := by
  cases advance with
  | claim => simp at working
  | start claimed isLease notBefore held early =>
      exact ⟨_, isLease, _, _, held, early, .inl rfl⟩
  | succeed running isLease notBefore held early =>
      exact ⟨_, isLease, _, _, held, early, .inr rfl⟩
  | fail => simp [Orchestration.endedAt] at working
  | cancel => simp [Orchestration.endedAt] at working
  | expire => simp [Orchestration.endedAt] at working

theorem Advance.open_ {made : AssignmentExecutionRecordFields}
    (advance : Advance fields operation made) :
    fields.status ∉ AssignmentExecutionRuntimeStatus.terminal := by
  cases advance with
  | claim prepared => rw [prepared]; decide
  | start claimed => rw [claimed]; decide
  | succeed running => rw [running]; decide
  | fail running => rw [running]; decide
  | cancel open_ => exact open_
  | expire open_ => exact open_

theorem boundedText_requestId {requestId : String}
    (named : prefixedName "request." 180 requestId = true) : boundedText 200 requestId := by
  obtain ⟨rest, isText, -, length, -⟩ := prefixedName_iff.mp named
  have start : "request.".toList.length = 8 := by decide
  constructor
  · rw [isText, List.length_append, start]
    omega
  · rw [isText, List.length_append, start]
    omega

/-- A preparation with identifiers of admitted lengths fails in its own checks only. -/
theorem neverInvalid_prepare {executionId : UUID} {request : AssignmentExecutionRequest}
    {binding : AssignmentExecutionBinding} {preparedAt : Moment}
    (requestId : boundedText 200 request.assignmentExecutionRequestId)
    (taskId : boundedText 100 request.taskId) (stepId : boundedText 100 binding.executionStepId) :
    NeverInvalid (prepareAssignmentExecution executionId request binding preparedAt) := by
  refine .bind ?_ fun at_ _ => .bind (neverInvalid_rejectIf (by decide)) fun _ _ =>
    .bind (neverInvalid_rejectIf (by decide)) fun _ _ =>
    .bind (neverInvalid_rejectIf (by decide)) fun _ _ =>
    .bind (neverInvalid_rejectIf (by decide)) fun _ _ =>
    .bind (neverInvalid_rejectIf (by decide)) fun _ inTime => ?_
  · cases preparedAt with
    | aware instant => exact nofun
    | naive reading =>
        rintro error ⟨⟩
        decide
  · exact ValidRecord.neverInvalid
      { requestId, taskId, stepId
        attempt := rfl
        deadline := not_le.mp (rejectIf_eq_ok_iff.mp inTime)
        prepared := fun _ => ⟨rfl, rfl, rfl⟩
        claimed := nofun
        running := nofun
        claim := nofun
        start := nofun
        completion := nofun
        ended := by simp [AssignmentExecutionRuntimeStatus.terminal]
        failure := by simp
        cancellation := by simp
        expiration := by simp
        terminalTimes := by simp [AssignmentExecutionRecordFields.terminalTimes] }

/-- Along every run of an assignment its identity stays, its times are in order, its lease
ends by the deadline, the owner of the lease works on it in time, and nothing follows its
end. No operation fails in the record it builds; a preparation fails there only for the
length of the identifier of its task or its step. -/
theorem assignment_lifecycle {start record : AssignmentExecutionRecord}
    {operations : List AssignmentOperation} (initial : assignmentRuns.Initial start)
    (steps : assignmentRuns.Steps start operations record) :
    LifecycleKept start record ∧
      ∀ executionId request binding preparedAt,
        prefixedName "request." 180 request.assignmentExecutionRequestId = true →
        boundedText 100 request.taskId → boundedText 100 binding.executionStepId →
          NeverInvalid (prepareAssignmentExecution executionId request binding preparedAt) := by
  refine ⟨⟨?_, staysInTime.of_steps (staysInTime.initial start initial) steps,
    fun operation next applied => (advance_of_apply applied).owned,
    fun terminal operation ⟨next, applied⟩ => (advance_of_apply applied).open_ terminal,
    fun operation => neverInvalid_apply⟩, fun _ _ _ _ named taskId stepId =>
      neverInvalid_prepare (boundedText_requestId named) taskId stepId⟩
  exact steps.related
    (fun first second : AssignmentExecutionRecord => second.identity = first.identity)
    (fun _ => rfl) (fun first second => second.trans first) staysInTime
    (fun _ applied => (advance_of_apply applied).identity) (staysInTime.initial start initial)

/-! ## A run -/

namespace Sample

/-- The request of a task. -/
def executionRequest (taskId : String) : AssignmentExecutionRequest where
  assignmentExecutionRequestId := "request.statistics"
  translationId := 1
  coordinationId := 2
  taskId := taskId
  delegationId := 3
  assignmentId := 4
  agentDefinitionId := "agent.statistics"
  agentRole := .statisticsAnalyst
  approvedCapabilities := []
  inputReferences := []
  expectedOutputs := []
  organizationId := 5
  actorId := 6
  correlationId := "correlation"
  classification := .internal
  requestedAt := 0
  deadline := 100
  required := true
  humanReviewRequired := false
  lineage := []

/-- The binding of a task. -/
def executionBinding (taskId : String) : AssignmentExecutionBinding where
  bindingId := "binding.statistics"
  taskId := taskId
  assignmentId := 4
  executionRequestId := "request.statistics"
  executionStepId := "step.statistics"
  agentDefinitionId := "agent.statistics"
  role := .statisticsAnalyst
  capabilities := []
  required := true
  organizationId := 5
  classification := .internal

/-- The prepared record. -/
def preparedRecord : AssignmentExecutionRecord where
  executionId := 7
  assignmentRequestId := "request.statistics"
  assignmentId := 4
  taskId := "statistics"
  executionStepId := "step.statistics"
  organizationId := 5
  actorId := 6
  classification := .internal
  status := .prepared
  deadline := 100
  preparedAt := 1

/-- The claimed record. -/
def claimedRecord : AssignmentExecutionRecord where
  toAssignmentExecutionRecordFields :=
    { preparedRecord.toAssignmentExecutionRecordFields with
      status := .claimed
      lease := some { ownerId := "worker", claimedAt := 2, expiresAt := 50 }
      claimedAt := some 2 }

/-- The scope of the assignment. -/
def runtimeContext : AssignmentExecutionRuntimeContext where
  executionId := 7
  assignmentRequestId := "request.statistics"
  assignmentId := 4
  taskId := "statistics"
  executionStepId := "step.statistics"
  organizationId := 5
  actorId := 6
  classification := .internal

end Sample

/-- A worker claims an assignment. -/
theorem assignment_lifecycle_claimed : LifecycleKept Sample.preparedRecord Sample.claimedRecord ∧
    ∀ executionId request binding preparedAt,
      prefixedName "request." 180 request.assignmentExecutionRequestId = true →
      boundedText 100 request.taskId → boundedText 100 binding.executionStepId →
        NeverInvalid (prepareAssignmentExecution executionId request binding preparedAt) :=
  assignment_lifecycle
    ⟨7, Sample.executionRequest "statistics", Sample.executionBinding "statistics", .aware 1,
      by decide +kernel⟩
    (.step .refl (show AssignmentOperation.apply Sample.preparedRecord
      (.claim Sample.runtimeContext { ownerId := "worker", claimedAt := 2, expiresAt := 50 }) =
        .ok Sample.claimedRecord by decide +kernel))

/-- A preparation for a task without a name passes its own checks and fails in its record. -/
theorem prepare_invalid_record :
    ∃ executionId request binding preparedAt error,
      prefixedName "request." 180 request.assignmentExecutionRequestId = true ∧
      prepareAssignmentExecution executionId request binding preparedAt = .error error ∧
        error.kind = .recordValidation :=
  ⟨7, Sample.executionRequest "", Sample.executionBinding "", .aware 1, _, by decide +kernel,
    show _ = Except.error (invalidRecord "String should have at least 1 character") by
      decide +kernel, rfl⟩

end PolicyOS.Orchestration
