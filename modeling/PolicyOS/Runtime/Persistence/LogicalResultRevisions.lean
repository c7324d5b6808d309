import PolicyOS.Runtime.Api.SubmissionStages
import PolicyOS.Runtime.Persistence.LogicalResultRepositories

/-!
# Revisions of logical results

A stage that brings a logical result appends one revision of it. The identity of the result is
stored with its first revision; a later one must only repeat it. Of the number of a later revision
nothing is checked but that it is new, so revisions are contiguous in the runs whose calls number
them so.
-/

namespace PolicyOS.Runtime

open Foundation

/-! ## Rows -/

/-- The primary key or the attempt of the request rejects both rows. -/
def RuntimeLogicalExecutionResultRecord.conflictsWith
    (row other : RuntimeLogicalExecutionResultRecord) : Prop :=
  row.runtimeLogicalExecutionResultId = other.runtimeLogicalExecutionResultId ∨
  (row.tenantId = other.tenantId ∧ row.organizationId = other.organizationId ∧
    row.runtimeExecutionRequestId = other.runtimeExecutionRequestId ∧
    row.attemptId = other.attemptId)

instance RuntimeLogicalExecutionResultRecord.decidableConflictsWith
    (row other : RuntimeLogicalExecutionResultRecord) : Decidable (row.conflictsWith other) :=
  inferInstanceAs (Decidable (_ ∨ _ ∧ _ ∧ _ ∧ _))

/-- The identity of a result. -/
def RuntimeApiLogicalExecutionResult.identityValues (result : RuntimeApiLogicalExecutionResult) :
    RuntimeLogicalExecutionResultRecord where
  runtimeLogicalExecutionResultId := result.runtimeLogicalExecutionResultId
  tenantId := result.scope.tenantId
  organizationId := result.scope.organizationId
  classification := result.scope.classification
  runtimeExecutionRequestId := result.executionRequest.recordId
  attemptId := result.attemptId
  rootLineageId := result.scope.rootLineageId
  rootLineageDigestReference := result.scope.rootLineageDigestReference

/-- The columns of a result. -/
def RuntimeApiLogicalExecutionResult.revisionValues (result : RuntimeApiLogicalExecutionResult) :
    LogicalResultColumns where
  identity := result.identityValues
  resultRevision := result.resultRevision.val
  executionRequestClassification := result.executionRequestClassification
  executionRequestExpectedRevision := result.executionRequest.expectedRevision.val
  executionState := (result.executionState.recordId, result.executionState.expectedRevision.val)
  auditTrail := (result.auditTrail.recordId, result.auditTrail.expectedRevision.val)
  resultReference := result.resultReference
  resultDigestReference := result.resultDigestReference
  resultPayloadProvenanceReference := result.resultPayloadProvenanceReference
  producedAt := result.producedAt

/-- The columns of a stored record revision that a foreign key names. -/
abbrev RevisionTarget := RecordKey × DataClassification × Nat

/-- The request, the state and the audit trail of a result, as its foreign keys name them. -/
def LogicalResultColumns.references (columns : LogicalResultColumns) : List RevisionTarget :=
  let key := fun recordType recordId =>
    (⟨recordType, columns.identity.tenantId, columns.identity.organizationId, recordId⟩ : RecordKey)
  [(key .executionRequest columns.identity.runtimeExecutionRequestId,
      columns.executionRequestClassification, columns.executionRequestExpectedRevision),
    (key .executionState columns.executionState.1, columns.identity.classification,
      columns.executionState.2),
    (key .auditTrail columns.auditTrail.1, columns.identity.classification,
      columns.auditTrail.2)]

/-! ## Appending -/

/-- A constraint of the result tables rejected a row. -/
def resultConflicted : RuntimePersistenceFailure :=
  .conflict "logical execution-result relational constraint conflicted"

namespace RuntimeLogicalResultStore

/-- The stored identity of a result; the primary key leaves no second one. -/
def identityOf (store : RuntimeLogicalResultStore) (id : UUID) :
    Option RuntimeLogicalExecutionResultRecord :=
  store.results.find? (·.runtimeLogicalExecutionResultId = id)

/-- The identities after a call that has found the identity of its result or none. -/
def writeIdentity (store : RuntimeLogicalResultStore) (result : RuntimeApiLogicalExecutionResult) :
    Option RuntimeLogicalExecutionResultRecord →
      Except RuntimePersistenceFailure (List RuntimeLogicalExecutionResultRecord)
  | none => do
      rejectIf (result.resultRevision.val ≠ 1)
        (.conflict "first logical execution-result revision must be one")
      rejectIf (∃ other ∈ store.results, result.identityValues.conflictsWith other)
        resultConflicted
      pure (store.results ++ [result.identityValues])
  | some identity => do
      rejectIf (identity ≠ result.identityValues)
        (.conflict "logical execution-result identity differs")
      pure store.results

/-- Append the result of a stage, if it brings one. The targets are the record revisions that the
foreign keys may name. -/
def appendFromStage (store : RuntimeLogicalResultStore) (targets : List RevisionTarget)
    (stage : RuntimeApiLocalWriteSetStage) (found : Option RuntimeLogicalExecutionResultRecord) :
    Except RuntimePersistenceFailure RuntimeLogicalResultStore :=
  match stage.logicalExecutionResult with
  | .absent => pure store
  | .present result => do
      let results ← store.writeIdentity result found
      let row : RuntimeLogicalExecutionResultRevisionRecord :=
        ⟨result.revisionValues, result, stage.stagedAt⟩
      rejectIf ((∃ other ∈ store.revisions,
            other.columns.identity.runtimeLogicalExecutionResultId =
              row.columns.identity.runtimeLogicalExecutionResultId ∧
            other.columns.resultRevision = row.columns.resultRevision) ∨
          row.columns.identity ∉ results ∨ ∃ target ∈ row.columns.references, target ∉ targets)
        resultConflicted
      pure { results := results, revisions := store.revisions ++ [row] }

end RuntimeLogicalResultStore

/-! ## Runs -/

/-- One call, with the record revisions that are stored when it writes. An early call has looked
for the identity before that was stored, when there was no row to lock. -/
structure AppendCall where
  targets : List RevisionTarget
  stage : RuntimeApiLocalWriteSetStage
  early : Bool

namespace RuntimeLogicalResultStore

/-- What a call answers. -/
def answer (store : RuntimeLogicalResultStore) (call : AppendCall) :
    Except RuntimePersistenceFailure RuntimeLogicalResultStore :=
  match call.stage.logicalExecutionResult with
  | .absent => store.appendFromStage call.targets call.stage none
  | .present result =>
      store.appendFromStage call.targets call.stage
        (if call.early then none
          else store.identityOf result.runtimeLogicalExecutionResultId)

/-- The tables after a call. One that fails is rolled back. -/
def after (store : RuntimeLogicalResultStore) (call : AppendCall) : RuntimeLogicalResultStore :=
  match store.answer call with
  | .ok next => next
  | .error _ => store

/-- The revisions of one result, in the order they were stored. -/
def revisionsOf (store : RuntimeLogicalResultStore) (id : UUID) :
    List RuntimeLogicalExecutionResultRevisionRecord :=
  store.revisions.filter (·.columns.identity.runtimeLogicalExecutionResultId = id)

/-- The revisions of every result are numbered from one on and of states that do not go back, and
share the stored identity of the result. -/
structure Contiguous (store : RuntimeLogicalResultStore) : Prop where
  numbered : ∀ id, (store.revisionsOf id).map (·.columns.resultRevision) =
    List.range' 1 (store.revisionsOf id).length
  ascending : ∀ id, ((store.revisionsOf id).map (·.columns.executionState.2)).Pairwise (· ≤ ·)
  identified : ∀ row ∈ store.revisions, row.columns.identity ∈ store.results
  distinct : (store.results.map (·.runtimeLogicalExecutionResultId)).Nodup
  begun : ∀ identity ∈ store.results,
    store.revisionsOf identity.runtimeLogicalExecutionResultId ≠ []

/-- A call for a stored result leaves out no number, and its next revision is not of a state
before that of another. -/
def Continues (store : RuntimeLogicalResultStore) (call : AppendCall) : Prop :=
  ∀ result, call.stage.logicalExecutionResult = .present result →
    let stored := store.revisionsOf result.runtimeLogicalExecutionResultId
    stored ≠ [] → result.resultRevision.val ≤ stored.length + 1 ∧
      (result.resultRevision.val = stored.length + 1 → ∀ row ∈ stored,
        row.columns.executionState.2 ≤ result.executionState.expectedRevision.val)

end RuntimeLogicalResultStore

open RuntimeLogicalResultStore

/-- Calls in any order on tables that are empty at first. -/
def logicalResultAppends : TransitionSystem RuntimeLogicalResultStore AppendCall where
  Initial store := store = {}
  Step store call next := next = store.after call

variable {store next : RuntimeLogicalResultStore} {call : AppendCall}

/-- What a call that answers has done: nothing, or one more revision under an identity that is
stored with its first revision or is stored already. -/
theorem appended_of_answer (answered : store.answer call = .ok next) : next = store ∨
    ∃ result storedAt, call.stage.logicalExecutionResult = .present result ∧
      next.revisions = store.revisions ++ [⟨result.revisionValues, result, storedAt⟩] ∧
      (∀ other ∈ store.revisionsOf result.runtimeLogicalExecutionResultId,
        other.columns.resultRevision ≠ result.resultRevision.val) ∧
      ((result.resultRevision.val = 1 ∧ next.results = store.results ++ [result.identityValues] ∧
          ∀ other ∈ store.results, ¬ result.identityValues.conflictsWith other) ∨
        (next.results = store.results ∧ result.identityValues ∈ store.results)) := by
  unfold answer at answered
  cases mutation : call.stage.logicalExecutionResult with
  | absent =>
      simp only [mutation, appendFromStage, pure_eq_ok_iff] at answered
      exact .inl answered.symm
  | present result =>
      simp only [mutation, appendFromStage, bind_eq_ok_iff, exists_unit_iff, rejectIf_eq_ok_iff,
        pure_eq_ok_iff, not_or, not_exists, not_and, not_not] at answered
      obtain ⟨results, written, ⟨fresh, named, -⟩, rfl⟩ := answered
      refine .inr ⟨result, _, rfl, rfl, fun other isOther => ?_, ?_⟩
      · obtain ⟨isStored, isOf⟩ := List.mem_filter.mp isOther
        exact fresh other isStored (of_decide_eq_true isOf)
      · revert written
        generalize (if call.early = true then none
          else store.identityOf result.runtimeLogicalExecutionResultId) = found
        intro written
        cases found with
        | none =>
            simp only [writeIdentity, bind_eq_ok_iff, exists_unit_iff, rejectIf_eq_ok_iff,
              pure_eq_ok_iff, ne_eq, not_not, not_exists, not_and] at written
            obtain ⟨first, apart, rfl⟩ := written
            exact .inl ⟨first, rfl, apart⟩
        | some identity =>
            simp only [writeIdentity, bind_eq_ok_iff, exists_unit_iff, rejectIf_eq_ok_iff,
              pure_eq_ok_iff, ne_eq, not_not] at written
            obtain ⟨-, rfl⟩ := written
            exact .inr ⟨rfl, named⟩

/-- A number that is not stored and leaves none out is the next. -/
theorem next_number {numbers : List Nat} {number : Nat}
    (numbered : numbers = List.range' 1 numbers.length) (positive : 0 < number)
    (within : number ≤ numbers.length + 1) (fresh : ∀ other ∈ numbers, other ≠ number) :
    number = numbers.length + 1 := by
  by_contra earlier
  refine fresh number ?_ rfl
  rw [numbered, List.mem_range'_1]
  omega

/-- A call that continues keeps the revisions contiguous. -/
theorem contiguous_of_answer (contiguous : Contiguous store) (continues : Continues store call)
    (answered : store.answer call = .ok next) : Contiguous next := by
  obtain rfl | ⟨result, storedAt, present, revisions, fresh, identities⟩ :=
    appended_of_answer answered
  · exact contiguous
  have old : ∀ id, id ≠ result.runtimeLogicalExecutionResultId →
      next.revisionsOf id = store.revisionsOf id := by
    intro id other
    rw [revisionsOf, revisions, List.filter_append, revisionsOf]
    simp [RuntimeApiLogicalExecutionResult.revisionValues,
      RuntimeApiLogicalExecutionResult.identityValues, Ne.symm other]
  have own : next.revisionsOf result.runtimeLogicalExecutionResultId =
      store.revisionsOf result.runtimeLogicalExecutionResultId ++
        [⟨result.revisionValues, result, storedAt⟩] := by
    rw [revisionsOf, revisions, List.filter_append, revisionsOf]
    simp [RuntimeApiLogicalExecutionResult.revisionValues,
      RuntimeApiLogicalExecutionResult.identityValues]
  -- The number is the next one, and no state before it is later.
  have appended : result.resultRevision.val =
        (store.revisionsOf result.runtimeLogicalExecutionResultId).length + 1 ∧
      ∀ row ∈ store.revisionsOf result.runtimeLogicalExecutionResultId,
        row.columns.executionState.2 ≤ result.executionState.expectedRevision.val := by
    by_cases none : store.revisionsOf result.runtimeLogicalExecutionResultId = []
    · obtain ⟨first, -⟩ | ⟨-, isStored⟩ := identities
      · simp [none, first]
      · exact absurd none (contiguous.begun _ isStored)
    · obtain ⟨within, later⟩ := continues result present none
      have isNext := @next_number
        ((store.revisionsOf result.runtimeLogicalExecutionResultId).map (·.columns.resultRevision))
        result.resultRevision.val (by rw [contiguous.numbered, List.length_range'])
        result.resultRevision.property.1 (by rwa [List.length_map])
        (List.forall_mem_map.mpr fresh)
      rw [List.length_map] at isNext
      exact ⟨isNext, later isNext⟩
  have kept : ∀ identity ∈ store.results, identity ∈ next.results := by
    intro identity isStored
    obtain ⟨-, added, -⟩ | ⟨same, -⟩ := identities
    · exact added ▸ List.mem_append_left _ isStored
    · exact same ▸ isStored
  have isIdentity : result.identityValues ∈ next.results := by
    obtain ⟨-, added, -⟩ | ⟨same, isStored⟩ := identities
    · exact added ▸ List.mem_append_right _ (List.mem_singleton_self _)
    · exact same ▸ isStored
  constructor
  case numbered =>
    intro id
    by_cases isOwn : id = result.runtimeLogicalExecutionResultId
    · subst isOwn
      rw [own, List.map_append, contiguous.numbered, List.length_append, List.length_singleton,
        List.range'_1_concat]
      simp [RuntimeApiLogicalExecutionResult.revisionValues, appended.1, Nat.add_comm]
    · rw [old id isOwn]
      exact contiguous.numbered id
  case ascending =>
    intro id
    by_cases isOwn : id = result.runtimeLogicalExecutionResultId
    · subst isOwn
      rw [own, List.map_append, List.map_singleton, List.pairwise_append]
      refine ⟨contiguous.ascending _, List.pairwise_singleton _ _, ?_⟩
      rintro _ isState _ isLast
      obtain ⟨row, isRow, rfl⟩ := List.mem_map.mp isState
      rw [List.mem_singleton.mp isLast]
      exact appended.2 row isRow
    · rw [old id isOwn]
      exact contiguous.ascending id
  case identified =>
    rw [revisions, List.forall_mem_append, List.forall_mem_singleton]
    exact ⟨fun row isStored => kept _ (contiguous.identified row isStored), isIdentity⟩
  case distinct =>
    obtain ⟨-, added, apart⟩ | ⟨same, -⟩ := identities
    · rw [added, List.map_append, List.map_singleton]
      refine List.Nodup.append contiguous.distinct (List.nodup_singleton _) ?_
      intro id isStored isNew
      obtain ⟨other, isOther, rfl⟩ := List.mem_map.mp isStored
      exact apart other isOther (.inl (List.mem_singleton.mp isNew).symm)
    · exact same ▸ contiguous.distinct
  case begun =>
    intro identity isStored
    by_cases isOwn :
        identity.runtimeLogicalExecutionResultId = result.runtimeLogicalExecutionResultId
    · rw [isOwn, own]
      exact List.append_ne_nil_of_right_ne_nil _ (List.cons_ne_nil _ _)
    · rw [old _ isOwn]
      obtain ⟨-, added, -⟩ | ⟨same, -⟩ := identities
      · rw [added] at isStored
        obtain isStored | isNew := List.mem_append.mp isStored
        · exact contiguous.begun identity isStored
        · exact absurd (congrArg _ (List.mem_singleton.mp isNew)) isOwn
      · exact contiguous.begun identity (same ▸ isStored)

/-- The calls that continue the stored revisions. -/
abbrev continuingAppends : TransitionSystem RuntimeLogicalResultStore AppendCall :=
  logicalResultAppends.restrict fun store call _ => Continues store call

/-- Contiguous revisions are an invariant of continuing calls. -/
def contiguousInvariant : continuingAppends.Invariant where
  Holds := Contiguous
  initial := by
    rintro _ rfl
    exact ⟨fun _ => rfl, fun _ => .nil, fun _ absent => absurd absent List.not_mem_nil, .nil,
      fun _ absent => absurd absent List.not_mem_nil⟩
  preserved := by
    rintro store call next contiguous ⟨rfl, continues⟩
    unfold RuntimeLogicalResultStore.after
    cases answered : store.answer call with
    | ok next => exact contiguous_of_answer contiguous continues answered
    | error _ => exact contiguous

/-- In every run of continuing calls the revisions of every result are contiguous, and a call
that fails stores nothing. -/
theorem contiguous_of_reachable (store : RuntimeLogicalResultStore)
    (reachable : continuingAppends.Reachable store) :
    Contiguous store ∧ ∀ call failure, store.answer call = .error failure →
      store.after call = store := by
  refine ⟨contiguousInvariant.of_reachable reachable, fun call failure failed => ?_⟩
  rw [RuntimeLogicalResultStore.after, failed]

namespace ApiSample

/-- The result of the success of the running execution, in one revision. -/
def resultOf (revision : PositiveInt) : RuntimeApiLogicalExecutionResult where
  runtimeLogicalExecutionResultId := 70
  resultRevision := revision
  executionRequest := binding.executionRequest
  executionRequestClassification := .internal
  executionState := ⟨10, .nearest 8⟩
  auditTrail := ⟨19, .nearest 2⟩
  attemptId := 5
  scope := binding.scope
  resultReference := "result"
  resultDigestReference := "result-digest"
  resultPayloadProvenanceReference := "provenance"
  producedAt := 8

/-- The call that submits it. -/
def resultCall (revision : PositiveInt)
    (closed : closedWriteSet { submission with
      logicalExecutionResult := .present (resultOf revision) } = .ok ()) : AppendCall where
  targets := (resultOf revision).revisionValues.references
  stage :=
    { submission with
      logicalExecutionResult := .present (resultOf revision)
      closed := closed }
  early := false

/-- The first revision, and a third one. -/
def firstCall : AppendCall := resultCall one (by decide +kernel)
def thirdCall : AppendCall := resultCall (.nearest 3) (by decide +kernel)

end ApiSample

open ApiSample in
/-- One revision is stored under its identity. -/
theorem contiguous_of_reachable_first : Contiguous (after {} firstCall) ∧
    ∀ call failure, (after {} firstCall).answer call = .error failure →
      (after {} firstCall).after call = after {} firstCall :=
  contiguous_of_reachable _ (.step (.initial rfl) ⟨rfl, fun _ _ stored => absurd rfl stored⟩)

open ApiSample in
/-- A third revision is stored after the first. -/
theorem not_contiguous_of_reachable :
    ¬ ∀ store, logicalResultAppends.Reachable store → Contiguous store := by
  intro contiguous
  have reached : logicalResultAppends.Reachable ((after {} firstCall).after thirdCall) :=
    .step (.step (.initial rfl) rfl) rfl
  exact absurd ((contiguous _ reached).numbered 70) (by decide +kernel)

end PolicyOS.Runtime
