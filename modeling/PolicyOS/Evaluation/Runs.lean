import PolicyOS.Evaluation.Domain

/-!
# Evaluation runs

The recorded states of an offline evaluation and the review by which a completed one is
invalidated. A decision carries the identities its reviewer is compared with, and is matched
with the run it invalidates by the identifier of that run.
-/

namespace PolicyOS.Evaluation

open Foundation

/-! ## Vocabulary -/

/-- The states of an evaluation run. -/
inductive EvaluationRunState
  | requested | authorized | ready | running | completed | failed | cancelled | quarantined
  | invalidated
  deriving DecidableEq, Repr

/-- What a reviewer decided. -/
inductive EvaluationInvalidationOutcome
  | invalidate | denyInvalidation | requireMoreEvidence
  deriving DecidableEq, Repr

/-- Reason codes listed once each, in order, and at least one of them. -/
def canonicalReasonCodes (codes : List String) : Prop :=
  codes ≠ [] ∧ codes.Pairwise (· < ·)

instance (codes : List String) : Decidable (canonicalReasonCodes codes) :=
  inferInstanceAs (Decidable (_ ∧ _))

/-! ## States -/

/-- Whether one state follows another without a decision or an interruption. -/
def directTransition : EvaluationRunState → EvaluationRunState → Bool
  | .requested, .authorized | .authorized, .ready | .ready, .running | .running, .completed
  | .running, .failed | .completed, .invalidated => true
  | _, _ => false

/-- Whether a state may be left by cancelling or by quarantine. -/
def interruptible : EvaluationRunState → Bool
  | .requested | .authorized | .ready | .running => true
  | _ => false

/-- A run starts as requested, and leaves completion only by a decision. -/
def validateEvaluationStateTransition (previousState : Option EvaluationRunState)
    (currentState : EvaluationRunState) (invalidationDecisionId : Option UUID) :
    Except EvaluationError Unit :=
  match previousState with
  | none =>
      rejectIf (currentState ≠ .requested)
        ⟨.lifecycle, "initial evaluation state must be requested"⟩
  | some previous =>
      let allowed := directTransition previous currentState ∨
        (interruptible previous ∧ (currentState = .cancelled ∨ currentState = .quarantined))
      let unreviewed := previous = .completed ∧ currentState = .invalidated ∧
        invalidationDecisionId = none
      rejectIf (¬ allowed ∨ unreviewed)
        ⟨.lifecycle, "evaluation state transition is forbidden"⟩

/-- What is recorded of one change of state. -/
structure EvaluationRunStateFields where
  evaluationRunStateRecordId : UUID
  evaluationRunId : UUID
  previousState : Option EvaluationRunState := none
  currentState : EvaluationRunState
  reasonCodes : List String
  changedByActorId : UUID
  invalidationDecisionId : Option UUID := none
  changedAt : DateTime
  deriving DecidableEq

/-- The validators of a state record. -/
def EvaluationRunStateFields.validate (fields : EvaluationRunStateFields) :
    Except EvaluationError Unit := do
  rejectIf (¬ canonicalReasonCodes fields.reasonCodes)
    ⟨.lifecycle, "state reasons must be canonical and non-empty"⟩
  validateEvaluationStateTransition fields.previousState fields.currentState
    fields.invalidationDecisionId

/-- A validated state record. -/
structure EvaluationRunStateRecord extends EvaluationRunStateFields where
  validated : toEvaluationRunStateFields.validate = .ok ()

/-! ## Runs -/

/-- What is recorded of an evaluation run. -/
structure EvaluationRunFields where
  evaluationRunId : UUID
  evaluatedAgentInstanceId : UUID
  executionTier : ExecutionTier
  state : EvaluationRunState
  startedAt : Option DateTime := none
  completedAt : Option DateTime := none
  crossValidationRunIds : List UUID := []
  deriving DecidableEq

/-- Whether a state is entered only after the start. -/
def EvaluationRunState.started : EvaluationRunState → Bool
  | .running | .completed | .failed => true
  | _ => false

/-- The validators of a run record. -/
def EvaluationRunFields.validate (fields : EvaluationRunFields) :
    Except EvaluationError Unit := do
  rejectIf (¬ canonical fields.crossValidationRunIds)
    ⟨.value, "cross validation runs must be canonical and unique"⟩
  rejectIf (fields.executionTier ≠ .offlineEvaluation)
    ⟨.runRecord, "evaluation record requires offline tier"⟩
  rejectIf (fields.state.started ∧ fields.startedAt = none)
    ⟨.runRecord, "evaluation state requires started_at"⟩
  rejectIf (fields.state = .completed ∧ fields.completedAt = none)
    ⟨.runRecord, "completed evaluation requires completed_at"⟩
  match fields.completedAt, fields.startedAt with
  | some completed, some started =>
      rejectIf (completed < started) ⟨.runRecord, "evaluation completion precedes start"⟩
  | _, _ => .ok ()

/-- A validated run record. -/
structure EvaluationRunRecord extends EvaluationRunFields where
  validated : toEvaluationRunFields.validate = .ok ()

/-! ## Invalidation -/

/-- What a reviewer records of a decision. -/
structure EvaluationInvalidationDecisionFields where
  evaluationInvalidationDecisionId : UUID
  evaluationInvalidationRequestId : UUID
  evaluationRunId : UUID
  reviewerActorId : UUID
  reviewerAgentInstanceId : Option UUID := none
  evaluatedActorId : Option UUID := none
  evaluatedAgentInstanceId : UUID
  outcome : EvaluationInvalidationOutcome
  reasonCodes : List String
  deriving DecidableEq

/-- The validators of a decision: the reviewer is compared with the identities the decision
itself names. -/
def EvaluationInvalidationDecisionFields.validate
    (fields : EvaluationInvalidationDecisionFields) : Except EvaluationError Unit := do
  rejectIf (¬ canonicalReasonCodes fields.reasonCodes)
    ⟨.invalidation, "decision reasons must be canonical"⟩
  rejectIf (fields.evaluatedActorId = some fields.reviewerActorId ∨
      fields.reviewerAgentInstanceId = some fields.evaluatedAgentInstanceId)
    ⟨.invalidation, "evaluated agent cannot approve invalidation"⟩

/-- A validated decision. -/
structure EvaluationInvalidationDecision extends EvaluationInvalidationDecisionFields where
  validated : toEvaluationInvalidationDecisionFields.validate = .ok ()

/-- The state record that carries out a decision. -/
def invalidationStateFields (run : EvaluationRunRecord)
    (decision : EvaluationInvalidationDecision) (evaluationRunStateRecordId : UUID)
    (changedAt : DateTime) : EvaluationRunStateFields where
  evaluationRunStateRecordId := evaluationRunStateRecordId
  evaluationRunId := run.evaluationRunId
  previousState := some .completed
  currentState := .invalidated
  reasonCodes := decision.reasonCodes
  changedByActorId := decision.reviewerActorId
  invalidationDecisionId := some decision.evaluationInvalidationDecisionId
  changedAt := changedAt

/-- Invalidate a completed run by a decision about it. -/
def createInvalidationStateRecord (run : EvaluationRunRecord)
    (decision : EvaluationInvalidationDecision) (evaluationRunStateRecordId : UUID)
    (changedAt : DateTime) : Except EvaluationError EvaluationRunStateRecord := do
  rejectIf (run.state ≠ .completed ∨ decision.outcome ≠ .invalidate ∨
      decision.evaluationRunId ≠ run.evaluationRunId)
    ⟨.invalidation, "invalidation does not authorize state record"⟩
  buildChecked (invalidationStateFields run decision evaluationRunStateRecordId changedAt).validate
    fun valid => ⟨_, valid⟩

/-! ## Separation of duty -/

/-- The reviewer of a decision is not the agent that a run evaluated, and the decision names
that agent as the one evaluated. -/
structure SeparatedDuty (run : EvaluationRunRecord) (decision : EvaluationInvalidationDecision) :
    Prop where
  reviewer : decision.reviewerAgentInstanceId ≠ some run.evaluatedAgentInstanceId
  evaluated : decision.evaluatedAgentInstanceId = run.evaluatedAgentInstanceId

instance (run : EvaluationRunRecord) (decision : EvaluationInvalidationDecision) :
    Decidable (SeparatedDuty run decision) :=
  decidable_of_iff
    (decision.reviewerAgentInstanceId ≠ some run.evaluatedAgentInstanceId ∧
      decision.evaluatedAgentInstanceId = run.evaluatedAgentInstanceId)
    ⟨fun ⟨reviewer, evaluated⟩ => ⟨reviewer, evaluated⟩,
      fun separated => ⟨separated.reviewer, separated.evaluated⟩⟩

namespace EvaluationInvalidationDecision

variable (decision : EvaluationInvalidationDecision)

theorem reviewer_ne : decision.reviewerAgentInstanceId ≠ some decision.evaluatedAgentInstanceId := by
  have valid := decision.validated
  simp only [EvaluationInvalidationDecisionFields.validate, bind_eq_ok_iff, exists_unit_iff,
    rejectIf_eq_ok_iff, not_or] at valid
  exact valid.2.2

end EvaluationInvalidationDecision

/-- The duties of an invalidation are separated exactly where the decision names the agent that
the run evaluated: its reviewer is compared with no other. -/
theorem separatedDuty_iff (run : EvaluationRunRecord) (decision : EvaluationInvalidationDecision)
    (recordId : UUID) (changedAt : DateTime)
    (_created : Accepted (createInvalidationStateRecord run decision recordId changedAt)) :
    SeparatedDuty run decision ↔
      decision.evaluatedAgentInstanceId = run.evaluatedAgentInstanceId := by
  constructor
  · exact SeparatedDuty.evaluated
  · intro named
    have reviewer := decision.reviewer_ne
    rw [named] at reviewer
    exact ⟨reviewer, named⟩

namespace InvalidationSample

/-- A completed run that evaluated agent 5. -/
def run : EvaluationRunRecord where
  evaluationRunId := 1
  evaluatedAgentInstanceId := 5
  executionTier := .offlineEvaluation
  state := .completed
  startedAt := some 10
  completedAt := some 20
  validated := by decide

/-- A decision of agent 6 on agent 5. -/
def decision : EvaluationInvalidationDecision where
  evaluationInvalidationDecisionId := 2
  evaluationInvalidationRequestId := 3
  evaluationRunId := 1
  reviewerActorId := 4
  reviewerAgentInstanceId := some 6
  evaluatedAgentInstanceId := 5
  outcome := .invalidate
  reasonCodes := ["security"]
  validated := by decide

/-- A decision of agent 5, which says that agent 6 was evaluated. -/
def ownDecision : EvaluationInvalidationDecision where
  evaluationInvalidationDecisionId := 2
  evaluationInvalidationRequestId := 3
  evaluationRunId := 1
  reviewerActorId := 4
  reviewerAgentInstanceId := some 5
  evaluatedAgentInstanceId := 6
  outcome := .invalidate
  reasonCodes := ["security"]
  validated := by decide

end InvalidationSample

/-- A decision on the agent that the run evaluated separates the duties. -/
theorem separatedDuty_iff_named :
    Accepted (createInvalidationStateRecord InvalidationSample.run InvalidationSample.decision
      7 30) ∧ SeparatedDuty InvalidationSample.run InvalidationSample.decision :=
  ⟨by decide, (separatedDuty_iff InvalidationSample.run InvalidationSample.decision 7 30
    (by decide)).mpr rfl⟩

/-- An evaluated agent may invalidate its own run by naming another. -/
theorem own_run_invalidated :
    Accepted (createInvalidationStateRecord InvalidationSample.run InvalidationSample.ownDecision
      7 30) ∧
      InvalidationSample.ownDecision.reviewerAgentInstanceId =
        some InvalidationSample.run.evaluatedAgentInstanceId ∧
      ¬ SeparatedDuty InvalidationSample.run InvalidationSample.ownDecision := by
  decide

end PolicyOS.Evaluation
