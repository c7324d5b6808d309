import PolicyOS.Domain.Identifiers
import PolicyOS.Foundation.Checked

/-!
# Evaluation contracts

What the contracts of an offline evaluation share: their errors, the tier they run in and the
comparison of classifications.
-/

namespace PolicyOS.Evaluation

open Foundation

/-- The exception classes of the evaluation package, and the plain `ValueError`. -/
inductive EvaluationErrorKind
  | value | lifecycle | runRecord | invalidation
  | classification | invalidExecutionState | invalidExecutionTransition
  | executionBindingMismatch | executionAuthorization | executionSequence
  | executionTerminalState | executionCapability
  deriving DecidableEq, Repr

/-- An evaluation error with its message. -/
structure EvaluationError where
  kind : EvaluationErrorKind
  message : String
  deriving DecidableEq, Repr

/-- When and where an execution may run. -/
inductive ExecutionTier
  | immediateInteractive | immediateLegalReview | deferredBackground | scheduledBatch
  | offlineEvaluation
  deriving DecidableEq, Repr

/-- A classification must not be lower than any of its sources. -/
def requireClassificationNotLower (classification : DataClassification)
    (sources : List DataClassification) (field : String) : Except EvaluationError Unit := do
  rejectIf (sources = []) ⟨.value, "at least one source classification is required"⟩
  checkEach (fun source => rejectIf (¬ notLower classification source)
    ⟨.classification, field ++ " cannot be lower than its trusted context"⟩) sources

theorem requireClassificationNotLower_eq_ok_iff {classification : DataClassification}
    {sources : List DataClassification} {field : String} :
    requireClassificationNotLower classification sources field = .ok () ↔
      sources ≠ [] ∧ ∀ source ∈ sources, notLower classification source := by
  simp only [requireClassificationNotLower, bind_eq_ok_iff, exists_unit_iff, rejectIf_eq_ok_iff,
    checkEach_eq_ok_iff, not_not, ne_eq]

end PolicyOS.Evaluation
