import Mathlib.Data.List.Sort
import Mathlib.Data.String.Basic
import PolicyOS.Domain.Primitives
import PolicyOS.Foundation.Checked
import PolicyOS.Foundation.KeyedList
import PolicyOS.Foundation.ReadyOrder

/-!
# Validation of execution contracts

The typed failures of the execution subsystem, the classification guard, and the
dependency graph of a plan: its shape checks, and the deterministic topological
order that also decides whether it has a cycle.
-/

namespace PolicyOS.Execution

open Foundation

/-- The exception classes the execution subsystem raises. -/
inductive ExecutionDomainErrorKind
  | invalidPlan | stepDependency | cyclicPlan | classification
  | identityMismatch | revisionConflict | invalidTransition | stepNotReady | stepNotRunning
  | dispatchConflict | completionConflict | alreadyTerminal | cancellationConflict
  | executorIdentity | executorRevision | executorStepState | unknownAdapter
  | adapterCapability | resultMismatch | unknownProvider
  /-- A value its own contract rejects. -/
  | contract
  deriving DecidableEq, Repr

/-- A typed failure with its message. -/
structure ExecutionDomainError where
  kind : ExecutionDomainErrorKind
  message : String
  deriving DecidableEq, Repr

/-- A classification may not fall below the one it is trusted under. -/
def requireNotLower (child parent : DataClassification) (field : String) :
    Except ExecutionDomainError Unit :=
  rejectIf (child.rank < parent.rank)
    ⟨.classification, s!"{field} cannot be lower than its trusted context"⟩

/-- The most steps a plan may have. -/
def maxPlanSteps : Nat := 500

/-- The most dependencies a step may have. -/
def maxDependencies : Nat := 100

/-- What the graph functions read of a step. -/
structure StepLike where
  stepId : String
  sequence : Nat
  dependencies : List String
  deriving DecidableEq

/-- Steps are taken in this order of sequence, then identifier. -/
abbrev StepKey := Nat × String

/-- A step's place among steps that are ready together. -/
def StepLike.key (step : StepLike) : StepKey := (step.sequence, step.stepId)

/-- One key is not after another. -/
def StepKey.notAfter (left right : StepKey) : Prop :=
  left.1 < right.1 ∨ (left.1 = right.1 ∧ left.2 ≤ right.2)

instance (left right : StepKey) : Decidable (left.notAfter right) :=
  inferInstanceAs (Decidable (_ ∨ _))

/-- Keys in order. -/
def sortKeys (keys : List StepKey) : List StepKey := keys.insertionSort StepKey.notAfter

/-- The steps that name a step as a dependency, once for each time they do. -/
def childrenOf (steps : List StepLike) (stepId : String) : List StepKey :=
  steps.flatMap fun step => (step.dependencies.filter (· = stepId)).map fun _ => step.key

/-- Count one dependency of each child as met, and add those with none left to
the ready keys. -/
def releaseChildren : List StepKey → (String → Int) → List StepKey →
    (String → Int) × List StepKey
  | [], indegree, ready => (indegree, ready)
  | child :: children, indegree, ready =>
      let remaining := indegree child.2 - 1
      releaseChildren children (Function.update indegree child.2 remaining)
        (if remaining = 0 then sortKeys (ready ++ [child]) else ready)

/-- Take the first ready step, release its children, and go on while any step is
ready. No step is ready twice, so one round for each step is enough. -/
def orderReady (steps : List StepLike) :
    Nat → (String → Int) → List StepKey → List String → List String
  | 0, _, _, ordered => ordered
  | _ + 1, _, [], ordered => ordered
  | rounds + 1, indegree, (_, stepId) :: ready, ordered =>
      let released := releaseChildren (sortKeys (childrenOf steps stepId)) indegree ready
      orderReady steps rounds released.1 released.2 (ordered ++ [stepId])

/-- What a step of the list depends on, by its identifier. -/
def dependenciesOf (steps : List StepLike) (stepId : String) : List String :=
  ((steps.find? (·.stepId = stepId)).map (·.dependencies)).getD []

/-- The topological order of uniquely named steps, ties broken by sequence and
identifier. -/
def topologicalStepIds (steps : List StepLike) : Except ExecutionDomainError (List String) := do
  let indegree := fun stepId => ((dependenciesOf steps stepId).length : Int)
  let ready := sortKeys ((steps.filter (·.dependencies.length = 0)).map (·.key))
  let ordered := orderReady steps steps.length indegree ready []
  rejectIf (ordered.length ≠ steps.length)
    ⟨.cyclicPlan, "Execution plan contains a dependency cycle"⟩
  pure ordered

/-- The shape checks of one step. -/
def validateDependencies (known : List String) (step : StepLike) :
    Except ExecutionDomainError Unit := do
  rejectIf (step.dependencies.length > maxDependencies)
    ⟨.stepDependency, "Step exceeds dependency limit"⟩
  rejectIf (¬ step.dependencies.Nodup)
    ⟨.stepDependency, "Step contains duplicate dependencies"⟩
  rejectIf (step.stepId ∈ step.dependencies)
    ⟨.stepDependency, "Step cannot depend on itself"⟩
  rejectIf (¬ step.dependencies ⊆ known)
    ⟨.stepDependency, "Step references an unknown dependency"⟩

/-- A plan needs uniquely named steps with known dependencies and no cycle. -/
def validateDependencyGraph (steps : List StepLike) : Except ExecutionDomainError Unit := do
  rejectIf (steps = []) ⟨.stepDependency, "Execution plan requires at least one step"⟩
  rejectIf (steps.length > maxPlanSteps)
    ⟨.stepDependency, "Execution plan exceeds step limit"⟩
  let ids := steps.map (·.stepId)
  rejectIf (¬ ids.Nodup) ⟨.stepDependency, "Execution plan contains duplicate step IDs"⟩
  checkEach (validateDependencies ids) steps
  let _ ← topologicalStepIds steps
  pure ()

/-- What an accepted graph guarantees. -/
structure GraphBound (steps : List StepLike) : Prop where
  nonempty : steps ≠ []
  distinct : (steps.map (·.stepId)).Nodup
  once : ∀ step ∈ steps, step.dependencies.Nodup
  known : ∀ step ∈ steps, ∀ dependency ∈ step.dependencies, dependency ∈ steps.map (·.stepId)
  acyclic : Accepted (topologicalStepIds steps)

/-- An accepted graph has unique steps, known dependencies and an order. -/
theorem GraphBound.of_validate {steps : List StepLike}
    (accepted : validateDependencyGraph steps = .ok ()) : GraphBound steps := by
  simp only [validateDependencyGraph, validateDependencies, bind_eq_ok_iff, exists_unit_iff,
    checkEach_eq_ok_iff, rejectIf_eq_ok_iff, not_not] at accepted
  obtain ⟨nonempty, _, distinct, shaped, order, ordered, _⟩ := accepted
  exact
    { nonempty
      distinct
      once := fun step present => (shaped step present).2.1
      known := fun step present _ depends => (shaped step present).2.2.2 depends
      acyclic := ⟨order, ordered⟩ }

/-!
# The topological order of a plan

The loop takes steps from a ready queue, so each step it takes comes after all its
dependencies, and a plan is ordered exactly when its steps have a dependency order.
-/

variable {steps : List StepLike} {step : StepLike}

theorem dependenciesOf_stepId (distinct : (steps.map (·.stepId)).Nodup) (present : step ∈ steps) :
    dependenciesOf steps step.stepId = step.dependencies := by
  rw [dependenciesOf, (find?_key_eq_some_iff distinct).mpr ⟨present, rfl⟩]
  rfl

theorem dependenciesOf_perm {others : List StepLike} (distinct : (steps.map (·.stepId)).Nodup)
    (same : others.Perm steps) : dependenciesOf others = dependenciesOf steps := by
  funext stepId
  rw [dependenciesOf, dependenciesOf, find?_key_perm distinct same]

theorem perm_sortKeys (keys : List StepKey) : (sortKeys keys).Perm keys :=
  List.perm_insertionSort _ keys

theorem mem_sortKeys {keys : List StepKey} {key : StepKey} : key ∈ sortKeys keys ↔ key ∈ keys :=
  (perm_sortKeys keys).mem_iff

theorem releaseChildren_eq_release (children : List StepKey) (indegree : String → Int)
    (ready : List StepKey) :
    releaseChildren children indegree ready = release Prod.snd sortKeys children indegree ready := by
  induction children generalizing indegree ready with
  | nil => rfl
  | cons child rest ih => exact ih _ _

/-- The loop takes from a ready queue. -/
theorem orderReady_eq_takeReady (rounds : Nat) (indegree : String → Int) (ready : List StepKey)
    (ordered : List String) :
    orderReady steps rounds indegree ready ordered =
      takeReady Prod.snd sortKeys (fun stepId => sortKeys (childrenOf steps stepId)) rounds indegree
        ready ordered := by
  induction rounds generalizing indegree ready ordered with
  | zero => rfl
  | succ rounds ih =>
      cases ready with
      | nil => rfl
      | cons taken ready =>
          rw [orderReady, ih, releaseChildren_eq_release]
          rfl

/-- A step is a child of another once for each time it depends on it. -/
theorem count_childrenOf (distinct : (steps.map (·.stepId)).Nodup) (present : step ∈ steps)
    (stepId : String) :
    ((childrenOf steps stepId).map Prod.snd).count step.stepId = step.dependencies.count stepId := by
  have own : ∀ other : StepLike,
      (((other.dependencies.filter (· = stepId)).map fun _ => other.key).map Prod.snd).count
          step.stepId =
        if other.stepId = step.stepId then other.dependencies.count stepId else 0 := by
    intro other
    rw [List.map_map, List.filter_eq, List.map_replicate, List.count_replicate]
    simp [StepLike.key]
  induction steps with
  | nil => cases present
  | cons head rest ih =>
      rw [List.map_cons, List.nodup_cons] at distinct
      rw [childrenOf, List.flatMap_cons, ← childrenOf, List.map_append, List.count_append, own]
      rcases List.mem_cons.mp present with rfl | later
      · have absent : ((childrenOf rest stepId).map Prod.snd).count step.stepId = 0 := by
          refine List.count_eq_zero.mpr fun isChild => distinct.1 ?_
          simp only [childrenOf, List.mem_map, List.mem_flatMap] at isChild
          obtain ⟨_, ⟨other, isOther, _, _, rfl⟩, same⟩ := isChild
          exact same ▸ List.mem_map_of_mem isOther
        rw [if_pos rfl, absent, Nat.add_zero]
      · have different : head.stepId ≠ step.stepId := by
          intro same
          exact distinct.1 (same ▸ List.mem_map_of_mem later)
        rw [if_neg different, ih distinct.2 later, Nat.zero_add]

/-- The children of a step are the steps that depend on it. -/
theorem childrenOf_spec (distinct : (steps.map (·.stepId)).Nodup) :
    ChildrenOf Prod.snd (steps.map (·.key)) (dependenciesOf steps)
      fun stepId => sortKeys (childrenOf steps stepId) where
  known := by
    intro stepId key isChild
    rw [(perm_sortKeys _).mem_iff, childrenOf, List.mem_flatMap] at isChild
    obtain ⟨step, present, ofStep⟩ := isChild
    obtain ⟨_, _, rfl⟩ := List.mem_map.mp ofStep
    exact List.mem_map_of_mem present
  counted := by
    intro stepId node isNode
    obtain ⟨step, present, rfl⟩ := List.mem_map.mp isNode
    rw [((perm_sortKeys _).map Prod.snd).count_eq,
      show step.key.2 = step.stepId from rfl, count_childrenOf distinct present,
      dependenciesOf_stepId distinct present]

theorem names_keys : ((steps.map (·.key)).map Prod.snd) = steps.map (·.stepId) := by
  rw [List.map_map]
  rfl

theorem initiallyReady (distinct : (steps.map (·.stepId)).Nodup) :
    (sortKeys ((steps.filter (·.dependencies.length = 0)).map (·.key))).Perm
      ((steps.map (·.key)).filter fun key => (dependenciesOf steps key.2).length = 0) := by
  rw [List.filter_map]
  refine (perm_sortKeys _).trans (List.Perm.of_eq (congrArg _ (List.filter_congr ?_)))
  intro step present
  rw [Function.comp_apply, show step.key.2 = step.stepId from rfl,
    dependenciesOf_stepId distinct present]

/-- The computed order lists every step after all its dependencies. -/
theorem topologicalStepIds_order {order : List String} (distinct : (steps.map (·.stepId)).Nodup)
    (computed : topologicalStepIds steps = .ok order) :
    DependencyOrder (dependenciesOf steps) order ∧ order.Perm (steps.map (·.stepId)) := by
  simp only [topologicalStepIds, bind_eq_ok_iff, exists_unit_iff, rejectIf_eq_ok_iff,
    pure_eq_ok_iff, not_not] at computed
  obtain ⟨complete, rfl⟩ := computed
  rw [orderReady_eq_takeReady] at complete ⊢
  obtain ⟨ordered, known, -⟩ := (ReadyProgress.initial (names_keys ▸ distinct)
    (initiallyReady distinct)).takeReady perm_sortKeys (childrenOf_spec distinct) steps.length
  rw [names_keys] at known
  exact ⟨ordered, (List.subperm_of_subset ordered.nodup known).perm_of_length_le
    (by rw [complete, List.length_map])⟩

theorem topologicalStepIds_accepted_iff (distinct : (steps.map (·.stepId)).Nodup) :
    Accepted (topologicalStepIds steps) ↔
      ∃ order, DependencyOrder (dependenciesOf steps) order ∧
        order.Perm (steps.map (·.stepId)) := by
  have complete := takeReady_complete_iff perm_sortKeys (childrenOf_spec distinct)
    (names_keys ▸ distinct) (initiallyReady distinct)
  rw [names_keys, List.length_map] at complete
  rw [← complete, ← orderReady_eq_takeReady]
  simp only [topologicalStepIds, accepted_bind_iff, exists_unit_iff, rejectIf_eq_ok_iff, not_not]
  exact and_iff_left accepted_ok

/-- A graph is accepted exactly when it has a bounded number of uniquely named steps with
bounded, known dependencies, and an order. -/
theorem validateDependencyGraph_iff :
    validateDependencyGraph steps = .ok () ↔
      steps ≠ [] ∧ steps.length ≤ maxPlanSteps ∧ (steps.map (·.stepId)).Nodup ∧
        (∀ step ∈ steps, step.dependencies.length ≤ maxDependencies ∧ step.dependencies.Nodup ∧
          step.stepId ∉ step.dependencies ∧ step.dependencies ⊆ steps.map (·.stepId)) ∧
        ∃ order, DependencyOrder (dependenciesOf steps) order ∧
          order.Perm (steps.map (·.stepId)) := by
  simp only [validateDependencyGraph, validateDependencies, bind_eq_ok_iff, exists_unit_iff,
    checkEach_eq_ok_iff, rejectIf_eq_ok_iff, not_not, not_lt, gt_iff_lt, pure_eq_ok_iff]
  refine and_congr_right fun _ => and_congr_right fun _ => and_congr_right fun distinct =>
    and_congr_right fun _ => ?_
  rw [← topologicalStepIds_accepted_iff distinct]
  exact exists_congr fun order => and_iff_left trivial

end PolicyOS.Execution
