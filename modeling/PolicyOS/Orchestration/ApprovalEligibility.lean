import PolicyOS.Orchestration.Approval
import PolicyOS.Orchestration.IntegrationTotal

/-!
# What an approval stands for

An integration is ready only if nothing that is required is missing, nothing is in conflict
and no product is to be reviewed, and only a ready one is approved. Over a run of decisions,
each made with the records before it, every request is decided once.
-/

namespace PolicyOS.Orchestration

open Foundation Intelligence

/-- The sources of an integration. -/
structure IntegrationSources where
  request : SecretaryIntegrationRequest
  context : SecretaryIntegrationContext
  plan : CoordinationPlan
  assignments : List AssignmentExecutionRequest

/-- The integration of the sources. -/
def IntegrationSources.integrate (sources : IntegrationSources) :
    Except IntegrationError SecretaryIntegrationResult :=
  integrateSecretaryWorkProducts sources.request sources.context sources.plan sources.assignments

/-- A task has one product, of an assignment that succeeded, of the tenant and the
classification of the plan. -/
structure OneProduct (sources : IntegrationSources) (result : SecretaryIntegrationResult)
    (taskId : String) (collected : AssignmentWorkProductCollectionResult) : Prop where
  only : sources.request.collectionResults.filter (·.workProduct.taskId = taskId) = [collected]
  integrated : (result.sections.filter (·.taskId = taskId)).map (·.workProductId) =
    [collected.workProduct.workProductId]
  succeeded : collected.runtimeRecord.status = .succeeded
  ofAssignment : ∃ assignment ∈ sources.assignments, assignment.taskId = taskId ∧
    assignment.assignmentId = collected.workProduct.assignmentId ∧
    assignment.assignmentId = collected.runtimeRecord.assignmentId ∧
    assignment.organizationId = sources.plan.organizationId ∧
    assignment.classification = sources.plan.classification
  organizationId : collected.workProduct.organizationId = sources.plan.organizationId
  classification : collected.workProduct.classification = sources.plan.classification

/-- An integration is complete and clean. -/
structure CompleteIntegration (sources : IntegrationSources)
    (result : SecretaryIntegrationResult) : Prop where
  required : ∀ task ∈ sources.plan.tasks, task.assignable → task.required = true →
    ∃ collected, OneProduct sources result task.taskId collected
  dependencies : ∀ task ∈ sources.plan.tasks, task.assignable →
    task.taskId ∈ result.sections.map (·.taskId) →
    ∀ dependency ∈ sources.plan.tasks, dependency.assignable →
      dependency.taskId ∈ task.dependencyTaskIds →
        dependency.taskId ∈ result.sections.map (·.taskId)
  conflicts : sources.request.explicitConflicts = []
  reviews : ∀ task ∈ sources.plan.tasks, task.assignable →
    task.taskId ∈ result.sections.map (·.taskId) →
      task.humanReviewRequired = false ∧
        ∀ product ∈ sources.request.products, product.taskId = task.taskId →
          product.requiresHumanReview = false

/-! ## Ready integrations -/

section Ready

variable {sources : IntegrationSources} {result : SecretaryIntegrationResult}
  {tasks : List CoordinationTask}

/-- What is ready misses nothing, is not blocked, not to be reviewed and without conflicts. -/
theorem integrationStatus_eq_ready {missingRequired reviewTasks : List String}
    {gaps : List SecretaryIntegrationGap} {conflicts : List SecretaryIntegrationConflict}
    (ready : integrationStatus missingRequired reviewTasks gaps conflicts = .ready) :
    missingRequired = [] ∧ (∀ gap ∈ gaps, gap.blocking = false) ∧ reviewTasks = [] ∧
      conflicts = [] := by
  unfold integrationStatus at ready
  split at ready
  · cases ready
  · rename_i complete
    split at ready
    · cases ready
    · rename_i clean
      simp only [not_or, not_not, List.any_eq_true, not_exists, not_and,
        Bool.not_eq_true] at complete clean
      exact ⟨complete.1, complete.2, clean.1, clean.2.1⟩

/-- A collected product is the only one of its task. -/
theorem oneProduct
    (facts : CheckedSources sources.request sources.context sources.plan sources.assignments tasks)
    (made : ResultOf sources.request tasks result)
    (scope : sources.plan.organizationId = sources.context.organizationId ∧
      sources.plan.classification = sources.context.classification)
    {collected : AssignmentWorkProductCollectionResult}
    (isCollected : collected ∈ sources.request.collectionResults) {taskId : String}
    (named : collected.workProduct.taskId = taskId) :
    OneProduct sources result taskId collected := by
  have fits := facts.collected collected isCollected
  have distinct : (sources.request.collectionResults.map (·.workProduct.taskId)).Nodup := by
    have products := facts.distinctProducts
    rwa [SecretaryIntegrationRequest.products, List.map_map] at products
  have only : sources.request.collectionResults.filter (·.workProduct.taskId = taskId) =
      [collected] := by
    refine filter_eq_singleton (List.Nodup.of_map _ distinct) isCollected (by simpa using named)
      fun other isOther same => ?_
    exact List.inj_on_of_nodup_map distinct isOther isCollected
      ((of_decide_eq_true same).trans named.symm)
  have sections := ((made.onePerProduct facts).filter fun pair => pair.1 = taskId).map Prod.snd
  simp only [SecretaryIntegrationRequest.products, List.map_map, List.filter_map] at sections
  have integrated : ((result.sections.filter (·.taskId = taskId)).map (·.workProductId)).Perm
      [collected.workProduct.workProductId] := by
    rw [← List.map_singleton (f := fun item : AssignmentWorkProductCollectionResult =>
      item.workProduct.workProductId), ← only]
    exact sections
  obtain ⟨assignment, isAssignment, ofTask, -, ofProduct, -, -, -, -, -, ofRecord, -⟩ :=
    fits.ofAssignment
  have assigned := facts.assigned assignment isAssignment
  exact
    { only := only
      integrated := List.perm_singleton.mp integrated
      succeeded := fits.succeeded
      ofAssignment := ⟨assignment, isAssignment, ofTask.trans named, ofProduct.symm,
        ofProduct.symm.trans ofRecord.symm, assigned.organizationId.trans scope.1.symm,
        assigned.classification.trans scope.2.symm⟩
      organizationId := fits.organizationId.trans scope.1.symm
      classification := fits.classification.trans scope.2.symm }

/-- A ready integration is complete and clean. -/
theorem complete_of_ready
    (checked : checkedTasks sources.request sources.context sources.plan sources.assignments =
      .ok tasks)
    (made : ResultOf sources.request tasks result) (ready : result.status = .ready) :
    CompleteIntegration sources result := by
  have facts := checkedTasks_eq_ok checked
  obtain ⟨missing, blocking, reviews, conflicts⟩ :=
    integrationStatus_eq_ready (made.status ▸ ready)
  have tenant : sources.plan.organizationId = sources.context.organizationId ∧
      sources.plan.classification = sources.context.classification := by
    have scope := facts.scope
    simp only [checkScope, bind_eq_ok_iff, exists_unit_iff, rejectIf_eq_ok_iff,
      not_not] at scope
    exact ⟨scope.2.2.2.2.1, scope.2.2.2.2.2⟩
  refine ⟨fun task inPlan assignable required => ?_,
    fun task inPlan assignable has dependency isDependency specialist depends => ?_, ?_,
    fun task inPlan assignable has => ?_⟩
  · have isTask := facts.mem_tasks_iff.mpr ⟨inPlan, assignable⟩
    have integrated : Integrated sources.request.products task := by
      by_contra absent
      have listed : task.taskId ∈ missingTaskIds tasks sources.request.products true :=
        List.mem_map_of_mem (List.mem_filter.mpr ⟨isTask,
          decide_eq_true ⟨not_integrated_iff.mp absent, required⟩⟩)
      rw [missing] at listed
      cases listed
    obtain ⟨product, ofTask⟩ := Option.isSome_iff_exists.mp integrated
    obtain ⟨isProduct, named⟩ := facts.productOf_eq_some_iff.mp ofTask
    obtain ⟨collected, isCollected, rfl⟩ := List.mem_map.mp isProduct
    exact ⟨collected, oneProduct facts made tenant isCollected named⟩
  · have isTask := facts.mem_tasks_iff.mpr ⟨inPlan, assignable⟩
    have dependencyTask := facts.mem_tasks_iff.mpr ⟨isDependency, specialist⟩
    by_contra absent
    have without := not_integrated_iff.mp
      (absent ∘ (made.hasSection_iff dependencyTask).mpr)
    obtain ⟨product, ofTask⟩ := Option.isSome_iff_exists.mp
      ((made.hasSection_iff isTask).mp has)
    have unresolved : dependency.taskId ∈
        unresolvedDependencies tasks sources.request.products task :=
      List.mem_filter.mpr ⟨depends, decide_eq_true ⟨List.mem_map_of_mem dependencyTask, without⟩⟩
    have isGap : dependencyGap task product dependency.taskId ∈
        taskGaps tasks sources.request.products task := by
      rw [taskGaps, ofTask]
      exact List.mem_append_left _ (List.mem_map_of_mem unresolved)
    obtain ⟨gap, listed, fields⟩ := List.mem_map.mp
      (made.gaps.mem_iff.mpr (List.mem_flatMap.mpr ⟨task, isTask, isGap⟩))
    have blocks : gap.blocking = true := congrArg (·.blocking) fields
    exact absurd (blocking gap listed) (by simp [blocks])
  · have none := collectEach_eq_ok_iff.mp made.conflicts
    rw [conflicts] at none
    exact List.forall₂_nil_right_iff.mp none
  · have isTask := facts.mem_tasks_iff.mpr ⟨inPlan, assignable⟩
    obtain ⟨product, ofTask⟩ := Option.isSome_iff_exists.mp
      ((made.hasSection_iff isTask).mp has)
    have unneeded : needsReview task product = false := by
      by_contra needed
      have listed : task.taskId ∈ reviewTaskIds tasks sources.request.products :=
        List.mem_map_of_mem (List.mem_filter.mpr ⟨isTask, by simpa [ofTask] using needed⟩)
      rw [reviews] at listed
      cases listed
    obtain ⟨taskFree, productFree⟩ := Bool.or_eq_false_iff.mp unneeded
    refine ⟨taskFree, fun other isOther named => ?_⟩
    have same := facts.productOf_eq_some_iff.mpr ⟨isOther, named⟩
    rw [Option.some.inj (same.symm.trans ofTask), productFree]

end Ready

/-! ## Runs of decisions -/

/-- What a decision is made from: the sources of an integration, and a request, a scope and a
decision on its result. -/
structure ApprovalInputs where
  sources : IntegrationSources
  request : SecretaryIntegrationApprovalRequest
  context : SecretaryIntegrationApprovalContext
  decision : HumanApprovalDecisionInput

/-- The inputs lead to a record after the records before it. -/
def ApprovalInputs.Decides (inputs : ApprovalInputs)
    (priorRecords : List SecretaryIntegrationApprovalRecord)
    (record : SecretaryIntegrationApprovalRecord) : Prop :=
  ∃ result, inputs.sources.integrate = .ok result ∧
    decideSecretaryIntegrationApproval inputs.request inputs.context inputs.decision result
      priorRecords = .ok record

/-- Decisions are made one after the other, with the records of the earlier ones. -/
def approvals : TransitionSystem (List SecretaryIntegrationApprovalRecord) ApprovalInputs where
  Initial records := records = []
  Step records inputs next := ∃ record, inputs.Decides records record ∧ next = records ++ [record]

/-- The approver is a human who may approve and takes no other part. -/
structure SeparateApprover (inputs : ApprovalInputs)
    (record : SecretaryIntegrationApprovalRecord) : Prop where
  identity : inputs.context.authorization.actorId = record.approverActorId
  human : inputs.context.authorization.actorKind = .human
  permitted : inputs.request.requiredPermission ∈ inputs.context.authorization.permissionKeys
  notSecretary : record.approverActorId ≠ inputs.context.secretaryActorId
  notRequester : record.approverActorId ≠ record.requestedByActorId
  notSpecialist : record.approverActorId ∉ inputs.context.specialistActorIds

/-- A record stands for a decision on an integration, by a separate approver; what it approves
is complete and clean. -/
def StandsFor (inputs : ApprovalInputs) (record : SecretaryIntegrationApprovalRecord) : Prop :=
  ∃ result, inputs.sources.integrate = .ok result ∧
    record.integrationId = result.integrationId ∧
    record.decision = inputs.decision.decision ∧
    SeparateApprover inputs record ∧
    (record.decision = .approved → CompleteIntegration inputs.sources result)

/-- One decision: it stands for an integration, and its request was not decided before. -/
theorem ApprovalInputs.Decides.sound {inputs : ApprovalInputs}
    {priorRecords : List SecretaryIntegrationApprovalRecord}
    {record : SecretaryIntegrationApprovalRecord} (decides : inputs.Decides priorRecords record) :
    StandsFor inputs record ∧
      record.approvalRequestId ∉ priorRecords.map (·.approvalRequestId) := by
  obtain ⟨result, integrates, decided⟩ := decides
  simp only [decideSecretaryIntegrationApproval, bind_eq_ok_iff, exists_unit_iff,
    pure_eq_ok_iff] at decided
  obtain ⟨identity, -, authorized, allowed, -, prior, rfl⟩ := decided
  simp only [validateAuthorization, bind_eq_ok_iff, exists_unit_iff, rejectIf_eq_ok_iff, not_or,
    not_not, List.mem_cons, List.not_mem_nil, or_false] at authorized
  obtain ⟨⟨approver, actor⟩, human, permitted, ⟨notSecretary, notRequester⟩, notSpecialist⟩ :=
    authorized
  refine ⟨⟨result, integrates, rfl, rfl, ⟨actor.trans approver.symm, human, permitted,
    notSecretary, notRequester, notSpecialist⟩, fun isApproved => ?_⟩, ?_⟩
  · simp only [validateApprovalDecision, bind_eq_ok_iff, exists_unit_iff,
      rejectIf_eq_ok_iff] at allowed
    have ready : result.status = .ready := by
      by_contra unready
      exact allowed.2.2.2.2 ⟨isApproved, .inl unready⟩
    obtain ⟨tasks, checked, made⟩ := integrate_eq_ok integrates
    exact complete_of_ready checked made ready
  · simp only [validatePriorRecords, checkEach_eq_ok_iff, bind_eq_ok_iff, exists_unit_iff,
      rejectIf_eq_ok_iff] at prior
    intro used
    obtain ⟨earlier, isEarlier, same⟩ := List.mem_map.mp used
    exact (prior earlier isEarlier).2 same

/-- In every run of decisions, a request is decided once, and every record stands for the
decision it was made from, by a separate approver; an approved one for a complete and clean
integration. -/
theorem approvals_sound {start records : List SecretaryIntegrationApprovalRecord}
    {inputs : List ApprovalInputs} (initial : approvals.Initial start)
    (decided : approvals.Steps start inputs records) :
    (records.map (·.approvalRequestId)).Nodup ∧ List.Forall₂ StandsFor inputs records := by
  induction decided with
  | refl =>
      obtain rfl : _ = [] := initial
      exact ⟨List.nodup_nil, .nil⟩
  | step _ transition ih =>
      obtain ⟨record, decides, rfl⟩ := transition
      obtain ⟨distinct, sound⟩ := ih
      obtain ⟨standsFor, fresh⟩ := decides.sound
      refine ⟨?_, List.rel_append sound (.cons standsFor .nil)⟩
      rw [List.map_append, List.map_singleton, ← List.concat_eq_append]
      exact List.Nodup.concat fresh distinct

/-! ## An optional review that nobody made -/

namespace IntegrationSample

/-- An optional task that would need a review. -/
def optionalTask : CoordinationTask :=
  givenValue (CoordinationTask.validated (taskFields "task.b" false true [])) (by decide +kernel)

/-- A plan of a task with a product and an optional one without. -/
def approvedSources : IntegrationSources where
  request := integrationRequest
  context := integrationContext
  plan := planOf [singleTask, optionalTask]
  assignments := [assignmentOf "task.a"]

/-- Its approval by a human. -/
def approvalInputs : ApprovalInputs where
  sources := approvedSources
  request :=
    { approvalRequestId := 12
      integrationId := 9
      coordinationId := 1
      organizationId := 2
      classification := .internal
      requestedByActorId := "requester"
      requestedAt := 21
      sourceIntegrationStatus := .ready
      sourceIntegratedAt := 20
      sourceWorkProductIds := [7] }
  context :=
    { approvalRequestId := 12
      integrationId := 9
      coordinationId := 1
      organizationId := 2
      classification := .internal
      expectedRequesterActorId := "requester"
      secretaryActorId := "secretary"
      authorizedApproverActorId := "approver"
      authorization :=
        { actorId := "approver"
          actorKind := .human
          organizationId := 2
          classification := .internal
          permissionKeys := [secretaryIntegrationApprovalPermission] }
      allowedDecisions := [.approved]
      approvalPolicyId := "policy"
      decidedAt := 22 }
  decision :=
    { approvalRecordId := 13
      approvalRequestId := 12
      decisionId := 14
      integrationId := 9
      decision := .approved
      approverActorId := "approver"
      decidedAt := 22 }

theorem approvedSources_integrates : approvedSources.integrate.toOption.isSome := by
  decide +kernel

theorem approvalInputs_recorded : (decideSecretaryIntegrationApproval approvalInputs.request
    approvalInputs.context approvalInputs.decision
    (givenValue _ approvedSources_integrates) []).toOption.isSome := by
  decide +kernel

/-- The record of the approval. -/
def approvalRecord : SecretaryIntegrationApprovalRecord := givenValue _ approvalInputs_recorded

theorem approval_steps : approvals.Steps [] [approvalInputs] [approvalRecord] :=
  .step .refl ⟨approvalRecord, ⟨_, eq_ok_givenValue approvedSources_integrates,
    eq_ok_givenValue approvalInputs_recorded⟩, rfl⟩

end IntegrationSample

open IntegrationSample in
/-- The approval stands for its integration. -/
theorem approvals_sound_single :
    (([approvalRecord] : List SecretaryIntegrationApprovalRecord).map
      (·.approvalRequestId)).Nodup ∧ List.Forall₂ StandsFor [approvalInputs] [approvalRecord] :=
  approvals_sound rfl approval_steps

open IntegrationSample in
/-- A plan is approved although one of its tasks needs a review. -/
theorem approved_without_review :
    approvals.Steps [] [approvalInputs] [approvalRecord] ∧ approvalRecord.decision = .approved ∧
      ¬ ∀ task ∈ approvalInputs.sources.plan.tasks, task.humanReviewRequired = false :=
  ⟨approval_steps, by decide +kernel, by decide +kernel⟩

end PolicyOS.Orchestration
