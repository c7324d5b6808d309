import PolicyOS.Orchestration.AssignmentRuntime

/-!
# Integration of work products

The Secretary brings the collected products of a coordination together. Every product
becomes a section in the order of the task graph; a task without one, a product whose
dependencies have none and a product that needs a review leave a gap.
-/

namespace PolicyOS.Orchestration

open Foundation Intelligence

/-! ## Contracts -/

/-- How an integration stands. -/
inductive SecretaryIntegrationStatus
  | ready | incomplete | needsReview
  deriving DecidableEq, Repr

/-- Where a conflict comes from. -/
inductive IntegrationConflictType
  | explicitSourceConflict
  deriving DecidableEq, Repr

/-- What a gap is about. -/
inductive IntegrationGapType
  | missingRequiredProduct | missingOptionalProduct | unresolvedDependency | humanReviewRequired
  deriving DecidableEq, Repr

/-- Who closes a gap. -/
inductive IntegrationNextBoundary
  | replanning | humanReview | none_
  deriving DecidableEq, Repr

/-- The exception classes of an integration. A model that checks itself raises a validation
error, and a missing first item an index error. -/
inductive IntegrationErrorKind
  | actor | identityMismatch | planMismatch | tenantMismatch | classificationMismatch
  | duplicateProduct | unsupportedProduct | productMismatch | lineage | dag | index | validation
  deriving DecidableEq, Repr

/-- A typed failure of an integration with its message. -/
structure IntegrationError where
  kind : IntegrationErrorKind
  message : String
  deriving DecidableEq, Repr

/-- The collected product of an assignment that succeeded. -/
structure AssignmentWorkProductCollectionResult where
  collectionId : UUID
  workProduct : AgentWorkProduct
  runtimeRecord : AssignmentExecutionRecord
  sourceDispatchId : UUID
  collectedAt : DateTime
  succeeded : runtimeRecord.status = .succeeded := by decide

/-- A conflict the Secretary declares between products. -/
structure SecretaryIntegrationConflictInput where
  conflictId : String
  sourceWorkProductIds : List UUID
  sourceReferenceIds : List String := []
  safeDescription : String
  blocking : Bool := true
  requiresHumanReview : Bool := true
  shaped : prefixedName "conflict." 180 conflictId = true := by decide
  bounded : 2 ≤ sourceWorkProductIds.length ∧ sourceWorkProductIds.length ≤ 20 := by decide
  canonical : canonicalBy uuidText sourceWorkProductIds ∧
    sortedSet sourceReferenceIds = sourceReferenceIds := by decide +kernel

/-- The request of an integration. -/
structure SecretaryIntegrationRequest where
  integrationId : UUID
  coordinationId : UUID
  purpose : CoordinationPurpose
  collectionResults : List AssignmentWorkProductCollectionResult
  explicitConflicts : List SecretaryIntegrationConflictInput := []
  boundedProducts : collectionResults.length ≤ 50 := by decide
  canonicalConflicts : explicitConflicts.length ≤ 100 ∧
    sortedSet (explicitConflicts.map (·.conflictId)) = explicitConflicts.map (·.conflictId) := by
      decide +kernel

/-- The trusted scope of an integration. -/
structure SecretaryIntegrationContext where
  integrationId : UUID
  coordinationId : UUID
  organizationId : UUID
  classification : DataClassification
  secretaryActorId : String
  authorizedSecretaryActorId : String
  allowedPurpose : CoordinationPurpose
  integratedAt : DateTime

/-- The data of a section. -/
structure SecretaryIntegrationSectionFields where
  sectionId : String
  taskId : String
  assignmentId : UUID
  workProductId : UUID
  specialistRole : AgentRole
  workProductType : WorkProductType
  order : Nat
  content : String
  evidenceIds : List String
  citationIds : List String
  requiresHumanReview : Bool
  deriving DecidableEq

/-- The checks a section makes on itself. -/
def SecretaryIntegrationSectionFields.shape (item : SecretaryIntegrationSectionFields) :
    Except IntegrationError Unit := do
  rejectIf (prefixedName "section." 180 item.sectionId = false)
    ⟨.validation, "String should match pattern '^section\\.[a-z0-9_.-]\x7b1,180\x7d$'"⟩
  rejectIf (item.taskId.toList.length < 1)
    ⟨.validation, "String should have at least 1 character"⟩
  rejectIf (item.taskId.toList.length > 100)
    ⟨.validation, "String should have at most 100 characters"⟩
  rejectIf (item.order > 49) ⟨.validation, "Input should be less than or equal to 49"⟩

/-- A section of an integration. -/
structure SecretaryIntegrationSection extends SecretaryIntegrationSectionFields where
  shaped : toSecretaryIntegrationSectionFields.shape = .ok () := by decide
  deriving DecidableEq

/-- Build a section, raising what it checks on itself. -/
def SecretaryIntegrationSection.validated (fields : SecretaryIntegrationSectionFields) :
    Except IntegrationError SecretaryIntegrationSection :=
  buildChecked fields.shape fun shaped =>
    { toSecretaryIntegrationSectionFields := fields, shaped }

theorem SecretaryIntegrationSection.validated_eq_ok {fields : SecretaryIntegrationSectionFields}
    {item : SecretaryIntegrationSection}
    (built : SecretaryIntegrationSection.validated fields = .ok item) :
    item.toSecretaryIntegrationSectionFields = fields := by
  obtain ⟨_, rfl⟩ := buildChecked_eq_ok_iff.mp built
  rfl

/-- A conflict of an integration. -/
structure SecretaryIntegrationConflict where
  conflictId : String
  conflictType : IntegrationConflictType
  sourceWorkProductIds : List UUID
  sourceReferenceIds : List String
  safeDescription : String
  blocking : Bool
  requiresHumanReview : Bool
  deriving DecidableEq

/-- The data of a gap. -/
structure SecretaryIntegrationGapFields where
  gapId : String
  gapType : IntegrationGapType
  taskId : String
  expectedWorkProductType : Option WorkProductType := none
  blocking : Bool
  safeDescription : String
  nextBoundary : IntegrationNextBoundary
  deriving DecidableEq

/-- The checks a gap makes on itself. -/
def SecretaryIntegrationGapFields.shape (gap : SecretaryIntegrationGapFields) :
    Except IntegrationError Unit :=
  rejectIf (prefixedName "gap." 180 gap.gapId = false)
    ⟨.validation, "String should match pattern '^gap\\.[a-z0-9_.-]\x7b1,180\x7d$'"⟩

/-- A gap of an integration. -/
structure SecretaryIntegrationGap extends SecretaryIntegrationGapFields where
  shaped : toSecretaryIntegrationGapFields.shape = .ok () := by decide
  deriving DecidableEq

/-- Build a gap, raising what it checks on itself. -/
def SecretaryIntegrationGap.validated (fields : SecretaryIntegrationGapFields) :
    Except IntegrationError SecretaryIntegrationGap :=
  buildChecked fields.shape fun shaped => { toSecretaryIntegrationGapFields := fields, shaped }

theorem SecretaryIntegrationGap.validated_eq_ok {fields : SecretaryIntegrationGapFields}
    {gap : SecretaryIntegrationGap} (built : SecretaryIntegrationGap.validated fields = .ok gap) :
    gap.toSecretaryIntegrationGapFields = fields := by
  obtain ⟨_, rfl⟩ := buildChecked_eq_ok_iff.mp built
  rfl

/-- What an integration makes. -/
structure SecretaryIntegrationResult where
  integrationId : UUID
  coordinationId : UUID
  purpose : CoordinationPurpose
  organizationId : UUID
  classification : DataClassification
  status : SecretaryIntegrationStatus
  sections : List SecretaryIntegrationSection
  sourceWorkProductIds : List UUID
  conflicts : List SecretaryIntegrationConflict
  gaps : List SecretaryIntegrationGap
  missingRequiredTaskIds : List String
  omittedOptionalTaskIds : List String
  humanReviewTaskIds : List String
  integratedAt : DateTime
  deriving DecidableEq

/-! ## The sources of an integration -/

/-- The request, its context and the plan name the same things. -/
def checkScope (request : SecretaryIntegrationRequest) (context : SecretaryIntegrationContext)
    (plan : CoordinationPlan) : Except IntegrationError Unit := do
  rejectIf (context.secretaryActorId ≠ context.authorizedSecretaryActorId)
    ⟨.actor, "Secretary integration actor is not authorized"⟩
  rejectIf (request.integrationId ≠ context.integrationId)
    ⟨.identityMismatch, "Secretary integration identity mismatch"⟩
  rejectIf (request.coordinationId ≠ context.coordinationId ∨
      plan.coordinationId ≠ context.coordinationId)
    ⟨.planMismatch, "Secretary coordination plan identity mismatch"⟩
  rejectIf (request.purpose ≠ context.allowedPurpose)
    ⟨.planMismatch, "Secretary integration purpose mismatch"⟩
  rejectIf (plan.organizationId ≠ context.organizationId)
    ⟨.tenantMismatch, "Secretary coordination tenant mismatch"⟩
  rejectIf (plan.classification ≠ context.classification)
    ⟨.classificationMismatch, "Secretary coordination classification mismatch"⟩

/-- The tasks of specialists, in the order of the graph. -/
def specialistTasks (plan : CoordinationPlan) : Except IntegrationError (List CoordinationTask) := do
  let ordered ← (validateCoordinationDag plan.tasks).mapError fun error => ⟨.dag, error.message⟩
  pure (ordered.filter (·.assignable))

/-- The types an assignment is asked for. -/
def AssignmentExecutionRequest.outputTypes (assignment : AssignmentExecutionRequest) :
    List WorkProductType :=
  assignment.expectedOutputs.map (·.workProductType)

/-- An assignment is of its coordination and of a task, and no earlier one is of that task. -/
def checkAssignment (context : SecretaryIntegrationContext) (tasks : List CoordinationTask)
    (earlier : List AssignmentExecutionRequest) (assignment : AssignmentExecutionRequest) :
    Except IntegrationError Unit := do
  rejectIf (assignment.coordinationId ≠ context.coordinationId)
    ⟨.planMismatch, "Assignment coordination lineage mismatch"⟩
  rejectIf (assignment.organizationId ≠ context.organizationId)
    ⟨.tenantMismatch, "Assignment tenant mismatch"⟩
  rejectIf (assignment.classification ≠ context.classification)
    ⟨.classificationMismatch, "Assignment classification mismatch"⟩
  rejectIf (assignment.taskId ∈ earlier.map (·.taskId))
    ⟨.duplicateProduct, "Multiple assignments cover one task"⟩
  match tasks.find? (·.taskId = assignment.taskId) with
  | none => .error ⟨.unsupportedProduct, "Assignment targets unsupported task"⟩
  | some task =>
      rejectIf (some assignment.agentRole ≠ task.requiredRole ∨
          assignment.outputTypes ≠ task.expectedWorkProductTypes ∨
          assignment.required ≠ task.required ∨
          assignment.humanReviewRequired ≠ task.humanReviewRequired)
        ⟨.productMismatch, "Assignment task scope mismatch"⟩

/-- A reference is of the tenant, the classification and the execution of its product. -/
def checkReference (context : SecretaryIntegrationContext) (product : AgentWorkProduct)
    (reference : WorkProductReference) : Except IntegrationError Unit := do
  rejectIf (reference.organizationId ≠ context.organizationId)
    ⟨.tenantMismatch, "Work product reference tenant mismatch"⟩
  rejectIf (reference.classification ≠ context.classification)
    ⟨.classificationMismatch, "Work product reference classification mismatch"⟩
  rejectIf (reference.executionId ≠ product.executionId)
    ⟨.lineage, "Work product reference execution mismatch"⟩

/-- A product is what its assignment asked for, and of an execution of it. -/
def fitsAssignment (collected : AssignmentWorkProductCollectionResult)
    (expected : AssignmentExecutionRequest) : Prop :=
  let product := collected.workProduct
  product.assignmentRequestId = expected.assignmentExecutionRequestId ∧
    product.assignmentId = expected.assignmentId ∧
    product.role = expected.agentRole ∧
    expected.outputTypes = [product.workProductType] ∧
    product.requiresHumanReview = expected.humanReviewRequired ∧
    decide (product.status = .needsHumanReview) = expected.humanReviewRequired ∧
    collected.runtimeRecord.executionId = product.executionId ∧
    collected.runtimeRecord.assignmentId = product.assignmentId ∧
    collected.runtimeRecord.taskId = product.taskId

instance decidableFitsAssignment (collected : AssignmentWorkProductCollectionResult)
    (expected : AssignmentExecutionRequest) : Decidable (fitsAssignment collected expected) := by
  unfold fitsAssignment
  infer_instance

/-- A collected product is what the assignment of its task asked for. -/
def checkLineage (assignments : List AssignmentExecutionRequest)
    (collected : AssignmentWorkProductCollectionResult) : Except IntegrationError Unit :=
  match assignments.find? (·.taskId = collected.workProduct.taskId) with
  | none => .error ⟨.unsupportedProduct, "Work product targets unsupported task"⟩
  | some expected =>
      rejectIf (¬ fitsAssignment collected expected)
        ⟨.productMismatch, "Work product assignment lineage mismatch"⟩

/-- A collected product is of its coordination and of an assignment, and none of the
earlier ones. -/
def checkProduct (context : SecretaryIntegrationContext)
    (assignments : List AssignmentExecutionRequest)
    (earlier : List AssignmentWorkProductCollectionResult)
    (collected : AssignmentWorkProductCollectionResult) : Except IntegrationError Unit := do
  let product := collected.workProduct
  rejectIf (collected.runtimeRecord.status ≠ .succeeded)
    ⟨.lineage, "Work product source runtime is not succeeded"⟩
  rejectIf (collected.collectedAt > context.integratedAt)
    ⟨.lineage, "Integration precedes work product collection"⟩
  rejectIf (product.workProductId ∈ earlier.map (·.workProduct.workProductId) ∨
      product.assignmentId ∈ earlier.map (·.workProduct.assignmentId))
    ⟨.duplicateProduct, "Duplicate specialist work product"⟩
  rejectIf (product.role = .secretary)
    ⟨.unsupportedProduct, "Secretary product is not specialist input"⟩
  rejectIf (product.organizationId ≠ context.organizationId)
    ⟨.tenantMismatch, "Work product tenant mismatch"⟩
  rejectIf (product.classification ≠ context.classification)
    ⟨.classificationMismatch, "Work product classification mismatch"⟩
  checkLineage assignments collected
  checkEach (checkReference context product) product.references
  rejectIf (product.status ∉ [.prepared, .needsHumanReview])
    ⟨.unsupportedProduct, "Work product status is not integrable"⟩

/-- The collected products. -/
def SecretaryIntegrationRequest.products (request : SecretaryIntegrationRequest) :
    List AgentWorkProduct :=
  request.collectionResults.map (·.workProduct)

/-- Check everything an integration is made of, and return its tasks in order. -/
def checkedTasks (request : SecretaryIntegrationRequest) (context : SecretaryIntegrationContext)
    (plan : CoordinationPlan) (assignments : List AssignmentExecutionRequest) :
    Except IntegrationError (List CoordinationTask) := do
  checkScope request context plan
  let tasks ← specialistTasks plan
  checkAfter (checkAssignment context tasks) [] assignments
  checkAfter (checkProduct context assignments) [] request.collectionResults
  pure tasks

/-! ## Sections and gaps -/

/-- The product of a task: the last one of that task. -/
def productOf (products : List AgentWorkProduct) (taskId : String) : Option AgentWorkProduct :=
  products.reverse.find? (·.taskId = taskId)

/-- The gap of a task without a product. -/
def missingGap (task : CoordinationTask) : SecretaryIntegrationGapFields where
  gapId := "gap." ++ taskName task.taskId ++ ".missing_product"
  gapType := if task.required then .missingRequiredProduct else .missingOptionalProduct
  taskId := task.taskId
  expectedWorkProductType := task.expectedWorkProductTypes.head?
  blocking := task.required
  safeDescription :=
    if task.required then "Required specialist product is missing"
    else "Allowed optional specialist product is omitted"
  nextBoundary := if task.required then .replanning else .none_

/-- The gap of a product whose task depends on a task without one. -/
def dependencyGap (task : CoordinationTask) (product : AgentWorkProduct) (dependency : String) :
    SecretaryIntegrationGapFields where
  gapId := "gap." ++ taskName task.taskId ++ ".dependency." ++ taskName dependency
  gapType := .unresolvedDependency
  taskId := task.taskId
  expectedWorkProductType := some product.workProductType
  blocking := true
  safeDescription := "Specialist product dependency is unresolved"
  nextBoundary := .replanning

/-- The gap of a product that needs a review. -/
def reviewGap (task : CoordinationTask) (product : AgentWorkProduct) :
    SecretaryIntegrationGapFields where
  gapId := "gap." ++ taskName task.taskId ++ ".human_review"
  gapType := .humanReviewRequired
  taskId := task.taskId
  expectedWorkProductType := some product.workProductType
  blocking := false
  safeDescription := "Specialist product requires human review"
  nextBoundary := .humanReview

/-- The dependencies of a task that are tasks of specialists without a product. -/
def unresolvedDependencies (tasks : List CoordinationTask) (products : List AgentWorkProduct)
    (task : CoordinationTask) : List String :=
  task.dependencyTaskIds.filter fun dependency =>
    dependency ∈ taskIds tasks ∧ productOf products dependency = none

/-- A product needs a review if it says so or its task does. -/
def needsReview (task : CoordinationTask) (product : AgentWorkProduct) : Bool :=
  task.humanReviewRequired || product.requiresHumanReview

/-- The gaps of a task, in the order they are found. -/
def taskGaps (tasks : List CoordinationTask) (products : List AgentWorkProduct)
    (task : CoordinationTask) : List SecretaryIntegrationGapFields :=
  match productOf products task.taskId with
  | none => [missingGap task]
  | some product =>
      (unresolvedDependencies tasks products task).map (dependencyGap task product) ++
        if needsReview task product then [reviewGap task product] else []

/-- The section of a product. Its place is that of its task among the tasks. -/
def productSection (tasks : List CoordinationTask) (task : CoordinationTask)
    (product : AgentWorkProduct) : SecretaryIntegrationSectionFields where
  sectionId := "section." ++ taskName task.taskId
  taskId := task.taskId
  assignmentId := product.assignmentId
  workProductId := product.workProductId
  specialistRole := product.role
  workProductType := product.workProductType
  order := (taskIds tasks).idxOf task.taskId
  content := product.content
  evidenceIds := product.evidenceIds
  citationIds := product.citationIds
  requiresHumanReview := product.requiresHumanReview

/-- The section of a task, where it has a product. -/
def taskSections (tasks : List CoordinationTask) (products : List AgentWorkProduct)
    (task : CoordinationTask) : List SecretaryIntegrationSectionFields :=
  (productOf products task.taskId).toList.map (productSection tasks task)

/-- The gaps and the section of a task. The first type it expects is read of every task. -/
def integrateTask (tasks : List CoordinationTask) (products : List AgentWorkProduct)
    (task : CoordinationTask) :
    Except IntegrationError (List SecretaryIntegrationGap × List SecretaryIntegrationSection) := do
  rejectIf (task.expectedWorkProductTypes = []) ⟨.index, "tuple index out of range"⟩
  let gaps ← collectEach SecretaryIntegrationGap.validated (taskGaps tasks products task)
  let sections ← collectEach SecretaryIntegrationSection.validated (taskSections tasks products task)
  pure (gaps, sections)

/-- What products refer to. -/
def knownReferenceIds (products : List AgentWorkProduct) : List String :=
  products.flatMap fun product =>
    product.references.map (·.referenceId) ++ product.evidenceIds ++ product.citationIds

/-- A declared conflict is between products, over what they refer to. -/
def integrateConflict (products : List AgentWorkProduct)
    (declared : SecretaryIntegrationConflictInput) :
    Except IntegrationError SecretaryIntegrationConflict := do
  rejectIf (¬ declared.sourceWorkProductIds ⊆ products.map (·.workProductId))
    ⟨.lineage, "Conflict references unknown work product"⟩
  rejectIf (¬ declared.sourceReferenceIds ⊆ knownReferenceIds products)
    ⟨.lineage, "Conflict references unknown source lineage"⟩
  pure
    { conflictId := declared.conflictId
      conflictType := .explicitSourceConflict
      sourceWorkProductIds := declared.sourceWorkProductIds
      sourceReferenceIds := declared.sourceReferenceIds
      safeDescription := declared.safeDescription
      blocking := declared.blocking
      requiresHumanReview := declared.requiresHumanReview }

/-- The tasks without a product, required or not. -/
def missingTaskIds (tasks : List CoordinationTask) (products : List AgentWorkProduct)
    (required : Bool) : List String :=
  taskIds (tasks.filter fun task =>
    productOf products task.taskId = none ∧ task.required = required)

/-- The tasks whose product needs a review. -/
def reviewTaskIds (tasks : List CoordinationTask) (products : List AgentWorkProduct) :
    List String :=
  taskIds (tasks.filter fun task => (productOf products task.taskId).any (needsReview task))

/-- How an integration stands, by what is missing, to be reviewed or in conflict. -/
def integrationStatus (missingRequired reviewTasks : List String)
    (gaps : List SecretaryIntegrationGap) (conflicts : List SecretaryIntegrationConflict) :
    SecretaryIntegrationStatus :=
  if missingRequired ≠ [] ∨ gaps.any (·.blocking) then .incomplete
  else if reviewTasks ≠ [] ∨ conflicts ≠ [] ∨ conflicts.any (·.blocking) then .needsReview
  else .ready

/-- Integrate the products of a coordination, without making or judging content. -/
def integrateSecretaryWorkProducts (request : SecretaryIntegrationRequest)
    (context : SecretaryIntegrationContext) (plan : CoordinationPlan)
    (assignments : List AssignmentExecutionRequest) :
    Except IntegrationError SecretaryIntegrationResult := do
  let tasks ← checkedTasks request context plan assignments
  let products := request.products
  let integrated ← collectEach (integrateTask tasks products) tasks
  let conflicts ← collectEach (integrateConflict products) request.explicitConflicts
  let gaps := sortedBy (·.gapId) (integrated.flatMap (·.1))
  let sections := integrated.flatMap (·.2)
  let missingRequired := missingTaskIds tasks products true
  let reviewTasks := reviewTaskIds tasks products
  pure
    { integrationId := request.integrationId
      coordinationId := request.coordinationId
      purpose := request.purpose
      organizationId := context.organizationId
      classification := context.classification
      status := integrationStatus missingRequired reviewTasks gaps conflicts
      sections := sections
      sourceWorkProductIds := sections.map (·.workProductId)
      conflicts := conflicts
      gaps := gaps
      missingRequiredTaskIds := missingRequired
      omittedOptionalTaskIds := missingTaskIds tasks products false
      humanReviewTaskIds := reviewTasks
      integratedAt := context.integratedAt }

end PolicyOS.Orchestration
