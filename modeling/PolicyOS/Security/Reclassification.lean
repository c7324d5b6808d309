import Mathlib.Data.List.Induction
import Mathlib.Data.List.TakeWhile
import PolicyOS.Domain.Primitives
import PolicyOS.Foundation.Checked

/-!
# Reclassification

A request to reclassify states the current classification itself, and a downgrade is checked
against what it states. Applying the request writes to the resources one by one. What is applied is
a reviewed downgrade exactly if what was stated is as high as the resources, and nothing is written
before a failure.
-/

namespace PolicyOS.Security

open Foundation

/-- What is raised: a policy error, a governance error, or another exception. -/
inductive GovernanceRaised
  | classificationPolicyError (message : String)
  | governanceError (message : String)
  | other
  deriving DecidableEq

/-- A downgrade is for administrators, with an approval and nothing found. -/
def authorizeReclassification (current target : DataClassification)
    (isAdmin approved dlpClear : Bool) : Except GovernanceRaised Unit :=
  rejectIf (target.rank < current.rank ∧ ¬ (isAdmin = true ∧ approved = true ∧ dlpClear = true))
    (.classificationPolicyError
      "Classification downgrade requires approved administrative review")

inductive ReclassificationStatus
  | requested
  | approved
  | applied
  deriving DecidableEq

/-- A stored request. -/
structure ReclassificationRequest where
  organizationId : UUID
  documentId : UUID
  currentClassification : DataClassification
  requestedClassification : DataClassification
  status : ReclassificationStatus
  requestedBy : UUID
  approvalReference : Option String
  reasonCode : String
  findingCount : Int
  deriving DecidableEq

/-- What is asked for, with the current classification as the caller states it. -/
structure ReclassificationCall where
  organizationId : UUID
  documentId : UUID
  current : DataClassification
  target : DataClassification
  requestedBy : UUID
  reasonCode : String
  isAdmin : Bool
  approvalReference : Option String
  dlpClear : Bool
  findingCount : Int := 0

/-- An approval is referred to. -/
def ReclassificationCall.approved (call : ReclassificationCall) : Bool :=
  call.approvalReference.any (· ≠ "")

/-- The request of a call. -/
def ReclassificationCall.request (call : ReclassificationCall) :
    Except GovernanceRaised ReclassificationRequest := do
  authorizeReclassification call.current call.target call.isAdmin call.approved call.dlpClear
  pure
    { organizationId := call.organizationId
      documentId := call.documentId
      currentClassification := call.current
      requestedClassification := call.target
      status := if call.approved then .approved else .requested
      requestedBy := call.requestedBy
      approvalReference := call.approvalReference
      reasonCode := call.reasonCode
      findingCount := call.findingCount }

/-- An object that is reclassified. It may be of no organization, or take no assignment. -/
structure Resource where
  organizationId : Option UUID
  classification : DataClassification
  assignable : Bool := true

/-- Which object is meant; one may be given several times. -/
abbrev Reference := Nat

/-- The objects there are. -/
abbrev Resources := Reference → Resource

/-- An object gets a classification. -/
def Resources.assign (resources : Resources) (reference : Reference)
    (classification : DataClassification) : Resources :=
  Function.update resources reference
    { resources reference with classification := classification }

/-- Write the requested classification to one object after the other, up to a failure. -/
def ReclassificationRequest.write (request : ReclassificationRequest) :
    Resources → List Reference → Resources × Except GovernanceRaised Unit
  | resources, [] => (resources, .ok ())
  | resources, reference :: rest =>
      if (resources reference).organizationId ≠ some request.organizationId then
        (resources, .error (.governanceError "cross_organization_reclassification_denied"))
      else if (resources reference).assignable = false then (resources, .error .other)
      else
        request.write (resources.assign reference request.requestedClassification) rest

/-- The objects, and the requests with the calls they were made by. -/
structure GovernanceState where
  resources : Resources
  requests : List (ReclassificationCall × ReclassificationRequest) := []

/-- A call of the service. Applying names a request; the caches are invalidated, or that fails. -/
inductive GovernanceCall
  | request (call : ReclassificationCall)
  | apply (index : Nat) (references : List Reference) (invalidated : Bool)

namespace GovernanceState

variable (state : GovernanceState)

/-- Apply a request. -/
def apply (index : Nat) (call : ReclassificationCall) (request : ReclassificationRequest)
    (references : List Reference) (invalidated : Bool) :
    GovernanceState × Except GovernanceRaised Unit :=
  if request.status ≠ .approved then
    (state, .error (.classificationPolicyError "Reclassification has not been approved"))
  else
    match request.write state.resources references with
    | (resources, .error raised) => ({ state with resources := resources }, .error raised)
    | (resources, .ok ()) =>
        ({ resources := resources
           requests := state.requests.set index (call, { request with status := .applied }) },
          if invalidated then .ok () else .error .other)

/-- What a call does. -/
def step : GovernanceCall → GovernanceState × Except GovernanceRaised Unit
  | .request call =>
      match call.request with
      | .error raised => (state, .error raised)
      | .ok request => ({ state with requests := state.requests ++ [(call, request)] }, .ok ())
  | .apply index references invalidated =>
      match state.requests[index]? with
      | none => (state, .ok ())
      | some (call, request) => state.apply index call request references invalidated

end GovernanceState

/-- The state after some calls. -/
def stateAfter (resources : Resources) (calls : List GovernanceCall) : GovernanceState :=
  calls.foldl (fun state call => (state.step call).1) { resources := resources }

/-! ## What is written -/

section Write

variable {request : ReclassificationRequest} {resources : Resources}

/-- An object that the request may be written to. -/
def Owned (request : ReclassificationRequest) (resources : Resources) (reference : Reference) :
    Bool :=
  (resources reference).organizationId = some request.organizationId &&
    (resources reference).assignable

/-- The objects that are written to. -/
def written (request : ReclassificationRequest) (resources : Resources)
    (references : List Reference) : List Reference :=
  references.takeWhile (Owned request resources)

theorem owned_assign {reference : Reference} {classification : DataClassification} :
    Owned request (resources.assign reference classification) = Owned request resources := by
  funext other
  by_cases same : other = reference
  · subst same
    simp [Owned, Resources.assign]
  · simp [Owned, Resources.assign, same]

/-- The objects before the first that is not owned get the requested classification, and no other;
it fails exactly if there is one. -/
theorem write_eq {references : List Reference} :
    (∀ reference, ((request.write resources references).1 reference) =
      if reference ∈ written request resources references then
        { resources reference with classification := request.requestedClassification }
      else resources reference) ∧
    ((request.write resources references).2 = .ok () ↔
      written request resources references = references) := by
  induction references generalizing resources with
  | nil => exact ⟨fun _ => rfl, iff_of_true rfl rfl⟩
  | cons first rest ih =>
      by_cases isOwned : Owned request resources first = true
      · have parts := Bool.and_eq_true_iff.mp isOwned
        have isWrite : request.write resources (first :: rest) =
            request.write (resources.assign first request.requestedClassification) rest := by
          rw [ReclassificationRequest.write, if_neg (not_not.mpr (of_decide_eq_true parts.1)),
            if_neg (by simp [parts.2])]
        have isWritten : written request resources (first :: rest) =
            first :: written request resources rest :=
          List.takeWhile_cons_of_pos isOwned
        obtain ⟨each, ended⟩ := @ih (resources.assign first request.requestedClassification)
        rw [isWrite, isWritten, List.cons_inj_right, ended]
        unfold written at each ended ⊢
        rw [owned_assign] at each ⊢
        refine ⟨fun reference => ?_, Iff.rfl⟩
        rw [each reference]
        by_cases same : reference = first
        · subst same
          simp [Resources.assign]
        · simp [Resources.assign, same]
      · have none : written request resources (first :: rest) = [] :=
          List.takeWhile_cons_of_neg isOwned
        rw [none, ReclassificationRequest.write]
        split_ifs with foreign fixed
        · exact ⟨fun _ => rfl, by simp⟩
        · exact ⟨fun _ => rfl, by simp⟩
        · exact absurd (by simpa [Owned, not_not.mp foreign] using fixed) isOwned

end Write

/-! ## Calls -/

/-- A call that was authorised as a downgrade. -/
structure ReclassificationCall.AuthorizedDowngrade (call : ReclassificationCall) : Prop where
  lower : call.target.rank < call.current.rank
  isAdmin : call.isAdmin = true
  approved : call.approved = true
  dlpClear : call.dlpClear = true

/-- A stored request is for what its call asks for, and authorised if that is a downgrade. -/
structure Stored (entry : ReclassificationCall × ReclassificationRequest) : Prop where
  target : entry.2.requestedClassification = entry.1.target
  authorized : entry.1.target.rank < entry.1.current.rank → entry.1.AuthorizedDowngrade

theorem stored_of_request {call : ReclassificationCall} {request : ReclassificationRequest}
    (isRequest : call.request = .ok request) : Stored (call, request) := by
  simp only [ReclassificationCall.request, authorizeReclassification, bind_eq_ok_iff,
    exists_unit_iff, rejectIf_eq_ok_iff, pure_eq_ok_iff] at isRequest
  obtain ⟨accepted, rfl⟩ := isRequest
  refine ⟨rfl, fun lower => ?_⟩
  obtain ⟨isAdmin, approved, dlpClear⟩ := not_not.mp fun refused => accepted ⟨lower, refused⟩
  exact ⟨lower, isAdmin, approved, dlpClear⟩

section Calls

variable {state : GovernanceState} {index : Nat} {call : ReclassificationCall}
  {request : ReclassificationRequest} {references : List Reference} {invalidated : Bool}

theorem GovernanceState.apply_resources (approved : request.status = .approved) :
    (state.apply index call request references invalidated).1.resources =
      (request.write state.resources references).1 := by
  rw [apply, if_neg (not_not.mpr approved)]
  cases isWrite : request.write state.resources references with
  | mk resources outcome => cases outcome <;> rfl

theorem GovernanceState.apply_outcome (approved : request.status = .approved) :
    (state.apply index call request references invalidated).2 = .ok () ↔
      written request state.resources references = references ∧ invalidated = true := by
  rw [apply, if_neg (not_not.mpr approved), ← write_eq.2]
  cases isWrite : request.write state.resources references with
  | mk resources outcome =>
      cases outcome with
      | error raised => simp
      | ok value => cases invalidated <;> simp

/-- Every call keeps that what is stored was authorised. -/
theorem GovernanceState.step_stored (stored : ∀ entry ∈ state.requests, Stored entry)
    (called : GovernanceCall) : ∀ entry ∈ (state.step called).1.requests, Stored entry := by
  cases called with
  | request call =>
      rw [step]
      split
      · exact stored
      · next request isRequest =>
          exact List.forall_mem_append.mpr
            ⟨stored, List.forall_mem_singleton.mpr (stored_of_request isRequest)⟩
  | apply index references invalidated =>
      rw [step]
      split
      · exact stored
      · next call request isEntry =>
          have own := stored _ (List.mem_of_getElem? isEntry)
          unfold apply
          split
          · exact stored
          · split
            · exact stored
            · intro entry listed
              rcases List.mem_or_eq_of_mem_set listed with isOld | rfl
              · exact stored entry isOld
              · exact ⟨own.target, own.authorized⟩

theorem stored_stateAfter (resources : Resources) (calls : List GovernanceCall) :
    ∀ entry ∈ (stateAfter resources calls).requests, Stored entry := by
  induction calls using List.reverseRecOn with
  | nil => exact fun _ none => absurd none List.not_mem_nil
  | append_singleton before call ih =>
      rw [stateAfter, List.foldl_concat]
      exact GovernanceState.step_stored ih call

/-- The request that a call applies, with the call it was made by. -/
def GovernanceState.applied? (state : GovernanceState) :
    GovernanceCall → Option (ReclassificationCall × ReclassificationRequest)
  | .request _ => none
  | .apply index _ _ => state.requests[index]?

/-- Only an authorised downgrade lowers a classification, only objects of the request's
organization are changed, and a call that fails changes none. -/
structure CallSound (state : GovernanceState) (called : GovernanceCall) : Prop where
  downgrades : ∀ reference, ((state.step called).1.resources reference).classification.rank <
    (state.resources reference).classification.rank →
      ∃ entry, state.applied? called = some entry ∧ entry.1.AuthorizedDowngrade
  own : ∀ reference, ((state.step called).1.resources reference).classification ≠
    (state.resources reference).classification →
      ∃ entry, state.applied? called = some entry ∧
        (state.resources reference).organizationId = some entry.2.organizationId
  kept : (state.step called).2 ≠ .ok () → ∀ reference,
    ((state.step called).1.resources reference).classification =
      (state.resources reference).classification

/-- What is applied was requested as a downgrade if an object it is written to stands above it; and
every object can be written to and the caches are invalidated, or those written to are already of
the requested classification. -/
def CallProper (state : GovernanceState) : GovernanceCall → Prop
  | .request _ => True
  | .apply index references invalidated =>
      ∀ entry ∈ state.requests[index]?, entry.2.status = .approved →
        (∀ reference ∈ written entry.2 state.resources references,
          entry.2.requestedClassification.rank <
            (state.resources reference).classification.rank →
          entry.2.requestedClassification.rank < entry.1.current.rank) ∧
        ((written entry.2 state.resources references = references ∧ invalidated = true) ∨
          ∀ reference ∈ written entry.2 state.resources references,
            (state.resources reference).classification = entry.2.requestedClassification)

/-- A call that changes nothing is sound. -/
theorem CallSound.of_same {called : GovernanceCall}
    (same : (state.step called).1.resources = state.resources) : CallSound state called where
  downgrades _ lower := absurd (same ▸ lower) (lt_irrefl _)
  own reference changed := absurd (congrFun same reference ▸ rfl) changed
  kept _ reference := congrArg _ (congrFun same reference)

theorem callSound_iff (stored : ∀ entry ∈ state.requests, Stored entry)
    (called : GovernanceCall) : CallSound state called ↔ CallProper state called := by
  cases called with
  | request call =>
      refine iff_of_true (.of_same ?_) trivial
      rw [GovernanceState.step]
      split <;> rfl
  | apply index references invalidated =>
      cases isEntry : state.requests[index]? with
      | none =>
          refine iff_of_true (.of_same ?_) fun entry listed => ?_
          · rw [GovernanceState.step, isEntry]
          · rw [isEntry] at listed
            cases listed
      | some entry =>
          obtain ⟨call, request⟩ := entry
          have isStep : state.step (.apply index references invalidated) =
              state.apply index call request references invalidated := by
            rw [GovernanceState.step, isEntry]
          have isApplied : state.applied? (.apply index references invalidated) =
              some (call, request) := isEntry
          by_cases approved : request.status = .approved
          · have isWrite := @write_eq request state.resources references
            have known := stored _ (List.mem_of_getElem? isEntry)
            have outcome := @GovernanceState.apply_outcome state index call request references
              invalidated approved
            have effect := @GovernanceState.apply_resources state index call request references
              invalidated approved
            rw [← isStep] at effect outcome
            constructor
            · rintro ⟨downgrades, -, kept⟩ entry listed -
              obtain rfl := Option.some.inj (isEntry.symm.trans listed)
              refine ⟨fun reference isWritten above => ?_, ?_⟩
              · obtain ⟨entry, isOwn, authorized⟩ := downgrades reference (by
                  rw [effect, isWrite.1, if_pos isWritten]
                  exact above)
                obtain rfl := Option.some.inj (isApplied.symm.trans isOwn)
                exact known.target ▸ authorized.lower
              · refine or_iff_not_imp_left.mpr fun fails reference isWritten => ?_
                have same := kept (mt outcome.mp fails) reference
                rw [effect, isWrite.1, if_pos isWritten] at same
                exact same.symm
            · intro proper
              obtain ⟨lower, ended⟩ := proper _ isEntry approved
              refine ⟨fun reference changed => ?_, fun reference changed => ?_,
                fun fails reference => ?_⟩
              · rw [effect, isWrite.1] at changed
                split_ifs at changed with isWritten
                · exact ⟨_, isApplied, known.authorized
                    (known.target ▸ lower reference isWritten changed)⟩
                · exact absurd changed (lt_irrefl _)
              · rw [effect, isWrite.1] at changed
                split_ifs at changed with isWritten
                · have isOwned := List.mem_takeWhile_imp isWritten
                  exact ⟨_, isApplied, of_decide_eq_true (Bool.and_eq_true_iff.mp isOwned).1⟩
                · exact absurd rfl changed
              · rw [effect, isWrite.1]
                split_ifs with isWritten
                · exact ((ended.resolve_left (mt outcome.mpr fails)) reference isWritten).symm
                · rfl
          · refine iff_of_true (.of_same ?_) fun entry listed isApproved => ?_
            · rw [isStep, GovernanceState.apply, if_pos approved]
            · obtain rfl := Option.some.inj (isEntry.symm.trans listed)
              exact absurd isApproved approved

end Calls

/-- **Every call of a run is sound exactly if every call is proper where it is made.** -/
theorem reclassificationsSound_iff (resources : Resources) (calls : List GovernanceCall) :
    (∀ before called after, calls = before ++ called :: after →
      CallSound (stateAfter resources before) called) ↔
    ∀ before called after, calls = before ++ called :: after →
      CallProper (stateAfter resources before) called := by
  refine forall_congr' fun before => forall_congr' fun called => forall_congr' fun after =>
    imp_congr_right fun _ => ?_
  exact callSound_iff (stored_stateAfter resources before) called

namespace Sample

/-- A request that states a public document, for objects of its organization. -/
def reclassification : ReclassificationCall where
  organizationId := 1
  documentId := 2
  current := .public
  target := .public
  requestedBy := 3
  reasonCode := "routine"
  isAdmin := false
  approvalReference := some "approval"
  dlpClear := false

/-- A restricted object of the organization, and one of another. -/
def resources : Resources := fun reference =>
  if reference = 0 then ⟨some 1, .restricted, true⟩ else ⟨some 9, .restricted, true⟩

end Sample

/-- The restricted object becomes public without a review, by a call that fails. -/
theorem not_reclassificationsSound :
    ¬ ∀ before called after,
      [.request Sample.reclassification, .apply 0 [0, 1] true] = before ++ called :: after →
        CallSound (stateAfter Sample.resources before) called := by
  intro sound
  have last := sound [.request Sample.reclassification] (.apply 0 [0, 1] true) [] rfl
  obtain ⟨entry, isEntry, authorized⟩ := last.downgrades 0 (by decide)
  have isCall : entry.1 = Sample.reclassification := by
    obtain rfl := Option.some.inj isEntry
    rfl
  have isAdmin := authorized.isAdmin
  rw [isCall] at isAdmin
  cases isAdmin

end PolicyOS.Security
