import PolicyOS.Runtime.Connector.ManagedDelivery
import PolicyOS.Runtime.Persistence.LifecycleSystem

/-!
# Delivery certainty

What a managed delivery returns is what it knows: that nothing was sent, that the
delivery was acknowledged, or neither. Only the facts of the result, which it obtains
before it sends, can keep it from returning once it has sent.
-/

namespace PolicyOS.Runtime.Connector

open Foundation

/-! ## What a delivery should return -/

/-- A response acknowledges the attempt: it is of HTTP 200, and its acknowledgement is of
the effect, attempt, destination and key of the request, was accepted inside the window
of the facts, and is under its own digest. -/
structure Acknowledges (format : WireFormat) (request : RuntimeConnectorMaterializationRequest)
    (facts : RuntimeConnectorDeliveryOutcomeFacts) (response : TransportResponse)
    (acknowledgement : RuntimeConnectorDeliveryAcknowledgement) : Prop where
  status : response.status = 200
  parsed : parseRuntimeConnectorDeliveryResponse format response.body = .ok ⟨acknowledgement⟩
  effect : acknowledgement.runtimeEffectId =
    request.invocation.envelope.effectIdentity.runtimeEffectId
  attempt : acknowledgement.runtimeEffectDeliveryAttemptId =
    request.invocation.attempt.runtimeEffectDeliveryAttemptId
  destination : acknowledgement.destinationReference =
    request.invocation.envelope.effectIdentity.destinationReference
  key : acknowledgement.effectIdempotencyKey =
    request.invocation.envelope.effectIdentity.effectIdempotencyKey
  accepted : facts.startedAt ≤ acknowledgement.acceptedAt.instant ∧
    acknowledgement.acceptedAt.instant ≤ facts.completedAt
  digest : runtimeConnectorCanonicalDigest format
      (deliveryAcknowledgementProjection acknowledgement) =
    .ok acknowledgement.acknowledgementDigestReference

/-- A call returned a result. -/
def DeliverCall.Returned (call : DeliverCall) (result : RuntimeEffectDeliveryResult) : Prop :=
  call.phase = .ended (.ok result)

/-- The transport was called and has answered, or raised. -/
def DeliverCall.AfterPost (call : DeliverCall) : Prop :=
  call.posted ≠ [] ∧ ∃ outcome, call.phase = .ended outcome

/-- The transport is called at most once, and what `deliver` returns is what came of it. -/
structure CertaintySound (factory : DeliveryFactory)
    (request : RuntimeConnectorMaterializationRequest) (state : ManagedDelivery) : Prop where
  once : state.posts.length ≤ 1
  notDelivered : ∀ call ∈ state.calls, ∀ result, call.Returned result →
    result.certainty = .definitelyNotDelivered → state.posts = []
  delivered : ∀ call ∈ state.calls, ∀ result, call.Returned result →
    result.certainty = .delivered → call.posted ≠ [] ∧
      ∃ facts ∈ call.facts, ∃ response, call.answer = some (.ok response) ∧
        ∃ acknowledgement, Acknowledges factory.format request facts response acknowledgement ∧
          result.acknowledgementReference = some acknowledgement.operationReference
  returns : ∀ call ∈ state.calls, call.AfterPost → ∃ result, call.Returned result ∧
    result.certainty ∈ [RuntimeEffectDeliveryCertainty.delivered, .ambiguous]

/-- The facts of a result are inside the window of the attempt. -/
structure FactsFit (request : RuntimeConnectorMaterializationRequest)
    (facts : RuntimeConnectorDeliveryOutcomeFacts) : Prop where
  starts : request.invocation.attempt.requestedAt ≤ facts.startedAt
  ordered : facts.startedAt ≤ facts.completedAt
  completes : facts.completedAt ≤ request.invocation.attempt.deadline

section

variable {factory : DeliveryFactory} {request : RuntimeConnectorMaterializationRequest}
  {facts : RuntimeConnectorDeliveryOutcomeFacts} {certainty : RuntimeEffectDeliveryCertainty}
  {acknowledgement : Option RuntimeConnectorDeliveryAcknowledgement}
  {result : RuntimeEffectDeliveryResult} {state : ManagedDelivery}

/-! ## Results -/

/-- A result is of the certainty and acknowledgement it is made for. -/
theorem of_deliveryResult
    (made : deliveryResult request facts certainty acknowledgement = .ok result) :
    result.certainty = certainty ∧
      result.acknowledgementReference = acknowledgement.map (·.operationReference) := by
  by_cases allowed : resultAllowed facts certainty
      (outcomeEvidence facts certainty acknowledgement)
  · simp only [deliveryResult, dif_pos allowed, bind_eq_ok_iff, exists_unit_iff,
      pure_eq_ok_iff] at made
    obtain ⟨_, rfl⟩ := made
    exact ⟨rfl, rfl⟩
  · simp only [deliveryResult, dif_neg allowed, reduceCtorEq] at made

theorem resultAllowed_iff (coherent : certainty = .delivered ↔ acknowledgement ≠ none) :
    resultAllowed facts certainty (outcomeEvidence facts certainty acknowledgement) ↔
      facts.startedAt ≤ facts.completedAt := by
  refine ⟨And.left, fun ordered => ⟨ordered, ?_⟩⟩
  cases certainty <;> cases acknowledgement <;>
    simp_all [boundedDeliveryOutcome, outcomeEvidence]

/-- A result of the attempt's effect and adapter, acknowledged exactly if it is
delivered, is accepted exactly if it is inside the window of the attempt. -/
theorem validateRuntimeConnectorDeliveryResult_eq_ok_iff
    (valid : validateRuntimeConnectorMaterializationRequest request = .ok ()) :
    validateRuntimeConnectorDeliveryResult request result = .ok () ↔
      ((result.runtimeEffectId = request.invocation.envelope.effectIdentity.runtimeEffectId ∧
        result.runtimeEffectDeliveryAttemptId =
          request.invocation.attempt.runtimeEffectDeliveryAttemptId ∧
        result.adapterReference = request.invocation.envelope.adapterReference ∧
        result.adapterContractVersion = request.invocation.envelope.adapterContractVersion ∧
        request.invocation.attempt.requestedAt ≤ result.startedAt ∧
        result.completedAt ≤ request.invocation.attempt.deadline) ∧
      ¬ (result.certainty = .delivered ∧
        (result.acknowledgementReference = none ∨ result.acknowledgementDigestReference = none)) ∧
      ¬ (result.certainty = .definitelyNotDelivered ∧ result.acknowledgementReference ≠ none)) := by
  simp only [validateRuntimeConnectorDeliveryResult, valid, bind_eq_ok_iff, exists_unit_iff,
    orPort_eq_ok_iff, validateRuntimeEffectDeliveryResult, rejectIf_eq_ok_iff, true_and, not_not,
    not_or, not_lt, gt_iff_lt]

/-- A result can be made of facts exactly if they are inside the window of the attempt. -/
theorem deliveryResult_accepted_iff
    (valid : validateRuntimeConnectorMaterializationRequest request = .ok ())
    (coherent : certainty = .delivered ↔ acknowledgement ≠ none) :
    (∃ result, deliveryResult request facts certainty acknowledgement = .ok result) ↔
      FactsFit request facts := by
  have allowedIff := @resultAllowed_iff facts certainty acknowledgement coherent
  by_cases ordered : facts.startedAt ≤ facts.completedAt
  · simp only [deliveryResult, dif_pos (allowedIff.mpr ordered), bind_eq_ok_iff, exists_unit_iff,
      pure_eq_ok_iff, exists_and_left, exists_eq', and_true,
      validateRuntimeConnectorDeliveryResult_eq_ok_iff valid]
    constructor
    · rintro ⟨⟨_, _, _, _, starts, completes⟩, _⟩
      exact ⟨starts, ordered, completes⟩
    · intro fit
      refine ⟨⟨rfl, rfl, rfl, rfl, fit.starts, fit.completes⟩, ?_, ?_⟩
      · rintro ⟨delivered, unacknowledged⟩
        have acknowledged := coherent.mp delivered
        simp [resultMade, outcomeEvidence, acknowledged] at unacknowledged
      · rintro ⟨undelivered, acknowledged⟩
        have unacknowledged : acknowledgement = none := by
          by_contra acknowledged
          exact absurd ((coherent.mpr acknowledged).symm.trans undelivered) (by decide)
        exact acknowledged (by simp [resultMade, outcomeEvidence, unacknowledged])
  · simp only [deliveryResult, dif_neg (mt allowedIff.mp ordered), reduceCtorEq, exists_false,
      false_iff]
    exact fun fit => ordered fit.ordered

theorem of_notDelivered (made : notDelivered request facts = .ok result) :
    result.certainty = .definitelyNotDelivered :=
  (of_deliveryResult made).1

/-- What the transport answered makes an acknowledgement only if it acknowledges the
attempt. -/
theorem acknowledges_of_acknowledged {answer : External TransportResponse}
    {acknowledgement : RuntimeConnectorDeliveryAcknowledgement}
    (accepted : acknowledged factory.format (wireOf request) facts answer =
      .ok acknowledgement) :
    ∃ response, answer = .ok response ∧
      Acknowledges factory.format request facts response acknowledgement := by
  obtain _ | response := answer
  · cases accepted
  simp only [acknowledged, validateRuntimeConnectorDeliveryAcknowledgement, bind_eq_ok_iff,
    exists_unit_iff, rejectIf_eq_ok_iff, pure_eq_ok_iff, not_not] at accepted
  obtain ⟨parsed, load, status, binding, window, digest, hashed, same, rfl⟩ := accepted
  simp only [acknowledgementDiffers, not_or, not_not] at binding
  obtain ⟨effect, attempt, destination, key⟩ := binding
  exact ⟨response, rfl, status, load, effect, attempt, destination, key, window,
    same.symm ▸ hashed⟩

/-- A call whose transport has answered returns what came of it: an acknowledged delivery
or nothing certain. -/
theorem of_reported {answer : External TransportResponse}
    (made : reported factory.format request (wireOf request) facts answer = .ok result) :
    result.certainty = .ambiguous ∨
      result.certainty = .delivered ∧ ∃ response, answer = .ok response ∧
        ∃ acknowledgement, Acknowledges factory.format request facts response acknowledgement ∧
          result.acknowledgementReference = some acknowledgement.operationReference := by
  unfold reported at made
  split at made
  · exact .inl (of_deliveryResult made).1
  · rename_i acknowledgement accepted
    obtain ⟨response, answered, acknowledges⟩ := acknowledges_of_acknowledged accepted
    exact .inr ⟨(of_deliveryResult made).1, response, answered, acknowledgement, acknowledges,
      (of_deliveryResult made).2⟩

theorem reported_accepted_iff {answer : External TransportResponse}
    {wire : RuntimeConnectorDeliveryWireRequest}
    (valid : validateRuntimeConnectorMaterializationRequest request = .ok ()) :
    (∃ result, reported factory.format request wire facts answer = .ok result) ↔
      FactsFit request facts := by
  unfold reported
  split
  · exact deliveryResult_accepted_iff valid (by simp)
  · exact deliveryResult_accepted_iff valid (by simp)

/-! ## Calls -/

/-- What holds of a call, by how far it has come. -/
inductive CallKept (factory : DeliveryFactory) (request : RuntimeConnectorMaterializationRequest) :
    DeliverCall → Prop
  | refused {given answer error} : CallKept factory request ⟨given, [], answer, .ended (.error error)⟩
  | materializing {facts answer entry} :
      CallKept factory request ⟨some facts, [], answer, .materializing entry⟩
  | readingClock {facts answer entry} :
      CallKept factory request ⟨some facts, [], answer, .readingClock entry⟩
  | unsent {facts answer} :
      CallKept factory request ⟨some facts, [], answer, .ended (notDelivered request facts)⟩
  | posting {facts sent answer} :
      CallKept factory request ⟨some facts, [sent], answer, .posting (wireOf request)⟩
  | answered {facts sent answer} :
      CallKept factory request ⟨some facts, [sent], some answer,
        .ended (reported factory.format request (wireOf request) facts answer)⟩

/-- Whether a call obtained its facts. -/
def DeliverCall.hasFacts (call : DeliverCall) : Bool := call.facts.isSome

namespace CallKept

variable {call : DeliverCall}

theorem posted_length (kept : CallKept factory request call) :
    call.posted.length ≤ if call.hasFacts then 1 else 0 := by
  cases kept <;> simp [DeliverCall.hasFacts]

theorem hasFacts_of_returned (kept : CallKept factory request call)
    (returned : call.Returned result) : call.hasFacts := by
  cases kept with
  | refused => cases returned
  | materializing => rfl
  | readingClock => rfl
  | unsent => rfl
  | posting => rfl
  | answered => rfl

theorem hasFacts_of_posted (kept : CallKept factory request call) (sent : call.posted ≠ []) :
    call.hasFacts := by
  by_contra none
  have bound := kept.posted_length
  rw [if_neg none] at bound
  exact sent (List.eq_nil_of_length_eq_zero (Nat.le_zero.mp bound))

/-- A call that returned sent nothing and says so, or reports the answer it got. -/
theorem of_returned (kept : CallKept factory request call) (returned : call.Returned result) :
    call.posted = [] ∧ result.certainty = .definitelyNotDelivered ∨
      call.posted ≠ [] ∧ ∃ facts answer, call.facts = some facts ∧ call.answer = some answer ∧
        reported factory.format request (wireOf request) facts answer = .ok result := by
  cases kept with
  | refused => cases returned
  | materializing => cases returned
  | readingClock => cases returned
  | unsent => exact .inl ⟨rfl, of_notDelivered (DeliverPhase.ended.inj returned)⟩
  | posting => cases returned
  | answered =>
      exact .inr ⟨List.cons_ne_nil _ _, _, _, rfl, rfl, DeliverPhase.ended.inj returned⟩

/-- A call that has sent and ended reports the answer it got. -/
theorem of_afterPost (kept : CallKept factory request call) (after : call.AfterPost) :
    ∃ facts answer, call.facts = some facts ∧ call.phase =
      .ended (reported factory.format request (wireOf request) facts answer) := by
  obtain ⟨sent, outcome, ended⟩ := after
  cases kept with
  | refused => exact absurd rfl sent
  | materializing => exact absurd rfl sent
  | readingClock => exact absurd rfl sent
  | unsent => exact absurd rfl sent
  | posting => cases ended
  | answered => exact ⟨_, _, rfl, rfl⟩

end CallKept

/-! ## Steps -/

/-- What a step may do to the calls of a delivery. -/
inductive CallsStep (factory : DeliveryFactory) (request : RuntimeConnectorMaterializationRequest)
    (state following : ManagedDelivery) : Prop
  | kept (used : following.used = state.used) (calls : following.calls = state.calls)
  | refused (call : DeliverCall) (used : following.used = state.used)
      (calls : following.calls = state.calls ++ [call]) (idle : call.hasFacts = false)
      (valid : CallKept factory request call)
  | began (call : DeliverCall) (unused : state.used = false) (used : following.used = true)
      (calls : following.calls = state.calls ++ [call]) (valid : CallKept factory request call)
  | advanced (position : Nat) (call later : DeliverCall) (used : following.used = state.used)
      (found : state.calls[position]? = some call)
      (calls : following.calls = state.calls.set position later)
      (same : call.hasFacts ∧ later.hasFacts)
      (valid : CallKept factory request call → CallKept factory request later)

theorem begun_kept {given : External RuntimeConnectorDeliveryOutcomeFacts} :
    CallKept factory request (ManagedDelivery.begun factory request given) := by
  unfold ManagedDelivery.begun
  split
  · exact .refused
  · split
    · exact .refused
    · exact .materializing

/-- Only the wire request of the invocation is sent. -/
theorem of_preparedPost {entry : RuntimeConnectorProvisioningEntry} {secret : Option (List UInt8)}
    {remaining : Int} {wire : RuntimeConnectorDeliveryWireRequest} {made : PostCall}
    (prepared : preparedPost factory request entry secret remaining = .ok (wire, made)) :
    wire = wireOf request := by
  simp only [preparedPost, deliveryWire, bind_eq_ok_iff, exists_unit_iff, pure_eq_ok_iff]
    at prepared
  obtain ⟨sent, ⟨_, _, rfl⟩, body, _, result⟩ := prepared
  split at result
  · cases result
  · cases result
    rfl

/-- Every step keeps the calls, adds one that was refused, begins the one there is, or
advances one. -/
theorem callsStep_of_next {event : DeliveryEvent} {following : ManagedDelivery}
    (taken : state.next factory request event = some following) :
    CallsStep factory request state following := by
  cases event with
  | enter =>
      simp only [ManagedDelivery.next] at taken
      split at taken <;> obtain rfl := Option.some.inj taken <;> exact .kept rfl rfl
  | exit =>
      simp only [ManagedDelivery.next] at taken
      split at taken <;> obtain rfl := Option.some.inj taken <;> exact .kept rfl rfl
  | deliver invocation given =>
      simp only [ManagedDelivery.next, ManagedDelivery.deliver] at taken
      split at taken
      · obtain rfl := Option.some.inj taken
        exact .refused _ rfl rfl rfl .refused
      · rename_i free
        obtain rfl := Option.some.inj taken
        simp only [not_or, Bool.not_eq_true] at free
        exact .began _ free.2.2.1 rfl rfl begun_kept
  | materialized position answer =>
      simp only [ManagedDelivery.next] at taken
      split at taken
      · rename_i found
        split at taken
        · obtain rfl := Option.some.inj taken
          refine .advanced position _ _ rfl found rfl ⟨rfl, rfl⟩ fun kept => ?_
          cases kept
          exact .unsent
        · obtain rfl := Option.some.inj taken
          refine .advanced position _ _ rfl found rfl ⟨rfl, rfl⟩ fun kept => ?_
          cases kept
          exact .readingClock
      · cases taken
  | clockRead position reading exit tls =>
      simp only [ManagedDelivery.next] at taken
      split at taken
      · rename_i found
        obtain rfl := Option.some.inj taken
        unfold ManagedDelivery.post
        split
        · split
          · refine .advanced position _ _ rfl found rfl ⟨rfl, rfl⟩ fun kept => ?_
            cases kept
            exact .unsent
          · rename_i prepared
            obtain rfl := of_preparedPost prepared
            refine .advanced position _ _ rfl found rfl ⟨rfl, rfl⟩ fun kept => ?_
            cases kept
            exact .posting
        · refine .advanced position _ _ rfl found rfl ⟨rfl, rfl⟩ fun kept => ?_
          cases kept
          exact .unsent
      · cases taken
  | answered position answer =>
      simp only [ManagedDelivery.next] at taken
      split at taken
      · rename_i found
        obtain rfl := Option.some.inj taken
        refine .advanced position _ _ rfl found rfl ⟨rfl, rfl⟩ fun kept => ?_
        cases kept
        exact .answered
      · cases taken

/-! ## Runs -/

/-- What holds of a delivery at any time: its calls are valid, and one at most has begun. -/
structure DeliveryKept (factory : DeliveryFactory)
    (request : RuntimeConnectorMaterializationRequest) (state : ManagedDelivery) : Prop where
  valid : validateRuntimeConnectorMaterializationRequest request = .ok ()
  calls : ∀ call ∈ state.calls, CallKept factory request call
  begun : state.calls.countP DeliverCall.hasFacts ≤ if state.used then 1 else 0

namespace DeliveryKept

/-- A step keeps it. -/
theorem step {event : DeliveryEvent} {following : ManagedDelivery}
    (kept : DeliveryKept factory request state)
    (taken : state.next factory request event = some following) :
    DeliveryKept factory request following := by
  refine ⟨kept.valid, ?_, ?_⟩
  · intro call member
    cases callsStep_of_next taken with
    | kept used calls => exact kept.calls call (calls ▸ member)
    | refused added used calls idle valid =>
        rw [calls, List.mem_append, List.mem_singleton] at member
        exact member.elim (kept.calls call) (· ▸ valid)
    | began added unused used calls valid =>
        rw [calls, List.mem_append, List.mem_singleton] at member
        exact member.elim (kept.calls call) (· ▸ valid)
    | advanced position prior later used found calls same valid =>
        rw [calls] at member
        obtain earlier | rfl := List.mem_or_eq_of_mem_set member
        · exact kept.calls call earlier
        · exact valid (kept.calls prior (List.mem_of_getElem? found))
  · have begun := kept.begun
    cases callsStep_of_next taken with
    | kept used calls => rw [used, calls]; exact begun
    | refused added used calls idle valid =>
        rw [used, calls, List.countP_append, List.countP_singleton, idle]
        simpa using begun
    | began added unused used calls valid =>
        rw [unused, if_neg Bool.false_ne_true] at begun
        rw [used, calls, List.countP_append, List.countP_singleton, if_pos rfl]
        split <;> omega
    | advanced position prior later used found calls same valid =>
        obtain ⟨bound, here⟩ := List.getElem?_eq_some_iff.mp found
        have counted : 0 < state.calls.countP DeliverCall.hasFacts :=
          List.countP_pos_iff.mpr ⟨prior, List.mem_of_getElem? found, same.1⟩
        rw [used, calls, List.countP_set bound, here, if_pos same.1, if_pos same.2]
        omega

theorem of_reachable (reachable : (managedDelivery factory request).Reachable state) :
    DeliveryKept factory request state := by
  let invariant : (managedDelivery factory request).Invariant :=
    { Holds := DeliveryKept factory request
      initial := by
        rintro _ ⟨valid, rfl⟩
        exact ⟨valid, fun _ member => absurd member List.not_mem_nil, Nat.zero_le _⟩
      preserved := step }
  exact invariant.of_reachable reachable

/-- Two calls with facts are the same call. -/
theorem same_call (kept : DeliveryKept factory request state) {call other : DeliverCall}
    (member : call ∈ state.calls) (member' : other ∈ state.calls) (given : call.hasFacts)
    (given' : other.hasFacts) : call = other := by
  have one : (state.calls.filter DeliverCall.hasFacts).length ≤ 1 := by
    rw [← List.countP_eq_length_filter]
    exact kept.begun.trans (by split <;> omega)
  have first := List.mem_filter.mpr ⟨member, given⟩
  have second := List.mem_filter.mpr ⟨member', given'⟩
  obtain ⟨only, found⟩ := List.length_eq_one_iff.mp
    (le_antisymm one (List.length_pos_of_mem first))
  rw [found, List.mem_singleton] at first second
  rw [first, second]

/-- The transport is called at most once. -/
theorem posts_length (kept : DeliveryKept factory request state) : state.posts.length ≤ 1 := by
  have bound : state.posts.length ≤ state.calls.countP DeliverCall.hasFacts := by
    have each := kept.calls
    unfold ManagedDelivery.posts
    revert each
    induction state.calls with
    | nil => exact fun _ => Nat.zero_le _
    | cons call calls ih =>
        intro each
        have here := (each call List.mem_cons_self).posted_length
        have there := ih fun other member => each other (List.mem_cons_of_mem _ member)
        rw [List.flatMap_cons, List.length_append, List.countP_cons]
        omega
  exact bound.trans (kept.begun.trans (by split <;> omega))

end DeliveryKept

/-- In every reachable state the certainties of a delivery are sound exactly if every call
that sent has facts inside the window of the attempt. -/
theorem certaintySound_iff (reachable : (managedDelivery factory request).Reachable state) :
    CertaintySound factory request state ↔
      ∀ call ∈ state.calls, call.AfterPost → ∀ facts ∈ call.facts, FactsFit request facts := by
  have kept := DeliveryKept.of_reachable reachable
  constructor
  · intro sound call member after facts given
    obtain ⟨facts', answer, given', ended⟩ := (kept.calls call member).of_afterPost after
    obtain rfl := Option.some.inj (given'.symm.trans given)
    obtain ⟨result, returned, _⟩ := sound.returns call member after
    exact (reported_accepted_iff kept.valid).mp
      ⟨result, DeliverPhase.ended.inj (ended.symm.trans returned)⟩
  · intro fits
    refine ⟨kept.posts_length, ?_, ?_, ?_⟩
    · intro call member result returned nothing
      have given := (kept.calls call member).hasFacts_of_returned returned
      have unsent : call.posted = [] := by
        obtain ⟨unsent, _⟩ | ⟨_, facts, answer, _, _, made⟩ :=
          (kept.calls call member).of_returned returned
        · exact unsent
        · obtain doubtful | ⟨sure, _⟩ := of_reported made
          · exact absurd (nothing.symm.trans doubtful) (by decide)
          · exact absurd (nothing.symm.trans sure) (by decide)
      refine List.flatMap_eq_nil_iff.mpr fun other member' => ?_
      by_contra sent
      have given' := (kept.calls other member').hasFacts_of_posted sent
      obtain rfl := kept.same_call member member' given given'
      exact sent unsent
    · intro call member result returned sure
      obtain ⟨_, nothing⟩ | ⟨sent, facts, answer, given, answered, made⟩ :=
        (kept.calls call member).of_returned returned
      · exact absurd (sure.symm.trans nothing) (by decide)
      · obtain doubtful | ⟨_, response, rfl, acknowledgement, acknowledges, reference⟩ :=
          of_reported made
        · exact absurd (sure.symm.trans doubtful) (by decide)
        · exact ⟨sent, facts, given, response, answered, acknowledgement, acknowledges, reference⟩
    · intro call member after
      obtain ⟨facts, answer, given, ended⟩ := (kept.calls call member).of_afterPost after
      obtain ⟨result, made⟩ := (reported_accepted_iff kept.valid).mpr
        (fits call member after facts given)
      refine ⟨result, ended.trans (congrArg _ made), ?_⟩
      obtain doubtful | ⟨sure, _⟩ := of_reported made
      · rw [doubtful]; decide
      · rw [sure]; decide

end

/-! ## One delivery that is not answered -/

namespace Sample

/-- The invocation of the sample attempt. -/
def invocation : RuntimeEffectDeliveryInvocation :=
  { Runtime.Sample.invocation with runtimeEffectDeliveryInvocationId := 91 }

/-- The lease its credential is asked for. -/
def leaseRequest : RuntimeCredentialLeaseRequest where
  runtimeCredentialLeaseRequestId := 92
  scope := { Runtime.Sample.outbox.scope with attemptId := 81 }
  adapterFamily := .connector
  adapterReference := "desk-adapter"
  adapterContractVersion := "1"
  connectorProvisioningReference := "desk-provisioning"
  destinationReference := "desk"
  credentialReference := "desk-credential"
  credentialPurposeReference := "connector.invoke"
  permitReferenceIds := [22]
  runtimeEffectDeliveryEnvelopeId := 11
  envelopeDigestReference := "envelope"
  runtimeEffectId := 3
  effectIdempotencyKey := "notify-1"
  requestedAt := 11
  expiresAt := 20
  orderedPermits := Runtime.Sample.outbox.orderedPermits

/-- The request the delivery is made for. -/
def request : RuntimeConnectorMaterializationRequest where
  runtimeConnectorMaterializationRequestId := 93
  credentialLeaseRequest := leaseRequest
  credentialLeaseReference :=
    { runtimeCredentialLeaseReferenceId := 94
      runtimeCredentialLeaseRequestId := 92
      brokerReference := "broker"
      runtimeExecutionRequestId := 4
      adapterFamily := .connector
      adapterReference := "desk-adapter"
      adapterContractVersion := "1"
      connectorProvisioningReference := "desk-provisioning"
      destinationReference := "desk"
      credentialReference := "desk-credential"
      credentialPurposeReference := "connector.invoke"
      permitReferenceIds := [22]
      runtimeEffectDeliveryEnvelopeId := 11
      envelopeDigestReference := "envelope"
      runtimeEffectId := 3
      effectIdempotencyKey := "notify-1"
      tenantId := 1
      organizationId := 2
      actorId := 15
      attemptId := 81
      classification := .internal
      issuedAt := 11
      expiresAt := 20
      orderedPermits := Runtime.Sample.outbox.orderedPermits }
  invocation := invocation
  requestedAt := 12

/-- The provisioned desk. -/
def entry : RuntimeConnectorProvisioningEntry where
  connectorProvisioningReference := "desk-provisioning"
  adapterReference := "desk-adapter"
  adapterContractVersion := "1"
  destinationReference := "desk"
  endpointUri := "https://desk/v1/runtime/connector"
  tenantId := 1
  organizationId := 2
  classificationCeiling := .internal
  credentialReference := "desk-credential"

/-- The JSON text of wire requests whose texts need no escapes. -/
def wireJson (request : RuntimeConnectorDeliveryWireRequest) : String :=
  let quoted text := "\"" ++ text ++ "\""
  let fields := [("protocol_version", request.protocolVersion), ("operation", request.operation),
    ("runtime_effect_id", uuidText request.runtimeEffectId),
    ("runtime_execution_request_id", uuidText request.runtimeExecutionRequestId),
    ("runtime_effect_delivery_attempt_id", uuidText request.runtimeEffectDeliveryAttemptId),
    ("runtime_effect_delivery_invocation_id", uuidText request.runtimeEffectDeliveryInvocationId),
    ("runtime_effect_delivery_envelope_id", uuidText request.runtimeEffectDeliveryEnvelopeId),
    ("payload_reference", request.payloadReference),
    ("payload_digest_reference", request.payloadDigestReference),
    ("destination_reference", request.destinationReference),
    ("connector_provisioning_reference", request.connectorProvisioningReference),
    ("adapter_reference", request.adapterReference),
    ("adapter_contract_version", request.adapterContractVersion),
    ("effect_idempotency_key", request.effectIdempotencyKey),
    ("tenant_id", uuidText request.tenantId),
    ("organization_id", uuidText request.organizationId),
    ("classification", request.classification.value),
    ("root_lineage_id", uuidText request.rootLineageId),
    ("root_lineage_digest_reference", request.rootLineageDigestReference)]
  let permits := request.permitReferenceIds.map (quoted ∘ uuidText)
  let written := fields.map fun (name, value) => quoted name ++ ":" ++ quoted value ++ ","
  "\x7b" ++ String.join written ++ quoted "permit_reference_ids" ++ ":[" ++ ",".intercalate permits ++ "]\x7d"

/-- The factory of the delivery. Only the digest of its own wire request is asked for, and
no response is read. -/
def factory : DeliveryFactory where
  catalog := ⟨[entry]⟩
  expectedClockReference := "clock"
  format :=
    { sha256 := fun _ => 
        "4f03845e45b41b811148239f83f7d322a77b653443b911407d72bf023f12fe6e"
      dump := fun request => utf8 (wireJson request)
      load := fun _ => .error (.port ⟨.contract, "connector JSON is malformed"⟩) }

/-- The facts of a result completed at a time. -/
def facts (completedAt : DateTime) : RuntimeConnectorDeliveryOutcomeFacts where
  runtimeEffectDeliveryResultId := 95
  startedAt := 12
  completedAt := completedAt
  resultReference := "result"
  resultDigestReference := "result-digest"
  failureCode := .timeout
  failureReference := "no-answer"
  resultFactDigestReference := "result-facts"

/-- The delivery is asked for, and the transport called. -/
def sending (completedAt : DateTime) : List DeliveryEvent :=
  [.deliver invocation (.ok (facts completedAt)),
    .materialized 0
      (.ok ⟨"desk-credential", "connector.invoke", "desk-provisioning", some [115, 51]⟩),
    .clockRead 0 (.ok ⟨"clock", ⟨12, 0⟩⟩) .leaves (.ok ⟨true, true, true, true⟩)]

/-- The call of the transport. -/
def sent : PostCall where
  endpointUri := "https://desk/v1/runtime/connector"
  authorization := utf8 "Bearer " ++ [115, 51]
  body := factory.format.dump (wireOf request)
  remaining := 6

/-- The delivery after its transport raised. -/
def unanswered (completedAt : DateTime) : ManagedDelivery where
  entered := true
  used := true
  secret := some [115, 51]
  transport := true
  calls := [⟨some (facts completedAt), [sent], some (.error ()),
    .ended (deliveryResult request (facts completedAt) .ambiguous none)⟩]

/-- The whole life of the delivery. -/
def life (completedAt : DateTime) : Option ManagedDelivery :=
  (sending completedAt ++ [DeliveryEvent.answered 0 (.error ())]).foldlM
    (ManagedDelivery.next factory request) { entered := true }

theorem reachable_of_life {state : ManagedDelivery} {completedAt : DateTime}
    (lived : life completedAt = some state) : (managedDelivery factory request).Reachable state :=
  ⟨{ entered := true }, _, ⟨by decide, rfl⟩, TransitionSystem.Steps.of_foldlM id lived⟩

end Sample

/-- The delivery whose facts are inside the window says that it does not know. -/
theorem certaintySound_unanswered :
    CertaintySound Sample.factory Sample.request (Sample.unanswered 14) := by
  have reachable := @Sample.reachable_of_life (Sample.unanswered 14) 14 (by decide +kernel)
  refine (certaintySound_iff reachable).mpr fun call member after facts given => ?_
  obtain rfl := List.mem_singleton.mp member
  obtain rfl := Option.some.inj given
  exact ⟨by decide, by decide, by decide⟩

/-- The delivery whose facts complete after the deadline sends, is not answered, and
raises. -/
theorem delivery_lost :
    (managedDelivery Sample.factory Sample.request).Reachable (Sample.unanswered 19) ∧
      (Sample.unanswered 19).posts = [Sample.sent] ∧
      ¬ CertaintySound Sample.factory Sample.request (Sample.unanswered 19) := by
  refine ⟨@Sample.reachable_of_life (Sample.unanswered 19) 19 (by decide +kernel), rfl,
    fun sound => ?_⟩
  obtain ⟨result, returned, _⟩ :=
    sound.returns _ (List.mem_singleton.mpr rfl) ⟨List.cons_ne_nil _ _, _, rfl⟩
  have raised : deliveryResult Sample.request (Sample.facts 19) .ambiguous none =
      .error (.port ⟨.contract, "delivery result falls outside the attempt window"⟩) := by
    decide +kernel
  exact absurd (raised.symm.trans (DeliverPhase.ended.inj returned)) nofun

end PolicyOS.Runtime.Connector
