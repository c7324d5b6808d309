import Mathlib.Data.Finset.Insert
import PolicyOS.Knowledge.Providers.Execution

/-!
# Governed execution

The candidates that are tried are distinct, were all admitted by the selector, and are no more
than the policy allows. What must stay inside never reaches a provider outside. An error is
raised only if nobody answered, or if the last attempt ended with an error after which no other
provider may be tried; otherwise the last answer is returned.
-/

namespace PolicyOS.Knowledge.Providers

open Foundation

variable {Outside α β : Type} {surroundings : Surroundings Outside} {hashing : KeyHashing}
  {registration : RegisteredKnowledgeProvider} {attempt : AttemptContext}
  {service : KnowledgeProviderExecutionService Outside} {request : KnowledgeProviderRequest}
  {execution : ProviderExecutionContext}

/-! ## Code that calls no provider -/

/-- No provider was called and no attempt noted. -/
def Unmoved (start final : ServiceState Outside) : Prop :=
  final.tried = start.tried ∧ final.asked = start.asked

instance : @Std.Refl (ServiceState Outside) Unmoved := ⟨fun _ => ⟨rfl, rfl⟩⟩

instance : IsTrans (ServiceState Outside) Unmoved :=
  ⟨fun _ _ _ first second => ⟨second.1.trans first.1, second.2.trans first.2⟩⟩

theorem unmoved_observe {operation : Outside → α × Outside} :
    Within Unmoved (observe operation) :=
  fun _ => leads_modifyGet.mpr ⟨rfl, rfl⟩

theorem unmoved_outside {operation : Outside → Except Raised α × Outside} :
    Within Unmoved (outside operation) := by
  refine Within.bind (fun start => ?_) fun _ => within_ofResult
  exact leads_modifyGet.mpr ⟨rfl, rfl⟩

theorem unmoved_lookUp {key : Text} : Within Unmoved (lookUp surroundings key) := by
  unfold lookUp
  cases surroundings.cache with
  | none => exact within_pure
  | some cache => exact unmoved_outside.bind fun _ => within_pure

theorem unmoved_keep {key : Text} {response : KnowledgeProviderResponse} {question : Question} :
    Within Unmoved (keep surroundings key response question) := by
  unfold keep
  cases surroundings.cache with
  | none => exact within_pure
  | some cache => exact unmoved_outside

theorem unmoved_audit {event : ProviderAuditEvent} :
    Within Unmoved (audit event : Service Outside Unit) :=
  fun _ => leads_modify.mpr ⟨rfl, rfl⟩

theorem leads_answerAnew {start : ServiceState Outside} :
    Leads (answerAnew surroundings hashing registration attempt)
      (fun _ => Unmoved { start with asked := start.asked ++ [registration] })
      (fun _ => Unmoved { start with asked := start.asked ++ [registration] }) start := by
  simp only [answerAnew, callProvider, bind_assoc, leads_bind, leads_modify]
  simpa only [leads_bind] using
    (unmoved_observe.bind fun _ => within_ofResult.bind fun _ =>
      (within_normalizeAll unmoved_observe).bind fun _ => unmoved_keep.bind fun _ =>
        unmoved_audit.bind fun _ => within_pure) _

/-! ## One attempt -/

/-- A provider was called at most once, and only if that was permitted. -/
def Called (registration : RegisteredKnowledgeProvider) (attempt : AttemptContext)
    (start final : ServiceState Outside) : Prop :=
  final.tried = start.tried ∧
    (final.asked = start.asked ∨
      permitted registration attempt = .ok () ∧ final.asked = start.asked ++ [registration])

/-- Trying one provider calls at most that one, and only if it is permitted. -/
theorem leads_executeOne {start : ServiceState Outside} :
    Leads (executeOne surroundings hashing registration attempt)
      (fun _ => Called registration attempt start) (fun _ => Called registration attempt start)
      start := by
  have untouched : ∀ final, Unmoved start final → Called registration attempt start final :=
    fun _ unmoved => ⟨unmoved.1, .inl unmoved.2⟩
  simp only [executeOne, leads_bind, leads_ofResult]
  refine ⟨fun _ allowed => ?_, fun _ _ => untouched _ ⟨rfl, rfl⟩⟩
  refine (unmoved_lookUp start).imp (fun cached later unmoved => ?_) fun _ => untouched
  cases cached with
  | some value => exact untouched _ unmoved
  | none =>
      have called : ∀ final, Unmoved { later with asked := later.asked ++ [registration] } final →
          Called registration attempt start final := fun final same =>
        ⟨same.1.trans unmoved.1, .inr ⟨allowed, by rw [same.2, unmoved.2]⟩⟩
      exact leads_answerAnew.imp (fun _ => called) fun _ => called

/-- What was noted of an attempt. -/
def noted (outcome : Except KnowledgeProviderError KnowledgeProviderResponse) :
    Except Raised KnowledgeProviderResponse :=
  outcome.mapError .provider

/-- An attempt is noted with what it came to. Only what is no provider error goes on. -/
theorem leads_tryOne {start : ServiceState Outside} {providerName : String} :
    Leads (service.tryOne registration attempt providerName)
      (fun outcome final => final.tried = start.tried ++ [⟨providerName, noted outcome⟩] ∧
        Called registration attempt start { final with tried := start.tried })
      (fun raised final => raised = .unhandled ∧
        final.tried = start.tried ++ [⟨providerName, .error .unhandled⟩] ∧
          Called registration attempt start { final with tried := start.tried }) start := by
  simp only [KnowledgeProviderExecutionService.tryOne, leads_tryCatch, leads_bind, leads_modify,
    leads_pure]
  refine leads_executeOne.imp (fun response final called => ?_) fun raised final called => ?_
  · exact ⟨by rw [called.1]; rfl, rfl, called.2⟩
  · cases raised with
    | provider error => exact ⟨by rw [called.1]; rfl, rfl, called.2⟩
    | unhandled => exact ⟨rfl, by rw [called.1], rfl, called.2⟩

/-! ## What governs a run -/

/-- The last answer of attempts. -/
def lastAnswer (tried : List Attempt) : Option KnowledgeProviderResponse :=
  (tried.filterMap (·.outcome.toOption)).getLast?

/-- What is asked must stay inside: it is restricted, or confidential and not allowed outside. -/
def MustStayInside (request : KnowledgeProviderRequest) (execution : ProviderExecutionContext) :
    Prop :=
  effectiveClassification execution.context.classification request.classification = .restricted ∨
    effectiveClassification execution.context.classification request.classification =
      .confidential ∧ execution.context.confidentialExternalAllowed = false

/-- The providers a request is tried with, as the selector orders them. -/
def selectionOf (service : KnowledgeProviderExecutionService Outside)
    (request : KnowledgeProviderRequest) (execution : ProviderExecutionContext) :
    ProviderSelectionResult :=
  select service.registry (selectionRequest request execution)

/-- What was tried and whom it called. -/
structure Governed (service : KnowledgeProviderExecutionService Outside)
    (request : KnowledgeProviderRequest) (execution : ProviderExecutionContext)
    (tried : List Attempt) (asked : List RegisteredKnowledgeProvider) : Prop where
  inOrder : (tried.map (·.providerName)) <+: (selectionOf service request execution).names
  distinct : (tried.map (·.providerName)).Nodup
  admitted : ∀ attempt ∈ tried, ∃ item,
    service.registry.get attempt.providerName (some execution.context.organizationId) = .ok item ∧
      item.enabled = true ∧ (selectionRequest request execution).Admits item
  bounded : tried.length ≤ max 1 service.fallback.maxAttempts
  calls : (asked.map (·.providerName)).Sublist (tried.map (·.providerName))
  inside : MustStayInside request execution →
    ∀ item ∈ asked, item.providerType.isExternal = false

/-- The attempts and calls since a state. -/
structure Since (start final : ServiceState Outside) (tried : List Attempt)
    (asked : List RegisteredKnowledgeProvider) : Prop where
  tried : final.tried = start.tried ++ tried
  asked : final.asked = start.asked ++ asked

variable {tried : List Attempt} {asked : List RegisteredKnowledgeProvider}
  {start state final : ServiceState Outside}

theorem names_selectionOf :
    (selectionOf service request execution).names =
      (candidatesFor service.registry (selectionRequest request execution)).map
        (·.providerName) :=
  names_select

theorem get_of_names {name : String}
    (isName : name ∈ (selectionOf service request execution).names) :
    ∃ item, service.registry.get name (some execution.context.organizationId) = .ok item ∧
      item.providerName = name ∧ item.enabled = true ∧
        (selectionRequest request execution).Admits item := by
  rw [names_selectionOf] at isName
  obtain ⟨item, isCandidate, name⟩ := List.mem_map.mp isName
  obtain ⟨⟨isListed, enabled⟩, admits⟩ := mem_candidatesFor_iff.mp isCandidate
  exact ⟨item, name ▸ get_of_mem_list isListed, name, enabled, admits⟩

/-- Who is tried in the order of the selection is tried once, and was admitted. -/
theorem Governed.of
    (inOrder : (tried.map (·.providerName)) <+: (selectionOf service request execution).names)
    (bounded : tried.length ≤ max 1 service.fallback.maxAttempts)
    (calls : (asked.map (·.providerName)).Sublist (tried.map (·.providerName)))
    (inside : MustStayInside request execution →
      ∀ item ∈ asked, item.providerType.isExternal = false) :
    Governed service request execution tried asked where
  inOrder := inOrder
  distinct := by
    have names : (selectionOf service request execution).names.Nodup := by
      rw [names_selectionOf]
      exact nodup_candidatesFor
    exact names.sublist inOrder.sublist
  admitted := by
    intro attempt isTried
    obtain ⟨item, found, -, enabled, admits⟩ :=
      get_of_names (inOrder.subset (List.mem_map_of_mem isTried))
    exact ⟨item, found, enabled, admits⟩
  bounded := bounded
  calls := calls
  inside := inside

theorem governed_nil : Governed service request execution [] [] :=
  .of List.nil_prefix (by simp) (by simp) fun _ => by simp

/-- What is permitted outside need not stay inside. -/
theorem not_external_of_permitted {attempt : AttemptContext}
    (isEffective : attempt.effectiveClassification =
      effectiveClassification attempt.execution.context.classification
        attempt.request.classification)
    (allowed : permitted registration attempt = .ok ())
    (mustStay : MustStayInside attempt.request attempt.execution) :
    registration.providerType.isExternal = false := by
  simp only [permitted, bind_eq_ok_iff, exists_unit_iff, rejectIf_eq_ok_iff] at allowed
  obtain ⟨-, unrestricted, allowed⟩ := allowed
  rw [isEffective] at unrestricted allowed
  by_contra external
  have external := Bool.eq_true_of_not_eq_false external
  rcases mustStay with restricted | ⟨confidential, notAllowed⟩
  · exact unrestricted ⟨external, restricted⟩
  · exact allowed ⟨external, confidential, notAllowed⟩

/-- One more attempt is governed. -/
theorem Governed.step (governed : Governed service request execution tried asked)
    {attempt : AttemptContext} {name : String} {rest : List String}
    {outcome : Except Raised KnowledgeProviderResponse}
    (names : (selectionOf service request execution).names =
      tried.map (·.providerName) ++ name :: rest)
    (fits : tried = [] ∨ tried.length < service.fallback.maxAttempts)
    (isName : registration.providerName = name)
    (isRequest : attempt.request = request) (isExecution : attempt.execution = execution)
    (isEffective : attempt.effectiveClassification =
      effectiveClassification execution.context.classification request.classification)
    {before after : ServiceState Outside} (since : Since start before tried asked)
    (called : Called registration attempt before { after with tried := before.tried })
    (isTried : after.tried = before.tried ++ [⟨name, outcome⟩]) :
    ∃ asked', Since start after (tried ++ [⟨name, outcome⟩]) asked' ∧
      Governed service request execution (tried ++ [⟨name, outcome⟩]) asked' := by
  subst isRequest isExecution
  have inOrder : ((tried ++ [(⟨name, outcome⟩ : Attempt)]).map (·.providerName)) <+:
      (selectionOf service attempt.request attempt.execution).names :=
    ⟨rest, by simp [names]⟩
  have bounded : (tried ++ [(⟨name, outcome⟩ : Attempt)]).length ≤ max 1 service.fallback.maxAttempts := by
    rw [List.length_append, List.length_singleton]
    rcases fits with rfl | short
    · exact le_max_left ..
    · exact le_max_of_le_right short
  have allTried : after.tried = start.tried ++ (tried ++ [⟨name, outcome⟩]) := by
    rw [isTried, since.tried, List.append_assoc]
  rcases called.2 with same | ⟨allowed, one⟩
  · refine ⟨asked, ⟨allTried, same.trans since.asked⟩,
      .of inOrder bounded ?_ governed.inside⟩
    rw [List.map_append]
    exact governed.calls.trans (List.sublist_append_left ..)
  · refine ⟨asked ++ [registration],
      ⟨allTried, by rw [one, since.asked, List.append_assoc]⟩, .of inOrder bounded ?_ ?_⟩
    · rw [List.map_append, List.map_append]
      exact governed.calls.append (by simp [isName])
    · intro mustStay item isAsked
      rcases List.mem_append.mp isAsked with isAsked | isAsked
      · exact governed.inside mustStay item isAsked
      · obtain rfl := List.mem_singleton.mp isAsked
        exact not_external_of_permitted isEffective allowed mustStay

/-! ## All attempts -/

/-- Errors after which no other provider is tried: what is no provider error, and errors of
authentication, policy and security. -/
def Raised.EndsAttempts : Raised → Prop
  | .provider error => error.errorClass.prohibitsFallback = true
  | .unhandled => True

/-- The run so far is governed, and its leftovers tell what came of it. -/
structure Underway (service : KnowledgeProviderExecutionService Outside)
    (request : KnowledgeProviderRequest) (execution : ProviderExecutionContext)
    (start state : ServiceState Outside) (left : Leftovers) (tried : List Attempt) : Prop where
  since : ∃ asked, Since start state tried asked ∧ Governed service request execution tried asked
  attempted : left.attempted = tried.map (·.providerName)
  lastResponse : left.lastResponse = lastAnswer tried

/-- A request is answered with the last answer, by a governed run. -/
def Answered (service : KnowledgeProviderExecutionService Outside)
    (request : KnowledgeProviderRequest) (execution : ProviderExecutionContext)
    (start : ServiceState Outside) (result : ProviderExecutionResult)
    (final : ServiceState Outside) : Prop :=
  ∃ tried asked, Since start final tried asked ∧ Governed service request execution tried asked ∧
    lastAnswer tried = some result.response ∧
      result.attemptedProviders = tried.map (·.providerName)

/-- A governed run raises an error: nobody answered, or the last attempt ended with it and no
other may be made. -/
def Unanswered (service : KnowledgeProviderExecutionService Outside)
    (request : KnowledgeProviderRequest) (execution : ProviderExecutionContext)
    (start : ServiceState Outside) (raised : Raised) (final : ServiceState Outside) : Prop :=
  ∃ tried asked, Since start final tried asked ∧ Governed service request execution tried asked ∧
    (lastAnswer tried = none ∨ ∃ attempt, tried.getLast? = some attempt ∧
      attempt.outcome = .error raised ∧ raised.EndsAttempts)

variable {left : Leftovers} {selection : ProviderSelectionResult}

/-- Attempts end with the last answer, if there is one. -/
theorem Underway.finish (underway : Underway service request execution start state left tried) :
    Leads (KnowledgeProviderExecutionService.finish execution selection left)
      (Answered service request execution start) (Unanswered service request execution start)
      state := by
  obtain ⟨asked, since, governed⟩ := underway.since
  unfold KnowledgeProviderExecutionService.finish
  cases answered : left.lastResponse with
  | some response =>
      exact ⟨tried, asked, since, governed, underway.lastResponse.symm.trans answered,
        underway.attempted⟩
  | none =>
      exact ⟨tried, asked, since, governed, .inl (underway.lastResponse.symm.trans answered)⟩

theorem lastAnswer_append {attempt : Attempt} :
    lastAnswer (tried ++ [attempt]) = attempt.outcome.toOption.or (lastAnswer tried) := by
  unfold lastAnswer
  rw [List.filterMap_append]
  cases answered : attempt.outcome.toOption <;> simp [answered]

theorem fallbackReason_ne_prohibited (error : Option KnowledgeProviderError) :
    fallbackReason error ≠ .prohibited := by
  unfold fallbackReason
  dsimp only
  split_ifs <;> nofun

section Decision

variable {policy : ProviderFallbackPolicy} {error : Option KnowledgeProviderError}
  {response : Option KnowledgeProviderResponse} {candidates attempted : List String}
  {allowEmpty explicitProviderOnly : Bool}

/-- What the policy allows leaves room for one more. -/
theorem fits_of_allowed
    (allowed : (policy.decide error response candidates attempted allowEmpty
      explicitProviderOnly).allowed = true) :
    attempted.length < policy.maxAttempts ∧ explicitProviderOnly = false := by
  unfold ProviderFallbackPolicy.decide at allowed
  split at allowed
  · cases allowed
  next free =>
    split at allowed
    · cases allowed
    next room => exact ⟨not_le.mp room, Bool.eq_false_of_not_eq_true (not_or.mp free).1⟩

/-- What is prohibited is so because only one provider may be asked, or because of the error, or
because nothing may be empty. -/
theorem prohibited_of_decide
    (prohibited : (policy.decide error response candidates attempted allowEmpty
      explicitProviderOnly).reason = .prohibited) :
    explicitProviderOnly = true ∨ (error.any (·.errorClass.prohibitsFallback)) = true ∨
      allowEmpty = false := by
  unfold ProviderFallbackPolicy.decide at prohibited
  split at prohibited
  next barred => exact barred.imp_right .inl
  split at prohibited
  · cases prohibited
  split at prohibited
  next empty => exact .inr (.inr (Bool.eq_false_of_not_eq_true empty.2))
  · dsimp only at prohibited
    split at prohibited
    · cases prohibited
    · exact absurd prohibited (fallbackReason_ne_prohibited error)

end Decision

/-- Where the loop stands: whom it still has to try, and that it may. -/
structure Entering (service : KnowledgeProviderExecutionService Outside)
    (request : KnowledgeProviderRequest) (execution : ProviderExecutionContext)
    (start state : ServiceState Outside) (left : Leftovers) (tried : List Attempt)
    (rest : List String) : Prop
    extends Underway service request execution start state left tried where
  names : (selectionOf service request execution).names = tried.map (·.providerName) ++ rest
  fits : tried = [] ∨ tried.length < service.fallback.maxAttempts
  explicitOnly : execution.allowFallback = false → tried = []
  clean : tried = [] → left.lastError = none

/-- One attempt moves the loop on. -/
theorem Entering.tryOne {name : String} {rest : List String}
    (entering : Entering service request execution start state left tried (name :: rest))
    {attempt : AttemptContext} (isName : registration.providerName = name)
    (isRequest : attempt.request = request) (isExecution : attempt.execution = execution)
    (isEffective : attempt.effectiveClassification =
      effectiveClassification execution.context.classification request.classification)
    {after : ServiceState Outside} {outcome : Except Raised KnowledgeProviderResponse}
    (called : Called registration attempt state { after with tried := state.tried })
    (isTried : after.tried = state.tried ++ [⟨name, outcome⟩]) :
    ∃ asked, Since start after (tried ++ [⟨name, outcome⟩]) asked ∧
      Governed service request execution (tried ++ [⟨name, outcome⟩]) asked := by
  obtain ⟨asked, since, governed⟩ := entering.since
  exact governed.step entering.names entering.fits isName isRequest isExecution isEffective since
    called isTried

/-- What the policy allows after an attempt enters the loop again. -/
theorem Underway.enter {attempt : Attempt} {rest : List String}
    (underway : Underway service request execution start state left (tried ++ [attempt]))
    (names : (selectionOf service request execution).names =
      tried.map (·.providerName) ++ attempt.providerName :: rest)
    {error : Option KnowledgeProviderError} {response : Option KnowledgeProviderResponse}
    {candidates : List String} {allowEmpty : Bool}
    (allowed : (service.fallback.decide error response candidates left.attempted allowEmpty
      (!execution.allowFallback)).allowed = true) :
    Entering service request execution start state left (tried ++ [attempt]) rest where
  toUnderway := underway
  names := by simp [names]
  fits := by
    have room := (fits_of_allowed allowed).1
    rw [underway.attempted, List.length_map] at room
    exact .inr room
  explicitOnly := by
    intro explicitOnly
    have free := (fits_of_allowed allowed).2
    rw [explicitOnly] at free
    cases free
  clean := fun nothing => absurd nothing (by simp)

theorem lastAnswer_failed {name : String} {raised : Raised} (first : tried = []) :
    lastAnswer (tried ++ [⟨name, .error raised⟩]) = none := by
  rw [first]
  rfl

/-- Trying the candidates that are left answers, or raises what it may. -/
theorem Entering.tryCandidates {rest : List String}
    (entering : Entering service request execution start state left tried rest) :
    Leads (service.tryCandidates request execution (selectionOf service request execution)
        (effectiveClassification execution.context.classification request.classification) rest left)
      (Answered service request execution start) (Unanswered service request execution start)
      state := by
  induction rest generalizing state left tried with
  | nil =>
      rw [KnowledgeProviderExecutionService.tryCandidates]
      exact entering.finish
  | cons name rest ih =>
      have isName : name ∈ (selectionOf service request execution).names := by
        simp [entering.names]
      obtain ⟨registration, found, isName, -⟩ := get_of_names isName
      rw [KnowledgeProviderExecutionService.tryCandidates]
      simp only [found, Except.mapError, leads_bind, leads_ofResult]
      refine ⟨fun _ same => ?_, by rintro _ ⟨⟩⟩
      cases same
      refine leads_tryOne.imp (fun outcome after held => ?_) fun raised final held => ?_
      · obtain ⟨isTried, called⟩ := held
        have ran := entering.tryOne isName rfl rfl rfl called isTried
        have attempted : left.attempted ++ [name] =
            (tried ++ [(⟨name, noted outcome⟩ : Attempt)]).map (·.providerName) := by
          simp [entering.attempted]
        cases outcome with
        | ok response =>
            have underway : Underway service request execution start after
                { left with attempted := left.attempted ++ [name], lastResponse := some response }
                (tried ++ [⟨name, .ok response⟩]) := ⟨ran, attempted, by rw [lastAnswer_append]; rfl⟩
            dsimp only
            split
            · exact underway.finish
            next empty =>
              split
              next allowed => exact ih (underway.enter entering.names allowed)
              next =>
                split
                next error failed =>
                  split
                  next prohibited =>
                    -- Only one provider may be asked, so none failed before this one.
                    rcases prohibited_of_decide prohibited with explicitOnly | none_ | notEmpty
                    · have first := entering.explicitOnly (by simpa using explicitOnly)
                      rw [entering.clean first] at failed
                      cases failed
                    · cases none_
                    · exact absurd (.inr notEmpty) empty
                  next => exact underway.finish
                next => exact underway.finish
        | error error =>
            obtain ⟨asked, since, governed⟩ := ran
            simp only [audit, leads_bind, leads_modify]
            have audited : Since start { after with events := after.events ++ [auditEvent
                service.hashing registration ⟨request, execution,
                  selectionOf service request execution, left.attempted ++ [name],
                  effectiveClassification execution.context.classification
                    request.classification⟩ none (some error)] }
                (tried ++ [⟨name, .error (.provider error)⟩]) asked := ⟨since.tried, since.asked⟩
            have underway : Underway service request execution start _
                { left with
                  attempted := left.attempted ++ [name]
                  failures := left.failures ++ [error.errorClass.code]
                  lastError := some error }
                (tried ++ [⟨name, .error (.provider error)⟩]) :=
              ⟨⟨asked, audited, governed⟩, attempted, by
                rw [lastAnswer_append]
                exact entering.lastResponse⟩
            split
            next allowed => exact ih (underway.enter entering.names allowed)
            next =>
              split
              next prohibited =>
                refine ⟨_, asked, audited, governed, ?_⟩
                rcases prohibited_of_decide prohibited with explicitOnly | prohibits | notEmpty
                · exact .inl (lastAnswer_failed (entering.explicitOnly (by simpa using explicitOnly)))
                · exact .inr ⟨_, List.getLast?_concat .., rfl, prohibits⟩
                · cases notEmpty
              next => exact underway.finish
      · obtain ⟨rfl, isTried, called⟩ := held
        obtain ⟨asked, since, governed⟩ := entering.tryOne isName rfl rfl rfl called isTried
        exact ⟨_, asked, since, governed, .inr ⟨_, List.getLast?_concat .., rfl, trivial⟩⟩

theorem unanswered_at_once (raised : Raised) :
    Unanswered service request execution start raised start :=
  ⟨[], [], ⟨by simp, by simp⟩, governed_nil, .inl rfl⟩

/-- A request is answered with the last answer of a governed run, or refused by one that was not
answered or ended with an error after which no other provider may be tried. -/
theorem execute_governed (service : KnowledgeProviderExecutionService Outside)
    (request : KnowledgeProviderRequest) (execution : ProviderExecutionContext)
    (start : ServiceState Outside) :
    Leads (service.execute request execution) (Answered service request execution start)
      (Unanswered service request execution start) start := by
  rw [KnowledgeProviderExecutionService.execute]
  simp only [leads_bind, leads_ofResult]
  refine ⟨fun effective authorized => ?_, fun raised _ => unanswered_at_once raised⟩
  obtain rfl : effective =
      effectiveClassification execution.context.classification request.classification := by
    simp only [authorize, bind_eq_ok_iff, exists_unit_iff, pure_eq_ok_iff] at authorized
    exact authorized.2.2.2.symm
  split
  · exact unanswered_at_once _
  · have entering : Entering service request execution start start {} [] _ := {
      since := ⟨[], ⟨by simp, by simp⟩, governed_nil⟩
      attempted := rfl
      lastResponse := rfl
      names := rfl
      fits := .inl rfl
      explicitOnly := fun _ => rfl
      clean := fun _ => rfl }
    exact entering.tryCandidates

/-! ## An error after an answer -/

/-- An error is raised only if nobody answered. -/
def RaisesOnlyUnanswered (service : KnowledgeProviderExecutionService Outside)
    (request : KnowledgeProviderRequest) (execution : ProviderExecutionContext)
    (start : ServiceState Outside) : Prop :=
  Leads (service.execute request execution) (fun _ _ => True)
    (fun _ final => ∀ tried asked, Since start final tried asked → lastAnswer tried = none) start

namespace Sample

/-- A database that has nothing. -/
def database : RegisteredKnowledgeProvider where
  providerName := "database"
  providerType := .internalDatabase
  implementationVersion := "1"
  priority := 1
  capabilities := {.search}
  provider := ⟨"database", .internalDatabase, {.search}⟩

/-- A server outside. -/
def lawServer : RegisteredKnowledgeProvider where
  providerName := "law-server"
  providerType := .mcp
  implementationVersion := "1"
  priority := 2
  capabilities := {.search}
  provider := ⟨"law-server", .mcp, {.search}⟩

/-- Whoever is asked has nothing. -/
def emptyHanded : KnowledgeProviderExecutionService Unit where
  registry := { providers := [database, lawServer] }
  surroundings := {
    ask := fun _ question _ _ =>
      (.answered { providerName := question.registration.providerName }, ())
    now := fun _ => (0, ()) }
  hashing := ⟨id, id⟩

/-- A confidential question. -/
def confidentialRequest : KnowledgeProviderRequest where
  query := some "budget".toList
  organizationId := 1
  userId := 2
  requestId := "request"
  correlationId := "correlation"
  classification := .confidential

/-- Its context does not allow it to leave. -/
def confidentialExecution : ProviderExecutionContext where
  context := {
    organizationId := 1
    userId := 2
    requestId := "request"
    correlationId := "correlation"
    classification := .confidential }

end Sample

/-- The database answers that it has nothing, and the server outside may not be asked: the denial
is raised, and the answer is not returned. -/
theorem denial_hides_answer :
    ¬ ∀ (service : KnowledgeProviderExecutionService Unit) (request : KnowledgeProviderRequest)
        (execution : ProviderExecutionContext) (start : ServiceState Unit),
        RaisesOnlyUnanswered service request execution start := by
  intro always
  have leads := always Sample.emptyHanded Sample.confidentialRequest Sample.confidentialExecution
    { outside := () }
  have ran : (match (Sample.emptyHanded.execute Sample.confidentialRequest
      Sample.confidentialExecution).run { outside := () } with
    | .ok _ _ => false
    | .error _ final => (lastAnswer final.tried).isSome) = true := by
    decide +kernel
  unfold RaisesOnlyUnanswered Leads at leads
  split at leads
  next _ _ returned =>
    rw [returned] at ran
    cases ran
  next _ final raised =>
    rw [raised] at ran
    dsimp only at ran
    rw [leads final.tried final.asked ⟨rfl, rfl⟩] at ran
    cases ran

end PolicyOS.Knowledge.Providers
