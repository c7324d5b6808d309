import PolicyOS.Connectors.Client

/-!
# How requests of the connector client end

Every error the client raises for an answer is a connector error, but for the one of a 401: the
class it raises there does not take the code it is given. What is raised then is no error of the
connectors', and neither is what waiting raises once the power of two in its delay is larger than
any floating-point number.
-/

namespace PolicyOS.Connectors

open Foundation

variable {outcome : Except Raised HTTPConnectorResponse}

namespace HTTPConnectorClient

variable {client : HTTPConnectorClient} {call : ConnectorCall} {requestHeaders : Headers}
  {answers : Nat → TransportAnswer} {draws : Nat → ℚ} {made : Nat}

/-! ## Answers -/

/-- A response whose content is admitted, whatever its status. -/
def Readable (client : HTTPConnectorClient) (response : Response) : Prop :=
  (response.content.length : Int) ≤ client.maxResponseBytes ∧ ¬ HasScript response.content

/-- An answer after which the request may be sent again: a timeout, an error of the transport, or
a status that may pass. -/
def Passing (client : HTTPConnectorClient) : TransportAnswer → Prop
  | .response response =>
      client.Readable response ∧ (response.statusCode = 429 ∨ 500 ≤ response.statusCode)
  | .timeoutError | .timeoutException | .httpError => True
  | .returnedTimeout | .returnedOther | .blocked _ => False

/-- The response that the credential is not accepted. -/
def Unauthorized (client : HTTPConnectorClient) : TransportAnswer → Prop
  | .response response => client.Readable response ∧ response.statusCode = 401
  | _ => False

/-- Why a response is refused. -/
inductive Refused (client : HTTPConnectorClient) (response : Response) : Raised → Prop
  | passing (error : ConnectorError) (retryable : error.retryable = true)
      (passes : client.Passing (.response response)) : Refused client response (.connector error)
  | unauthorized (message : String) (isUnauthorized : client.Unauthorized (.response response)) :
      Refused client response (.typeError message)
  | lasting (error : ConnectorError) (retryable : error.retryable = false)
      (stays : ¬ client.Passing (.response response))
      (authorized : ¬ client.Unauthorized (.response response)) :
      Refused client response (.connector error)

theorem refused_of_admitResponse {response : Response} {raised : Raised}
    (refused : client.admitResponse response = .error raised) :
    client.Refused response raised := by
  simp only [admitResponse, validateResponse, bind_eq_error_iff, rejectIf_eq_error_iff,
    rejectIf_eq_ok_iff, exists_unit_iff, authenticationError] at refused
  rcases refused with ⟨large, rfl⟩ | ⟨fits, ⟨script, rfl⟩ | ⟨clean, refused⟩⟩
  · exact .lasting _ rfl (fun passes => large.not_ge passes.1.1)
      fun isUnauthorized => large.not_ge isUnauthorized.1.1
  · exact .lasting _ rfl (fun passes => passes.1.2 script)
      fun isUnauthorized => isUnauthorized.1.2 script
  have readable : client.Readable response := ⟨not_lt.mp fits, clean⟩
  rcases refused with ⟨denied, rfl⟩ | ⟨authorized, refused⟩
  · exact .unauthorized _ ⟨readable, denied⟩
  have stays (calm : ¬ (response.statusCode = 429 ∨ 500 ≤ response.statusCode)) :
      ¬ client.Passing (.response response) := fun passes => calm passes.2
  have isAuthorized : ¬ client.Unauthorized (.response response) :=
    fun isUnauthorized => authorized isUnauthorized.2
  rcases refused with ⟨forbidden, rfl⟩ | ⟨-, ⟨limited, rfl⟩ | ⟨unlimited, ⟨failed, rfl⟩ |
    ⟨served, -, rfl⟩⟩⟩
  · exact .lasting _ rfl (stays (by omega)) isAuthorized
  · exact .passing _ rfl ⟨readable, .inl limited⟩
  · exact .passing _ rfl ⟨readable, .inr failed⟩
  · exact .lasting _ rfl (stays (by omega)) isAuthorized

theorem admitResponse_eq_ok_iff {response : Response} :
    client.admitResponse response = .ok () ↔
      client.Readable response ∧ response.statusCode ∉ [401, 403, 429] ∧
        response.statusCode < 500 ∧ response.statusCode ∉ redirects := by
  simp only [admitResponse, validateResponse, bind_eq_ok_iff, exists_unit_iff, rejectIf_eq_ok_iff,
    Readable, not_lt, not_le, List.mem_cons, List.not_mem_nil, or_false, not_or]
  tauto

/-! ## Attempts -/

/-- How a request may end: with a response whose content is within the limit and whose status is
no failure, or with an error of the connectors'. -/
def Admissible (client : HTTPConnectorClient) : Except Raised HTTPConnectorResponse → Prop
  | .ok response =>
      (response.content.length : Int) ≤ client.maxResponseBytes ∧
        response.statusCode ∉ [401, 403, 429] ∧ response.statusCode < 500 ∧
          response.statusCode ∉ redirects
  | .error raised => raised.Own

/-- What an attempt comes to: it may be repeated exactly after a passing answer, and ends in an
admissible way then; and it ends so otherwise exactly unless the credential is not accepted. -/
inductive Answered (client : HTTPConnectorClient) (answer : TransportAnswer) :
    Verdict (Except Raised HTTPConnectorResponse) → Prop
  | again {outcome : Except Raised HTTPConnectorResponse} (passes : client.Passing answer)
      (admissible : client.Admissible outcome) : Answered client answer (.again outcome)
  | final {outcome : Except Raised HTTPConnectorResponse} (stays : ¬ client.Passing answer)
      (admissible : client.Admissible outcome ↔ ¬ client.Unauthorized answer) :
      Answered client answer (.final outcome)

theorem answered (client : HTTPConnectorClient) (call : ConnectorCall) (requestHeaders : Headers)
    (answers : Nat → TransportAnswer) (made : Nat) :
    client.Answered (answers made)
      (handled (client.attempt call requestHeaders answers made)) := by
  unfold attempt
  cases answers made with
  | returnedTimeout | returnedOther | blocked =>
      exact .final id ⟨fun _ => id, fun _ => .connector _⟩
  | timeoutError | timeoutException | httpError => exact .again trivial (.connector _)
  | response response =>
      cases admitted : client.admitResponse response with
      | ok value =>
          obtain ⟨readable, known, served, direct⟩ := admitResponse_eq_ok_iff.mp admitted
          simp only [List.mem_cons, List.not_mem_nil, or_false, not_or] at known
          simp only [sendRequest, admitted, handled, Bind.bind, Except.bind, Pure.pure,
            Except.pure]
          refine .final (fun passes => ?_) (iff_of_true ?_ fun denied => known.1 denied.2)
          · rcases passes.2 with limited | failed
            · exact known.2.2 limited
            · exact absurd served (not_lt.mpr failed)
          · exact ⟨readable.1, by simpa using known, served, direct⟩
      | error raised =>
          simp only [sendRequest, admitted, Bind.bind, Except.bind]
          cases refused_of_admitResponse admitted with
          | passing error retryable passes =>
              simp only [handled, retryable, if_true]
              exact .again passes (.connector error)
          | unauthorized message isUnauthorized =>
              refine .final (fun passes => ?_) (iff_of_false nofun (not_not.mpr isUnauthorized))
              have status := isUnauthorized.2
              have other := passes.2
              omega
          | lasting error retryable stays authorized =>
              simp only [handled, retryable, Bool.false_eq_true, if_false]
              exact .final stays (iff_of_true (.connector error) authorized)

theorem passing_not_unauthorized {answer : TransportAnswer} (passes : client.Passing answer) :
    ¬ client.Unauthorized answer := by
  cases answer with
  | response response =>
      rintro ⟨-, denied⟩
      have status := passes.2
      omega
  | _ => exact id

/-! ## Runs -/

theorem pause_eq_none_iff :
    (client.loop call requestHeaders answers draws).pause (made + 1) = none ↔ made < 1024 := by
  simp only [loop, RetryPolicy.delayFor, floatPower, Nat.add_one_sub_one, Nat.succ_ne_zero,
    if_false]
  by_cases large : 1024 ≤ made
  · simp [rejectIf, large, Bind.bind, Except.bind]
  · simp [rejectIf, large, Bind.bind, Except.bind, Pure.pure, Except.pure, not_le.mp large]

theorem pause_not_admissible
    (failed : (client.loop call requestHeaders answers draws).pause (made + 1) = some outcome) :
    ¬ client.Admissible outcome := by
  simp only [loop, RetryPolicy.delayFor, floatPower, Nat.add_one_sub_one, Nat.succ_ne_zero,
    if_false] at failed
  by_cases large : 1024 ≤ made
  · simp only [rejectIf, large, if_true, Bind.bind, Except.bind, Option.some.injEq] at failed
    subst failed
    rintro ⟨⟩
  · simp [rejectIf, large, Bind.bind, Except.bind, Pure.pure, Except.pure] at failed

/-- An attempt is repeated exactly after a passing answer, where a retry is left and the wait
before it has a length. -/
theorem repeats_iff :
    (client.loop call requestHeaders answers draws).Repeats made ↔
      client.Passing (answers made) ∧ (made : Int) < client.retryPolicy.maxRetries ∧
        made < 1024 := by
  unfold RetryLoop.Repeats
  rw [pause_eq_none_iff]
  refine and_congr ?_ Iff.rfl
  have verdict := client.answered call requestHeaders answers made
  simp only [loop]
  cases result : handled (client.attempt call requestHeaders answers made) with
  | final outcome =>
      rw [result] at verdict
      cases verdict with
      | final stays _ => exact iff_of_false nofun stays
  | again outcome =>
      rw [result] at verdict
      cases verdict with
      | again passes _ => exact iff_of_true ⟨outcome, rfl⟩ passes

/-- The attempt a request stops at ends it in an admissible way unless its credential is not
accepted there, or the wait before the next one has no length. -/
theorem admissible_of_stops
    (stops : (client.loop call requestHeaders answers draws).Stops made outcome) :
    client.Admissible outcome ↔
      ¬ client.Unauthorized (answers made) ∧
        ¬ (client.Passing (answers made) ∧ (made : Int) < client.retryPolicy.maxRetries ∧
          1024 ≤ made) := by
  have verdict := client.answered call requestHeaders answers made
  cases stops with
  | final answered =>
      rw [show handled _ = _ from answered] at verdict
      cases verdict with
      | final stays admissible =>
          exact admissible.trans ⟨fun authorized => ⟨authorized, fun late => stays late.1⟩, And.left⟩
  | exhausted answered spent =>
      rw [show handled _ = _ from answered] at verdict
      cases verdict with
      | again passes admissible =>
          exact iff_of_true admissible ⟨passing_not_unauthorized passes, fun late => late.2.1.not_ge spent⟩
  | interrupted answered left failed =>
      rw [show handled _ = _ from answered] at verdict
      cases verdict with
      | again passes _ =>
          have late : 1024 ≤ made := by
            by_contra early
            rw [pause_eq_none_iff.mpr (not_le.mp early)] at failed
            exact nomatch failed
          exact iff_of_false (pause_not_admissible failed) fun both => both.2 ⟨passes, left, late⟩

/-! ## Requests -/

theorem mapError_eq_error_iff {α Error Renamed : Type} {result : Except Error α}
    {rename : Error → Renamed} {error : Renamed} :
    result.mapError rename = .error error ↔
      ∃ raised, result = .error raised ∧ rename raised = error := by
  cases result <;> simp [Except.mapError]

/-- Whatever is raised before anything is sent is an error of the connectors'. -/
theorem own_of_prepare {raised : Raised} (refused : client.prepare call = .error raised) :
    raised.Own := by
  simp only [prepare, bind_eq_error_iff, mapError_eq_error_iff, rejectIf_eq_error_iff,
    validateHeaders, exists_unit_iff] at refused
  rcases refused with ⟨error, -, rfl⟩ | ⟨allowed, -, ⟨-, rfl⟩ | ⟨-, ⟨-, rfl⟩ | ⟨-, refused⟩⟩⟩
  · exact .connector _
  · exact .connector _
  · exact .connector _
  cases given : client.credentialProvider with
  | none => simp [given, Pure.pure, Except.pure] at refused
  | some provider =>
      simp only [given, credential, bind_eq_error_iff, mapError_eq_error_iff,
        rejectIf_eq_error_iff, exists_unit_iff, reduceCtorEq, and_false, exists_const, or_false,
        Pure.pure, Except.pure] at refused
      rcases refused with ⟨-, rfl⟩ | ⟨-, ⟨message, -, rfl⟩ | ⟨value, -, -, rfl⟩⟩
      all_goals exact .configuration _ _

/-- A request sends at most one request more than its policy allows repetitions, and ends in an
admissible way. -/
def Confined (client : HTTPConnectorClient)
    (ended : Ended (Except Raised HTTPConnectorResponse)) : Prop :=
  (ended.attempts : Int) ≤ client.retryPolicy.maxRetries + 1 ∧ client.Admissible ended.outcome

/-- The policy allows repetitions, no answer that follows only passing ones says that the
credential is not accepted, and the policy does not go on to repeat a request a 1025th time. -/
def Accepting (client : HTTPConnectorClient) (answers : Nat → TransportAnswer) : Prop :=
  0 ≤ client.retryPolicy.maxRetries ∧
    ∀ made : Nat, (made : Int) ≤ client.retryPolicy.maxRetries →
      (∀ earlier < made, client.Passing (answers earlier)) →
        made ≤ 1024 ∧ ¬ client.Unauthorized (answers made)

theorem reaches_iff :
    (client.loop call requestHeaders answers draws).Reaches made ↔
      ∀ earlier < made, client.Passing (answers earlier) ∧
        (earlier : Int) < client.retryPolicy.maxRetries ∧ earlier < 1024 :=
  forall₂_congr fun _ _ => repeats_iff

/-- Where the answers are accepted, no attempt the loop stops at ends it otherwise. -/
theorem Accepting.admissible_of_stops (accepting : client.Accepting answers)
    (reaches : (client.loop call requestHeaders answers draws).Reaches made)
    (stops : (client.loop call requestHeaders answers draws).Stops made outcome) :
    client.Admissible outcome := by
  have within : (made : Int) ≤ client.retryPolicy.maxRetries := reaches.le_limit accepting.1
  have passed := fun earlier before => (reaches_iff.mp reaches earlier before).1
  refine (HTTPConnectorClient.admissible_of_stops stops).mpr
    ⟨(accepting.2 made within passed).2, ?_⟩
  -- Waiting fails before the 1025th repetition only, and that one is not made.
  rintro ⟨passes, left, late⟩
  have early := (accepting.2 (made + 1) (by exact_mod_cast left) fun earlier before => by
    rcases Nat.lt_succ_iff_lt_or_eq.mp before with before | rfl
    · exact passed earlier before
    · exact passes).1
  omega

/-- If no attempt ends the loop otherwise, the answers are accepted. -/
theorem accepting_of_admissible (allowed : 0 ≤ client.retryPolicy.maxRetries)
    (held : ∀ made outcome, (client.loop call requestHeaders answers draws).Reaches made →
      (client.loop call requestHeaders answers draws).Stops made outcome →
        client.Admissible outcome) : client.Accepting answers := by
  have ends (made : Nat)
      (reaches : (client.loop call requestHeaders answers draws).Reaches made)
      (stays : ¬ (client.loop call requestHeaders answers draws).Repeats made) :
      ¬ client.Unauthorized (answers made) ∧ ¬ (client.Passing (answers made) ∧
        (made : Int) < client.retryPolicy.maxRetries ∧ 1024 ≤ made) := by
    obtain ⟨outcome, stops⟩ := (RetryLoop.repeats_or_stops _ made).resolve_left stays
    exact (HTTPConnectorClient.admissible_of_stops stops).mp (held made outcome reaches stops)
  refine ⟨allowed, fun made within passed => ?_⟩
  have early : made ≤ 1024 := by
    by_contra late
    have stays : ¬ (client.loop call requestHeaders answers draws).Repeats 1024 :=
      fun repeats => absurd (repeats_iff.mp repeats).2.2 (lt_irrefl _)
    refine (ends 1024 (reaches_iff.mpr fun earlier before => ?_) stays).2
      ⟨passed 1024 (by omega), by omega, le_refl _⟩
    exact ⟨passed earlier (by omega), by omega, before⟩
  refine ⟨early, fun denied => ?_⟩
  have reaches : (client.loop call requestHeaders answers draws).Reaches made :=
    reaches_iff.mpr fun earlier before => ⟨passed earlier before, by omega, by omega⟩
  refine (ends made reaches fun repeats => ?_).1 denied
  exact passing_not_unauthorized (repeats_iff.mp repeats).1 denied

theorem confined_loop_iff :
    client.Confined (client.loop call requestHeaders answers draws).run ↔
      client.Accepting answers := by
  constructor
  · rintro ⟨bounded, admissible⟩
    exact accepting_of_admissible (RetryLoop.attempts_le_iff.mp bounded)
      (RetryLoop.forall_outcome_iff.mp admissible)
  · intro accepting
    exact ⟨RetryLoop.attempts_le_iff.mpr accepting.1, RetryLoop.forall_outcome_iff.mpr
      fun _ _ reaches stops => accepting.admissible_of_stops reaches stops⟩

theorem request_of_prepare (prepared : client.prepare call = .ok requestHeaders) :
    client.request call answers draws = (client.loop call requestHeaders answers draws).run := by
  simp only [request, prepared]

/-- **A request is confined exactly where its answers are accepted.** Where it is refused before
anything is sent, it is so already if the policy allows for no request. -/
theorem confined_iff_accepting (client : HTTPConnectorClient) (call : ConnectorCall)
    (answers : Nat → TransportAnswer) (draws : Nat → ℚ) :
    client.Confined (client.request call answers draws) ↔
      if Accepted (client.prepare call) then client.Accepting answers
      else -1 ≤ client.retryPolicy.maxRetries := by
  cases prepared : client.prepare call with
  | ok requestHeaders =>
      rw [if_pos ⟨requestHeaders, rfl⟩, request_of_prepare prepared]
      exact confined_loop_iff
  | error raised =>
      rw [if_neg (by rintro ⟨_, ⟨⟩⟩)]
      have own := own_of_prepare prepared
      simp only [request, prepared, Confined, Admissible, own, and_true]
      omega

/-! ## A credential that is not accepted -/

/-- A client whose policy allows every URL. -/
def openClient : HTTPConnectorClient where
  validateUrl := fun _ => .ok true

/-- A call without headers of its own. -/
def plainCall : ConnectorCall where
  url := "https://api.example.go.kr/laws"

theorem prepare_plainCall : openClient.prepare plainCall =
    .ok [("User-Agent", "policyos-connector/1.0"),
      ("Accept", "application/json, application/xml, text/plain")] := by
  decide +kernel

/-- The first response is a 401: what is raised is no error of the connectors'. -/
theorem unauthorized_not_confined :
    openClient.validateUrl plainCall.url = .ok true ∧
      ¬ openClient.Confined
        (openClient.request plainCall (fun _ => .response { statusCode := 401 }) fun _ => 0) := by
  refine ⟨rfl, fun confined => ?_⟩
  have admissible := confined.2
  rw [request_of_prepare prepare_plainCall,
    RetryLoop.run_of_stops RetryLoop.reaches_zero (.final rfl)] at admissible
  exact nomatch admissible

end HTTPConnectorClient

end PolicyOS.Connectors
