import Mathlib.Data.List.Induction
import Mathlib.Data.List.TakeWhile
import PolicyOS.Runtime.Persistence.RateWindows

/-!
# The sliding rate limit

Every call that is accepted is recorded under the organization, the user and the action. A call is
refused while as many calls as its limit are recorded within the window. In no window are more calls
accepted than the limit; what goes wrong is the wait a refusal asks for, which is rounded down, and
a limit of zero with nothing recorded.
-/

namespace PolicyOS.Security

open Runtime

/-! ## Sorted times -/

/-- Fewer than some of the last times are after a cutoff exactly if the first of them is not. -/
theorem length_dropWhile_lt_iff {times : List DateTime} (sorted : times.Pairwise (· ≤ ·))
    {cutoff : DateTime} {count : Nat} (positive : 1 ≤ count) (within : count ≤ times.length) :
    (times.dropWhile (· ≤ cutoff)).length < count ↔
      ∀ time ∈ times[times.length - count]?, time ≤ cutoff := by
  induction times with
  | nil =>
      rw [List.length_nil] at within
      omega
  | cons first rest ih =>
      obtain ⟨least, sortedRest⟩ := List.pairwise_cons.mp sorted
      by_cases old : first ≤ cutoff
      · rw [List.dropWhile_cons_of_pos (by simpa using old)]
        by_cases all : count = rest.length + 1
        · have shorter := (List.dropWhile_suffix (· ≤ cutoff) (l := rest)).length_le
          rw [List.length_cons, all, Nat.sub_self, List.getElem?_cons_zero]
          exact iff_of_true (by omega) (by simpa using old)
        · rw [List.length_cons] at within ⊢
          rw [ih sortedRest (by omega), Nat.sub_add_comm (by omega), List.getElem?_cons_succ]
      · rw [List.dropWhile_cons_of_neg (by simpa using old)]
        have inside : (first :: rest).length - count < (first :: rest).length := by omega
        refine iff_of_false (Nat.not_lt.mpr within) fun none => old ?_
        have later := none _ (List.getElem?_eq_getElem inside)
        refine le_trans ?_ later
        rcases List.mem_cons.mp (List.getElem_mem inside) with same | isRest
        · exact same.ge
        · exact least _ isRest

/-! ## The limiter -/

/-- What calls are counted by. -/
abbrev RateKey := UUID × UUID × String

/-- A call, with the reading of the clock it is checked at. -/
structure RateCall where
  userId : UUID
  organizationId : UUID
  action : String
  limit : Nat
  now : DateTime
  hasDate : HasDate now := by decide
  deriving DecidableEq

/-- What a call is counted by. -/
def RateCall.key (call : RateCall) : RateKey := (call.organizationId, call.userId, call.action)

/-- What a check raises. -/
inductive CheckError
  | securityRateLimit (retryAfterSeconds : Int)
  /-- The first of an empty queue is asked for. -/
  | index
  /-- A date is out of range. -/
  | overflow
  deriving DecidableEq

/-- The calls that are recorded. -/
abbrev RateEvents := RateKey → List DateTime

variable (window : Int)

/-- The length of the window in microseconds. -/
def windowLength : Int := window * 1000000

/-- The calls that are recorded after the cutoff. -/
def recent (events : RateEvents) (call : RateCall) : List DateTime :=
  (events call.key).dropWhile (· ≤ call.now - windowLength window)

/-- The wait for the end of the window of a recorded call, in whole seconds. -/
def retryAfter (oldest now : DateTime) : Int :=
  max 1 ((oldest + windowLength window - now).tdiv 1000000)

/-- Check a call: it is recorded if fewer calls than its limit are. -/
def check (events : RateEvents) (call : RateCall) : Except CheckError Unit × RateEvents :=
  if ¬ HasDate (call.now - windowLength window) then (.error .overflow, events)
  else
    let queue := recent window events call
    if call.limit ≤ queue.length then
      let refusal : CheckError :=
        match queue with
        | [] => .index
        | oldest :: _ =>
            if HasDate (oldest + windowLength window) then
              .securityRateLimit (retryAfter window oldest call.now)
            else .overflow
      (.error refusal, Function.update events call.key queue)
    else (.ok (), Function.update events call.key (queue ++ [call.now]))

/-! ## Runs -/

/-- What is recorded after some calls, and the calls that were accepted. -/
structure Recorded where
  events : RateEvents := fun _ => []
  accepted : List RateCall := []

/-- One more call. -/
def Recorded.next (recorded : Recorded) (call : RateCall) : Recorded :=
  let (result, events) := check window recorded.events call
  { events := events
    accepted := if result = .ok () then recorded.accepted ++ [call] else recorded.accepted }

/-- What is recorded after calls from an empty limiter. -/
def recordedAfter (calls : List RateCall) : Recorded := calls.foldl (Recorded.next window) {}

/-- The times of the calls of a key that were accepted. -/
def Recorded.times (recorded : Recorded) (key : RateKey) : List DateTime :=
  (recorded.accepted.filter (·.key = key)).map (·.now)

variable {window} {events : RateEvents} {call : RateCall} {calls : List RateCall}
  {recorded : Recorded} {key : RateKey}

theorem recordedAfter_concat :
    recordedAfter window (calls ++ [call]) = (recordedAfter window calls).next window call := by
  rw [recordedAfter, List.foldl_concat]
  rfl

theorem check_eq_ok_iff :
    (check window events call).1 = .ok () ↔
      HasDate (call.now - windowLength window) ∧
        (recent window events call).length < call.limit := by
  unfold check
  dsimp only
  split_ifs with dated full
  · simp [dated, full]
  · simp [dated, Nat.lt_of_not_le full]
  · simp [dated]

/-- A call is refused as the limit is reached exactly if as many calls as its limit are recorded,
and there is one. -/
theorem check_eq_rateLimit_iff {seconds : Int} :
    (check window events call).1 = .error (.securityRateLimit seconds) ↔
      HasDate (call.now - windowLength window) ∧ call.limit ≤ (recent window events call).length ∧
        ∃ oldest ∈ (recent window events call).head?, HasDate (oldest + windowLength window) ∧
          retryAfter window oldest call.now = seconds := by
  unfold check
  dsimp only
  split_ifs with dated full
  · cases isRecent : recent window events call with
    | nil => simp
    | cons oldest rest =>
        rw [isRecent] at full
        simp only [dated, full, true_and, List.head?_cons, Option.mem_def, Option.some.injEq,
          exists_eq_left', Except.error.injEq]
        by_cases ends : HasDate (oldest + windowLength window)
        · rw [if_pos ends, CheckError.securityRateLimit.injEq, and_iff_right ends]
        · rw [if_neg ends]
          exact iff_of_false (by simp) fun both => ends both.1
  · simp [full]
  · simp [dated]

/-- What a check that has a cutoff records of the key is what was within the window, and the call if
it is accepted. Of the other keys it changes nothing. -/
theorem events_check (dated : HasDate (call.now - windowLength window)) :
    (check window events call).2 = Function.update events call.key
      (if (recent window events call).length < call.limit then
        recent window events call ++ [call.now] else recent window events call) := by
  unfold check
  rw [if_neg (not_not.mpr dated)]
  dsimp only
  split_ifs with full short short
  · exact absurd full (Nat.not_le.mpr short)
  · rfl
  · rfl
  · exact absurd (Nat.lt_of_not_le full) short

theorem events_check_of_overflow (undated : ¬ HasDate (call.now - windowLength window)) :
    (check window events call).2 = events := by
  unfold check
  rw [if_pos undated]

/-! ## What is recorded -/

/-- Of the calls of a key that were accepted those are recorded that are not too old at a time. -/
structure RecordedBy (window : Int) (recorded : Recorded) (time : DateTime) : Prop where
  kept : ∀ key, ∃ dropped, recorded.times key = dropped ++ recorded.events key ∧
    ∀ old ∈ dropped, old ≤ time - windowLength window
  sorted : ∀ key, (recorded.times key).Pairwise (· ≤ ·)
  past : ∀ key, ∀ own ∈ recorded.times key, own ≤ time

/-- A call that is accepted is one more of its key. -/
theorem times_next :
    (recorded.next window call).times key = recorded.times key ++
      if (check window recorded.events call).1 = .ok () ∧ call.key = key then [call.now]
      else [] := by
  unfold Recorded.next Recorded.times
  dsimp only
  by_cases accepted : (check window recorded.events call).1 = .ok ()
  · rw [if_pos accepted, List.filter_append, List.map_append]
    by_cases same : call.key = key
    · simp [accepted, same]
    · simp [same]
  · simp [accepted]

theorem events_split :
    ∃ old, recorded.events call.key = old ++ recent window recorded.events call ∧
      ∀ time ∈ old, time ≤ call.now - windowLength window :=
  ⟨_, (List.takeWhile_append_dropWhile ..).symm, fun _ isOld => by
    simpa using List.mem_takeWhile_imp isOld⟩

/-- **A call keeps what is known of what is recorded.** -/
theorem RecordedBy.next {time : DateTime} (by_ : RecordedBy window recorded time)
    (later : time ≤ call.now) : RecordedBy window (recorded.next window call) call.now where
  kept := by
    intro key
    obtain ⟨dropped, split, areOld⟩ := by_.kept key
    have older (own) (isDropped : own ∈ dropped) : own ≤ call.now - windowLength window :=
      (areOld own isDropped).trans (Int.sub_le_sub_right later _)
    rw [times_next]
    show ∃ dropped, _ = dropped ++ (check window recorded.events call).2 key ∧ _
    by_cases dated : HasDate (call.now - windowLength window)
    · rw [events_check dated]
      by_cases same : call.key = key
      · subst same
        obtain ⟨old, whole, tooOld⟩ := @events_split window call recorded
        refine ⟨dropped ++ old, ?_, List.forall_mem_append.mpr ⟨older, tooOld⟩⟩
        rw [Function.update_self, split, whole]
        by_cases short : (recent window recorded.events call).length < call.limit
        · rw [if_pos ⟨check_eq_ok_iff.mpr ⟨dated, short⟩, rfl⟩, if_pos short]
          simp only [List.append_assoc]
        · rw [if_neg fun both => short (check_eq_ok_iff.mp both.1).2, if_neg short]
          simp only [List.append_assoc, List.append_nil]
      · rw [if_neg fun both => same both.2, Function.update_of_ne (Ne.symm same), List.append_nil]
        exact ⟨dropped, split, older⟩
    · rw [events_check_of_overflow dated, if_neg fun both => dated (check_eq_ok_iff.mp both.1).1,
        List.append_nil]
      exact ⟨dropped, split, older⟩
  sorted := by
    intro key
    rw [times_next]
    refine List.pairwise_append.mpr ⟨by_.sorted key, ?_, fun own isOwn new isNew => ?_⟩
    · split_ifs
      · exact List.pairwise_singleton _ _
      · exact List.Pairwise.nil
    · split_ifs at isNew
      · rw [List.mem_singleton.mp isNew]
        exact (by_.past key own isOwn).trans later
      · exact absurd isNew List.not_mem_nil
  past := by
    intro key
    rw [times_next]
    refine List.forall_mem_append.mpr ⟨fun own isOwn => (by_.past key own isOwn).trans later,
      fun own isNew => ?_⟩
    split_ifs at isNew
    · exact (List.mem_singleton.mp isNew).le
    · exact absurd isNew List.not_mem_nil

/-- **So do calls with a clock that is not turned back.** -/
theorem recordedBy_of_calls : ∀ {calls : List RateCall} {time : DateTime},
    calls.Pairwise (fun first second => first.now ≤ second.now) →
      (∀ call ∈ calls, call.now ≤ time) → RecordedBy window (recordedAfter window calls) time := by
  intro calls
  induction calls using List.reverseRecOn with
  | nil =>
      intro time _ _
      exact ⟨fun _ => ⟨[], rfl, fun _ none => absurd none List.not_mem_nil⟩,
        fun _ => List.Pairwise.nil, fun _ _ none => absurd none List.not_mem_nil⟩
  | append_singleton before call ih =>
      intro time ordered past
      obtain ⟨before_, -, last⟩ := List.pairwise_append.mp ordered
      have known := ih before_ fun earlier isEarlier =>
        last earlier isEarlier call (List.mem_singleton_self call)
      have own := past call (by simp)
      rw [recordedAfter_concat]
      obtain ⟨kept, sorted, by_⟩ := known.next le_rfl
      refine ⟨fun key => ?_, sorted, fun key time isTime => (by_ key time isTime).trans own⟩
      obtain ⟨dropped, split, areOld⟩ := kept key
      exact ⟨dropped, split, fun old isOld => (areOld old isOld).trans (Int.sub_le_sub_right own _)⟩

/-! ## No window is over the limit -/

/-- The times of a window: from its start on, before its end. -/
def inWindow (window : Int) (start : DateTime) (times : List DateTime) : List DateTime :=
  times.filter fun time => start ≤ time ∧ time < start + windowLength window

/-- What was accepted within the window of a call is recorded. -/
theorem length_inWindow_le {time start : DateTime} (by_ : RecordedBy window recorded time)
    (later : time ≤ call.now) (within : call.now < start + windowLength window) :
    (inWindow window start (recorded.times call.key)).length ≤
      (recent window recorded.events call).length := by
  obtain ⟨dropped, split, areOld⟩ := by_.kept call.key
  obtain ⟨old, whole, tooOld⟩ := @events_split window call recorded
  have none (given) (areEarly : ∀ own ∈ given, own ≤ call.now - windowLength window) :
      inWindow window start given = [] := by
    refine List.filter_eq_nil_iff.mpr fun own isOwn => ?_
    have early : own < start :=
      (areEarly own isOwn).trans_lt (Int.sub_right_lt_of_lt_add within)
    simpa only [decide_eq_true_eq] using fun inside => absurd inside.1 (Int.not_le.mpr early)
  have dropsNone := none dropped fun own isOwn =>
    (areOld own isOwn).trans (Int.sub_le_sub_right later _)
  rw [split, whole, inWindow, List.filter_append, List.filter_append]
  rw [inWindow] at dropsNone
  have oldNone := none old tooOld
  rw [inWindow] at oldNone
  rw [dropsNone, oldNone, List.nil_append, List.nil_append]
  exact List.length_filter_le _ _

/-- **In no window are more calls of a key accepted than the limit, if that is constant.** -/
theorem inWindow_le_limit {limit : Nat} {start : DateTime} : ∀ {calls : List RateCall},
    calls.Pairwise (fun first second => first.now ≤ second.now) →
      (∀ call ∈ calls, call.key = key → call.limit = limit) →
        (inWindow window start ((recordedAfter window calls).times key)).length ≤ limit := by
  intro calls
  induction calls using List.reverseRecOn with
  | nil => exact fun _ _ => Nat.zero_le _
  | append_singleton before call ih =>
      intro ordered constant
      obtain ⟨before_, -, last⟩ := List.pairwise_append.mp ordered
      have earlier := ih before_ fun other isOther =>
        constant other (List.mem_append_left _ isOther)
      rw [recordedAfter_concat, times_next, inWindow, List.filter_append, List.length_append]
      rw [inWindow] at earlier
      by_cases counted : ((check window (recordedAfter window before).events call).1 = .ok () ∧
          call.key = key) ∧ start ≤ call.now ∧ call.now < start + windowLength window
      · obtain ⟨⟨accepted, rfl⟩, within⟩ := counted
        have known : RecordedBy window (recordedAfter window before) call.now :=
          recordedBy_of_calls before_ fun other isOther =>
            last other isOther call (List.mem_singleton_self call)
        have bound := @length_inWindow_le _ call _ _ start known le_rfl within.2
        have short := (check_eq_ok_iff.mp accepted).2
        rw [constant call (by simp) rfl] at short
        have one := List.length_filter_le
          (fun time => decide (start ≤ time ∧ time < start + windowLength window)) [call.now]
        rw [inWindow] at bound
        rw [if_pos ⟨accepted, rfl⟩]
        simp only [List.length_singleton] at one
        omega
      · have none : (if (check window (recordedAfter window before).events call).1 = .ok () ∧
            call.key = key then [call.now] else []).filter (fun time =>
              decide (start ≤ time ∧ time < start + windowLength window)) = [] := by
          split_ifs with both
          · exact List.filter_eq_nil_iff.mpr fun own isOwn inside => counted
              ⟨both, by simpa [List.mem_singleton.mp isOwn] using inside⟩
          · rfl
        rw [none]
        exact earlier

/-! ## Answers -/

/-- A call is accepted or refused as the limit is reached, and the same call made after the wait a
refusal asks for, with no other in between, is accepted if it may be. -/
structure CallExact (window : Int) (recorded : Recorded) (call : RateCall) : Prop where
  answered : (check window recorded.events call).1 = .ok () ∨
    ∃ seconds, (check window recorded.events call).1 = .error (.securityRateLimit seconds)
  retried : ∀ seconds, (check window recorded.events call).1 = .error (.securityRateLimit seconds) →
    1 ≤ call.limit → ∀ again : RateCall, again.key = call.key → again.limit = call.limit →
      again.now = call.now + seconds * 1000000 →
        (check window (recorded.next window call).events again).1 = .ok ()

/-- The dates that are worked out exist, something is recorded if the limit is zero, and after the
wait fewer calls than the limit are left within the window. -/
structure Answerable (window : Int) (events : RateEvents) (call : RateCall) : Prop where
  dated : HasDate (call.now - windowLength window)
  found : call.limit = 0 → recent window events call ≠ []
  ends : call.limit ≤ (recent window events call).length →
    ∀ oldest ∈ (recent window events call).head?, HasDate (oldest + windowLength window)
  waits : 1 ≤ call.limit → call.limit ≤ (recent window events call).length →
    ∀ oldest ∈ (recent window events call).head?,
      HasDate (call.now + retryAfter window oldest call.now * 1000000) →
        ∀ time ∈ (recent window events call)[(recent window events call).length - call.limit]?,
          time + windowLength window ≤ call.now + retryAfter window oldest call.now * 1000000

theorem RecordedBy.recent {time : DateTime} (by_ : RecordedBy window recorded time) :
    (Security.recent window recorded.events call).Pairwise (· ≤ ·) ∧
      ∀ own ∈ Security.recent window recorded.events call, own ≤ time := by
  obtain ⟨dropped, split, -⟩ := by_.kept call.key
  have inTimes :
      (Security.recent window recorded.events call).Sublist (recorded.times call.key) := by
    rw [split]
    exact (List.dropWhile_sublist _).trans (List.sublist_append_right _ _)
  exact ⟨(by_.sorted call.key).sublist inTimes,
    fun own isOwn => by_.past _ own (inTimes.subset isOwn)⟩

theorem recent_after_refusal {again : RateCall} (dated : HasDate (call.now - windowLength window))
    (full : call.limit ≤ (recent window recorded.events call).length)
    (same : again.key = call.key) :
    recent window (recorded.next window call).events again =
      (recent window recorded.events call).dropWhile (· ≤ again.now - windowLength window) := by
  show ((check window recorded.events call).2 again.key).dropWhile _ = _
  rw [events_check dated, if_neg (Nat.not_lt.mpr full), same, Function.update_self]

/-- **A call is answered rightly exactly if it can be answered.** -/
theorem callExact_iff {time : DateTime} (by_ : RecordedBy window recorded time)
    (later : time ≤ call.now) :
    CallExact window recorded call ↔ Answerable window recorded.events call := by
  obtain ⟨sorted, past⟩ := @RecordedBy.recent window call recorded time by_
  -- a call after the wait is accepted exactly if fewer calls than the limit are left
  have again_iff {again : RateCall} (dated : HasDate (call.now - windowLength window))
      (positive : 1 ≤ call.limit) (full : call.limit ≤ (recent window recorded.events call).length)
      (same : again.key = call.key) (limits : again.limit = call.limit)
      (againDated : HasDate (again.now - windowLength window)) :
      (check window (recorded.next window call).events again).1 = .ok () ↔
        ∀ time ∈ (recent window recorded.events call)[
            (recent window recorded.events call).length - call.limit]?,
          time + windowLength window ≤ again.now := by
    rw [check_eq_ok_iff, and_iff_right againDated, recent_after_refusal dated full same, limits,
      length_dropWhile_lt_iff sorted positive full]
    exact forall₂_congr fun _ _ => ⟨Int.add_le_of_le_sub_right, Int.le_sub_right_of_add_le⟩
  -- a call that is recorded within the window was made before, so the window has a length
  have lengthPositive (oldest) (isOldest : oldest ∈ (recent window recorded.events call).head?) :
      0 ≤ windowLength window := by
    have young := List.head?_dropWhile_not
      (fun time => decide (time ≤ call.now - windowLength window)) (recorded.events call.key)
    have isHead : ((recorded.events call.key).dropWhile fun time =>
        decide (time ≤ call.now - windowLength window)).head? = some oldest := isOldest
    rw [isHead] at young
    have after := Int.not_le.mp (of_decide_eq_false young)
    have before := after.trans_le ((past oldest (List.mem_of_head? isOldest)).trans later)
    exact (sub_lt_self_iff _).mp before |>.le
  have waitPositive (oldest : DateTime) : 1 ≤ retryAfter window oldest call.now := le_max_left _ _
  constructor
  · intro exact_
    have dated : HasDate (call.now - windowLength window) := by
      rcases exact_.answered with accepted | ⟨seconds, refused⟩
      · exact (check_eq_ok_iff.mp accepted).1
      · exact (check_eq_rateLimit_iff.mp refused).1
    have refused (full : call.limit ≤ (recent window recorded.events call).length) :
        ∃ oldest ∈ (recent window recorded.events call).head?,
          HasDate (oldest + windowLength window) := by
      rcases exact_.answered with accepted | ⟨seconds, isRefused⟩
      · exact absurd (check_eq_ok_iff.mp accepted).2 (Nat.not_lt.mpr full)
      · obtain ⟨-, -, oldest, isOldest, ends, -⟩ := check_eq_rateLimit_iff.mp isRefused
        exact ⟨oldest, isOldest, ends⟩
    refine ⟨dated, fun zero none => ?_, fun full oldest isOldest => ?_,
      fun positive full oldest isOldest waited => ?_⟩
    · obtain ⟨oldest, isOldest, -⟩ := refused (by omega)
      rw [none] at isOldest
      exact absurd isOldest (by simp)
    · obtain ⟨other, isOther, ends⟩ := refused full
      rwa [Option.mem_unique isOldest isOther]
    · obtain ⟨other, isOther, ends⟩ := refused full
      obtain rfl := Option.mem_unique isOldest isOther
      let again : RateCall := { call with
        now := call.now + retryAfter window oldest call.now * 1000000
        hasDate := waited }
      have isRefused := check_eq_rateLimit_iff.mpr ⟨dated, full, oldest, isOldest, ends, rfl⟩
      have accepted := exact_.retried _ isRefused positive again rfl rfl rfl
      have againDated := (check_eq_ok_iff.mp accepted).1
      exact (@again_iff again dated positive full rfl rfl againDated).mp accepted
  · intro answerable
    refine ⟨?_, fun seconds isRefused positive again same limits isNow => ?_⟩
    · by_cases full : call.limit ≤ (recent window recorded.events call).length
      · have some_ : recent window recorded.events call ≠ [] := by
          by_cases zero : call.limit = 0
          · exact answerable.found zero
          · exact List.ne_nil_of_length_pos (by omega)
        have isOldest := List.head?_eq_some_head some_
        exact .inr ⟨_, check_eq_rateLimit_iff.mpr ⟨answerable.dated, full, _, isOldest,
          answerable.ends full _ isOldest, rfl⟩⟩
      · exact .inl (check_eq_ok_iff.mpr ⟨answerable.dated, Nat.lt_of_not_le full⟩)
    · obtain ⟨dated, full, oldest, isOldest, ends, rfl⟩ := check_eq_rateLimit_iff.mp isRefused
      have wait := waitPositive oldest
      have width := lengthPositive oldest isOldest
      have againLater : call.now ≤ again.now := by
        rw [isNow]
        exact Int.le_add_of_nonneg_right (by omega)
      have againDated : HasDate (again.now - windowLength window) := by
        exact ⟨dated.1.trans (Int.sub_le_sub_right againLater _),
          (Int.sub_le_self _ width).trans again.hasDate.2⟩
      refine (again_iff dated positive full same limits againDated).mpr ?_
      rw [isNow]
      exact answerable.waits positive full oldest isOldest (isNow ▸ again.hasDate)

/-- A check reads and changes what is recorded of its own key. -/
theorem check_congr {others : RateEvents} (same : events call.key = others call.key) :
    (check window events call).1 = (check window others call).1 ∧
      (check window events call).2 call.key = (check window others call).2 call.key := by
  have recents : recent window events call = recent window others call := by
    rw [recent, recent, same]
  unfold check
  rw [recents]
  dsimp only
  split_ifs <;> simp [same]

theorem check_other (different : call.key ≠ key) :
    (check window events call).2 key = events key := by
  unfold check
  dsimp only
  split_ifs <;> simp [Ne.symm different]

/-- **Keys are counted apart**: of the calls of a key those are accepted and recorded that would be
if no others were made. -/
theorem limiter_isolated (window : Int) (calls : List RateCall) (key : RateKey) :
    (recordedAfter window calls).accepted.filter (·.key = key) =
        (recordedAfter window (calls.filter (·.key = key))).accepted ∧
      (recordedAfter window calls).events key =
        (recordedAfter window (calls.filter (·.key = key))).events key := by
  induction calls using List.reverseRecOn with
  | nil => exact ⟨rfl, rfl⟩
  | append_singleton before call ih =>
      obtain ⟨accepted, recorded⟩ := ih
      rw [recordedAfter_concat, List.filter_append, List.filter_singleton]
      by_cases own : call.key = key
      · subst own
        obtain ⟨answer, left⟩ := @check_congr window _ call _ recorded
        simp only [decide_true, cond_true, recordedAfter_concat, Recorded.next, ← answer, left,
          and_true]
        split_ifs <;> simp [accepted]
      · simp only [own, decide_false, cond_false, List.append_nil,
          Recorded.next, check_other own, recorded, and_true]
        split_ifs <;> simp [accepted, own]

/-! ## Histories -/

/-- The limiter is exact over some calls: each is answered rightly, in no window more calls of a key
are accepted than its limit if that is constant, and after a refusal only calls that were accepted
before are recorded. -/
structure LimiterExact (window : Int) (calls : List RateCall) : Prop where
  each : ∀ before call after, calls = before ++ call :: after →
    CallExact window (recordedAfter window before) call
  bounded : ∀ key limit, (∀ call ∈ calls, call.key = key → call.limit = limit) → ∀ start,
    (inWindow window start ((recordedAfter window calls).times key)).length ≤ limit
  history : ∀ before call after, calls = before ++ call :: after →
    (check window (recordedAfter window before).events call).1 ≠ .ok () → ∀ key,
      (recordedAfter window (before ++ [call])).events key <:+
        (recordedAfter window before).times key

/-- **The limiter is exact exactly if every call can be answered.** -/
theorem limiterExact_iff (window : Int) (calls : List RateCall)
    (ordered : calls.Pairwise fun first second => first.now ≤ second.now) :
    LimiterExact window calls ↔ ∀ before call after, calls = before ++ call :: after →
      Answerable window (recordedAfter window before).events call := by
  have known {before after : List RateCall} {call : RateCall}
      (split : calls = before ++ call :: after) :
      RecordedBy window (recordedAfter window before) call.now := by
    obtain ⟨earlier, -, last⟩ := List.pairwise_append.mp (split ▸ ordered)
    exact recordedBy_of_calls earlier fun other isOther =>
      last other isOther call List.mem_cons_self
  constructor
  · intro exact_ before call after split
    exact (callExact_iff (known split) le_rfl).mp (exact_.each before call after split)
  · intro answerable
    refine ⟨fun before call after split => ?_, fun key limit constant start => ?_,
      fun before call after split refused key => ?_⟩
    · exact (callExact_iff (known split) le_rfl).mpr (answerable before call after split)
    · exact inWindow_le_limit ordered constant
    · obtain ⟨dropped, split, -⟩ := ((known split).next le_rfl).kept key
      rw [times_next, if_neg fun both => refused both.1, List.append_nil] at split
      rw [recordedAfter_concat, split]
      exact List.suffix_append _ _

namespace Sample

/-- A search, at most once a minute. -/
def search (now : DateTime) (hasDate : HasDate now) : RateCall where
  userId := 1
  organizationId := 2
  action := "search"
  limit := 1
  now := now
  hasDate := hasDate

/-- A search, and another one and a half seconds after. -/
def searches : List RateCall := [search 0 (by decide), search 1500000 (by decide)]

theorem searches_ordered :
    searches.Pairwise fun first second => first.now ≤ second.now := by
  decide

theorem second_refused :
    (check 60 (recordedAfter 60 [search 0 (by decide)]).events (search 1500000 (by decide))).1 =
      .error (.securityRateLimit 58) := by
  decide +kernel

theorem again_refused :
    (check 60 ((recordedAfter 60 [search 0 (by decide)]).next 60
      (search 1500000 (by decide))).events (search 59500000 (by decide))).1 =
        .error (.securityRateLimit 1) := by
  decide +kernel

end Sample

theorem limiterExact_searches :
    LimiterExact 60 Sample.searches ↔ ∀ before call after,
      Sample.searches = before ++ call :: after →
        Answerable 60 (recordedAfter 60 before).events call :=
  limiterExact_iff 60 Sample.searches Sample.searches_ordered

/-- A search that waits as long as it is told to is refused again. -/
theorem not_limiterExact :
    ¬ ∀ (window : Int) (calls : List RateCall),
      (calls.Pairwise fun first second => first.now ≤ second.now) → LimiterExact window calls := by
  intro limiters
  have limiter := limiters 60 Sample.searches Sample.searches_ordered
  have answered := limiter.each [Sample.search 0 (by decide)]
    (Sample.search 1500000 (by decide)) [] rfl
  have accepted := answered.retried 58 Sample.second_refused (by decide)
    (Sample.search 59500000 (by decide)) rfl rfl (by decide)
  rw [Sample.again_refused] at accepted
  exact nomatch accepted

end PolicyOS.Security
