import PolicyOS.Foundation.Checked
import PolicyOS.Runtime.Ports.RateAdmission

/-!
# Rate windows on the calendar

The repository works out a window from a reading of a clock in any timezone, with the dates
and the durations of its calendar, both of which are bounded. Wherever no bound is met that is
the window of the instant: windows of one length follow each other from the epoch in both
directions, every instant is in one of them, and the wait a denial asks for is the least whole
number of seconds after which the window has ended.
-/

namespace PolicyOS.Runtime

open Foundation

/-! ## Windows of an instant -/

/-- The epoch-aligned window an observation falls into. -/
def windowFor (policy : RuntimeRatePolicyRevision) (observedAt : DateTime) :
    RuntimeRateWindowIdentity :=
  let windowMicroseconds : Int := policy.windowSeconds.val * 1000000
  let start := observedAt / windowMicroseconds * windowMicroseconds
  ⟨start, start + windowMicroseconds, Int.lt_add_of_pos_right _ (by
    have := policy.windowSeconds.property
    omega)⟩

/-- Whole seconds until the window ends, at least one and at most a day. -/
def retryAfter (window : RuntimeRateWindowIdentity) (observedAt : DateTime) :
    RuntimeRateRetryAfterSeconds :=
  let microseconds := window.windowEnd - observedAt
  ⟨min 86400 (max 1 ((microseconds + 999999) / 1000000)).toNat, by omega⟩

namespace RateSample

/-- A policy that admits one request a minute. -/
def policy : RuntimeRatePolicyRevision where
  locator :=
    ⟨1, 2, 3, .submitInvocation, .internal, 4, .nearest 1, "rate-policy"⟩
  admissionLimit := .nearest 1
  windowSeconds := ⟨60, by decide⟩
  effectiveFrom := 0
  validUntil := 3600000000
  provisioningRequestId := 5
  provisioningReceiptId := 6
  actorPrincipalId := 7
  actorUserId := 7
  actorMembershipId := 8
  reasonReference := "reason"
  provenanceReference := "provenance"
  requestDigest := "provision-digest"
  commandVersion := "1"
  requestedAt := 0
  committedAt := 0

end RateSample

/-! ## Intervals of one length -/

section Intervals

variable {length time other index : Int}

theorem interval_contains (positive : 0 < length) (time : Int) :
    time / length * length ≤ time ∧ time < time / length * length + length := by
  have divided := Int.mul_ediv_add_emod time length
  have lower := Int.emod_nonneg time positive.ne'
  have upper := Int.emod_lt_of_pos time positive
  rw [Int.mul_comm] at divided
  constructor <;> omega

theorem interval_unique (positive : 0 < length) (lower : index * length ≤ time)
    (upper : time < index * length + length) : time / length = index := by
  apply Int.le_antisymm
  · apply Int.lt_add_one_iff.mp
    apply Int.ediv_lt_of_lt_mul positive
    rwa [Int.add_mul, Int.one_mul]
  · exact Int.le_ediv_of_mul_le positive lower

/-- Two intervals are the same, or one ends before the other starts. -/
theorem intervals_apart (positive : 0 < length) (index other : Int) :
    index = other ∨ index * length + length ≤ other * length ∨
      other * length + length ≤ index * length := by
  have ends {first second : Int} (before : first < second) :
      first * length + length ≤ second * length := by
    calc first * length + length = (first + 1) * length := by rw [Int.add_mul, Int.one_mul]
      _ ≤ second * length := Int.mul_le_mul_of_nonneg_right before positive.le
  rcases Int.lt_trichotomy index other with before | same | after
  · exact .inr (.inl (ends before))
  · exact .inl same
  · exact .inr (.inr (ends after))

theorem wait_reaches {now stop : Int} (short : stop - now ≤ 86400000000) :
    stop ≤ now +
      (min 86400 (max 1 ((stop - now + 999999) / 1000000)).toNat : Nat) * 1000000 := by
  omega

theorem wait_least {now stop : Int} {seconds : Nat} (positive : 1 ≤ seconds)
    (reaches : stop ≤ now + seconds * 1000000) :
    min 86400 (max 1 ((stop - now + 999999) / 1000000)).toNat ≤ seconds := by
  omega

end Intervals

/-! ## The calendar -/

/-- The first and the last instant that has a date. -/
def datetimeMin : DateTime := -62135596800000000
def datetimeMax : DateTime := 253402300799999999

/-- An instant that has a date. -/
def HasDate (instant : DateTime) : Prop := datetimeMin ≤ instant ∧ instant ≤ datetimeMax

instance (instant : DateTime) : Decidable (HasDate instant) :=
  inferInstanceAs (Decidable (_ ∧ _))

/-- The reading of a clock, with the offset of the clock from UTC. -/
structure ClockReading where
  reading : DateTime
  utcOffset : Int
  hasDate : HasDate reading := by decide
  /-- An offset is less than a day. -/
  bounded : -86400000000 < utcOffset ∧ utcOffset < 86400000000 := by decide

/-- The instant of a reading. -/
def ClockReading.instant (observed : ClockReading) : DateTime :=
  observed.reading - observed.utcOffset

/-- Why no window is given. -/
inductive RateWindowError
  /-- A date is out of range. -/
  | overflow
  /-- The window does not end after it starts. -/
  | unordered
  deriving DecidableEq

/-- The date of an instant. -/
def dateOf (instant : DateTime) : Except RateWindowError DateTime := do
  rejectIf (¬ HasDate instant) .overflow
  pure instant

/-- A date is the instant it is the date of. -/
@[simp] theorem dateOf_eq_ok_iff {instant date : DateTime} :
    dateOf instant = .ok date ↔ HasDate instant ∧ instant = date := by
  simp only [dateOf, bind_eq_ok_iff, exists_unit_iff, rejectIf_eq_ok_iff, pure_eq_ok_iff, not_not]

/-- A duration, in days, seconds of a day and microseconds of a second. -/
structure Timedelta where
  days : Int
  seconds : Int
  microseconds : Int
  normal : (0 ≤ seconds ∧ seconds < 86400) ∧ 0 ≤ microseconds ∧ microseconds < 1000000

namespace Timedelta

/-- The duration of so many microseconds. -/
def ofMicroseconds (total : Int) : Timedelta where
  days := total / 86400000000
  seconds := total % 86400000000 / 1000000
  microseconds := total % 1000000
  normal := by omega

/-- The microseconds of a duration. -/
def total (duration : Timedelta) : Int :=
  (duration.days * 86400 + duration.seconds) * 1000000 + duration.microseconds

/-- Nothing is lost in a duration. -/
@[simp] theorem total_ofMicroseconds (total : Int) : (ofMicroseconds total).total = total := by
  simp only [Timedelta.total, ofMicroseconds]
  omega

end Timedelta

/-! ## Windows of readings -/

namespace ClockReading

/-- The start of the clock of the repository. -/
def epoch : DateTime := 0

/-- The epoch-aligned window a reading falls into. -/
def windowFor (policy : RuntimeRatePolicyRevision) (observedAt : ClockReading) :
    Except RateWindowError RuntimeRateWindowIdentity := do
  let observed ← dateOf observedAt.instant
  let elapsedMicroseconds := (Timedelta.ofMicroseconds (observed - epoch)).total
  let windowMicroseconds : Int := policy.windowSeconds.val * 1000000
  let start ← dateOf (epoch + (Timedelta.ofMicroseconds
    (elapsedMicroseconds / windowMicroseconds * windowMicroseconds)).total)
  let stop ← dateOf (start + (Timedelta.ofMicroseconds windowMicroseconds).total)
  if ordered : start < stop then pure ⟨start, stop, ordered⟩ else .error .unordered

/-- Whole seconds until the window ends, at least one and at most a day. -/
def retryAfter (window : RuntimeRateWindowIdentity) (observedAt : ClockReading) : Int :=
  let microseconds := (Timedelta.ofMicroseconds (window.windowEnd - observedAt.instant)).total
  min 86400 (max 1 ((microseconds + 999999) / 1000000))

end ClockReading

/-- The length of a policy's windows, in microseconds. -/
def RuntimeRatePolicyRevision.windowMicroseconds (policy : RuntimeRatePolicyRevision) : Int :=
  policy.windowSeconds.val * 1000000

/-- A window whose bounds have dates. -/
def RuntimeRateWindowIdentity.HasDates (window : RuntimeRateWindowIdentity) : Prop :=
  HasDate window.windowStart ∧ HasDate window.windowEnd

variable {policy : RuntimeRatePolicyRevision} {observedAt : ClockReading} {time other : DateTime}
  {window otherWindow : RuntimeRateWindowIdentity}

theorem windowMicroseconds_bounds (policy : RuntimeRatePolicyRevision) :
    0 < policy.windowMicroseconds ∧ policy.windowMicroseconds ≤ 86400000000 := by
  have bounds := policy.windowSeconds.property
  unfold RuntimeRatePolicyRevision.windowMicroseconds
  constructor <;> omega

theorem windowFor_length (policy : RuntimeRatePolicyRevision) (time : DateTime) :
    (windowFor policy time).windowEnd - (windowFor policy time).windowStart =
      policy.windowMicroseconds :=
  add_sub_cancel_left _ _

theorem windowFor_contains (policy : RuntimeRatePolicyRevision) (time : DateTime) :
    (windowFor policy time).windowStart ≤ time ∧ time < (windowFor policy time).windowEnd :=
  interval_contains (windowMicroseconds_bounds policy).1 time

theorem window_ext (starts : window.windowStart = otherWindow.windowStart)
    (ends : window.windowEnd = otherWindow.windowEnd) : window = otherWindow := by
  cases window
  cases otherWindow
  cases starts
  cases ends
  rfl

theorem windowFor_of_mem (lower : (windowFor policy time).windowStart ≤ other)
    (upper : other < (windowFor policy time).windowEnd) :
    windowFor policy other = windowFor policy time := by
  have same : other / policy.windowMicroseconds = time / policy.windowMicroseconds :=
    interval_unique (windowMicroseconds_bounds policy).1 lower upper
  have starts : (windowFor policy other).windowStart = (windowFor policy time).windowStart :=
    congrArg (· * policy.windowMicroseconds) same
  have ends : (windowFor policy other).windowEnd = (windowFor policy time).windowEnd :=
    congrArg (· + policy.windowMicroseconds) starts
  exact window_ext starts ends

/-- Two instants have the same window, or windows apart from each other. -/
theorem windowFor_same_or_apart (policy : RuntimeRatePolicyRevision) (time other : DateTime) :
    windowFor policy time = windowFor policy other ∨
      (windowFor policy time).windowEnd ≤ (windowFor policy other).windowStart ∨
      (windowFor policy other).windowEnd ≤ (windowFor policy time).windowStart := by
  rcases intervals_apart (windowMicroseconds_bounds policy).1
    (time / policy.windowMicroseconds) (other / policy.windowMicroseconds) with same | apart
  · left
    obtain ⟨lower, upper⟩ := windowFor_contains policy time
    apply windowFor_of_mem
    · exact (congrArg (· * policy.windowMicroseconds) same).ge.trans lower
    · exact upper.trans_le
        (congrArg (· * policy.windowMicroseconds + policy.windowMicroseconds) same).le
  · exact .inr apart

theorem retryAfter_isLeast (lower : window.windowStart ≤ time)
    (short : window.windowEnd - window.windowStart ≤ 86400000000) :
    IsLeast {seconds : Nat | 1 ≤ seconds ∧ window.windowEnd ≤ time + seconds * 1000000}
      (retryAfter window time).val := by
  have remaining : window.windowEnd - time ≤ 86400000000 :=
    (Int.sub_le_sub_left lower _).trans short
  constructor
  · exact ⟨(retryAfter window time).property.1, wait_reaches remaining⟩
  · rintro seconds ⟨positive, reaches⟩
    exact wait_least positive reaches

/-! ## The window of a reading -/

/-- A reading has a window exactly if the bounds of the window of its instant have dates. -/
theorem windowFor_eq_ok_iff :
    ClockReading.windowFor policy observedAt = .ok window ↔
      (windowFor policy observedAt.instant).HasDates ∧
        windowFor policy observedAt.instant = window := by
  obtain ⟨lower, upper⟩ := windowFor_contains policy observedAt.instant
  have ordered := (windowFor policy observedAt.instant).ordered
  simp only [ClockReading.windowFor, bind_eq_ok_iff, dateOf_eq_ok_iff]
  simp only [ClockReading.epoch, Timedelta.total_ofMicroseconds, sub_zero, zero_add]
  constructor
  · rintro ⟨_, ⟨-, rfl⟩, _, ⟨hasStart, rfl⟩, _, ⟨hasEnd, rfl⟩, built⟩
    split at built
    · exact ⟨⟨hasStart, hasEnd⟩, pure_eq_ok_iff.mp built⟩
    · cases built
  · rintro ⟨⟨hasStart, hasEnd⟩, rfl⟩
    have hasDate : HasDate observedAt.instant :=
      ⟨hasStart.1.trans lower, upper.le.trans hasEnd.2⟩
    exact ⟨_, ⟨hasDate, rfl⟩, _, ⟨hasStart, rfl⟩, _, ⟨hasEnd, rfl⟩, dif_pos ordered⟩

theorem retryAfter_eq (window : RuntimeRateWindowIdentity) (observedAt : ClockReading) :
    ClockReading.retryAfter window observedAt =
      ((retryAfter window observedAt.instant).val : Int) := by
  simp only [ClockReading.retryAfter, retryAfter, Timedelta.total_ofMicroseconds]
  omega

/-- A reading whose window has dates is in that window, which is as long as the policy says;
other readings have the same window or one apart from it, and exactly the same where they are
in it; and the wait of the reading is the least that reaches the end of the window. -/
theorem rateWindows_exact (policy : RuntimeRatePolicyRevision) (observedAt : ClockReading)
    (hasDates : (windowFor policy observedAt.instant).HasDates) :
    ∃ window, ClockReading.windowFor policy observedAt = .ok window ∧
      (window.windowStart ≤ observedAt.instant ∧ observedAt.instant < window.windowEnd) ∧
      window.windowEnd - window.windowStart = policy.windowMicroseconds ∧
      (∀ other otherWindow, ClockReading.windowFor policy other = .ok otherWindow →
        window = otherWindow ∨ window.windowEnd ≤ otherWindow.windowStart ∨
          otherWindow.windowEnd ≤ window.windowStart) ∧
      (∀ other : ClockReading, window.windowStart ≤ other.instant →
        other.instant < window.windowEnd → ClockReading.windowFor policy other = .ok window) ∧
      IsLeast {seconds : Int | 1 ≤ seconds ∧
          window.windowEnd ≤ observedAt.instant + seconds * 1000000}
        (ClockReading.retryAfter window observedAt) := by
  obtain ⟨lower, upper⟩ := windowFor_contains policy observedAt.instant
  have short := (windowFor_length policy observedAt.instant).trans_le
    (windowMicroseconds_bounds policy).2
  refine ⟨_, windowFor_eq_ok_iff.mpr ⟨hasDates, rfl⟩, ⟨lower, upper⟩,
    windowFor_length policy observedAt.instant, ?_, ?_, ?_⟩
  · intro other otherWindow isWindow
    obtain ⟨-, rfl⟩ := windowFor_eq_ok_iff.mp isWindow
    exact windowFor_same_or_apart policy _ _
  · intro other after before
    have same := windowFor_of_mem after before
    exact windowFor_eq_ok_iff.mpr ⟨same ▸ hasDates, same⟩
  · rw [retryAfter_eq]
    obtain ⟨⟨positive, reaches⟩, least⟩ := retryAfter_isLeast lower short
    refine ⟨⟨Int.ofNat_le.mpr positive, reaches⟩, fun seconds ⟨enough, reached⟩ => ?_⟩
    have isNat : ((seconds.toNat : Nat) : Int) = seconds := Int.toNat_of_nonneg (by omega)
    rw [← isNat] at enough reached ⊢
    exact Int.ofNat_le.mpr (least ⟨Int.ofNat_le.mp enough, reached⟩)

/-- Half a minute past midnight on the first day of the epoch, nine hours east of UTC. -/
def RateSample.eastern : ClockReading where
  reading := 30000000
  utcOffset := 32400000000

/-- It is in the middle of a minute before the epoch. -/
theorem rateWindows_exact_eastern :
    ∃ window, ClockReading.windowFor RateSample.policy RateSample.eastern = .ok window ∧
      IsLeast {seconds : Int | 1 ≤ seconds ∧
          window.windowEnd ≤ RateSample.eastern.instant + seconds * 1000000}
        (ClockReading.retryAfter window RateSample.eastern) := by
  obtain ⟨window, isWindow, -, -, -, -, least⟩ := rateWindows_exact RateSample.policy
    RateSample.eastern ⟨by decide, by decide⟩
  exact ⟨window, isWindow, least⟩

end PolicyOS.Runtime
