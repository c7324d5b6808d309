import Mathlib.Algebra.Order.Ring.Int

/-!
# Retries

A loop makes attempt after attempt for as long as each asks for another and a limit allows it,
and waits before each repetition. It stops at exactly one attempt: the first that is final,
that has no retry left, or before whose successor the waiting itself fails.
-/

namespace PolicyOS.Foundation

/-- What one attempt comes to: it ends the loop, or it asks for another attempt and says how
the loop ends where none is left. -/
inductive Verdict (α : Type)
  | final (outcome : α)
  | again (exhausted : α)
  deriving DecidableEq

/-- How a loop ended, and after how many attempts. -/
structure Ended (α : Type) where
  attempts : Nat
  outcome : α
  deriving DecidableEq

/-- A loop: how often it may repeat, what each attempt comes to, and what waiting before an
attempt fails with, if it does. -/
structure RetryLoop (α : Type) where
  limit : Int
  attempt : Nat → Verdict α
  pause : Nat → Option α

variable {α : Type}

namespace RetryLoop

/-- The loop from one of its attempts on. -/
def runFrom (loop : RetryLoop α) (made : Nat) : Ended α :=
  match loop.attempt made with
  | .final outcome => ⟨made + 1, outcome⟩
  | .again exhausted =>
      if loop.limit ≤ made then ⟨made + 1, exhausted⟩
      else match loop.pause (made + 1) with
        | some failed => ⟨made + 1, failed⟩
        | none => loop.runFrom (made + 1)
  termination_by (loop.limit - made).toNat

/-- The whole loop. -/
def run (loop : RetryLoop α) : Ended α :=
  loop.runFrom 0

/-- After an attempt the loop makes another. -/
def Repeats (loop : RetryLoop α) (made : Nat) : Prop :=
  (∃ exhausted, loop.attempt made = .again exhausted) ∧ (made : Int) < loop.limit ∧
    loop.pause (made + 1) = none

/-- The loop gets as far as an attempt. -/
def Reaches (loop : RetryLoop α) (made : Nat) : Prop :=
  ∀ earlier < made, loop.Repeats earlier

/-- An attempt ends the loop with an outcome. -/
inductive Stops (loop : RetryLoop α) (made : Nat) (outcome : α) : Prop
  | final (answered : loop.attempt made = .final outcome)
  | exhausted (answered : loop.attempt made = .again outcome) (spent : loop.limit ≤ made)
  | interrupted {exhausted : α} (answered : loop.attempt made = .again exhausted)
      (left : (made : Int) < loop.limit) (failed : loop.pause (made + 1) = some outcome)

variable {loop : RetryLoop α} {made : Nat} {outcome : α}

theorem reaches_zero : loop.Reaches 0 :=
  fun _ earlier => absurd earlier (Nat.not_lt_zero _)

theorem Reaches.succ (reaches : loop.Reaches made) (repeats : loop.Repeats made) :
    loop.Reaches (made + 1) := by
  intro earlier before
  rcases Nat.lt_succ_iff_lt_or_eq.mp before with before | rfl
  · exact reaches earlier before
  · exact repeats

theorem Reaches.le_limit (reaches : loop.Reaches made) (allowed : 0 ≤ loop.limit) :
    (made : Int) ≤ loop.limit := by
  cases made with
  | zero => exact allowed
  | succ earlier => exact (reaches earlier (Nat.lt_succ_self earlier)).2.1

theorem Stops.runFrom_eq (stops : loop.Stops made outcome) :
    loop.runFrom made = ⟨made + 1, outcome⟩ := by
  rw [runFrom]
  cases stops with
  | final answered => simp only [answered]
  | exhausted answered spent => simp only [answered, if_pos spent]
  | interrupted answered left failed =>
      simp only [answered, if_neg (not_le.mpr left), failed]

theorem Repeats.runFrom_eq (repeats : loop.Repeats made) :
    loop.runFrom made = loop.runFrom (made + 1) := by
  obtain ⟨⟨exhausted, again⟩, left, waited⟩ := repeats
  conv => lhs; rw [runFrom]
  simp only [again, if_neg (not_le.mpr left), waited]

theorem Reaches.run_eq (reaches : loop.Reaches made) : loop.run = loop.runFrom made := by
  induction made with
  | zero => rfl
  | succ made ih =>
      rw [← (reaches made (Nat.lt_succ_self made)).runFrom_eq]
      exact ih fun earlier before => reaches earlier (before.trans (Nat.lt_succ_self made))

theorem run_of_stops (reaches : loop.Reaches made) (stops : loop.Stops made outcome) :
    loop.run = ⟨made + 1, outcome⟩ :=
  reaches.run_eq.trans stops.runFrom_eq

theorem repeats_or_stops (loop : RetryLoop α) (made : Nat) :
    loop.Repeats made ∨ ∃ outcome, loop.Stops made outcome := by
  cases answered : loop.attempt made with
  | final outcome => exact .inr ⟨outcome, .final answered⟩
  | again exhausted =>
      by_cases spent : loop.limit ≤ made
      · exact .inr ⟨exhausted, .exhausted answered spent⟩
      · cases waited : loop.pause (made + 1) with
        | none => exact .inl ⟨⟨exhausted, answered⟩, not_le.mp spent, waited⟩
        | some failed => exact .inr ⟨failed, .interrupted answered (not_le.mp spent) waited⟩

theorem exists_stops {first : Nat} (reaches : loop.Reaches first) :
    ∃ last outcome, loop.Reaches last ∧ loop.Stops last outcome := by
  rcases loop.repeats_or_stops first with repeats | ⟨outcome, stops⟩
  · exact exists_stops (reaches.succ repeats)
  · exact ⟨first, outcome, reaches, stops⟩
  termination_by (loop.limit - first).toNat
  decreasing_by
    have left := repeats.2.1
    omega

theorem run_eq_iff {ended : Ended α} :
    loop.run = ended ↔
      ∃ last, loop.Reaches last ∧ loop.Stops last ended.outcome ∧ ended.attempts = last + 1 := by
  constructor
  · rintro rfl
    obtain ⟨last, outcome, reaches, stops⟩ := exists_stops (reaches_zero : loop.Reaches 0)
    rw [run_of_stops reaches stops]
    exact ⟨last, reaches, stops, rfl⟩
  · rintro ⟨last, reaches, stops, counted⟩
    rw [run_of_stops reaches stops, ← counted]

theorem reaches_iff (allowed : 0 ≤ loop.limit) :
    loop.Reaches made ↔ (made : Int) ≤ loop.limit ∧ ∀ earlier < made,
      (∃ exhausted, loop.attempt earlier = .again exhausted) ∧ loop.pause (earlier + 1) = none := by
  constructor
  · intro reaches
    exact ⟨reaches.le_limit allowed, fun earlier before =>
      ⟨(reaches earlier before).1, (reaches earlier before).2.2⟩⟩
  · rintro ⟨within, passed⟩ earlier before
    exact ⟨(passed earlier before).1, by omega, (passed earlier before).2⟩

/-- What holds of whatever an attempt ends the loop with, by how it ends it. -/
theorem forall_stops_iff {holds : α → Prop} :
    (∀ outcome, loop.Stops made outcome → holds outcome) ↔
      (∀ outcome, loop.attempt made = .final outcome → holds outcome) ∧
        ∀ exhausted, loop.attempt made = .again exhausted →
          (loop.limit ≤ made → holds exhausted) ∧
            ((made : Int) < loop.limit → ∀ failed, loop.pause (made + 1) = some failed →
              holds failed) := by
  constructor
  · intro held
    exact ⟨fun outcome answered => held outcome (.final answered),
      fun exhausted answered => ⟨fun spent => held exhausted (.exhausted answered spent),
        fun left failed interrupted => held failed (.interrupted answered left interrupted)⟩⟩
  · rintro ⟨ended, asked⟩ outcome stops
    cases stops with
    | final answered => exact ended outcome answered
    | exhausted answered spent => exact (asked outcome answered).1 spent
    | interrupted answered left failed => exact (asked _ answered).2 left outcome failed

theorem attempts_le_iff : (loop.run.attempts : Int) ≤ loop.limit + 1 ↔ 0 ≤ loop.limit := by
  obtain ⟨last, reaches, -, counted⟩ := run_eq_iff.mp (rfl : loop.run = loop.run)
  rw [counted]
  refine ⟨fun bounded => ?_, fun allowed => ?_⟩
  · push_cast at bounded
    omega
  · have := reaches.le_limit allowed
    push_cast
    omega

theorem forall_outcome_iff {holds : α → Prop} :
    holds loop.run.outcome ↔
      ∀ last outcome, loop.Reaches last → loop.Stops last outcome → holds outcome := by
  constructor
  · intro held last outcome reaches stops
    rwa [run_of_stops reaches stops] at held
  · intro held
    obtain ⟨last, reaches, stops, -⟩ := run_eq_iff.mp (rfl : loop.run = loop.run)
    exact held last _ reaches stops

end RetryLoop

end PolicyOS.Foundation
