import Mathlib.Algebra.Order.Ring.Int
import Mathlib.Data.List.Nodup
import Mathlib.Tactic.Linarith

/-!
# Primitive values shared by the contracts

Identifiers, instants, bounded text and bounded counts, and the classification
order every subsystem compares. Timestamps are timezone-aware at every boundary
of the source, where aware values compare as instants, so an instant is all that
is kept of one.
-/

namespace PolicyOS

/-- A 128-bit identifier by its integer value. Canonical text and integer value
order identifiers alike. -/
abbrev UUID := Nat

/-- An aware timestamp, in microseconds from the epoch. -/
abbrev DateTime := Int

/-- A point in time as it is given to a contract that does not ask for a timezone. -/
inductive Moment
  | aware (instant : DateTime)
  /-- A wall clock reading, which does not compare with an instant. -/
  | naive (reading : DateTime)
  deriving DecidableEq, Repr

/-- A reference string of a bounded safe alphabet. -/
abbrev BoundedId := String

/-- A version string of a bounded safe alphabet. -/
abbrev BoundedVersion := String

/-- A strictly positive bounded count. -/
abbrev PositiveInt := {value : Nat // 1 ≤ value ∧ value ≤ 1000000}

/-- A bounded count that may be zero. -/
abbrev NonNegativeInt := {value : Nat // value ≤ 1000000}

/-- The positive count nearest to a number. -/
def PositiveInt.nearest (value : Nat) : PositiveInt := ⟨max 1 (min value 1000000), by omega⟩

/-- The count nearest to a number. -/
def NonNegativeInt.nearest (value : Nat) : NonNegativeInt := ⟨min value 1000000, by omega⟩

/-- Data sensitivity, from least to most restricted. -/
inductive DataClassification
  | «public»
  | internal
  | confidential
  | restricted
  deriving DecidableEq, Repr

/-- Position in the sensitivity order. -/
def DataClassification.rank : DataClassification → Nat
  | .public => 0
  | .internal => 1
  | .confidential => 2
  | .restricted => 3

/-- The value a classification is stored and sorted by. -/
def DataClassification.value : DataClassification → String
  | .public => "public"
  | .internal => "internal"
  | .confidential => "confidential"
  | .restricted => "restricted"

/-- One classification is at least as restricted as another. -/
def notLower (actual required : DataClassification) : Prop := required.rank ≤ actual.rank

instance (actual required : DataClassification) : Decidable (notLower actual required) :=
  inferInstanceAs (Decidable (_ ≤ _))

theorem notLower_refl (classification : DataClassification) :
    notLower classification classification := Nat.le_refl _

theorem notLower_trans {upper middle lower : DataClassification} (first : notLower upper middle)
    (second : notLower middle lower) : notLower upper lower :=
  Nat.le_trans second first

/-- Identifiers listed once each, in order. -/
def canonical (values : List UUID) : Prop :=
  values.Nodup ∧ values.Pairwise (· ≤ ·)

instance (values : List UUID) : Decidable (canonical values) :=
  inferInstanceAs (Decidable (_ ∧ _))

/-- The empty tuple is canonical. -/
@[simp] theorem canonical_nil : canonical [] := by
  simp [canonical]

end PolicyOS
