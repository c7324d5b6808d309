import Mathlib.Data.List.Basic

/-!
# Batches of a list

A list cut into pieces of one length, of which the last may be shorter.
-/

namespace PolicyOS.Foundation

variable {α : Type} {size : Nat} {items : List α}

/-- The items from every multiple of the size on. -/
def batches (size : Nat) (items : List α) : List (List α) :=
  (List.range ((items.length + size - 1) / size)).map fun index =>
    (items.drop (index * size)).take size

example : batches 2 [1, 2, 3, 4, 5] = [[1, 2], [3, 4], [5]] := by decide

theorem flatten_batches_take (count : Nat) :
    ((List.range count).map fun index => (items.drop (index * size)).take size).flatten =
      items.take (count * size) := by
  induction count with
  | zero => simp
  | succ count ih =>
      rw [List.range_succ, List.map_append, List.flatten_append, ih, Nat.succ_mul, List.take_add]
      simp

theorem flatten_batches (positive : 0 < size) : (batches size items).flatten = items := by
  rw [batches, flatten_batches_take, List.take_of_length_le]
  have whole : items.length + size - 1 < ((items.length + size - 1) / size + 1) * size :=
    Nat.lt_mul_of_div_lt (Nat.lt_succ_self _) positive
  rw [Nat.succ_mul] at whole
  omega

end PolicyOS.Foundation
