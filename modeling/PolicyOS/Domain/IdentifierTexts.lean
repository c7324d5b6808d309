import PolicyOS.Domain.Identifiers
import PolicyOS.Foundation.JsonText

/-!
# Texts of identifiers

An identifier of 128 bits is told by its text: the digits of its groups are those of the number.
-/

namespace PolicyOS

open Foundation

theorem div_eq_of_digits {first second : Nat} (low count : Nat)
    (higher : first / 16 ^ (low + count) = second / 16 ^ (low + count))
    (digits : digitsText 16 count (first / 16 ^ low) = digitsText 16 count (second / 16 ^ low)) :
    first / 16 ^ low = second / 16 ^ low := by
  rw [Nat.pow_add, ← Nat.div_div_eq_div_mul, ← Nat.div_div_eq_div_mul] at higher
  rw [← Nat.div_add_mod (first / 16 ^ low) (16 ^ count), higher,
    (digitsText_inj (by decide) (by decide)).mp digits, Nat.div_add_mod]

/-- Identifiers of 128 bits are told by their texts. -/
theorem eq_of_uuidChars {first second : UUID} (isFirst : first < 2 ^ 128)
    (isSecond : second < 2 ^ 128) (same : uuidChars first = uuidChars second) :
    first = second := by
  have isDigits : hexDigits = digitsText 16 := rfl
  simp only [uuidChars, isDigits, List.append_assoc, List.cons_append] at same
  obtain ⟨group1, rest⟩ := List.append_inj same (by simp)
  obtain ⟨group2, rest⟩ := List.append_inj (List.cons.inj rest).2 (by simp)
  obtain ⟨group3, rest⟩ := List.append_inj (List.cons.inj rest).2 (by simp)
  obtain ⟨group4, rest⟩ := List.append_inj (List.cons.inj rest).2 (by simp)
  have bounded : ∀ value < 2 ^ 128, value / 16 ^ (24 + 8) = 0 := fun value bound =>
    Nat.div_eq_of_lt bound
  have upTo24 := div_eq_of_digits _ _ ((bounded _ isFirst).trans (bounded _ isSecond).symm) group1
  have upTo20 := div_eq_of_digits 20 4 upTo24 group2
  have upTo16 := div_eq_of_digits 16 4 upTo20 group3
  have upTo12 := div_eq_of_digits 12 4 upTo16 group4
  have whole := div_eq_of_digits 0 12 upTo12
    (by simpa using (List.cons.inj rest).2)
  simpa using whole

/-- Identifiers of 128 bits are told by their texts. -/
theorem eq_of_uuidText {first second : UUID} (isFirst : first < 2 ^ 128)
    (isSecond : second < 2 ^ 128) (same : uuidText first = uuidText second) : first = second :=
  eq_of_uuidChars isFirst isSecond (String.ofList_injective same)

end PolicyOS
