import Mathlib.Data.List.Basic

/-!
# Prefix-free encodings

An encoding that can be read off the front of any text: whatever follows, the same text has one
value at its front. Such encodings are put one after the other without ambiguity, and a length in
front of any injective encoding makes it one.
-/

namespace PolicyOS.Foundation

variable {Value Symbol : Type}

/-- Valid values are told by their encodings, whatever follows them. -/
def PrefixFree (valid : Value → Prop) (encode : Value → List Symbol) : Prop :=
  ∀ ⦃first second : Value⦄, valid first → valid second → ∀ ⦃before after : List Symbol⦄,
    encode first ++ before = encode second ++ after → first = second ∧ before = after

namespace PrefixFree

variable {valid : Value → Prop} {encode : Value → List Symbol}

/-- As many values one after the other are told by their encodings. -/
theorem flatMap (free : PrefixFree valid encode) :
    ∀ {first second : List Value} {before after : List Symbol},
      (∀ value ∈ first, valid value) → (∀ value ∈ second, valid value) →
      first.length = second.length →
      first.flatMap encode ++ before = second.flatMap encode ++ after →
        first = second ∧ before = after
  | [], [], _, _, _, _, _, same => ⟨rfl, same⟩
  | value :: rest, other :: others, _, _, isFirst, isSecond, long, same => by
      rw [List.forall_mem_cons] at isFirst isSecond
      simp only [List.flatMap_cons, List.append_assoc] at same
      obtain ⟨rfl, remains⟩ := free isFirst.1 isSecond.1 same
      obtain ⟨rfl, rest⟩ := flatMap free isFirst.2 isSecond.2 (Nat.succ.inj long) remains
      exact ⟨rfl, rest⟩

/-- A text of values one after the other has as many only in one way. -/
theorem flatMap_inj (free : PrefixFree valid encode) {first second : List Value}
    (isFirst : ∀ value ∈ first, valid value) (isSecond : ∀ value ∈ second, valid value)
    (long : first.length = second.length) (same : first.flatMap encode = second.flatMap encode) :
    first = second :=
  (@flatMap _ _ _ _ free first second [] [] isFirst isSecond long (by rw [same])).1

/-- An injective encoding behind its own length. -/
theorem framed {fits : Nat → Prop} {header : Nat → List Symbol} (headers : PrefixFree fits header)
    (injective : ∀ ⦃first second⦄, valid first → valid second →
      encode first = encode second → first = second) :
    PrefixFree (fun value => valid value ∧ fits (encode value).length)
      fun value => header (encode value).length ++ encode value := by
  rintro first second ⟨isFirst, firstFits⟩ ⟨isSecond, secondFits⟩ before after same
  simp only [List.append_assoc] at same
  obtain ⟨long, rest⟩ := headers firstFits secondFits same
  obtain ⟨encoded, remains⟩ := List.append_inj rest long
  exact ⟨injective isFirst isSecond encoded, remains⟩

/-- Encodings of one length. -/
theorem of_length {length : Nat} (long : ∀ value, valid value → (encode value).length = length)
    (injective : ∀ ⦃first second⦄, valid first → valid second →
      encode first = encode second → first = second) : PrefixFree valid encode := by
  intro first second isFirst isSecond before after same
  obtain ⟨encoded, remains⟩ :=
    List.append_inj same ((long first isFirst).trans (long second isSecond).symm)
  exact ⟨injective isFirst isSecond encoded, remains⟩

end PrefixFree

end PolicyOS.Foundation
