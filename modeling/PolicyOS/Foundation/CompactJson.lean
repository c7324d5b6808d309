import PolicyOS.Foundation.JsonText
import PolicyOS.Foundation.PrefixFree

/-!
# Compact JSON

How an object of strings and nulls is written without blanks and outside ASCII: only quotes,
backslashes and control characters are escaped. Its members are read one after the other.
-/

namespace PolicyOS.Foundation

/-- A string with the control characters escaped. -/
def rawText : Text → Text := quotedText fun char => decide (0x20 ≤ char.toNat)

/-- A string or null. -/
def scalarText : Option Text → Text
  | none => "null".toList
  | some text => rawText text

/-- A key and its value. -/
def memberText (member : Text × Option Text) : Text :=
  rawText member.1 ++ ':' :: scalarText member.2

/-- An object, with its members in the order in which they were given. -/
def objectText (members : List (Text × Option Text)) : Text :=
  '{' :: Text.join [','] (members.map memberText) ++ ['}']

example : objectText [("a".toList, some "é\"\n".toList), ("b".toList, none)] =
    "\x7b\"a\":\"é\\\"\\n\",\"b\":null\x7d".toList := by decide

/-- A string is never null. -/
theorem scalarText_prefixFree : PrefixFree (fun _ => True) scalarText := by
  rintro (_ | first) (_ | second) - - before after same
  · exact ⟨rfl, List.append_cancel_left same⟩
  · simp [scalarText, rawText, quotedText] at same
  · simp [scalarText, rawText, quotedText] at same
  · obtain ⟨rfl, rest⟩ := quotedText_inj same
    exact ⟨rfl, rest⟩

theorem memberText_prefixFree : PrefixFree (fun _ => True) memberText := by
  rintro ⟨firstKey, first⟩ ⟨secondKey, second⟩ - - before after same
  simp only [memberText, List.append_assoc, List.cons_append] at same
  obtain ⟨rfl, value⟩ := quotedText_inj same
  obtain ⟨rfl, rest⟩ := scalarText_prefixFree trivial trivial (List.cons.inj value).2
  exact ⟨rfl, rest⟩

/-- Texts after the first one follow a separator each. -/
theorem join_cons (separator text : Text) (texts : List Text) :
    Text.join separator (text :: texts) = text ++ texts.flatMap (separator ++ ·) := by
  induction texts generalizing text with
  | nil => simp [Text.join]
  | cons next rest ih =>
      have after := ih next
      simp only [Text.join, List.intersperse_cons_cons, List.flatten_cons] at after ⊢
      rw [after, List.flatMap_cons, List.append_assoc]

/-- Objects with as many members are told by their texts. -/
theorem objectText_inj {first second : List (Text × Option Text)}
    (long : first.length = second.length) (same : objectText first = objectText second) :
    first = second := by
  have joined := List.append_cancel_right (List.cons.inj same).2
  cases first with
  | nil => exact (List.length_eq_zero_iff.mp long.symm).symm
  | cons member rest =>
      cases second with
      | nil => cases long
      | cons other others =>
          simp only [List.map_cons, join_cons] at joined
          obtain ⟨rfl, remains⟩ := memberText_prefixFree trivial trivial joined
          have behind : PrefixFree (fun _ => True) fun value => ',' :: memberText value := by
            intro value next _ _ before after same
            exact memberText_prefixFree trivial trivial (List.cons.inj same).2
          rw [behind.flatMap_inj (by simp) (by simp) (Nat.succ.inj long)
            (by simpa [List.flatMap_map] using remains)]

end PolicyOS.Foundation
