import Mathlib.Data.List.Basic

/-!
# JSON values

The values that step inputs, outputs and error details are made of. Decimal
numbers are kept by their digits; members of an object are kept in the order they
were written.
-/

namespace PolicyOS.Execution

/-- A JSON value. -/
inductive JsonValue
  | null
  | boolean (value : Bool)
  | integer (value : Int)
  | decimal (digits : String)
  | text (value : String)
  | array (items : List JsonValue)
  | object (members : List (String × JsonValue))

namespace JsonValue

mutual

/-- Whether two values are the same, read off their structure. -/
def same : JsonValue → JsonValue → Bool
  | null, null => true
  | boolean left, boolean right => left = right
  | integer left, integer right => left = right
  | decimal left, decimal right => left = right
  | text left, text right => left = right
  | array left, array right => sameItems left right
  | object left, object right => sameMembers left right
  | _, _ => false

/-- Whether two arrays have the same items. -/
def sameItems : List JsonValue → List JsonValue → Bool
  | [], [] => true
  | left :: lefts, right :: rights => same left right && sameItems lefts rights
  | _, _ => false

/-- Whether two objects have the same members. -/
def sameMembers : List (String × JsonValue) → List (String × JsonValue) → Bool
  | [], [] => true
  | (key, left) :: lefts, (other, right) :: rights =>
      (key = other && same left right) && sameMembers lefts rights
  | _, _ => false

end

mutual

theorem same_iff : ∀ left right : JsonValue, same left right = true ↔ left = right
  | null, right => by cases right <;> simp [same]
  | boolean _, right => by cases right <;> simp [same]
  | integer _, right => by cases right <;> simp [same]
  | decimal _, right => by cases right <;> simp [same]
  | text _, right => by cases right <;> simp [same]
  | array items, right => by cases right <;> simp [same, sameItems_iff items]
  | object members, right => by cases right <;> simp [same, sameMembers_iff members]

theorem sameItems_iff : ∀ left right : List JsonValue, sameItems left right = true ↔ left = right
  | [], right => by cases right <;> simp [sameItems]
  | left :: lefts, right => by
      cases right <;> simp [sameItems, same_iff left, sameItems_iff lefts]

theorem sameMembers_iff : ∀ left right : List (String × JsonValue),
    sameMembers left right = true ↔ left = right
  | [], right => by cases right <;> simp [sameMembers]
  | (key, left) :: lefts, right => by
      cases right <;> simp [sameMembers, same_iff left, sameMembers_iff lefts, Prod.ext_iff]

end

instance : DecidableEq JsonValue := fun left right =>
  decidable_of_iff (same left right = true) (same_iff left right)

end JsonValue

end PolicyOS.Execution
