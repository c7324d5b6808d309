import Mathlib.Data.List.Chain
import Mathlib.Data.List.Range

/-!
# Linked logs and unique rows

An append-only log in which every entry but the first is linked to the one before
it. The invariant is a structure over the list of entries; appending a linked
entry keeps it, and where a link increments a position the positions of the log
are contiguous. Rows under a uniqueness constraint are a list in which no later
row conflicts with an earlier one.
-/

namespace PolicyOS.Foundation

universe u

variable {Entry : Type u} {Origin : Entry → Prop} {Link : Entry → Entry → Prop}

/-- The log starts at an origin and every adjacent pair is linked. -/
structure LinkedLog (Origin : Entry → Prop) (Link : Entry → Entry → Prop)
    (entries : List Entry) : Prop where
  origin : ∃ first, entries.head? = some first ∧ Origin first
  linked : entries.IsChain Link

namespace LinkedLog

variable {entries : List Entry}

theorem singleton {first : Entry} (valid : Origin first) : LinkedLog Origin Link [first] :=
  ⟨⟨first, rfl, valid⟩, .singleton first⟩

/-- An entry linked to the last one extends the log. -/
theorem snoc (log : LinkedLog Origin Link entries) {last next : Entry}
    (ends : entries.getLast? = some last) (link : Link last next) :
    LinkedLog Origin Link (entries ++ [next]) := by
  obtain ⟨first, starts, valid⟩ := log.origin
  refine ⟨⟨first, ?_, valid⟩, ?_⟩
  · rw [List.head?_append, starts]
    rfl
  · rw [List.isChain_append]
    refine ⟨log.linked, .singleton next, ?_⟩
    intro earlier isLast later isHead
    rw [ends, Option.mem_def, Option.some.injEq] at isLast
    rw [List.head?_cons, Option.mem_def, Option.some.injEq] at isHead
    exact isLast ▸ isHead ▸ link

theorem positions_of_chain {position : Entry → Nat}
    (increments : ∀ {earlier later}, Link earlier later → position later = position earlier + 1)
    {first : Entry} {rest : List Entry} (linked : (first :: rest).IsChain Link) :
    (first :: rest).map position = List.range' (position first) (rest.length + 1) := by
  induction rest generalizing first with
  | nil => rfl
  | cons second rest ih =>
      rw [List.isChain_cons_cons] at linked
      rw [List.map_cons, ih linked.2, increments linked.1]
      rfl

/-- The positions of a log whose origin is at one are `1..n`. -/
theorem positions (log : LinkedLog Origin Link entries) {position : Entry → Nat}
    (starts : ∀ {first}, Origin first → position first = 1)
    (increments : ∀ {earlier later}, Link earlier later → position later = position earlier + 1) :
    entries.map position = List.range' 1 entries.length := by
  obtain ⟨first, isHead, valid⟩ := log.origin
  cases entries with
  | nil => cases isHead
  | cons head rest =>
      obtain rfl : head = first := by simpa using isHead
      have counted := positions_of_chain @increments log.linked
      rw [starts valid] at counted
      simpa using counted

end LinkedLog

/-- No later row of a table conflicts with an earlier one. -/
def Unconflicted (Conflicts : Entry → Entry → Prop) (rows : List Entry) : Prop :=
  rows.Pairwise fun earlier later => ¬ Conflicts later earlier

theorem Unconflicted.snoc {Conflicts : Entry → Entry → Prop} {rows : List Entry} {row : Entry}
    (rowsFree : Unconflicted Conflicts rows) (free : ∀ stored ∈ rows, ¬ Conflicts row stored) :
    Unconflicted Conflicts (rows ++ [row]) := by
  rw [Unconflicted, List.pairwise_append]
  refine ⟨rowsFree, List.pairwise_singleton _ row, ?_⟩
  intro stored isStored added isAdded
  rw [List.mem_singleton] at isAdded
  exact isAdded ▸ free stored isStored

/-- At most one row has a property that any two rows with it conflict over. -/
theorem Unconflicted.length_filter_le {Conflicts : Entry → Entry → Prop} {rows : List Entry}
    (rowsFree : Unconflicted Conflicts rows) {selected : Entry → Bool}
    (exclusive : ∀ earlier ∈ rows, ∀ later ∈ rows, selected earlier = true →
      selected later = true → Conflicts later earlier) :
    (rows.filter selected).length ≤ 1 := by
  have pairs := List.Pairwise.filter selected rowsFree
  rcases chosen : rows.filter selected with _ | ⟨first, _ | ⟨second, rest⟩⟩
  · simp
  · simp
  · rw [chosen, List.pairwise_cons] at pairs
    have isFirst : first ∈ rows.filter selected := by simp [chosen]
    have isSecond : second ∈ rows.filter selected := by simp [chosen]
    rw [List.mem_filter] at isFirst isSecond
    exact absurd (exclusive first isFirst.1 second isSecond.1 isFirst.2 isSecond.2)
      (pairs.1 second (List.mem_cons_self ..))

end PolicyOS.Foundation
