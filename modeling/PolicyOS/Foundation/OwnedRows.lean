import Mathlib.Data.List.Range
import PolicyOS.Foundation.Checked
import PolicyOS.Foundation.KeyedList

/-!
# Rows inserted in turn

A row is inserted if it passes its own checks and conflicts with no row of the table. Rows
inserted in turn are accepted exactly if each passes, none conflicts with a row that was
there, and no two conflict with each other.
-/

namespace PolicyOS.Foundation

variable {Row Error : Type}

/-- Insert rows in turn, stopping at the first error. -/
def insertRows (check : Row → Except Error Unit) (Conflicts : Row → Row → Prop)
    [∀ row other, Decidable (Conflicts row other)] (clash : Error) :
    List Row → List Row → Except Error (List Row)
  | table, [] => pure table
  | table, row :: rest => do
      check row
      rejectIf (∃ other ∈ table, Conflicts row other) clash
      insertRows check Conflicts clash (table ++ [row]) rest

variable {check : Row → Except Error Unit} {Conflicts : Row → Row → Prop}
  [∀ row other, Decidable (Conflicts row other)] {clash : Error} {table rows result : List Row}

/-- Rows are inserted at the end, exactly if each passes and none conflicts with a row that was
there or is inserted before it. -/
theorem insertRows_eq_ok_iff :
    insertRows check Conflicts clash table rows = .ok result ↔
      (∀ row ∈ rows, check row = .ok ()) ∧ (∀ row ∈ rows, ∀ other ∈ table, ¬ Conflicts row other) ∧
        (rows.Pairwise fun earlier later => ¬ Conflicts later earlier) ∧ table ++ rows = result := by
  induction rows generalizing table with
  | nil => simp [insertRows]
  | cons row rest ih =>
      simp only [insertRows, bind_eq_ok_iff, exists_unit_iff, rejectIf_eq_ok_iff, ih,
        not_exists, not_and, List.forall_mem_cons, List.pairwise_cons]
      constructor
      · rintro ⟨checked, clear, each, apart, distinct, rfl⟩
        refine ⟨⟨checked, each⟩, ⟨clear, fun later isLater other isOther =>
          apart later isLater other (List.mem_append_left _ isOther)⟩,
          ⟨fun later isLater => apart later isLater row (by simp), distinct⟩, by simp⟩
      · rintro ⟨⟨checked, each⟩, ⟨clear, apart⟩, ⟨own, distinct⟩, rfl⟩
        refine ⟨checked, clear, each, fun later isLater other isOther => ?_, distinct, by simp⟩
        rcases List.mem_append.mp isOther with old | isRow
        · exact apart later isLater other old
        · rw [List.mem_singleton.mp isRow]
          exact own later isLater

end PolicyOS.Foundation

/-!
# Rows of several owners

A table that holds, one owner after the other, the rows of each, where a row carries the key of
its owner. The rows of one owner are read back by that key, in the order they were written.
Rows numbered in turn are in the order of their numbers.
-/

namespace PolicyOS.Foundation

variable {Owner Key Row : Type} [DecidableEq Key] {owners : List Owner} {key : Owner → Key}
  {rows : Owner → List Row} {rowKey : Row → Key}

theorem filter_flatMap_of_notMem (owned : ∀ owner ∈ owners, ∀ row ∈ rows owner,
      rowKey row = key owner) {wanted : Key} (foreign : wanted ∉ owners.map key) :
    (owners.flatMap rows).filter (rowKey · = wanted) = [] := by
  refine List.filter_eq_nil_iff.mpr fun row present => ?_
  obtain ⟨owner, isOwner, isRow⟩ := List.mem_flatMap.mp present
  have ownKey := owned owner isOwner row isRow
  simp only [decide_eq_true_eq]
  exact fun found => foreign (List.mem_map.mpr ⟨owner, isOwner, ownKey.symm.trans found⟩)

/-- Under the key of an owner exactly its own rows are found. -/
theorem filter_flatMap_of_mem (owned : ∀ owner ∈ owners, ∀ row ∈ rows owner,
      rowKey row = key owner) (distinct : (owners.map key).Nodup) {owner : Owner}
    (isOwner : owner ∈ owners) :
    (owners.flatMap rows).filter (rowKey · = key owner) = rows owner := by
  induction owners with
  | nil => cases isOwner
  | cons first rest ih =>
      rw [List.map_cons, List.nodup_cons] at distinct
      have restOwned := fun other isOther => owned other (List.mem_cons_of_mem first isOther)
      rw [List.flatMap_cons, List.filter_append]
      rcases List.mem_cons.mp isOwner with rfl | later
      · rw [filter_flatMap_of_notMem restOwned distinct.1, List.append_nil]
        exact List.filter_eq_self.mpr fun row isRow => by
          simpa using owned owner List.mem_cons_self row isRow
      · rw [ih restOwned distinct.2 later]
        have apart : key first ≠ key owner := fun same =>
          distinct.1 (List.mem_map.mpr ⟨owner, later, same.symm⟩)
        have none : (rows first).filter (rowKey · = key owner) = [] := by
          refine List.filter_eq_nil_iff.mpr fun row isRow => ?_
          rw [owned first List.mem_cons_self row isRow]
          simpa using apart
        rw [none, List.nil_append]

omit [DecidableEq Key] in
/-- The one row that answers is the one that is found, where answering fixes the key. -/
theorem find?_eq_some_of_key {table : List Row} (distinct : (table.map rowKey).Nodup)
    {answers : Row → Prop} [DecidablePred answers] {wanted : Key}
    (keyed : ∀ row, answers row → rowKey row = wanted) {row : Row} (present : row ∈ table)
    (answered : answers row) : table.find? (fun row => answers row) = some row := by
  cases found : table.find? (fun row => answers row) with
  | none => exact absurd answered (by simpa using List.find?_eq_none.mp found row present)
  | some other =>
      have isOther := List.mem_of_find?_eq_some found
      have answersToo : answers other := by simpa using List.find?_some found
      rw [List.inj_on_of_nodup_map distinct isOther present
        ((keyed other answersToo).trans (keyed row answered).symm)]

omit [DecidableEq Key] in
/-- Numbered items are in the order of their numbers, and related as the items are. -/
theorem pairwise_zipIdx {Item : Type} {Related : Item → Item → Prop} {items : List Item}
    (related : items.Pairwise Related) :
    items.zipIdx.Pairwise fun earlier later =>
      earlier.2 < later.2 ∧ Related earlier.1 later.1 := by
  have numbers : items.zipIdx.Pairwise fun earlier later => earlier.2 < later.2 := by
    refine List.pairwise_map.mp ?_
    rw [List.zipIdx_map_snd]
    exact List.pairwise_lt_range'
  have values : items.zipIdx.Pairwise fun earlier later => Related earlier.1 later.1 := by
    refine List.pairwise_map.mp ?_
    rwa [List.zipIdx_map_fst]
  exact numbers.and values

end PolicyOS.Foundation
