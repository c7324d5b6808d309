import PolicyOS.Foundation.SortedBy

/-!
# Bounded reports

A list of findings that is deduplicated by a key, put in order and cut off at a limit,
with a last entry that says so. A report is empty only where nothing was found, and
its entries are findings or that last entry.
-/

namespace PolicyOS.Foundation

variable {Item Key : Type} [DecidableEq Key] {key : Item → Key} {items : List Item}

/-- The last item of every key, in the order the keys first occur. -/
def lastByKey (key : Item → Key) (items : List Item) : List Item :=
  (items.map key).eraseDups.filterMap fun wanted => items.reverse.find? (key · = wanted)

theorem mem_of_lastByKey {item : Item} (kept : item ∈ lastByKey key items) : item ∈ items := by
  obtain ⟨wanted, _, found⟩ := List.mem_filterMap.mp kept
  exact List.mem_reverse.mp (List.mem_of_find?_eq_some found)

theorem exists_lastByKey {item : Item} (present : item ∈ items) :
    ∃ kept ∈ lastByKey key items, key kept = key item := by
  have isKey : key item ∈ (items.map key).eraseDups :=
    List.mem_eraseDups.mpr (List.mem_map_of_mem present)
  have isFound : (items.reverse.find? (key · = key item)).isSome :=
    List.find?_isSome.mpr ⟨item, List.mem_reverse.mpr present, decide_eq_true rfl⟩
  obtain ⟨kept, found⟩ := Option.isSome_iff_exists.mp isFound
  exact ⟨kept, List.mem_filterMap.mpr ⟨_, isKey, found⟩,
    of_decide_eq_true (List.find?_some found :)⟩

theorem le_length_lastByKey {keys : List Key} (distinct : keys.Nodup)
    (occur : ∀ wanted ∈ keys, ∃ item ∈ items, key item = wanted) :
    keys.length ≤ (lastByKey key items).length := by
  have kept : keys ⊆ (lastByKey key items).map key := by
    intro wanted isWanted
    obtain ⟨item, isItem, rfl⟩ := occur wanted isWanted
    obtain ⟨own, isKept, same⟩ : ∃ own ∈ lastByKey key items, key own = key item :=
      exists_lastByKey isItem
    exact List.mem_map.mpr ⟨own, isKept, same⟩
  exact (List.subperm_of_subset distinct kept).length_le.trans_eq (List.length_map _)

/-- Nothing is kept of nothing only. -/
@[simp] theorem lastByKey_eq_nil_iff : lastByKey key items = [] ↔ items = [] := by
  constructor
  · intro empty
    by_contra present
    obtain ⟨item, isItem⟩ := List.exists_mem_of_ne_nil items present
    obtain ⟨kept, isKept, _⟩ : ∃ kept ∈ lastByKey key items, key kept = key item :=
      exists_lastByKey isItem
    rw [empty] at isKept
    cases isKept
  · rintro rfl
    rfl

/-- The items up to a limit, the last of them a summary where there are more. -/
def capped (limit : Nat) (summary : Item) (items : List Item) : List Item :=
  if items.length ≤ limit then items else items.take (limit - 1) ++ [summary]

theorem mem_of_capped {limit : Nat} {summary item : Item}
    (reported : item ∈ capped limit summary items) : item ∈ items ∨ item = summary := by
  unfold capped at reported
  split at reported
  · exact .inl reported
  · rcases List.mem_append.mp reported with kept | isLast
    · exact .inl (List.mem_of_mem_take kept)
    · exact .inr (List.mem_singleton.mp isLast)

theorem mem_capped_or_summary {limit : Nat} {summary item : Item} (present : item ∈ items) :
    item ∈ capped limit summary items ∨ summary ∈ capped limit summary items := by
  unfold capped
  split
  · exact .inl present
  · exact .inr (List.mem_append_right _ (List.mem_singleton.mpr rfl))

theorem length_capped {limit : Nat} {summary : Item} (positive : 0 < limit) :
    (capped limit summary items).length = min limit items.length := by
  unfold capped
  split
  · omega
  · simp only [List.length_append, List.length_take, List.length_singleton]
    omega

/-- Nothing is reported of nothing only. -/
@[simp] theorem capped_eq_nil_iff {limit : Nat} {summary : Item} :
    capped limit summary items = [] ↔ items = [] := by
  unfold capped
  split
  · rfl
  · rename_i over_
    constructor
    · intro empty
      simp at empty
    · rintro rfl
      simp at over_

end PolicyOS.Foundation
