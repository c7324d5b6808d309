import Mathlib.Data.List.Nodup

/-!
# Rows by key

A row is looked up by its key. Taking the items of a list one after the other, each of a key of
its own, changes the row of that key, or adds one: every row is then what its own item made of it.
-/

namespace PolicyOS.Foundation

variable {Row Key Item : Type} [DecidableEq Key] (keyOf : Row → Key)

/-- The row of a key. -/
def rowOf (rows : List Row) (key : Key) : Option Row :=
  rows.find? (keyOf · = key)

/-- The row of a key is changed, or added as the change of a first one. -/
def upsert (key : Key) (first : Row) (change : Row → Row) (rows : List Row) : List Row :=
  if key ∈ rows.map keyOf then rows.map fun row => if keyOf row = key then change row else row
  else rows ++ [change first]

variable {keyOf} {rows : List Row} {key wanted : Key} {first row : Row} {change : Row → Row}

theorem rowOf_eq_none_iff : rowOf keyOf rows wanted = none ↔ wanted ∉ rows.map keyOf := by
  simp [rowOf, List.find?_eq_none]

/-- Where keys are distinct, a row is the one of its key. -/
theorem rowOf_eq_some_iff (distinct : (rows.map keyOf).Nodup) :
    rowOf keyOf rows wanted = some row ↔ row ∈ rows ∧ keyOf row = wanted := by
  constructor
  · intro found
    exact ⟨List.mem_of_find?_eq_some found, of_decide_eq_true (List.find?_some found :)⟩
  · rintro ⟨isRow, rfl⟩
    cases found : rowOf keyOf rows (keyOf row) with
    | none => exact absurd (List.mem_map_of_mem isRow) (rowOf_eq_none_iff.mp found)
    | some other =>
        have same : keyOf other = keyOf row := of_decide_eq_true (List.find?_some found :)
        rw [List.inj_on_of_nodup_map distinct (List.mem_of_find?_eq_some found) isRow same]

section Changed

variable (own : keyOf first = key) (keeps : ∀ row, keyOf row = key → keyOf (change row) = key)

include own keeps

/-- Changing the row of a key keeps the keys, and adds its own where it was not there. -/
theorem map_keyOf_upsert :
    (upsert keyOf key first change rows).map keyOf =
      if key ∈ rows.map keyOf then rows.map keyOf else rows.map keyOf ++ [key] := by
  unfold upsert
  split_ifs with known
  · rw [List.map_map]
    refine List.map_congr_left fun row _ => ?_
    by_cases same : keyOf row = key
    · rw [Function.comp_apply, if_pos same, keeps row same, same]
    · rw [Function.comp_apply, if_neg same]
  · simp only [List.map_append, List.map_cons, List.map_nil, keeps first own]

theorem mem_keys_upsert :
    wanted ∈ (upsert keyOf key first change rows).map keyOf ↔
      wanted ∈ rows.map keyOf ∨ wanted = key := by
  rw [map_keyOf_upsert own keeps]
  split_ifs with known
  · exact ⟨.inl, fun listed => listed.elim id fun same => same ▸ known⟩
  · rw [List.mem_append, List.mem_singleton]

theorem nodup_keys_upsert (distinct : (rows.map keyOf).Nodup) :
    ((upsert keyOf key first change rows).map keyOf).Nodup := by
  rw [map_keyOf_upsert own keeps]
  split_ifs with known
  · exact distinct
  · exact List.nodup_append.mpr ⟨distinct, List.nodup_singleton _, fun other listed new isNew same =>
      known (List.mem_singleton.mp isNew ▸ same ▸ listed)⟩

/-- The row of a key after a change of the one of another, or of its own. -/
theorem rowOf_upsert :
    rowOf keyOf (upsert keyOf key first change rows) wanted =
      if wanted = key then some (change ((rowOf keyOf rows key).getD first))
      else rowOf keyOf rows wanted := by
  unfold upsert
  split_ifs with known same same
  · subst same
    induction rows with
    | nil => exact absurd known List.not_mem_nil
    | cons row rest ih =>
        by_cases found : keyOf row = wanted
        · simp [rowOf, found, keeps row found]
        · have later : wanted ∈ rest.map keyOf := by
            simpa [Ne.symm found] using known
          simpa [rowOf, found] using ih later
  · clear known
    induction rows with
    | nil => rfl
    | cons row rest ih =>
        by_cases changed : keyOf row = key
        · have other : keyOf row ≠ wanted := fun isWanted => same (isWanted.symm.trans changed)
          simpa [rowOf, changed, keeps row changed, Ne.symm same] using ih
        · by_cases isWanted : keyOf row = wanted
          · simp [rowOf, isWanted, same]
          · simpa [rowOf, changed, isWanted] using ih
  · subst same
    have alone : keyOf (change first) = wanted := keeps first own
    rw [rowOf_eq_none_iff.mpr known, rowOf, List.find?_append, ← rowOf,
      rowOf_eq_none_iff.mpr known]
    simp [alone]
  · have other : keyOf (change first) ≠ wanted := by
      rw [keeps first own]
      exact Ne.symm same
    simp [rowOf, List.find?_append, other]

end Changed

section Folded

variable (keyOf) (itemKey : Item → Key) (starts : Item → Row) (changes : Item → Row → Row)
  (own : ∀ item, keyOf (starts item) = itemKey item)
  (keeps : ∀ item row, keyOf row = itemKey item → keyOf (changes item row) = itemKey item)

include own keeps

/-- The keys are those of the rows and of the items, each once. -/
theorem keys_foldl_upsert :
    ∀ (items : List Item) {rows : List Row}, (rows.map keyOf).Nodup →
      let after := items.foldl (fun rows item =>
        upsert keyOf (itemKey item) (starts item) (changes item) rows) rows
      (after.map keyOf).Nodup ∧
        ∀ wanted, wanted ∈ after.map keyOf ↔
          wanted ∈ rows.map keyOf ∨ wanted ∈ items.map itemKey := by
  intro items
  induction items with
  | nil => exact fun distinct => ⟨distinct, fun wanted => by simp⟩
  | cons item rest ih =>
      intro rows distinct
      obtain ⟨unique, keys⟩ := ih (nodup_keys_upsert (own item) (keeps item) distinct)
      refine ⟨unique, fun wanted => (keys wanted).trans ?_⟩
      rw [mem_keys_upsert (own item) (keeps item), List.map_cons, List.mem_cons, or_assoc]

/-- **Every row is what its own item made of it**, where items have distinct keys. -/
theorem rowOf_foldl_upsert :
    ∀ {items : List Item} {rows : List Row}, (items.map itemKey).Nodup →
      rowOf keyOf (items.foldl (fun rows item =>
          upsert keyOf (itemKey item) (starts item) (changes item) rows) rows) wanted =
        match rowOf itemKey items wanted with
        | some item => some (changes item ((rowOf keyOf rows wanted).getD (starts item)))
        | none => rowOf keyOf rows wanted := by
  intro items
  induction items with
  | nil => exact fun _ => rfl
  | cons item rest ih =>
      intro rows distinct
      obtain ⟨apart, distinctRest⟩ := List.nodup_cons.mp distinct
      rw [List.foldl_cons, ih distinctRest, rowOf_upsert (own item) (keeps item)]
      by_cases same : itemKey item = wanted
      · subst same
        have missing : rowOf itemKey rest (itemKey item) = none := rowOf_eq_none_iff.mpr apart
        have here : rowOf itemKey (item :: rest) (itemKey item) = some item := by simp [rowOf]
        simp only [missing, here, if_true]
      · have later : rowOf itemKey (item :: rest) wanted = rowOf itemKey rest wanted := by
          simp [rowOf, same]
        simp [later, Ne.symm same]

end Folded

end PolicyOS.Foundation
