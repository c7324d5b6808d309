import Mathlib.Data.List.Nodup

/-!
# Keyed lists

Values kept in a list and looked up by a key no two of them share. A lookup finds
exactly the value with the key, from either end of the list, and a list that is
rewritten value by value keeps its keys as long as every value keeps its own.
-/

namespace PolicyOS.Foundation

variable {Value Key : Type} {key : Value → Key} {values nexts : List Value}

/-- Where one value of a list answers a question, it is the only answer. -/
theorem filter_eq_singleton (distinct : values.Nodup) {answers : Value → Bool} {value : Value}
    (present : value ∈ values) (answered : answers value = true)
    (only : ∀ other ∈ values, answers other = true → other = value) :
    values.filter answers = [value] := by
  have isAnswer : value ∈ values.filter answers := List.mem_filter.mpr ⟨present, answered⟩
  have alike : values.filter answers = List.replicate (values.filter answers).length value :=
    List.eq_replicate_of_mem fun other isOther =>
      only other (List.mem_of_mem_filter isOther) (List.of_mem_filter isOther)
  have once : (values.filter answers).length ≤ 1 := by
    have := distinct.filter answers
    rw [alike] at this
    simpa using List.nodup_replicate.mp this
  have some : 0 < (values.filter answers).length := List.length_pos_of_mem isAnswer
  rw [alike, Nat.le_antisymm once some]
  rfl

section Lookup

variable [DecidableEq Key]

/-- A lookup finds exactly the value with the key. -/
theorem find?_key_eq_some_iff (distinct : (values.map key).Nodup) {wanted : Key} {value : Value} :
    values.find? (key · = wanted) = some value ↔ value ∈ values ∧ key value = wanted := by
  constructor
  · intro found
    exact ⟨List.mem_of_find?_eq_some found, of_decide_eq_true (List.find?_some found :)⟩
  · rintro ⟨present, rfl⟩
    have isFound : (values.find? (key · = key value)).isSome :=
      List.find?_isSome.mpr ⟨value, present, decide_eq_true rfl⟩
    obtain ⟨other, found⟩ := Option.isSome_iff_exists.mp isFound
    have same : key other = key value := of_decide_eq_true (List.find?_some found :)
    rw [found, List.inj_on_of_nodup_map distinct (List.mem_of_find?_eq_some found) present same]

theorem find?_reverse_key_eq_some_iff (distinct : (values.map key).Nodup) {wanted : Key}
    {value : Value} :
    values.reverse.find? (key · = wanted) = some value ↔ value ∈ values ∧ key value = wanted := by
  have reversed : (values.reverse.map key).Nodup := by
    rwa [List.map_reverse, List.nodup_reverse]
  rw [find?_key_eq_some_iff reversed, List.mem_reverse]

theorem find?_key_perm (distinct : (values.map key).Nodup) {others : List Value}
    (same : others.Perm values) (wanted : Key) :
    others.find? (key · = wanted) = values.find? (key · = wanted) := by
  refine Option.ext fun value => ?_
  have distinctOthers := (same.map key).nodup_iff.mpr distinct
  exact (find?_key_eq_some_iff distinctOthers).trans
    ((and_congr_left' same.mem_iff).trans (find?_key_eq_some_iff distinct).symm)

theorem perm_lookup (distinct : (values.map key).Nodup) {order : List Key}
    (all : order.Perm (values.map key)) :
    (order.filterMap fun wanted => values.find? (key · = wanted)).Perm values := by
  have own : (values.map key).filterMap (fun wanted => values.find? (key · = wanted)) = values := by
    rw [List.filterMap_map]
    have found : ∀ value ∈ values,
        ((fun wanted => values.find? (key · = wanted)) ∘ key) value = some value :=
      fun value present => (find?_key_eq_some_iff distinct).mpr ⟨present, rfl⟩
    rw [List.filterMap_congr found, List.filterMap_some]
  exact (all.filterMap _).trans (List.Perm.of_eq own)

end Lookup

section Rewriting

variable {Becomes : Value → Value → Prop}

theorem forall₂_map_self_iff {next : Value → Value} :
    List.Forall₂ Becomes values (values.map next) ↔
      ∀ value ∈ values, Becomes value (next value) := by
  rw [List.forall₂_map_right_iff, List.forall₂_same]

theorem exists_of_mem_rewritten {Next : Type} {Becomes : Value → Next → Prop} {nexts : List Next}
    (rewritten : List.Forall₂ Becomes values nexts) {next : Next} (present : next ∈ nexts) :
    ∃ value ∈ values, Becomes value next := by
  induction rewritten with
  | nil => exact absurd present List.not_mem_nil
  | @cons value other values nexts becomes _ ih =>
      rcases List.mem_cons.mp present with rfl | later
      · exact ⟨value, List.mem_cons_self .., becomes⟩
      · obtain ⟨origin, isOrigin, becomesNext⟩ := ih later
        exact ⟨origin, List.mem_cons_of_mem _ isOrigin, becomesNext⟩

theorem exists_rewritten_of_mem {Next : Type} {Becomes : Value → Next → Prop} {nexts : List Next}
    (rewritten : List.Forall₂ Becomes values nexts) {value : Value} (present : value ∈ values) :
    ∃ next ∈ nexts, Becomes value next := by
  have backwards : List.Forall₂ (flip Becomes) nexts values := List.Forall₂.flip rewritten
  exact exists_of_mem_rewritten backwards present

theorem map_key_filterMap {Part : Type} {part : Value → Option Part} {partKey : Part → Key}
    (every : ∀ value ∈ values, ∃ found, part value = some found ∧ partKey found = key value) :
    (values.filterMap part).map partKey = values.map key := by
  induction values with
  | nil => rfl
  | cons value rest ih =>
      obtain ⟨found, isFound, same⟩ := every value (List.mem_cons_self ..)
      have others := ih fun other isOther => every other (List.mem_cons_of_mem value isOther)
      rw [List.filterMap_cons_some isFound, List.map_cons, List.map_cons, same, others]

theorem map_key_of_rewritten {Next : Type} {Becomes : Value → Next → Prop} {nexts : List Next}
    {nextKey : Next → Key} (rewritten : List.Forall₂ Becomes values nexts)
    (keeps : ∀ {value next}, Becomes value next → nextKey next = key value) :
    nexts.map nextKey = values.map key := by
  induction rewritten with
  | nil => rfl
  | cons becomes _ ih => rw [List.map_cons, List.map_cons, keeps becomes, ih]

end Rewriting

/-- Values taken key by key are the values, where the keys are distinct and hold all of theirs. -/
theorem perm_flatMap_filter [DecidableEq Key] {keys : List Key} (distinct : keys.Nodup)
    (every : ∀ value ∈ values, key value ∈ keys) :
    (keys.flatMap fun wanted => values.filter (key · = wanted)).Perm values := by
  have taken : (keys.flatMap fun wanted => values.filter (key · = wanted)).Perm
      (values.filter (key · ∈ keys)) := by
    clear every
    induction keys with
    | nil => simp
    | cons wanted keys ih =>
        obtain ⟨fresh, distinct⟩ := List.nodup_cons.mp distinct
        have parts := List.filter_append_perm (fun value => decide (key value = wanted))
          (values.filter (key · ∈ wanted :: keys))
        rw [List.flatMap_cons]
        refine ((ih distinct).append_left _).trans (List.Perm.trans (List.Perm.of_eq ?_) parts)
        rw [List.filter_filter, List.filter_filter]
        congr 1 <;> refine List.filter_congr fun value _ => ?_
        · by_cases own : key value = wanted <;> simp [own]
        · by_cases own : key value = wanted
          · simp [own, fresh]
          · simp [own]
  rwa [List.filter_eq_self.mpr fun value present => decide_eq_true (every value present)] at taken

end PolicyOS.Foundation
