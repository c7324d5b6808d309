import Mathlib.Data.List.Count
import Mathlib.Data.List.Pairwise
import Mathlib.Data.List.Perm.Basic

/-!
# Keeping what comes first

Items are taken one after the other, and one is kept unless it is related to one that was kept
before. What is kept depends on the order in general. A kernel tells when it does not: a selection
without two different related items, such that whatever is not selected comes after a selected
item it is related to.
-/

namespace PolicyOS.Foundation

variable {α : Type} (related : α → α → Prop) [DecidableRel related]

/-- The items that are kept, after others were. -/
def firstKept : List α → List α → List α
  | _, [] => []
  | kept, item :: rest =>
      if ∃ earlier ∈ kept, related earlier item then firstKept kept rest
      else item :: firstKept (item :: kept) rest

/-- What is not selected comes after a selected item it is related to. -/
def CoveredAfter (selected : α → Prop) : List α → List α → Prop
  | _, [] => True
  | earlier, item :: rest =>
      (¬ selected item → ∃ other ∈ earlier, selected other ∧ related other item) ∧
        CoveredAfter selected (item :: earlier) rest

variable {related} {selected : α → Prop} {kept earlier items others : List α} {item : α}

/-- Only items are kept. -/
theorem mem_of_firstKept :
    ∀ {items kept : List α}, item ∈ firstKept related kept items → item ∈ items := by
  intro items
  induction items with
  | nil => exact fun isKept => isKept
  | cons first rest ih =>
      intro kept isKept
      unfold firstKept at isKept
      split_ifs at isKept
      · exact List.mem_cons_of_mem _ (ih isKept)
      · rcases List.mem_cons.mp isKept with rfl | later
        · exact List.mem_cons_self
        · exact List.mem_cons_of_mem _ (ih later)

/-- Items are kept under a map that respects the relation as they are without it. -/
theorem firstKept_map {mapped : α → α}
    (respects : ∀ first second, related (mapped first) (mapped second) ↔ related first second) :
    ∀ {items kept : List α}, firstKept related (kept.map mapped) (items.map mapped) =
      (firstKept related kept items).map mapped := by
  intro items
  induction items with
  | nil => exact fun {kept} => rfl
  | cons first rest ih =>
      intro kept
      have same : (∃ earlier ∈ kept.map mapped, related earlier (mapped first)) ↔
          ∃ earlier ∈ kept, related earlier first := by
        simp only [List.mem_map, exists_exists_and_eq_and, respects]
      simp only [List.map_cons, firstKept, same]
      split_ifs
      · exact ih
      · rw [List.map_cons, ← @ih (first :: kept), List.map_cons]

/-- No kept item is related to one that was kept before the others. -/
theorem not_related_of_firstKept :
    ∀ {items kept : List α}, item ∈ firstKept related kept items →
      ∀ other ∈ kept, ¬ related other item := by
  intro items
  induction items with
  | nil => exact fun isKept => absurd isKept List.not_mem_nil
  | cons first rest ih =>
      intro kept isKept other wasKept isRelated
      unfold firstKept at isKept
      split_ifs at isKept with found
      · exact ih isKept other wasKept isRelated
      · rcases List.mem_cons.mp isKept with rfl | later
        · exact found ⟨other, wasKept, isRelated⟩
        · exact ih later other (List.mem_cons_of_mem _ wasKept) isRelated

/-- No kept item is related to one kept before it. -/
theorem pairwise_firstKept :
    ∀ {items kept : List α}, (firstKept related kept items).Pairwise
      fun first second => ¬ related first second := by
  intro items
  induction items with
  | nil => exact List.Pairwise.nil
  | cons first rest ih =>
      intro kept
      unfold firstKept
      split_ifs
      · exact ih
      · exact List.pairwise_cons.mpr
          ⟨fun later isKept => not_related_of_firstKept isKept first List.mem_cons_self, ih⟩

theorem eq_of_related_firstKept (symm : ∀ first second, related first second → related second first)
    {first second : α} (isFirst : first ∈ firstKept related kept items)
    (isSecond : second ∈ firstKept related kept items) (isRelated : related first second) :
    first = second := by
  by_contra different
  have : Std.Symm fun first second => ¬ related first second :=
    ⟨fun first second unrelated isRelated => unrelated (symm second first isRelated)⟩
  exact pairwise_firstKept.forall isFirst isSecond different isRelated

omit [DecidableRel related] in
/-- More earlier items cover no less. -/
theorem CoveredAfter.mono : ∀ {items earlier more : List α},
    CoveredAfter related selected earlier items → (∀ item ∈ earlier, item ∈ more) →
      CoveredAfter related selected more items := by
  intro items
  induction items with
  | nil => exact fun _ _ => trivial
  | cons first rest ih =>
      rintro earlier more ⟨covered, later⟩ within
      refine ⟨fun unselected => ?_, ih later fun item isEarlier => ?_⟩
      · obtain ⟨other, isEarlier, isSelected, isRelated⟩ := covered unselected
        exact ⟨other, within other isEarlier, isSelected, isRelated⟩
      · rcases List.mem_cons.mp isEarlier with rfl | isEarlier
        · exact List.mem_cons_self
        · exact List.mem_cons_of_mem _ (within item isEarlier)

omit [DecidableRel related] in
theorem CoveredAfter.append : ∀ {items earlier : List α},
    CoveredAfter related selected earlier items → CoveredAfter related selected [] others →
      CoveredAfter related selected earlier (items ++ others) := by
  intro items
  induction items with
  | nil => exact fun _ covered => covered.mono fun _ isNone => absurd isNone List.not_mem_nil
  | cons first rest ih => exact fun covered later => ⟨covered.1, ih covered.2 later⟩

omit [DecidableRel related] in
theorem coveredAfter_flatten {lists : List (List α)}
    (covered : ∀ items ∈ lists, CoveredAfter related selected [] items) :
    CoveredAfter related selected [] lists.flatten := by
  induction lists with
  | nil => trivial
  | cons items rest ih =>
      exact (covered items List.mem_cons_self).append
        (ih fun other isOther => covered other (List.mem_cons_of_mem _ isOther))

/-- Whatever is kept covers what is not. -/
theorem coveredAfter_of_firstKept : ∀ {items kept earlier : List α},
    (∀ item ∈ kept, item ∈ earlier ∧ selected item) →
      (∀ item ∈ firstKept related kept (items ++ others), selected item) →
        CoveredAfter related selected earlier items := by
  intro items
  induction items with
  | nil => exact fun _ _ => trivial
  | cons first rest ih =>
      intro kept earlier wereKept areSelected
      rw [List.cons_append, firstKept] at areSelected
      split_ifs at areSelected with found
      · obtain ⟨other, wasKept, isRelated⟩ := found
        refine ⟨fun _ => ⟨other, (wereKept other wasKept).1, (wereKept other wasKept).2, isRelated⟩,
          ih (fun item wasKept => ?_) areSelected⟩
        exact ⟨List.mem_cons_of_mem _ (wereKept item wasKept).1, (wereKept item wasKept).2⟩
      · have isSelected := areSelected first List.mem_cons_self
        refine ⟨fun unselected => absurd isSelected unselected,
          @ih (first :: kept) _ (fun item wasKept => ?_)
            fun item isKept => areSelected item (List.mem_cons_of_mem _ isKept)⟩
        rcases List.mem_cons.mp wasKept with rfl | wasKept
        · exact ⟨List.mem_cons_self, isSelected⟩
        · exact ⟨List.mem_cons_of_mem _ (wereKept item wasKept).1, (wereKept item wasKept).2⟩

/-- **What is kept of covered items is what is selected**: each item as often as it occurs, or
once if it is related to itself. -/
theorem count_firstKept [DecidableEq α] [DecidablePred selected]
    (independent : ∀ first second, selected first → selected second → related first second →
      first = second) (item : α) :
    ∀ {items kept earlier : List α}, CoveredAfter related selected earlier items →
      (∀ item ∈ kept, selected item) → (∀ item ∈ earlier, selected item → item ∈ kept) →
        (firstKept related kept items).count item =
          if selected item then
            if related item item then if item ∈ kept then 0 else min 1 (items.count item)
            else items.count item
          else 0 := by
  intro items
  induction items with
  | nil => intro kept earlier _ _ _; simp [firstKept]
  | cons first rest ih =>
      rintro kept earlier ⟨covered, later⟩ areSelected wereKept
      have isSelected (notFound : ¬ ∃ other ∈ kept, related other first) : selected first := by
        by_contra unselected
        obtain ⟨other, isEarlier, isSelected, isRelated⟩ := covered unselected
        exact notFound ⟨other, wereKept other isEarlier isSelected, isRelated⟩
      unfold firstKept
      by_cases found : ∃ other ∈ kept, related other first
      · -- What is dropped is not selected, or is kept already.
        have isKept (selects : selected first) : first ∈ kept ∧ related first first := by
          obtain ⟨other, wasKept, isRelated⟩ := found
          obtain rfl := independent other first (areSelected other wasKept) selects isRelated
          exact ⟨wasKept, isRelated⟩
        rw [if_pos found, ih later areSelected fun other isEarlier selects => ?_]
        · by_cases same : first = item
          · subst same
            by_cases selects : selected first
            · simp [selects, isKept selects]
            · simp [selects]
          · rw [List.count_cons_of_ne same]
        · rcases List.mem_cons.mp isEarlier with rfl | isEarlier
          · exact (isKept selects).1
          · exact wereKept other isEarlier selects
      · have selects := isSelected found
        rw [if_neg found, List.count_cons, @ih (first :: kept) _ later (fun other wasKept => ?_)
          fun other isEarlier otherSelects => ?_]
        · by_cases same : first = item
          · subst same
            by_cases isRelated : related first first
            · have unkept : first ∉ kept := fun wasKept => found ⟨first, wasKept, isRelated⟩
              simp [selects, isRelated, unkept]
            · simp [selects, isRelated]
          · simp [same, Ne.symm same]
        · rcases List.mem_cons.mp wasKept with rfl | wasKept
          · exact selects
          · exact areSelected other wasKept
        · rcases List.mem_cons.mp isEarlier with rfl | isEarlier
          · exact List.mem_cons_self
          · exact List.mem_cons_of_mem _ (wereKept other isEarlier otherSelects)

end PolicyOS.Foundation
