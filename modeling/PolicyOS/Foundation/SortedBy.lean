import Mathlib.Data.List.Dedup
import Mathlib.Data.List.Perm.Subperm
import Mathlib.Data.List.Sort
import Mathlib.Data.List.TakeWhile
import Mathlib.Data.Prod.Lex

/-!
# Sorting by a key

Items ordered by a key into a linear order, and the distinct values of a list in
order. Both keep what is in the list; sorting twice sorts once.
-/

namespace PolicyOS.Foundation

variable {α β : Type} [LinearOrder β]

/-- The items ordered by their keys; items of one key keep their order. -/
def sortedBy (key : α → β) (items : List α) : List α :=
  items.insertionSort fun first second => key first ≤ key second

variable {key : α → β} {items : List α}

theorem perm_sortedBy : (sortedBy key items).Perm items := List.perm_insertionSort _ _

/-- Sorting keeps the items. -/
@[simp] theorem mem_sortedBy {item : α} : item ∈ sortedBy key items ↔ item ∈ items :=
  perm_sortedBy.mem_iff

/-- Sorting keeps the count of the items. -/
@[simp] theorem length_sortedBy : (sortedBy key items).length = items.length :=
  perm_sortedBy.length_eq

/-- Only nothing is sorted to nothing. -/
@[simp] theorem sortedBy_eq_nil_iff : sortedBy key items = [] ↔ items = [] := by
  rw [← List.length_eq_zero_iff, length_sortedBy, List.length_eq_zero_iff]

theorem pairwise_sortedBy :
    (sortedBy key items).Pairwise fun first second => key first ≤ key second :=
  have : IsTrans α fun first second => key first ≤ key second := ⟨fun _ _ _ => le_trans⟩
  have : Std.Total fun first second : α => key first ≤ key second :=
    ⟨fun first second => le_total (key first) (key second)⟩
  List.pairwise_insertionSort _ _

theorem sortedBy_eq_self (ordered : items.Pairwise fun first second => key first ≤ key second) :
    sortedBy key items = items :=
  List.Pairwise.insertionSort_eq ordered

/-- Items of distinct keys are sorted alike, in whatever order they are given. -/
theorem sortedBy_eq_of_perm {others : List α} (same : items.Perm others)
    (distinct : (items.map key).Nodup) : sortedBy key items = sortedBy key others := by
  have perm : (sortedBy key items).Perm (sortedBy key others) :=
    perm_sortedBy.trans (same.trans perm_sortedBy.symm)
  have injective : ∀ first ∈ sortedBy key items, ∀ second ∈ sortedBy key items,
      key first = key second → first = second := by
    intro first isFirst second isSecond
    exact List.inj_on_of_nodup_map distinct (mem_sortedBy.mp isFirst) (mem_sortedBy.mp isSecond)
  refine perm.eq_of_pairwise ?_ pairwise_sortedBy pairwise_sortedBy
  intro first second isFirst isSecond below above
  exact injective first isFirst second (perm.mem_iff.mpr isSecond) (le_antisymm below above)

/-- The distinct values of a list, in order. -/
def sortedSet (values : List β) : List β := sortedBy id values.dedup

variable {values : List β}

/-- The values are kept. -/
@[simp] theorem mem_sortedSet {value : β} : value ∈ sortedSet values ↔ value ∈ values := by
  simp [sortedSet]

theorem nodup_sortedSet : (sortedSet values).Nodup :=
  perm_sortedBy.nodup_iff.mpr values.nodup_dedup

theorem pairwise_sortedSet : (sortedSet values).Pairwise (· < ·) := by
  have increasing : (sortedSet values).Pairwise fun first second =>
      first ≤ second ∧ first ≠ second := pairwise_sortedBy.and nodup_sortedSet
  exact increasing.imp fun ordered => lt_of_le_of_ne ordered.1 ordered.2

theorem sortedSet_eq_self (increasing : values.Pairwise (· < ·)) : sortedSet values = values := by
  have distinct : values.Nodup := increasing.imp fun earlier => ne_of_lt earlier
  rw [sortedSet, List.Nodup.dedup distinct]
  exact sortedBy_eq_self (increasing.imp le_of_lt)

end PolicyOS.Foundation

/-!
# Ranked choices

Candidates are listed with the eligible ones first and each part by rank, and the list is cut
off. The first eligible candidate that is listed is the best of all, wherever the list is cut
off and whatever else it holds.
-/

namespace PolicyOS.Foundation

variable {α β : Type} [LinearOrder β]

section Ranked

variable (eligible : α → Bool) (rank : α → β)

/-- The eligible candidates by rank, and then the others. -/
def ranked (items : List α) : List α :=
  sortedBy (fun item => (toLex (!eligible item, rank item) : Bool ×ₗ β)) items

/-- An eligible candidate that no other eligible one precedes. -/
structure Best (items : List α) (best : α) : Prop where
  listed : best ∈ items
  isEligible : eligible best = true
  least : ∀ item ∈ items, eligible item = true → rank best ≤ rank item

end Ranked

variable {eligible : α → Bool} {rank : α → β} {items : List α} {best : α}

/-- The first of the ranked candidates precedes all others. -/
theorem ranked_first {first : α} {rest : List α} (isRanked : ranked eligible rank items =
    first :: rest) (item : α) (isItem : item ∈ items) (isEligible : eligible item = true) :
    eligible first = true ∧ rank first ≤ rank item := by
  have listed : item ∈ ranked eligible rank items := mem_sortedBy.mpr isItem
  have ordered : (ranked eligible rank items).Pairwise fun one two =>
      (toLex (!eligible one, rank one) : Bool ×ₗ β) ≤ toLex (!eligible two, rank two) :=
    pairwise_sortedBy
  rw [isRanked] at listed ordered
  rcases List.mem_cons.mp listed with rfl | later
  · exact ⟨isEligible, le_rfl⟩
  · have precedes := List.rel_of_pairwise_cons ordered later
    rw [Prod.Lex.toLex_le_toLex, isEligible] at precedes
    cases isFirst : eligible first with
    | false =>
        rw [isFirst] at precedes
        rcases precedes with lower | ⟨same, -⟩
        · exact absurd lower (by simp)
        · cases same
    | true =>
        rw [isFirst] at precedes
        rcases precedes with lower | ⟨-, least⟩
        · exact absurd lower (lt_irrefl _)
        · exact ⟨rfl, least⟩

/-- The first eligible candidate of the ranked ones, wherever they are cut off, is the best. -/
theorem best_of_head {limit : Nat}
    (chosen : (((ranked eligible rank items).take limit).filter eligible).head? = some best) :
    Best eligible rank items best := by
  have isChosen := List.mem_of_head? chosen
  have isEligible := List.of_mem_filter isChosen
  have listed : best ∈ ranked eligible rank items :=
    List.mem_of_mem_take (List.mem_of_mem_filter isChosen)
  refine ⟨mem_sortedBy.mp listed, isEligible, fun item isItem alsoEligible => ?_⟩
  cases isRanked : ranked eligible rank items with
  | nil => rw [isRanked] at listed; cases listed
  | cons first rest =>
      have least := ranked_first isRanked item isItem alsoEligible
      have same : first = best := by
        cases limit with
        | zero => simp at chosen
        | succ limit =>
            rw [isRanked, List.take_succ_cons, List.filter_cons_of_pos least.1] at chosen
            exact Option.some.inj chosen
      exact same ▸ least.2

/-- Nothing is chosen, wherever the list is cut off, exactly if nothing is eligible. -/
theorem head_eq_none_iff {limit : Nat} (positive : 1 ≤ limit) :
    (((ranked eligible rank items).take limit).filter eligible).head? = none ↔
      ∀ item ∈ items, eligible item = false := by
  rw [List.head?_eq_none_iff, List.filter_eq_nil_iff]
  constructor
  · intro none item isItem
    by_contra notFalse
    have isEligible := Bool.of_not_eq_false notFalse
    cases isRanked : ranked eligible rank items with
    | nil =>
        have listed : item ∈ ranked eligible rank items := mem_sortedBy.mpr isItem
        rw [isRanked] at listed
        cases listed
    | cons first rest =>
        obtain ⟨limit, rfl⟩ := Nat.exists_eq_add_of_le' positive
        refine none first ?_ (ranked_first isRanked item isItem isEligible).1
        rw [isRanked, List.take_succ_cons]
        exact List.mem_cons_self
  · intro none item isItem isEligible
    have listed : item ∈ ranked eligible rank items := List.mem_of_mem_take isItem
    exact absurd (none item (mem_sortedBy.mp listed)) (by simp [isEligible])

end PolicyOS.Foundation

/-!
# Cut rankings

Items are ranked and the ranking is cut off. Where no item above the cut has the key of another,
the cut of every selection that has the items above the cut is the same.
-/

namespace PolicyOS.Foundation

variable {α β : Type} [LinearOrder β] {key : α → β} {items : List α} {item first : α}

/-- The items that precede an item in order. -/
theorem filter_lt_sortedBy : ((sortedBy key items).filter fun other => key other < key item).length =
    (items.filter fun other => key other < key item).length :=
  (perm_sortedBy.filter _).length_eq

/-- The item that is given first precedes all others of its key. -/
theorem head?_of_sortedBy_cons {count : Nat}
    (few : (items.filter fun other => key other < key first).length < count) :
    (((sortedBy key (first :: items)).take count).dropWhile
      fun other => key other < key first).head? = some first := by
  have isSorted : sortedBy key (first :: items) =
      (sortedBy key items).takeWhile (fun other => key other < key first) ++
        first :: (sortedBy key items).dropWhile fun other => key other < key first := by
    have split := List.orderedInsert_eq_take_drop
      (fun one two => key one ≤ key two) first (sortedBy key items)
    simp only [not_le] at split
    exact split
  have all : ∀ other ∈ (sortedBy key items).takeWhile (fun other => key other < key first),
      decide (key other < key first) = true :=
    fun other isOther => by simpa using List.mem_takeWhile_imp isOther
  have short : ((sortedBy key items).takeWhile fun other => key other < key first).length <
      count := by
    rw [← filter_lt_sortedBy] at few
    refine lt_of_le_of_lt (List.Sublist.length_le ?_) few
    have kept : (((sortedBy key items).takeWhile fun other => key other < key first).filter
        fun other => key other < key first).Sublist
          ((sortedBy key items).filter fun other => key other < key first) :=
      (List.takeWhile_sublist _).filter _
    rwa [List.filter_eq_self.mpr all] at kept
  obtain ⟨left, rfl⟩ := Nat.exists_eq_add_of_lt short
  rw [isSorted, Nat.add_assoc, List.take_length_add_append, List.take_succ_cons,
    List.dropWhile_append_of_pos all, List.dropWhile_cons_of_neg (by simp), List.head?_cons]

/-- Fewer items than are left precede an item above the cut. -/
theorem length_filter_lt_of_mem_take {count : Nat}
    (isAbove : item ∈ (sortedBy key items).take count) :
    (items.filter fun other => key other < key item).length < count := by
  have ordered := @pairwise_sortedBy α β _ key items
  rw [← filter_lt_sortedBy]
  rw [← List.take_append_drop count (sortedBy key items)] at ordered ⊢
  have below : ((sortedBy key items).drop count).filter (fun other => key other < key item) = [] :=
    List.filter_eq_nil_iff.mpr fun other isBelow => by
      simpa using (List.pairwise_append.mp ordered).2.2 item isAbove other isBelow
  rw [List.filter_append, below, List.append_nil]
  have fewer : (((sortedBy key items).take count).filter fun other => key other < key item).length <
      ((sortedBy key items).take count).length :=
    List.length_filter_lt_length_iff_exists.mpr ⟨item, isAbove, by simp⟩
  exact fewer.trans_le (List.length_take_le _ _)

/-- Items that come first, of keys of their own, come first wherever the items are ordered. -/
theorem prefix_of_ordered {top rest ordered : List α} (same : ordered.Perm (top ++ rest))
    (isOrdered : ordered.Pairwise fun one two => key one ≤ key two)
    (first : (top ++ rest).Pairwise fun one two => key one ≤ key two)
    (apart : ∀ item ∈ top, ∀ other ∈ top ++ rest, key item = key other → item = other) :
    top <+: ordered := by
  induction top generalizing ordered with
  | nil => exact List.nil_prefix
  | cons least others ih =>
      obtain ⟨isLeast, firstRest⟩ := List.pairwise_cons.mp first
      cases ordered with
      | nil => exact absurd same.length_eq (by simp)
      | cons head tail =>
          obtain ⟨headLeast, tailOrdered⟩ := List.pairwise_cons.mp isOrdered
          have isHead : head ∈ least :: (others ++ rest) := same.mem_iff.mp List.mem_cons_self
          have isListed : least ∈ head :: tail := same.mem_iff.mpr List.mem_cons_self
          have keys : key least = key head := by
            refine le_antisymm ?_ ?_
            · rcases List.mem_cons.mp isHead with rfl | later
              · exact le_rfl
              · exact isLeast head later
            · rcases List.mem_cons.mp isListed with rfl | later
              · exact le_rfl
              · exact headLeast least later
          obtain rfl := apart least List.mem_cons_self head isHead keys
          refine List.prefix_cons_inj least |>.mpr (ih (List.perm_cons least |>.mp same) tailOrdered
            firstRest fun item isItem other isOther => ?_)
          exact apart item (List.mem_cons_of_mem _ isItem) other (List.mem_cons_of_mem _ isOther)

/-- The cut of a selection that has what is above the cut of all, where keys are apart there. -/
theorem take_sortedBy_eq {selected : List α} {count : Nat} (distinct : items.Nodup)
    (once : selected.Nodup) (within : selected ⊆ items)
    (above : (sortedBy key items).take count ⊆ selected)
    (apart : ∀ item ∈ (sortedBy key items).take count, ∀ other ∈ items,
      key item = key other → item = other) :
    (sortedBy key selected).take count = (sortedBy key items).take count := by
  classical
  have whole : (sortedBy key items).Nodup := perm_sortedBy.nodup_iff.mpr distinct
  have ordered := @pairwise_sortedBy α β _ key items
  rw [← List.take_append_drop count (sortedBy key items)] at ordered
  have restOf : ((sortedBy key items).filter (· ∈ selected)).Perm selected :=
    (List.perm_ext_iff_of_nodup (whole.filter _) once).mpr fun item => by
      simpa using fun isSelected => within isSelected
  rw [← List.take_append_drop count (sortedBy key items), List.filter_append,
    List.filter_eq_self.mpr fun item isAbove => decide_eq_true (above isAbove)] at restOf
  have isPrefix : (sortedBy key items).take count <+: sortedBy key selected := by
    refine prefix_of_ordered (perm_sortedBy.trans restOf.symm) pairwise_sortedBy ?_ ?_
    · exact ordered.sublist (List.Sublist.append_left List.filter_sublist _)
    · intro item isItem other isOther
      exact apart item isItem other (within (restOf.mem_iff.mp isOther))
  rw [List.prefix_iff_eq_take] at isPrefix
  rcases Nat.lt_or_ge count (sortedBy key items).length with more | all
  · rw [List.length_take_of_le more.le] at isPrefix
    exact isPrefix.symm
  · have fewer : (sortedBy key selected).length ≤ (sortedBy key items).length := by
      rw [length_sortedBy, length_sortedBy]
      exact (once.subperm within).length_le
    rw [List.take_of_length_le all, List.take_of_length_le fewer] at isPrefix
    rw [List.take_of_length_le all, isPrefix, List.take_of_length_le (fewer.trans all)]

end PolicyOS.Foundation
