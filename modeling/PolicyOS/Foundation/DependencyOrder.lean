import Mathlib.Data.List.Induction
import Mathlib.Data.List.Nodup
import Mathlib.Logic.Relation

/-!
# Dependency orders

An order of keys in which every key comes after everything it depends on. It is
built from the end, one key at a time, and each fact about it is an induction on
that construction: some pending key waits for nothing pending, and one pass over
the order computes for every key what its dependencies finally are.
-/

namespace PolicyOS.Foundation

variable {Key Value : Type} {dependencies : Key → List Key} {order : List Key} {key : Key}

/-- Keys listed once each, after all their dependencies. -/
inductive DependencyOrder (dependencies : Key → List Key) : List Key → Prop where
  | nil : DependencyOrder dependencies []
  | snoc {order : List Key} {key : Key}
      (prior : DependencyOrder dependencies order)
      (fresh : key ∉ order)
      (closed : ∀ dependency ∈ dependencies key, dependency ∈ order) :
      DependencyOrder dependencies (order ++ [key])

namespace DependencyOrder

theorem nodup (ordered : DependencyOrder dependencies order) : order.Nodup := by
  induction ordered with
  | nil => exact List.nodup_nil
  | snoc _ fresh _ ih =>
      have extended := List.Nodup.concat fresh ih
      rwa [List.concat_eq_append] at extended

theorem dependency_mem (ordered : DependencyOrder dependencies order) {dependency : Key}
    (listed : key ∈ order) (depends : dependency ∈ dependencies key) : dependency ∈ order := by
  induction ordered with
  | nil => exact absurd listed List.not_mem_nil
  | snoc _ _ closed ih =>
      rcases List.mem_append.mp listed with earlier | last
      · exact List.mem_append_left _ (ih earlier)
      · obtain rfl := List.mem_singleton.mp last
        exact List.mem_append_left _ (closed dependency depends)

theorem not_self_dependency (ordered : DependencyOrder dependencies order)
    (listed : key ∈ order) : key ∉ dependencies key := by
  induction ordered with
  | nil => exact absurd listed List.not_mem_nil
  | snoc _ fresh closed ih =>
      rcases List.mem_append.mp listed with earlier | last
      · exact ih earlier
      · obtain rfl := List.mem_singleton.mp last
        exact fun depends => fresh (closed key depends)

theorem mem_of_transGen (ordered : DependencyOrder dependencies order) {dependency : Key}
    (listed : key ∈ order)
    (follows : Relation.TransGen (fun key dependency => dependency ∈ dependencies key)
      key dependency) : dependency ∈ order := by
  induction follows with
  | single depends => exact ordered.dependency_mem listed depends
  | tail _ depends ih => exact ordered.dependency_mem ih depends

/-- Leaving keys out, and letting the others depend on what they depend on through them,
keeps the order. -/
theorem contract {kept : Key → Bool} {contracted : Key → List Key}
    (ordered : DependencyOrder dependencies order)
    (follows : ∀ key ∈ order, ∀ dependency ∈ contracted key, kept dependency = true ∧
      Relation.TransGen (fun key dependency => dependency ∈ dependencies key) key dependency) :
    DependencyOrder contracted (order.filter kept) := by
  induction ordered with
  | nil => exact .nil
  | @snoc order last prior fresh closed ih =>
      have earlier := ih fun key listed => follows key (List.mem_append_left _ listed)
      rw [List.filter_append, List.filter_singleton]
      cases isKept : kept last with
      | false => simpa using earlier
      | true =>
          refine .snoc earlier (fun listed => fresh (List.mem_of_mem_filter listed)) ?_
          intro dependency depends
          obtain ⟨keeps, through⟩ := follows last (by simp) dependency depends
          obtain ⟨first, direct, rest⟩ := Relation.TransGen.head'_iff.mp through
          refine List.mem_filter.mpr ⟨?_, keeps⟩
          rcases Relation.reflTransGen_iff_eq_or_transGen.mp rest with rfl | further
          · exact closed _ direct
          · exact prior.mem_of_transGen (closed first direct) further

/-- Renaming keys apart keeps the order. -/
theorem map {Name : Type} {rename : Key → Name} {renamed : Name → List Name}
    (ordered : DependencyOrder dependencies order)
    (apart : ∀ first ∈ order, ∀ second ∈ order, rename first = rename second → first = second)
    (renames : ∀ key ∈ order, ∀ name ∈ renamed (rename key),
      ∃ dependency ∈ dependencies key, rename dependency = name) :
    DependencyOrder renamed (order.map rename) := by
  induction ordered with
  | nil => exact .nil
  | @snoc order last _ fresh closed ih =>
      have earlier := ih
        (fun first isFirst second isSecond => apart first (List.mem_append_left _ isFirst) second
          (List.mem_append_left _ isSecond))
        fun key listed => renames key (List.mem_append_left _ listed)
      rw [List.map_append, List.map_singleton]
      refine .snoc earlier ?_ ?_
      · intro listed
        obtain ⟨key, isKey, same⟩ := List.mem_map.mp listed
        exact fresh (apart key (List.mem_append_left _ isKey) last (by simp) same ▸ isKey)
      · intro name isName
        obtain ⟨dependency, depends, rfl⟩ := renames last (by simp) name isName
        exact List.mem_map_of_mem (closed dependency depends)

/-- If a listed key is pending, some pending key depends on nothing pending. -/
theorem exists_unblocked (ordered : DependencyOrder dependencies order) (Pending : Key → Prop)
    (waits : ∃ key ∈ order, Pending key) :
    ∃ key ∈ order, Pending key ∧ ∀ dependency ∈ dependencies key, ¬ Pending dependency := by
  induction ordered with
  | nil =>
      obtain ⟨key, listed, _⟩ := waits
      exact absurd listed List.not_mem_nil
  | @snoc order last _ _ closed ih =>
      by_cases earlier : ∃ key ∈ order, Pending key
      · obtain ⟨key, listed, pending, unblocked⟩ := ih earlier
        exact ⟨key, List.mem_append_left _ listed, pending, unblocked⟩
      · obtain ⟨key, listed, pending⟩ := waits
        rcases List.mem_append.mp listed with before | isLast
        · exact absurd ⟨key, before, pending⟩ earlier
        · refine ⟨key, listed, pending, fun dependency depends waiting => ?_⟩
          obtain rfl := List.mem_singleton.mp isLast
          exact earlier ⟨dependency, closed dependency depends, waiting⟩

end DependencyOrder

section Sweep

variable [DecidableEq Key]

/-- Visit the keys of a list in order, each visit replacing the value of its own
key. -/
def sweep (visit : (Key → Value) → Key → Value) (order : List Key) (values : Key → Value) :
    Key → Value :=
  order.foldl (fun current key => Function.update current key (visit current key)) values

variable {visit : (Key → Value) → Key → Value} {values : Key → Value}

theorem sweep_append_singleton :
    sweep visit (order ++ [key]) values =
      Function.update (sweep visit order values) key (visit (sweep visit order values) key) := by
  simp only [sweep, List.foldl_append, List.foldl_cons, List.foldl_nil]

theorem sweep_of_not_mem (unlisted : key ∉ order) : sweep visit order values key = values key := by
  induction order using List.reverseRecOn with
  | nil => rfl
  | append_singleton order last ih =>
      simp only [List.mem_append, List.mem_singleton, not_or] at unlisted
      rw [sweep_append_singleton, Function.update_of_ne unlisted.2]
      exact ih unlisted.1

/-- A visit that reads only its own key and what that depends on computes, in one
pass over a dependency order, every key from its first value and the final values
of its dependencies. -/
theorem DependencyOrder.sweep_apply (ordered : DependencyOrder dependencies order)
    (reads : ∀ {first second : Key → Value} {key : Key}, first key = second key →
      (∀ dependency ∈ dependencies key, first dependency = second dependency) →
      visit first key = visit second key)
    (listed : key ∈ order) :
    sweep visit order values key =
      visit (Function.update (sweep visit order values) key (values key)) key := by
  induction ordered with
  | nil => exact absurd listed List.not_mem_nil
  | @snoc order last prior fresh closed ih =>
      rw [sweep_append_singleton]
      by_cases isLast : key = last
      · subst isLast
        rw [Function.update_self]
        apply reads
        · rw [Function.update_self, sweep_of_not_mem fresh]
        · intro dependency depends
          have different : dependency ≠ key := fun same => fresh (same ▸ closed dependency depends)
          rw [Function.update_of_ne different, Function.update_of_ne different]
      · have earlier : key ∈ order :=
          (List.mem_append.mp listed).resolve_right fun present =>
            isLast (List.mem_singleton.mp present)
        rw [Function.update_of_ne isLast, ih earlier]
        apply reads
        · rw [Function.update_self, Function.update_self]
        · intro dependency depends
          have notLast : dependency ≠ last :=
            fun same => fresh (same ▸ prior.dependency_mem earlier depends)
          by_cases own : dependency = key
          · rw [own, Function.update_self, Function.update_self]
          · rw [Function.update_of_ne own, Function.update_of_ne own,
              Function.update_of_ne notLast]

end Sweep

end PolicyOS.Foundation
