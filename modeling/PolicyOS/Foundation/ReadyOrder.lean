import Mathlib.Data.List.Count
import PolicyOS.Foundation.DependencyOrder

/-!
# Orders taken from a ready queue

A queue holds what waits for nothing. Its first item is taken, every item that waits
for it is released once for each time it does, and an item that waits for nothing more
joins the queue, which is put in order again. What is taken is a dependency order, and
it is complete exactly when the items have one.
-/

namespace PolicyOS.Foundation

variable {Item Key : Type} [DecidableEq Key] (name : Item → Key) (arrange : List Item → List Item)

/-- Count one dependency of each child as met, and let those with none left join. -/
def release : List Item → (Key → Int) → List Item → (Key → Int) × List Item
  | [], indegree, ready => (indegree, ready)
  | child :: children, indegree, ready =>
      let remaining := indegree (name child) - 1
      release children (Function.update indegree (name child) remaining)
        (if remaining = 0 then arrange (ready ++ [child]) else ready)

/-- Take the first ready item and release its children, while there is one. -/
def takeReady (children : Key → List Item) :
    Nat → (Key → Int) → List Item → List Key → List Key
  | 0, _, _, ordered => ordered
  | _ + 1, _, [], ordered => ordered
  | rounds + 1, indegree, taken :: ready, ordered =>
      let released := release name arrange (children (name taken)) indegree ready
      takeReady children rounds released.1 released.2 (ordered ++ [name taken])

/-- How often a key waits for something that is not ordered yet. -/
def waiting (dependencies : Key → List Key) (ordered : List Key) (key : Key) : Nat :=
  (dependencies key).countP (· ∉ ordered)

section Waiting

variable {dependencies : Key → List Key} {ordered : List Key} {key taken : Key}

theorem waiting_eq_zero_iff :
    waiting dependencies ordered key = 0 ↔ ∀ dependency ∈ dependencies key, dependency ∈ ordered := by
  simp [waiting, List.countP_eq_zero]

/-- Ordering one more key meets each dependency on it. -/
theorem waiting_snoc (dependencies : Key → List Key) (key : Key) (fresh : taken ∉ ordered) :
    waiting dependencies (ordered ++ [taken]) key + (dependencies key).count taken =
      waiting dependencies ordered key := by
  unfold waiting
  induction dependencies key with
  | nil => rfl
  | cons dependency rest ih =>
      have own : (if decide (dependency ∉ ordered ++ [taken]) = true then 1 else 0) +
            (if (dependency == taken) = true then 1 else 0) =
          if decide (dependency ∉ ordered) = true then 1 else 0 := by
        by_cases same : dependency = taken
        · subst same
          simp [fresh]
        · simp [same]
      rw [List.countP_cons, List.countP_cons, List.count_cons]
      omega

end Waiting

section Release

variable {name arrange} {children ready : List Item} {indegree : Key → Int} {key : Key}

/-- Every key is released once for each child of its name. -/
theorem release_indegree :
    (release name arrange children indegree ready).1 key =
      indegree key - ((children.map name).count key : Int) := by
  induction children generalizing indegree ready with
  | nil => simp [release]
  | cons child rest ih =>
      rw [release, ih, List.map_cons, List.count_cons]
      by_cases own : name child = key
      · subst own
        simp
        omega
      · simp [own, Function.update_of_ne (Ne.symm own)]

/-- Only ready items and children are ready afterwards. -/
theorem mem_of_release {item : Item}
    (isReady : item ∈ (release name arrange children indegree ready).2)
    (arranged : ∀ items : List Item, (arrange items).Perm items) :
    item ∈ ready ∨ item ∈ children := by
  induction children generalizing indegree ready with
  | nil => exact .inl isReady
  | cons child rest ih =>
      rw [release] at isReady
      rcases ih isReady with queued | later
      · split at queued
        · rcases List.mem_append.mp ((arranged _).mem_iff.mp queued) with before | own
          · exact .inl before
          · exact .inr (List.mem_singleton.mp own ▸ List.mem_cons_self)
        · exact .inl queued
      · exact .inr (List.mem_cons_of_mem _ later)

/-- No key waits less often than it has children to be released. -/
def Covered (name : Item → Key) (children : List Item) (indegree : Key → Int) : Prop :=
  ∀ key ∈ children.map name, ((children.map name).count key : Int) ≤ indegree key

/-- Releasing one child leaves the others covered. -/
theorem Covered.tail {child : Item} (covered : Covered name (child :: children) indegree) :
    Covered name children
      (Function.update indegree (name child) (indegree (name child) - 1)) := by
  intro other isOther
  have bound := covered other (List.mem_cons_of_mem _ isOther)
  rw [List.map_cons, List.count_cons] at bound
  by_cases own : name child = other
  · subst own
    simp only [beq_self_eq_true, if_true] at bound
    rw [Function.update_self]
    omega
  · rw [Function.update_of_ne (Ne.symm own)]
    simpa [own] using bound

/-- What joins is what waits no longer than it is released. -/
theorem mem_release_iff (arranged : ∀ items : List Item, (arrange items).Perm items)
    (covered : Covered name children indegree) :
    key ∈ (release name arrange children indegree ready).2.map name ↔
      key ∈ ready.map name ∨
        key ∈ children.map name ∧ indegree key = ((children.map name).count key : Int) := by
  induction children generalizing indegree ready with
  | nil => simp [release]
  | cons child rest ih =>
      rw [release, ih covered.tail]
      have queued : key ∈ (if indegree (name child) - 1 = 0 then arrange (ready ++ [child])
            else ready).map name ↔
          key ∈ ready.map name ∨ key = name child ∧ indegree (name child) = 1 := by
        split
        · rw [((arranged _).map name).mem_iff, List.map_append, List.mem_append, List.map_singleton,
            List.mem_singleton, and_iff_left (by omega)]
        · rw [iff_comm, or_iff_left]
          rintro ⟨-, last⟩
          omega
      rw [queued, or_assoc]
      refine or_congr_right ?_
      have bound := covered (name child) (by simp)
      rw [List.map_cons, List.count_cons_self] at bound
      by_cases own : key = name child
      · subst own
        rw [Function.update_self, List.map_cons, List.count_cons_self]
        have present : (rest.map name).count (name child) ≠ 0 ↔ name child ∈ rest.map name := by
          rw [← List.count_pos_iff, Nat.pos_iff_ne_zero]
        have listed : name child ∈ name child :: rest.map name := List.mem_cons_self
        simp only [true_and, listed, ← present]
        omega
      · rw [Function.update_of_ne own, List.map_cons, List.count_cons_of_ne (Ne.symm own),
          List.mem_cons]
        simp [own]

/-- Nothing joins twice. -/
theorem release_nodup (arranged : ∀ items : List Item, (arrange items).Perm items)
    (covered : Covered name children indegree) (distinct : (ready.map name).Nodup)
    (apart : ∀ key ∈ children.map name, key ∉ ready.map name) :
    ((release name arrange children indegree ready).2.map name).Nodup := by
  induction children generalizing indegree ready with
  | nil => exact distinct
  | cons child rest ih =>
      rw [release]
      split
      next last =>
        have queued : ((arrange (ready ++ [child])).map name).Perm
            (ready.map name ++ [name child]) := by
          simpa using (arranged (ready ++ [child])).map name
        have bound := covered (name child) (by simp)
        rw [List.map_cons, List.count_cons_self] at bound
        have once : name child ∉ rest.map name := List.count_eq_zero.mp (by omega)
        refine ih covered.tail ?_ ?_
        · rw [queued.nodup_iff, ← List.concat_eq_append]
          exact distinct.concat (apart _ (by simp))
        · intro other isOther
          rw [queued.mem_iff, List.mem_append, List.mem_singleton]
          rintro (before | rfl)
          · exact apart other (List.mem_cons_of_mem _ isOther) before
          · exact once isOther
      next =>
        exact ih covered.tail distinct fun other isOther =>
          apart other (List.mem_cons_of_mem _ isOther)

end Release

section Progress

variable {name arrange} {nodes : List Item} {dependencies : Key → List Key}
  {children : Key → List Item}

/-- The children of a key are the nodes that depend on it, once for each time they do. -/
structure ChildrenOf (name : Item → Key) (nodes : List Item) (dependencies : Key → List Key)
    (children : Key → List Item) : Prop where
  known : ∀ key, children key ⊆ nodes
  counted : ∀ key, ∀ node ∈ nodes,
    ((children key).map name).count (name node) = (dependencies (name node)).count key

/-- What the loop keeps: an order so far, and a queue of exactly the other nodes that wait
for nothing. -/
structure ReadyProgress (name : Item → Key) (nodes : List Item) (dependencies : Key → List Key)
    (indegree : Key → Int) (ready : List Item) (ordered : List Key) : Prop where
  order : DependencyOrder dependencies ordered
  distinct : (ordered ++ ready.map name).Nodup
  counted : ∀ node ∈ nodes, indegree (name node) = (waiting dependencies ordered (name node) : Int)
  reached : ∀ node ∈ nodes, name node ∈ ordered ++ ready.map name ↔
    ∀ dependency ∈ dependencies (name node), dependency ∈ ordered
  known : ready ⊆ nodes ∧ ordered ⊆ nodes.map name

variable {indegree : Key → Int} {ready : List Item} {ordered : List Key}

/-- The children of a key that is not ordered are neither ordered nor ready. -/
theorem ReadyProgress.child_absent (progress : ReadyProgress name nodes dependencies indegree ready
    ordered) (spec : ChildrenOf name nodes dependencies children) {taken key : Key}
    (fresh : taken ∉ ordered) (isChild : key ∈ (children taken).map name) :
    key ∉ ordered ++ ready.map name := by
  obtain ⟨node, present, rfl⟩ := List.mem_map.mp isChild
  have isNode := spec.known taken present
  have depends : taken ∈ dependencies (name node) := by
    rw [← List.count_pos_iff, ← spec.counted taken node isNode]
    exact List.count_pos_iff.mpr isChild
  rw [progress.reached node isNode]
  exact fun met => fresh (met taken depends)

theorem ReadyProgress.covered (progress : ReadyProgress name nodes dependencies indegree ready
    ordered) (spec : ChildrenOf name nodes dependencies children) {taken : Key}
    (fresh : taken ∉ ordered) : Covered name (children taken) indegree := by
  intro key isChild
  obtain ⟨node, present, rfl⟩ := List.mem_map.mp isChild
  have isNode := spec.known taken present
  have met := waiting_snoc dependencies (name node) fresh
  rw [spec.counted taken node isNode, progress.counted node isNode]
  omega

/-- One round of the loop keeps the progress. -/
theorem ReadyProgress.round (arranged : ∀ items : List Item, (arrange items).Perm items)
    (spec : ChildrenOf name nodes dependencies children) {taken : Item}
    (progress : ReadyProgress name nodes dependencies indegree (taken :: ready) ordered) :
    ReadyProgress name nodes dependencies
      (release name arrange (children (name taken)) indegree ready).1
      (release name arrange (children (name taken)) indegree ready).2
      (ordered ++ [name taken]) := by
  have isNode : taken ∈ nodes := progress.known.1 List.mem_cons_self
  have split := List.nodup_append.mp progress.distinct
  have fresh : name taken ∉ ordered := fun listed =>
    split.2.2 _ listed _ (List.mem_map_of_mem List.mem_cons_self) rfl
  have covered := progress.covered spec fresh
  have absent : ∀ key ∈ (children (name taken)).map name,
      key ∉ ordered ++ (taken :: ready).map name := fun _ => progress.child_absent spec fresh
  have joined : ∀ key, key ∈ (release name arrange (children (name taken)) indegree ready).2.map
        name ↔ _ := fun _ => mem_release_iff arranged covered
  refine
    { order := .snoc progress.order fresh ((progress.reached taken isNode).mp (by simp))
      distinct := ?_
      counted := fun node present => ?_
      reached := fun node present => ?_
      known := ⟨fun item isReady => ?_, fun key listed => ?_⟩ }
  · rw [List.append_assoc, List.singleton_append, List.nodup_append]
    refine ⟨split.1, List.nodup_cons.mpr ⟨?_, ?_⟩, ?_⟩
    · rw [joined]
      rintro (queued | ⟨isChild, -⟩)
      · exact (List.nodup_cons.mp split.2.1).1 queued
      · exact absent _ isChild (by simp)
    · refine release_nodup arranged covered (List.nodup_cons.mp split.2.1).2 ?_
      exact fun key isChild queued => absent key isChild (by simp [queued])
    · rintro key listed _ isLater rfl
      rcases List.mem_cons.mp isLater with rfl | isReady
      · exact fresh listed
      · rcases (joined key).mp isReady with queued | ⟨isChild, -⟩
        · exact split.2.2 key listed key (List.mem_cons_of_mem _ queued) rfl
        · exact absent key isChild (List.mem_append_left _ listed)
  · have met := waiting_snoc dependencies (name node) fresh
    rw [release_indegree, progress.counted node present, spec.counted _ node present]
    omega
  · have met := waiting_snoc dependencies (name node) fresh
    rw [← waiting_eq_zero_iff, List.append_assoc, List.singleton_append, List.mem_append,
      List.mem_cons, joined, progress.counted node present, spec.counted _ node present]
    have reached := progress.reached node present
    rw [← waiting_eq_zero_iff, List.mem_append, List.map_cons, List.mem_cons] at reached
    have isChild : name node ∈ (children (name taken)).map name ↔
        (dependencies (name node)).count (name taken) ≠ 0 := by
      rw [← spec.counted _ node present, ← Nat.pos_iff_ne_zero, List.count_pos_iff]
    constructor
    · rintro (listed | isTaken | queued | ⟨-, last⟩)
      · have := reached.mp (.inl listed)
        omega
      · have := reached.mp (.inr (.inl isTaken))
        omega
      · have := reached.mp (.inr (.inr queued))
        omega
      · omega
    · intro none
      by_cases depends : (dependencies (name node)).count (name taken) = 0
      · rcases reached.mpr (by omega) with listed | isTaken | queued
        · exact .inl listed
        · exact .inr (.inl isTaken)
        · exact .inr (.inr (.inl queued))
      · exact .inr (.inr (.inr ⟨isChild.mpr depends, by omega⟩))
  · rcases mem_of_release isReady arranged with queued | isChild
    · exact progress.known.1 (List.mem_cons_of_mem _ queued)
    · exact spec.known _ isChild
  · rcases List.mem_append.mp listed with before | last
    · exact progress.known.2 before
    · exact List.mem_singleton.mp last ▸ List.mem_map_of_mem isNode

/-- The loop ends in a dependency order of nodes. Where the rounds suffice, whatever can be
ordered is ordered. -/
theorem ReadyProgress.takeReady (arranged : ∀ items : List Item, (arrange items).Perm items)
    (spec : ChildrenOf name nodes dependencies children) (rounds : Nat)
    (progress : ReadyProgress name nodes dependencies indegree ready ordered) :
    DependencyOrder dependencies
        (takeReady name arrange children rounds indegree ready ordered) ∧
      takeReady name arrange children rounds indegree ready ordered ⊆ nodes.map name ∧
      (nodes.length ≤ rounds + ordered.length →
        ∀ order, DependencyOrder dependencies order → order ⊆ nodes.map name →
          order ⊆ takeReady name arrange children rounds indegree ready ordered) := by
  induction rounds generalizing indegree ready ordered with
  | zero =>
      refine ⟨progress.order, progress.known.2, fun enough order _ isNode key listed => ?_⟩
      have contained := List.subperm_of_subset progress.order.nodup progress.known.2
      have same := contained.perm_of_length_le (by rw [List.length_map]; omega)
      exact same.mem_iff.mpr (isNode listed)
  | succ rounds ih =>
      cases ready with
      | nil =>
          refine ⟨progress.order, progress.known.2, fun _ order orderly isNode => ?_⟩
          change order ⊆ ordered
          by_contra missed
          obtain ⟨key, listed, pending, met⟩ := orderly.exists_unblocked (· ∉ ordered)
            (by simpa [List.subset_def] using missed)
          obtain ⟨node, present, rfl⟩ := List.mem_map.mp (isNode listed)
          have reached := (progress.reached node present).mpr fun dependency depends =>
            not_not.mp (met dependency depends)
          rw [List.map_nil, List.append_nil] at reached
          exact pending reached
      | cons taken ready =>
          obtain ⟨orderly, known, complete⟩ := ih (progress.round arranged spec)
          refine ⟨orderly, known, fun enough => complete ?_⟩
          rw [List.length_append, List.length_singleton]
          omega

/-- Before the first round, the nodes without dependencies are ready. -/
theorem ReadyProgress.initial (distinct : (nodes.map name).Nodup)
    (queued : ready.Perm (nodes.filter fun node => (dependencies (name node)).length = 0)) :
    ReadyProgress name nodes dependencies (fun key => ((dependencies key).length : Int)) ready []
    where
  order := .nil
  distinct := by
    rw [List.nil_append, (queued.map name).nodup_iff]
    exact distinct.sublist (List.filter_sublist.map _)
  counted := fun node _ => by simp [waiting]
  reached := fun node present => by
    rw [List.nil_append, (queued.map name).mem_iff]
    constructor
    · intro isRoot
      obtain ⟨other, isOther, same⟩ := List.mem_map.mp isRoot
      have none := List.eq_nil_of_length_eq_zero (of_decide_eq_true (List.mem_filter.mp isOther).2)
      simp [← same, none]
    · intro met
      have none : dependencies (name node) = [] :=
        List.eq_nil_iff_forall_not_mem.mpr fun key depends => List.not_mem_nil (met key depends)
      exact List.mem_map_of_mem (List.mem_filter.mpr ⟨present, by simp [none]⟩)
  known := ⟨fun _ isReady => (List.mem_filter.mp (queued.mem_iff.mp isReady)).1,
    List.nil_subset _⟩

/-- From the nodes without dependencies, as many rounds as there are nodes order them all
exactly when they have a dependency order. -/
theorem takeReady_complete_iff (arranged : ∀ items : List Item, (arrange items).Perm items)
    (spec : ChildrenOf name nodes dependencies children) (distinct : (nodes.map name).Nodup)
    (queued : ready.Perm (nodes.filter fun node => (dependencies (name node)).length = 0)) :
    (takeReady name arrange children nodes.length (fun key => ((dependencies key).length : Int))
        ready []).length = nodes.length ↔
      ∃ order, DependencyOrder dependencies order ∧ order.Perm (nodes.map name) := by
  obtain ⟨orderly, known, complete⟩ :=
    (ReadyProgress.initial distinct queued).takeReady arranged spec nodes.length
  constructor
  · intro all
    exact ⟨_, orderly, (List.subperm_of_subset orderly.nodup known).perm_of_length_le
      (by simp [all])⟩
  · rintro ⟨order, ordered, same⟩
    have enough := complete (by simp) order ordered same.subset
    have most := (List.subperm_of_subset orderly.nodup known).length_le
    have least := (List.subperm_of_subset ordered.nodup enough).length_le
    rw [List.length_map] at most
    rw [same.length_eq, List.length_map] at least
    exact Nat.le_antisymm most least

end Progress

end PolicyOS.Foundation
