import Mathlib.Data.Fintype.Card
import Mathlib.Data.Set.Finite.Basic
import Mathlib.Order.WellFounded
import PolicyOS.Foundation.KeyedList
import PolicyOS.Foundation.ReadyOrder

/-!
# The least ready item first

Where the ready queue is kept in order, the item taken from it is the least of all items that
wait for nothing. The loop goes on until the queue is empty, and leaves something out exactly if
the items have a cycle.
-/

namespace PolicyOS.Foundation

variable {Item Key : Type} {name : Item → Key} {dependencies : Key → List Key}

/-! ## Cycles -/

/-- A key depends on another, directly or through others. -/
def DependsOn (dependencies : Key → List Key) : Key → Key → Prop :=
  Relation.TransGen fun key dependency => dependency ∈ dependencies key

/-- No listed key depends on itself. -/
theorem DependencyOrder.acyclic {order : List Key} (ordered : DependencyOrder dependencies order)
    {key : Key} (listed : key ∈ order) : ¬ DependsOn dependencies key key := by
  induction ordered with
  | nil => cases listed
  | @snoc order last prior fresh closed ih =>
      rcases List.mem_append.mp listed with earlier | isLast
      · exact ih earlier
      · obtain rfl := List.mem_singleton.mp isLast
        intro cyclic
        obtain ⟨first, direct, rest⟩ := Relation.TransGen.head'_iff.mp cyclic
        have before := closed first direct
        rcases Relation.reflTransGen_iff_eq_or_transGen.mp rest with same | through
        · exact fresh (same ▸ before)
        · exact fresh (prior.mem_of_transGen before through)

/-- Among finitely many keys without a cycle, some pending key depends on nothing pending. -/
theorem exists_unblocked_of_acyclic {keys : List Key}
    (acyclic : ∀ key ∈ keys, ¬ DependsOn dependencies key key)
    {Pending : Key → Prop} (waits : ∃ key ∈ keys, Pending key) :
    ∃ key ∈ keys, Pending key ∧
      ∀ dependency ∈ dependencies key, dependency ∈ keys → ¬ Pending dependency := by
  let After : {key // key ∈ keys} → {key // key ∈ keys} → Prop :=
    fun dependency key => DependsOn dependencies key.1 dependency.1
  have : Finite {key // key ∈ keys} := List.finite_toSet keys
  have : IsTrans _ After := ⟨fun _ _ _ first second => Relation.TransGen.trans second first⟩
  have : Std.Irrefl After := ⟨fun key => acyclic key.1 key.2⟩
  have wellFounded : WellFounded After := Finite.wellFounded_of_trans_of_irrefl After
  obtain ⟨key, isKey, pending⟩ := waits
  obtain ⟨least, isPending, minimal⟩ :=
    wellFounded.has_min {key | Pending key.1} ⟨⟨key, isKey⟩, pending⟩
  refine ⟨least.1, least.2, isPending, fun dependency depends listed waiting => ?_⟩
  exact minimal ⟨dependency, listed⟩ waiting (.single depends)

/-- Finitely many keys that depend on each other only have a dependency order exactly if they
have no cycle. -/
theorem exists_dependencyOrder_iff [DecidableEq Key] {keys : List Key} (distinct : keys.Nodup)
    (closed : ∀ key ∈ keys, ∀ dependency ∈ dependencies key, dependency ∈ keys) :
    (∃ order, DependencyOrder dependencies order ∧ order.Perm keys) ↔
      ∀ key ∈ keys, ¬ DependsOn dependencies key key := by
  constructor
  · rintro ⟨order, ordered, all⟩ key isKey
    exact ordered.acyclic (all.mem_iff.mpr isKey)
  · intro acyclic
    -- An order of some of the keys is extended for as long as a key is left out.
    have extend : ∀ missing, ∀ order, DependencyOrder dependencies order → order ⊆ keys →
        keys.length ≤ order.length + missing →
        ∃ order, DependencyOrder dependencies order ∧ order.Perm keys := by
      intro missing
      induction missing with
      | zero =>
          intro order ordered known enough
          exact ⟨order, ordered, (List.subperm_of_subset ordered.nodup known).perm_of_length_le
            enough⟩
      | succ missing ih =>
          intro order ordered known enough
          by_cases all : keys ⊆ order
          · exact ⟨order, ordered, (List.subperm_of_subset ordered.nodup known).perm_of_length_le
              (List.subperm_of_subset distinct all).length_le⟩
          · simp only [List.subset_def, not_forall] at all
            obtain ⟨key, isKey, absent⟩ := all
            obtain ⟨next, isNext, fresh, unblocked⟩ :=
              @exists_unblocked_of_acyclic _ _ _ acyclic (· ∉ order) ⟨key, isKey, absent⟩
            refine ih (order ++ [next]) (.snoc ordered fresh fun dependency depends => ?_) ?_ ?_
            · exact not_not.mp (unblocked dependency depends (closed next isNext _ depends))
            · exact List.append_subset.mpr ⟨known, by simpa using isNext⟩
            · rw [List.length_append, List.length_singleton]
              omega
    exact extend keys.length [] .nil (List.nil_subset _) (by simp)

/-! ## The least ready item -/

/-- An item is ready after some keys: it is none of them, and waits for nothing else. -/
def ReadyAfter (name : Item → Key) (dependencies : Key → List Key) (done : List Key)
    (item : Item) : Prop :=
  name item ∉ done ∧ ∀ dependency ∈ dependencies (name item), dependency ∈ done

/-- Keys of items, each the least of those that are ready after the keys before it. -/
inductive LeastFirst (name : Item → Key) (before : Item → Item → Prop) (nodes : List Item)
    (dependencies : Key → List Key) : List Key → Prop where
  | nil : LeastFirst name before nodes dependencies []
  | snoc {done : List Key} {taken : Item}
      (prior : LeastFirst name before nodes dependencies done)
      (isNode : taken ∈ nodes)
      (ready : ReadyAfter name dependencies done taken)
      (least : ∀ other ∈ nodes, ReadyAfter name dependencies done other → before taken other) :
      LeastFirst name before nodes dependencies (done ++ [name taken])

variable {before : Item → Item → Prop} {nodes : List Item}

/-- At each position the least ready item is chosen. -/
theorem LeastFirst.choice {order done rest : List Key} {key : Key}
    (leastFirst : LeastFirst name before nodes dependencies order)
    (position : order = done ++ key :: rest) :
    ∃ taken ∈ nodes, name taken = key ∧ ReadyAfter name dependencies done taken ∧
      ∀ other ∈ nodes, ReadyAfter name dependencies done other → before taken other := by
  induction leastFirst generalizing rest with
  | nil => simp at position
  | @snoc earlier taken _ isNode ready least ih =>
      rcases List.eq_nil_or_concat rest with rfl | ⟨init, last, rfl⟩
      · obtain ⟨rfl, same⟩ := List.append_inj' position rfl
        exact ⟨taken, isNode, (List.cons.inj same).1, ready, least⟩
      · rw [List.concat_eq_append, ← List.cons_append, ← List.append_assoc] at position
        exact ih (List.append_inj' position rfl).1

section Loop

variable [DecidableEq Key] {arrange : List Item → List Item} {children : Key → List Item}
  {indegree : Key → Int} {ready : List Item} {ordered : List Key}

/-- Releasing children keeps the queue in order. -/
theorem release_pairwise (sorted : ∀ items, (arrange items).Pairwise before)
    {released : List Item} (inOrder : ready.Pairwise before) :
    (release name arrange released indegree ready).2.Pairwise before := by
  induction released generalizing indegree ready with
  | nil => exact inOrder
  | cons child rest ih =>
      rw [release]
      refine ih ?_
      split
      · exact sorted _
      · exact inOrder

/-- The first of a queue in order is the least of what is ready. -/
theorem ReadyProgress.least {taken : Item} (distinct : (nodes.map name).Nodup)
    (reflexive : ∀ item, before item item)
    (progress : ReadyProgress name nodes dependencies indegree (taken :: ready) ordered)
    (inOrder : (taken :: ready).Pairwise before) :
    ReadyAfter name dependencies ordered taken ∧
      ∀ other ∈ nodes, ReadyAfter name dependencies ordered other → before taken other := by
  have isNode : taken ∈ nodes := progress.known.1 List.mem_cons_self
  have apart := (List.nodup_append.mp progress.distinct).2.2
  refine ⟨⟨fun listed => apart _ listed _ (by simp) rfl,
    (progress.reached taken isNode).mp (by simp)⟩, ?_⟩
  rintro other isOther ⟨fresh, met⟩
  have queued := (List.mem_append.mp ((progress.reached other isOther).mpr met)).resolve_left fresh
  obtain ⟨item, isItem, same⟩ := List.mem_map.mp queued
  obtain rfl : item = other :=
    List.inj_on_of_nodup_map distinct (progress.known.1 isItem) isOther same
  rcases List.mem_cons.mp isItem with rfl | later
  · exact reflexive item
  · exact (List.pairwise_cons.mp inOrder).1 item later

/-- The loop takes the least ready item first. -/
theorem ReadyProgress.takeReady_leastFirst (distinct : (nodes.map name).Nodup)
    (reflexive : ∀ item, before item item)
    (arranged : ∀ items : List Item, (arrange items).Perm items)
    (sorted : ∀ items, (arrange items).Pairwise before)
    (spec : ChildrenOf name nodes dependencies children) (rounds : Nat)
    (progress : ReadyProgress name nodes dependencies indegree ready ordered)
    (inOrder : ready.Pairwise before)
    (leastFirst : LeastFirst name before nodes dependencies ordered) :
    LeastFirst name before nodes dependencies
      (Foundation.takeReady name arrange children rounds indegree ready ordered) := by
  induction rounds generalizing indegree ready ordered with
  | zero => exact leastFirst
  | succ rounds ih =>
      cases ready with
      | nil => exact leastFirst
      | cons taken ready =>
          obtain ⟨isReady, least⟩ := progress.least distinct reflexive inOrder
          exact ih (progress.round arranged spec)
            (release_pairwise sorted (List.pairwise_cons.mp inOrder).2)
            (.snoc leastFirst (progress.known.1 List.mem_cons_self) isReady least)

end Loop

end PolicyOS.Foundation
