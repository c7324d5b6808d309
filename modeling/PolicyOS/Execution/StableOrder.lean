import PolicyOS.Execution.Validation
import PolicyOS.Foundation.LeastFirst

/-!
# The stable order of a plan

The ready steps are kept in order of their sequence and identifier, so the order of a plan takes
the least ready step at each position. It fails exactly on a cycle, and is the same for the same
steps in another order.
-/

namespace PolicyOS.Execution

open Foundation

variable {steps : List StepLike} {step : StepLike}

/-! ## Keys -/

theorem StepKey.notAfter_refl (key : StepKey) : key.notAfter key := .inr ⟨rfl, le_refl _⟩

theorem StepKey.notAfter_trans {first second third : StepKey} (earlier : first.notAfter second)
    (later : second.notAfter third) : first.notAfter third := by
  rcases earlier with below | ⟨same, before⟩
  · rcases later with beyond | ⟨alike, -⟩
    · exact .inl (below.trans beyond)
    · exact .inl (alike ▸ below)
  · rcases later with beyond | ⟨alike, after⟩
    · exact .inl (same ▸ beyond)
    · exact .inr ⟨same.trans alike, before.trans after⟩

theorem StepKey.notAfter_total (first second : StepKey) :
    first.notAfter second ∨ second.notAfter first := by
  rcases lt_trichotomy first.1 second.1 with below | same | above
  · exact .inl (.inl below)
  · rcases le_total first.2 second.2 with before | after
    · exact .inl (.inr ⟨same, before⟩)
    · exact .inr (.inr ⟨same.symm, after⟩)
  · exact .inr (.inl above)

theorem StepKey.notAfter_antisymm {first second : StepKey} (earlier : first.notAfter second)
    (later : second.notAfter first) : first = second := by
  rcases earlier with below | ⟨same, before⟩
  · rcases later with above | ⟨alike, -⟩
    · exact absurd above (lt_asymm below)
    · exact absurd below (alike ▸ lt_irrefl _)
  · rcases later with above | ⟨-, after⟩
    · exact absurd above (same ▸ lt_irrefl _)
    · exact Prod.ext same (le_antisymm before after)

theorem pairwise_sortKeys (keys : List StepKey) : (sortKeys keys).Pairwise StepKey.notAfter :=
  have : IsTrans StepKey StepKey.notAfter := ⟨fun _ _ _ => StepKey.notAfter_trans⟩
  have : Std.Total StepKey.notAfter := ⟨StepKey.notAfter_total⟩
  List.pairwise_insertionSort _ keys

theorem sortKeys_perm {keys others : List StepKey} (same : keys.Perm others) :
    sortKeys keys = sortKeys others :=
  ((perm_sortKeys keys).trans (same.trans (perm_sortKeys others).symm)).eq_of_pairwise
    (fun _ _ _ _ => StepKey.notAfter_antisymm) (pairwise_sortKeys keys) (pairwise_sortKeys others)

/-! ## Stable orders -/

/-- A step is ready after some others: it is not among them, and all its dependencies are. -/
def StepLike.readyAfter (step : StepLike) (done : List String) : Prop :=
  step.stepId ∉ done ∧ step.dependencies ⊆ done

/-- All steps, each after its dependencies, and each the least by sequence and identifier of the
steps that are ready in its place. -/
structure StableOrder (steps : List StepLike) (order : List String) : Prop where
  all : order.Perm (steps.map (·.stepId))
  after : ∀ step ∈ steps, ∀ done rest, order = done ++ step.stepId :: rest →
    step.dependencies ⊆ done
  least : ∀ done stepId rest, order = done ++ stepId :: rest →
    ∃ step ∈ steps, step.stepId = stepId ∧ step.readyAfter done ∧
      ∀ other ∈ steps, other.readyAfter done → step.key.notAfter other.key

/-- A step names another as a dependency. -/
def NamesDependency (steps : List StepLike) (stepId dependency : String) : Prop :=
  ∃ step ∈ steps, step.stepId = stepId ∧ dependency ∈ step.dependencies

/-- The dependency relation has a cycle. -/
def Cyclic (steps : List StepLike) : Prop :=
  ∃ stepId, Relation.TransGen (NamesDependency steps) stepId stepId

/-- What a step depends on is what it names. -/
theorem mem_dependenciesOf_iff (distinct : (steps.map (·.stepId)).Nodup)
    {stepId dependency : String} :
    dependency ∈ dependenciesOf steps stepId ↔ NamesDependency steps stepId dependency := by
  constructor
  · intro depends
    unfold dependenciesOf at depends
    cases found : steps.find? (·.stepId = stepId) with
    | none => simp [found] at depends
    | some step =>
        simp only [found, Option.map_some, Option.getD_some] at depends
        exact ⟨step, List.mem_of_find?_eq_some found, by simpa using List.find?_some found, depends⟩
  · rintro ⟨step, present, rfl, depends⟩
    rwa [dependenciesOf_stepId distinct present]

/-- A cycle is one of listed steps. -/
theorem cyclic_iff (distinct : (steps.map (·.stepId)).Nodup) :
    Cyclic steps ↔ ∃ stepId ∈ steps.map (·.stepId),
      DependsOn (dependenciesOf steps) stepId stepId := by
  have same : NamesDependency steps =
      fun stepId dependency => dependency ∈ dependenciesOf steps stepId := by
    funext stepId dependency
    exact propext (mem_dependenciesOf_iff distinct).symm
  rw [Cyclic, same]
  constructor
  · rintro ⟨stepId, cyclic⟩
    obtain ⟨_, direct, -⟩ := Relation.TransGen.head'_iff.mp cyclic
    obtain ⟨step, present, rfl, -⟩ := (mem_dependenciesOf_iff distinct).mp direct
    exact ⟨_, List.mem_map_of_mem present, cyclic⟩
  · rintro ⟨stepId, -, cyclic⟩
    exact ⟨stepId, cyclic⟩

theorem readyAfter_key (distinct : (steps.map (·.stepId)).Nodup) (present : step ∈ steps)
    {done : List String} :
    ReadyAfter Prod.snd (dependenciesOf steps) done step.key ↔ step.readyAfter done := by
  rw [ReadyAfter, StepLike.readyAfter, show step.key.2 = step.stepId from rfl,
    dependenciesOf_stepId distinct present]
  rfl

/-- The keys of the steps, the least ready one first. -/
theorem topologicalStepIds_leastFirst {order : List String}
    (distinct : (steps.map (·.stepId)).Nodup) (computed : topologicalStepIds steps = .ok order) :
    LeastFirst Prod.snd StepKey.notAfter (steps.map (·.key)) (dependenciesOf steps) order := by
  simp only [topologicalStepIds, bind_eq_ok_iff, exists_unit_iff, rejectIf_eq_ok_iff,
    pure_eq_ok_iff, not_not] at computed
  obtain ⟨-, rfl⟩ := computed
  rw [orderReady_eq_takeReady]
  have apart : ((steps.map (·.key)).map Prod.snd).Nodup := names_keys ▸ distinct
  exact (ReadyProgress.initial apart (initiallyReady distinct)).takeReady_leastFirst apart
    StepKey.notAfter_refl perm_sortKeys pairwise_sortKeys (childrenOf_spec distinct) steps.length
    (pairwise_sortKeys _) .nil

/-- The computed order is stable. -/
theorem topologicalStepIds_stable {order : List String} (distinct : (steps.map (·.stepId)).Nodup)
    (computed : topologicalStepIds steps = .ok order) : StableOrder steps order := by
  have chosen : ∀ done stepId rest, order = done ++ stepId :: rest →
      ∃ step ∈ steps, step.stepId = stepId ∧ step.readyAfter done ∧
        ∀ other ∈ steps, other.readyAfter done → step.key.notAfter other.key := by
    intro done stepId rest position
    obtain ⟨key, isKey, named, ready, least⟩ :=
      (topologicalStepIds_leastFirst distinct computed).choice position
    obtain ⟨step, present, rfl⟩ := List.mem_map.mp isKey
    refine ⟨step, present, named, (readyAfter_key distinct present).mp ready, ?_⟩
    intro other isOther isReady
    exact least other.key (List.mem_map_of_mem isOther)
      ((readyAfter_key distinct isOther).mpr isReady)
  refine ⟨(topologicalStepIds_order distinct computed).2, ?_, chosen⟩
  intro step present done rest position
  obtain ⟨other, isOther, named, ready, -⟩ := chosen done step.stepId rest position
  obtain rfl : other = step := List.inj_on_of_nodup_map distinct isOther present named
  exact ready.2

theorem topologicalStepIds_error {error : ExecutionDomainError}
    (raised : topologicalStepIds steps = .error error) :
    error = ⟨.cyclicPlan, "Execution plan contains a dependency cycle"⟩ := by
  unfold topologicalStepIds at raised
  simp only [bind_eq_error_iff, exists_unit_iff, rejectIf_eq_error_iff] at raised
  rcases raised with ⟨-, same⟩ | ⟨-, returned⟩
  · exact same.symm
  · cases returned

theorem topologicalStepIds_accepted_iff_acyclic (distinct : (steps.map (·.stepId)).Nodup)
    (known : ∀ step ∈ steps, step.dependencies ⊆ steps.map (·.stepId)) :
    Accepted (topologicalStepIds steps) ↔ ¬ Cyclic steps := by
  rw [topologicalStepIds_accepted_iff distinct, cyclic_iff distinct,
    exists_dependencyOrder_iff distinct]
  · simp only [not_exists, not_and]
  · intro stepId listed dependency depends
    obtain ⟨step, present, -, named⟩ := (mem_dependenciesOf_iff distinct).mp depends
    exact known step present named

theorem sortKeys_childrenOf_perm {others : List StepLike} (same : others.Perm steps)
    (stepId : String) :
    sortKeys (childrenOf others stepId) = sortKeys (childrenOf steps stepId) :=
  sortKeys_perm (same.flatMap_right _)

/-- The same steps in another order are ordered alike. -/
theorem topologicalStepIds_perm {others : List StepLike} (distinct : (steps.map (·.stepId)).Nodup)
    (same : others.Perm steps) : topologicalStepIds others = topologicalStepIds steps := by
  have ready : sortKeys ((others.filter (·.dependencies.length = 0)).map (·.key)) =
      sortKeys ((steps.filter (·.dependencies.length = 0)).map (·.key)) :=
    sortKeys_perm ((same.filter _).map _)
  have loop : ∀ rounds indegree ready ordered,
      orderReady others rounds indegree ready ordered =
        orderReady steps rounds indegree ready ordered := by
    intro rounds indegree ready ordered
    rw [orderReady_eq_takeReady, orderReady_eq_takeReady]
    simp only [sortKeys_childrenOf_perm same]
  simp only [topologicalStepIds, dependenciesOf_perm distinct same, ready, loop, same.length_eq]

/-- Steps with unique identifiers and known dependencies are put in a stable order exactly if
they have no cycle, and a cycle is what is raised otherwise. In whatever order the steps are
given, the result is the same. -/
theorem topologicalStepIds_correct (distinct : (steps.map (·.stepId)).Nodup)
    (known : ∀ step ∈ steps, step.dependencies ⊆ steps.map (·.stepId)) :
    (∀ order, topologicalStepIds steps = .ok order → StableOrder steps order) ∧
      (topologicalStepIds steps =
          .error ⟨.cyclicPlan, "Execution plan contains a dependency cycle"⟩ ↔ Cyclic steps) ∧
      (¬ Cyclic steps → ∃ order, topologicalStepIds steps = .ok order) ∧
      ∀ others : List StepLike, others.Perm steps →
        topologicalStepIds others = topologicalStepIds steps := by
  have accepted := topologicalStepIds_accepted_iff_acyclic distinct known
  refine ⟨fun order computed => topologicalStepIds_stable distinct computed, ⟨?_, ?_⟩,
    accepted.mpr, fun others same => topologicalStepIds_perm distinct same⟩
  · intro raised
    by_contra acyclic
    obtain ⟨order, computed⟩ := accepted.mpr acyclic
    exact absurd (raised.symm.trans computed) (by simp)
  · intro cyclic
    cases result : topologicalStepIds steps with
    | error error => rw [topologicalStepIds_error result]
    | ok order => exact absurd cyclic (accepted.mp ⟨order, result⟩)

/-- Two steps between a first and a last one, listed against their sequence. -/
def diamond : List StepLike :=
  [⟨"d", 3, ["b", "c"]⟩, ⟨"b", 2, ["a"]⟩, ⟨"c", 1, ["a"]⟩, ⟨"a", 0, []⟩]

/-- The steps of a diamond are put in a stable order. -/
theorem topologicalStepIds_diamond :
    topologicalStepIds diamond = .ok ["a", "c", "b", "d"] ∧
      StableOrder diamond ["a", "c", "b", "d"] ∧ ¬ Cyclic diamond := by
  have correct := @topologicalStepIds_correct diamond (by decide) (by decide)
  have computed : topologicalStepIds diamond = .ok ["a", "c", "b", "d"] := by decide +kernel
  refine ⟨computed, correct.1 _ computed, fun cyclic => ?_⟩
  exact absurd ((correct.2.1.mpr cyclic).symm.trans computed) (by simp)

end PolicyOS.Execution
