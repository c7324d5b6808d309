import Mathlib.Logic.Basic
import Mathlib.Logic.Function.Basic

/-!
# Labelled transition systems

A system is a set of initial states and a labelled step relation. Safety of a
whole run is always derived from one step: `Invariant` packages the step lemma
and `Invariant.of_reachable` is the induction. `restrict` keeps only the steps a
guard admits, so that a property which needs a condition on every step of a run
is an invariant of the restricted system. `Simulation` carries reachability from
a concrete system to the abstract one it is explained by.
-/

namespace PolicyOS.Foundation

universe u v u' v'

/-- Initial states and labelled steps. -/
structure TransitionSystem (State : Type u) (Label : Type v) where
  Initial : State → Prop
  Step : State → Label → State → Prop

namespace TransitionSystem

variable {State : Type u} {Label : Type v} {system : TransitionSystem State Label}

/-- Zero or more steps, with the labels in the order they were taken. -/
inductive Steps (system : TransitionSystem State Label) : State → List Label → State → Prop where
  | refl {state} : Steps system state [] state
  | step {start labels state label next}
      (prior : Steps system start labels state)
      (transition : system.Step state label next) :
      Steps system start (labels ++ [label]) next

/-- A state some finite run from an initial state ends in. -/
def Reachable (system : TransitionSystem State Label) (state : State) : Prop :=
  ∃ start labels, system.Initial start ∧ system.Steps start labels state

theorem Reachable.initial {state : State} (valid : system.Initial state) :
    system.Reachable state :=
  ⟨state, [], valid, .refl⟩

theorem Reachable.step {state next : State} {label : Label} (prior : system.Reachable state)
    (transition : system.Step state label next) : system.Reachable next := by
  obtain ⟨start, labels, valid, steps⟩ := prior
  exact ⟨start, labels ++ [label], valid, .step steps transition⟩

theorem Steps.append {start middle state : State} {first second : List Label}
    (prior : system.Steps start first middle) (later : system.Steps middle second state) :
    system.Steps start (first ++ second) state := by
  induction later with
  | refl => simpa using prior
  | step _ transition ih =>
      rw [← List.append_assoc]
      exact .step ih transition

theorem Steps.cons {start state final : State} {label : Label} {labels : List Label}
    (transition : system.Step start label state) (later : system.Steps state labels final) :
    system.Steps start (label :: labels) final :=
  Steps.append (.step .refl transition) later

/-- Labels folded through a partial step function are a run. -/
theorem Steps.of_foldlM {next : State → Label → Option State}
    (taken : ∀ {state label state'}, next state label = some state' →
      system.Step state label state') {start final : State} {labels : List Label}
    (ran : labels.foldlM next start = some final) : system.Steps start labels final := by
  induction labels generalizing start with
  | nil =>
      obtain rfl := Option.some.inj ran
      exact .refl
  | cons label rest ih =>
      obtain ⟨middle, first, later⟩ := Option.bind_eq_some_iff.mp ran
      exact .cons (taken first) (ih later)

/-- A property of states that holds initially and that every step keeps. -/
structure Invariant (system : TransitionSystem State Label) where
  Holds : State → Prop
  initial : ∀ state, system.Initial state → Holds state
  preserved : ∀ {state label next}, Holds state → system.Step state label next → Holds next

theorem Invariant.of_steps (invariant : system.Invariant) {start state : State}
    {labels : List Label} (holds : invariant.Holds start)
    (steps : system.Steps start labels state) : invariant.Holds state := by
  induction steps with
  | refl => exact holds
  | step _ transition ih => exact invariant.preserved ih transition

theorem Invariant.of_reachable (invariant : system.Invariant) {state : State}
    (reachable : system.Reachable state) : invariant.Holds state := by
  obtain ⟨start, _, valid, steps⟩ := reachable
  exact invariant.of_steps (invariant.initial start valid) steps

/-- A relation every step of a run respects holds between its ends. -/
theorem Steps.related (Related : State → State → Prop) (reflexive : ∀ state, Related state state)
    (transitive : ∀ {first second third}, Related first second → Related second third →
      Related first third)
    (invariant : system.Invariant)
    (respected : ∀ {state label next}, invariant.Holds state → system.Step state label next →
      Related state next)
    {start state : State} {labels : List Label} (holds : invariant.Holds start)
    (steps : system.Steps start labels state) : Related start state := by
  induction steps with
  | refl => exact reflexive _
  | step prior transition ih =>
      exact transitive ih (respected (invariant.of_steps holds prior) transition)

/-- Only the steps a guard admits. -/
def restrict (system : TransitionSystem State Label) (Admits : State → Label → State → Prop) :
    TransitionSystem State Label where
  Initial := system.Initial
  Step state label next := system.Step state label next ∧ Admits state label next

theorem Steps.of_restrict {Admits : State → Label → State → Prop} {start state : State}
    {labels : List Label} (steps : (system.restrict Admits).Steps start labels state) :
    system.Steps start labels state := by
  induction steps with
  | refl => exact .refl
  | step _ transition ih => exact .step ih transition.1

theorem Steps.to_restrict {Admits : State → Label → State → Prop}
    (admits : ∀ state label next, Admits state label next) {start state : State}
    {labels : List Label} (steps : system.Steps start labels state) :
    (system.restrict Admits).Steps start labels state := by
  induction steps with
  | refl => exact .refl
  | step _ transition ih => exact .step ih ⟨transition, admits _ _ _⟩

theorem Reachable.of_restrict {Admits : State → Label → State → Prop} {state : State}
    (reachable : (system.restrict Admits).Reachable state) : system.Reachable state := by
  obtain ⟨start, labels, valid, steps⟩ := reachable
  exact ⟨start, labels, valid, steps.of_restrict⟩

/-- An invariant of a system holds in every restriction of it. -/
def Invariant.restrict (invariant : system.Invariant) (Admits : State → Label → State → Prop) :
    (system.restrict Admits).Invariant where
  Holds := invariant.Holds
  initial := invariant.initial
  preserved holds transition := invariant.preserved holds transition.1

/-- Every concrete step is explained by finitely many abstract ones. -/
structure Simulation {Abstract : Type u'} {AbstractLabel : Type v'}
    (concrete : TransitionSystem State Label)
    (abstract : TransitionSystem Abstract AbstractLabel) where
  Explains : Abstract → State → Prop
  initial : ∀ state, concrete.Initial state → ∃ model, abstract.Initial model ∧
    Explains model state
  step : ∀ {model state label next}, Explains model state → concrete.Step state label next →
    ∃ labels model', abstract.Steps model labels model' ∧ Explains model' next

/-- Whatever the concrete system reaches is explained by a reachable abstract
state. -/
theorem Simulation.of_reachable {Abstract : Type u'} {AbstractLabel : Type v'}
    {concrete : TransitionSystem State Label} {abstract : TransitionSystem Abstract AbstractLabel}
    (simulation : concrete.Simulation abstract) {state : State}
    (reachable : concrete.Reachable state) :
    ∃ model, abstract.Reachable model ∧ simulation.Explains model state := by
  obtain ⟨start, labels, valid, steps⟩ := reachable
  induction steps with
  | refl =>
      obtain ⟨model, initial, explains⟩ := simulation.initial _ valid
      exact ⟨model, .initial initial, explains⟩
  | step _ transition ih =>
      obtain ⟨model, ⟨origin, before, initial, prior⟩, explains⟩ := ih
      obtain ⟨after, model', later, explains'⟩ := simulation.step explains transition
      exact ⟨model', ⟨origin, before ++ after, initial, prior.append later⟩, explains'⟩

end TransitionSystem

end PolicyOS.Foundation

/-!
# Traces

A run together with every step it took. What a run owes to one of its earlier steps (an
ending to its cause, an answer to its question) is a property of its trace, and is shown
as an invariant is: of the empty trace, and of a trace with one step more.
-/

namespace PolicyOS.Foundation

universe u v

/-- One step, with the states around it. -/
structure TakenStep (State : Type u) (Label : Type v) where
  before : State
  label : Label
  after : State
  deriving DecidableEq

namespace TransitionSystem

variable {State : Type u} {Label : Type v} {system : TransitionSystem State Label}

/-- Zero or more steps, in the order they were taken. -/
inductive Trace (system : TransitionSystem State Label) :
    State → List (TakenStep State Label) → State → Prop where
  | refl {state} : Trace system state [] state
  | step {start taken state label next} (prior : Trace system start taken state)
      (transition : system.Step state label next) :
      Trace system start (taken ++ [⟨state, label, next⟩]) next

/-- The trace of labels taken through a partial step function, in front of what follows. -/
def takenBy (next : State → Label → Option State) :
    State → List Label → Option (List (TakenStep State Label) × State)
  | state, [] => some ([], state)
  | state, label :: labels =>
      (next state label).bind fun following =>
        (takenBy next following labels).map fun (taken, final) =>
          (⟨state, label, following⟩ :: taken, final)

theorem Trace.cons {start state final : State} {label : Label}
    {taken : List (TakenStep State Label)} (transition : system.Step start label state)
    (later : system.Trace state taken final) :
    system.Trace start (⟨start, label, state⟩ :: taken) final := by
  induction later with
  | refl => exact .step .refl transition
  | step _ last ih => exact .step ih last

/-- What a partial step function takes is a trace. -/
theorem Trace.of_takenBy {next : State → Label → Option State}
    (steps : ∀ {state label state'}, next state label = some state' →
      system.Step state label state') {start final : State} {labels : List Label}
    {taken : List (TakenStep State Label)}
    (ran : takenBy next start labels = some (taken, final)) : system.Trace start taken final := by
  induction labels generalizing start taken with
  | nil =>
      cases ran
      exact .refl
  | cons label labels ih =>
      simp only [takenBy, Option.bind_eq_some_iff, Option.map_eq_some_iff, Prod.mk.injEq,
        Prod.exists] at ran
      obtain ⟨following, first, taken, final, later, rfl, rfl⟩ := ran
      exact .cons (steps first) (ih later)

end TransitionSystem

end PolicyOS.Foundation

/-!
# Interleaved parties

Parties that share a state take turns in any order. A turn reads and changes what is
shared and the state of its own party. `Well` says that the shared state is sound, that
every party is sound beside it, and that no two parties are in each other's way;
`Well.step` derives it for a whole step from what one turn does to its own party and to
any other.
-/

namespace PolicyOS.Foundation

variable {Id Shared Local Act : Type}

/-- What is shared, and the state of every party. -/
structure Parties (Id Shared Local : Type) where
  shared : Shared
  locals : Id → Local

/-- How parties start and what one of them does in a turn. -/
structure Turns (Shared Local Act : Type) where
  Initial : Shared → Prop
  idle : Local
  turn : Shared → Local → Act → Option (Shared × Local)

namespace Parties

variable [DecidableEq Id] {parties next : Parties Id Shared Local} {id other : Id}

/-- A party and what is shared after a turn of it. -/
def after (parties : Parties Id Shared Local) (id : Id) (turned : Shared × Local) :
    Parties Id Shared Local where
  shared := turned.1
  locals := Function.update parties.locals id turned.2

@[simp] theorem after_shared {turned : Shared × Local} :
    (parties.after id turned).shared = turned.1 := rfl

@[simp] theorem after_own {turned : Shared × Local} :
    (parties.after id turned).locals id = turned.2 :=
  Function.update_self ..

theorem after_other {turned : Shared × Local} (different : other ≠ id) :
    (parties.after id turned).locals other = parties.locals other :=
  Function.update_of_ne different ..

theorem forall_after {Property : Local → Prop} {turned : Shared × Local}
    (own : Property turned.2) (others : ∀ other ≠ id, Property (parties.locals other)) :
    ∀ party, Property ((parties.after id turned).locals party) := by
  intro party
  by_cases same : party = id
  · rw [same, after_own]
    exact own
  · rw [after_other same]
    exact others party same

end Parties

namespace Turns

variable [DecidableEq Id] (turns : Turns Shared Local Act)

/-- The party of the label takes its turn. -/
def next (parties : Parties Id Shared Local) (label : Id × Act) :
    Option (Parties Id Shared Local) :=
  (turns.turn parties.shared (parties.locals label.1) label.2).map (parties.after label.1)

/-- The runs of parties that are idle at first. -/
def system (Id : Type) [DecidableEq Id] :
    TransitionSystem (Parties Id Shared Local) (Id × Act) where
  Initial parties := turns.Initial parties.shared ∧ ∀ id, parties.locals id = turns.idle
  Step parties label later := turns.next parties label = some later

variable {turns} {parties later : Parties Id Shared Local} {label : Id × Act}

theorem next_eq_some_iff :
    turns.next parties label = some later ↔
      ∃ turned, turns.turn parties.shared (parties.locals label.1) label.2 = some turned ∧
        parties.after label.1 turned = later :=
  Option.map_eq_some_iff

/-- The party of the label takes its turn if that is admitted. -/
def admitted (turns : Turns Shared Local Act)
    (Admits : Parties Id Shared Local → Id × Act → Parties Id Shared Local → Prop)
    [∀ parties label later, Decidable (Admits parties label later)]
    (parties : Parties Id Shared Local) (label : Id × Act) : Option (Parties Id Shared Local) :=
  (turns.next parties label).filter fun later => Admits parties label later

theorem reachable_of_foldlM
    {Admits : Parties Id Shared Local → Id × Act → Parties Id Shared Local → Prop}
    [∀ parties label later, Decidable (Admits parties label later)] {shared : Shared}
    (initial : turns.Initial shared) {labels : List (Id × Act)}
    (ran : labels.foldlM (turns.admitted Admits) ⟨shared, fun _ => turns.idle⟩ = some later) :
    ((turns.system Id).restrict Admits).Reachable later := by
  refine ⟨_, labels, ⟨initial, fun _ => rfl⟩, .of_foldlM (fun taken => ?_) ran⟩
  obtain ⟨step, admits⟩ := Option.filter_eq_some_iff.mp taken
  exact ⟨step, of_decide_eq_true admits⟩

end Turns

namespace Parties

variable [DecidableEq Id] {Common : Shared → Prop} {Own : Shared → Local → Prop}
  {Apart : Local → Local → Prop} {parties : Parties Id Shared Local} {id : Id}

/-- What is shared is sound, every party is sound beside it, and any two are apart. -/
structure Well (Common : Shared → Prop) (Own : Shared → Local → Prop)
    (Apart : Local → Local → Prop) (parties : Parties Id Shared Local) : Prop where
  common : Common parties.shared
  own : ∀ id, Own parties.shared (parties.locals id)
  apart : ∀ first second, first ≠ second → Apart (parties.locals first) (parties.locals second)

/-- A turn that keeps its own party sound, interferes with no other and leaves its party
apart from every other keeps all of them well. -/
theorem Well.step (symmetric : ∀ {first second}, Apart first second → Apart second first)
    (well : Well Common Own Apart parties) {turned : Shared × Local}
    (common : Common turned.1) (own : Own turned.1 turned.2)
    (others : ∀ other ≠ id, Own turned.1 (parties.locals other))
    (apart : ∀ other ≠ id, Apart (parties.locals other) turned.2) :
    Well Common Own Apart (parties.after id turned) where
  common := common
  own := forall_after own others
  apart := by
    intro first second different
    by_cases isFirst : first = id
    · have isOther : second ≠ id := fun same => different (isFirst.trans same.symm)
      rw [isFirst, after_own, after_other isOther]
      exact symmetric (apart second isOther)
    · rw [after_other isFirst]
      by_cases isSecond : second = id
      · rw [isSecond, after_own]
        exact apart first isFirst
      · rw [after_other isSecond]
        exact well.apart first second different

end Parties

end PolicyOS.Foundation
