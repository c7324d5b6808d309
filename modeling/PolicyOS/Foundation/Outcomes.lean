import Mathlib.Order.Defs.Unbundled

/-!
# Where code leads

Code that changes a state and returns a value or raises an error, where what was changed
before an error stays changed. `Leads` is the precondition of such code for what it returns and
for what it raises, each with the state it leaves. `Within` says that code moves the state along
a relation only, however it ends.
-/

namespace PolicyOS.Foundation

variable {Error State α β : Type}

/-- From a state, the code returns what is promised of it or raises what is promised of it. -/
def Leads (code : EStateM Error State α) (returns : α → State → Prop)
    (raises : Error → State → Prop) (start : State) : Prop :=
  match code.run start with
  | .ok value final => returns value final
  | .error error final => raises error final

variable {code : EStateM Error State α} {returns : α → State → Prop}
  {raises : Error → State → Prop} {start : State}

theorem Leads.imp {returns' : α → State → Prop} {raises' : Error → State → Prop}
    (leads : Leads code returns raises start)
    (value : ∀ value final, returns value final → returns' value final)
    (error : ∀ error final, raises error final → raises' error final) :
    Leads code returns' raises' start := by
  unfold Leads at leads ⊢
  split at leads
  · exact value _ _ leads
  · exact error _ _ leads

@[simp] theorem leads_pure {value : α} :
    Leads (pure value : EStateM Error State α) returns raises start ↔ returns value start :=
  Iff.rfl

@[simp] theorem leads_throw {error : Error} :
    Leads (throw error : EStateM Error State α) returns raises start ↔ raises error start :=
  Iff.rfl

/-- Code is followed by code. -/
@[simp] theorem leads_bind {next : α → EStateM Error State β} {returns : β → State → Prop} :
    Leads (code >>= next) returns raises start ↔
      Leads code (fun value later => Leads (next value) returns raises later) raises start := by
  simp only [Leads, EStateM.run, bind, EStateM.bind]
  cases code start <;> rfl

@[simp] theorem leads_modify {change : State → State} {returns : Unit → State → Prop} :
    Leads (modify change : EStateM Error State Unit) returns raises start ↔
      returns () (change start) :=
  Iff.rfl

@[simp] theorem leads_modifyGet {change : State → α × State} :
    Leads (modifyGet change : EStateM Error State α) returns raises start ↔
      returns (change start).1 (change start).2 :=
  Iff.rfl

/-- An error is handled in the state in which it was raised. -/
@[simp] theorem leads_tryCatch {handle : Error → EStateM Error State α} :
    Leads (tryCatch code handle) returns raises start ↔
      Leads code returns (fun error later => Leads (handle error) returns raises later) start := by
  simp only [Leads, EStateM.run, tryCatch, tryCatchThe, MonadExceptOf.tryCatch]
  delta EStateM.tryCatch
  cases code start <;> rfl

/-- A computation that may fail is run. -/
def ofResult (result : Except Error α) : EStateM Error State α :=
  match result with
  | .ok value => pure value
  | .error error => throw error

@[simp] theorem leads_ofResult {result : Except Error α} :
    Leads (ofResult result : EStateM Error State α) returns raises start ↔
      (∀ value, result = .ok value → returns value start) ∧
        ∀ error, result = .error error → raises error start := by
  cases result <;> simp [ofResult]

/-! ## Moving along a relation -/

/-- However the code ends, the state it leaves is related to the one it started in. -/
def Within (Related : State → State → Prop) (code : EStateM Error State α) : Prop :=
  ∀ start, Leads code (fun _ => Related start) (fun _ => Related start) start

variable {Related : State → State → Prop}

theorem within_pure [Std.Refl Related] {value : α} : Within Related (pure value : EStateM Error State α) :=
  fun start => Std.Refl.refl start

theorem within_ofResult [Std.Refl Related] {result : Except Error α} :
    Within Related (ofResult result : EStateM Error State α) :=
  fun start => leads_ofResult.mpr
    ⟨fun _ _ => Std.Refl.refl start, fun _ _ => Std.Refl.refl start⟩

theorem Within.bind [IsTrans State Related] {next : α → EStateM Error State β}
    (within : Within Related code) (others : ∀ value, Within Related (next value)) :
    Within Related (code >>= next) := by
  intro start
  rw [leads_bind]
  refine (within start).imp (fun value later moved => ?_) fun _ _ moved => moved
  exact (others value later).imp (fun _ _ further => IsTrans.trans start later _ moved further)
    fun _ _ further => IsTrans.trans start later _ moved further

/-- The state that is left, whether a value is returned or an error raised. -/
def leftBy : EStateM.Result Error State α → State
  | .ok _ final => final
  | .error _ final => final

theorem Within.leftBy (within : Within Related code) (start : State) :
    Related start (leftBy (code.run start)) := by
  have moved := within start
  unfold Leads at moved
  split at moved
  next ran => rwa [ran]
  next ran => rwa [ran]

end PolicyOS.Foundation
