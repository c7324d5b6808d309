import Mathlib.Data.List.Basic
import Mathlib.Data.List.Forall2

/-!
# Checked computations

A fail-closed validator is a sequence of guards, each of which may raise. This
module gives that shape over any error type: one guard, and the lemmas by which
an accepted sequence is read back as the conjunction of what its guards admit.
-/

namespace PolicyOS.Foundation

variable {Error : Type} {α β : Type}

/-- One guard of a validator: raise `error` exactly when `condition` holds. -/
def rejectIf (condition : Prop) [Decidable condition] (error : Error) : Except Error Unit :=
  if condition then .error error else .ok ()

/-- A guard passes exactly when its rejecting condition fails. -/
@[simp] theorem rejectIf_eq_ok_iff {condition : Prop} [Decidable condition] {error : Error}
    {value : Unit} : rejectIf condition error = .ok value ↔ ¬ condition := by
  unfold rejectIf
  by_cases holds : condition <;> simp [holds]

/-- A sequence is accepted exactly when its head is accepted with a value its
tail accepts. -/
@[simp] theorem bind_eq_ok_iff {first : Except Error α} {next : α → Except Error β} {value : β} :
    (first >>= next) = .ok value ↔ ∃ middle, first = .ok middle ∧ next middle = .ok value := by
  cases first with
  | error raised => simp [Bind.bind, Except.bind]
  | ok middle => simp [Bind.bind, Except.bind]

/-- A guard raises its own error, exactly when its rejecting condition holds. -/
@[simp] theorem rejectIf_eq_error_iff {condition : Prop} [Decidable condition]
    {error raised : Error} :
    rejectIf condition error = .error raised ↔ condition ∧ error = raised := by
  unfold rejectIf
  by_cases holds : condition <;> simp [holds]

/-- A sequence raises what its head raises, or what its tail raises on the value its
head is accepted with. -/
@[simp] theorem bind_eq_error_iff {first : Except Error α} {next : α → Except Error β}
    {error : Error} :
    (first >>= next) = .error error ↔
      first = .error error ∨ ∃ middle, first = .ok middle ∧ next middle = .error error := by
  cases first with
  | error raised => simp [Bind.bind, Except.bind]
  | ok middle => simp [Bind.bind, Except.bind]

/-- The value of a guard carries no information. -/
@[simp] theorem exists_unit_iff {property : Unit → Prop} :
    (∃ value, property value) ↔ property () :=
  ⟨fun ⟨(), holds⟩ => holds, fun holds => ⟨(), holds⟩⟩

/-- Returning a value accepts exactly that value. -/
@[simp] theorem pure_eq_ok_iff {value result : α} :
    (pure value : Except Error α) = .ok result ↔ value = result := by
  simp [Pure.pure, Except.pure]

theorem mapError_eq_ok_iff {Raised : Type} {result : Except Raised α} {rename : Raised → Error}
    {value : α} : result.mapError rename = .ok value ↔ result = .ok value := by
  cases result <;> simp [Except.mapError]

/-- Raise one error in place of whatever a computation raises. -/
def raisingInstead {Raised : Type} (result : Except Raised α) (error : Error) : Except Error α :=
  result.mapError fun _ => error

/-- A computation is accepted as it is, whatever is raised in place of its errors. -/
@[simp] theorem raisingInstead_eq_ok_iff {Raised : Type} {result : Except Raised α}
    {error : Error} {value : α} :
    raisingInstead result error = .ok value ↔ result = .ok value :=
  mapError_eq_ok_iff

/-- Run one check over every item of a list, in order, stopping at the first
error. -/
def checkEach (check : α → Except Error Unit) : List α → Except Error Unit
  | [] => .ok ()
  | item :: rest => do
      check item
      checkEach check rest

/-- A list passes exactly when every item of it passes. -/
@[simp] theorem checkEach_eq_ok_iff {check : α → Except Error Unit} {items : List α}
    {value : Unit} :
    checkEach check items = .ok value ↔ ∀ item ∈ items, check item = .ok () := by
  induction items with
  | nil => simp [checkEach]
  | cons item rest ih => simp [checkEach, ih]

theorem checkEach_append {check : α → Except Error Unit} (items later : List α) :
    checkEach check (items ++ later) =
      (checkEach check items >>= fun _ => checkEach check later) := by
  induction items with
  | nil => rfl
  | cons item rest ih =>
      rw [List.cons_append, checkEach, checkEach, ih]
      cases check item <;> rfl

/-- What a list raises one of its items raises. -/
theorem exists_of_checkEach_error {check : α → Except Error Unit} {items : List α}
    {error : Error} (raised : checkEach check items = .error error) :
    ∃ item ∈ items, check item = .error error := by
  induction items with
  | nil => cases raised
  | cons item rest ih =>
      simp only [checkEach, bind_eq_error_iff, exists_unit_iff] at raised
      rcases raised with here | ⟨-, later⟩
      · exact ⟨item, List.mem_cons_self, here⟩
      · obtain ⟨other, isOther, raises⟩ := ih later
        exact ⟨other, List.mem_cons_of_mem item isOther, raises⟩

/-- Compute a result for every item of a list, in order, stopping at the first
error. -/
def collectEach (compute : α → Except Error β) : List α → Except Error (List β)
  | [] => .ok []
  | item :: rest => do
      let result ← compute item
      let results ← collectEach compute rest
      pure (result :: results)

/-- The collected results are those of the items, in order. -/
theorem collectEach_eq_ok_iff {compute : α → Except Error β} {items : List α}
    {results : List β} :
    collectEach compute items = .ok results ↔
      List.Forall₂ (fun item result => compute item = .ok result) items results := by
  induction items generalizing results with
  | nil => simp [collectEach, eq_comm]
  | cons item rest ih =>
      simp only [collectEach, bind_eq_ok_iff, pure_eq_ok_iff, ih, List.forall₂_cons_left_iff]
      constructor
      · rintro ⟨result, isFirst, later, areLater, rfl⟩
        exact ⟨result, later, isFirst, areLater, rfl⟩
      · rintro ⟨result, later, isFirst, areLater, rfl⟩
        exact ⟨result, isFirst, later, areLater, rfl⟩

theorem mem_of_collectEach {compute : α → Except Error β} {items : List α} {results : List β}
    (collected : collectEach compute items = .ok results) {result : β} (isResult : result ∈ results) :
    ∃ item ∈ items, compute item = .ok result := by
  induction collectEach_eq_ok_iff.mp collected with
  | nil => cases isResult
  | @cons first own _ _ computed rest ih =>
      rcases List.mem_cons.mp isResult with rfl | later
      · exact ⟨first, List.mem_cons_self, computed⟩
      · obtain ⟨item, isItem, computes⟩ := ih (collectEach_eq_ok_iff.mpr rest) later
        exact ⟨item, List.mem_cons_of_mem first isItem, computes⟩

theorem exists_of_collectEach {compute : α → Except Error β} {items : List α} {results : List β}
    (collected : collectEach compute items = .ok results) {item : α} (isItem : item ∈ items) :
    ∃ result ∈ results, compute item = .ok result := by
  induction collectEach_eq_ok_iff.mp collected with
  | nil => cases isItem
  | @cons _ own _ _ computed rest ih =>
      rcases List.mem_cons.mp isItem with rfl | later
      · exact ⟨own, List.mem_cons_self, computed⟩
      · obtain ⟨result, isResult, computes⟩ := ih (collectEach_eq_ok_iff.mpr rest) later
        exact ⟨result, List.mem_cons_of_mem own isResult, computes⟩

theorem map_of_collectEach {Value : Type} {compute : α → Except Error β} {ofItem : α → Value}
    {ofResult : β → Value}
    (same : ∀ {item result}, compute item = .ok result → ofResult result = ofItem item)
    {items : List α} {results : List β} (collected : collectEach compute items = .ok results) :
    results.map ofResult = items.map ofItem := by
  induction collectEach_eq_ok_iff.mp collected with
  | nil => rfl
  | cons computed rest ih =>
      rw [List.map_cons, List.map_cons, same computed, ih (collectEach_eq_ok_iff.mpr rest)]

/-- Where every item has a result with the property and the key of the item, the
list has results with the property and the keys of its items. -/
theorem collectEach_of_forall {Key : Type} {compute : α → Except Error β} {Property : β → Prop}
    {itemKey : α → Key} {resultKey : β → Key} {items : List α}
    (computed : ∀ item ∈ items, ∃ result, compute item = .ok result ∧ Property result ∧
      resultKey result = itemKey item) :
    ∃ results, collectEach compute items = .ok results ∧ (∀ result ∈ results, Property result) ∧
      results.map resultKey = items.map itemKey := by
  induction items with
  | nil => exact ⟨[], rfl, fun _ present => absurd present List.not_mem_nil, rfl⟩
  | cons item rest ih =>
      obtain ⟨first, isFirst, property, sameKey⟩ := computed item (List.mem_cons_self ..)
      obtain ⟨later, isLater, properties, sameKeys⟩ :=
        ih fun other isOther => computed other (List.mem_cons_of_mem item isOther)
      refine ⟨first :: later, ?_, List.forall_mem_cons.mpr ⟨property, properties⟩, ?_⟩
      · rw [collectEach, isFirst, isLater]
        rfl
      · rw [List.map_cons, List.map_cons, sameKey, sameKeys]

/-- Build a value that needs its own check, raising what the check raises. -/
def buildChecked (check : Except Error Unit) (build : check = .ok () → α) : Except Error α :=
  match check, build with
  | .ok (), build => .ok (build rfl)
  | .error raised, _ => .error raised

/-- What is built passed its check. -/
@[simp] theorem buildChecked_eq_ok_iff {check : Except Error Unit}
    {build : check = .ok () → α} {value : α} :
    buildChecked check build = .ok value ↔ ∃ checked, build checked = value := by
  cases check with
  | ok passed =>
      refine ⟨fun built => ⟨rfl, Except.ok.inj built⟩, ?_⟩
      rintro ⟨_, rfl⟩
      rfl
  | error raised =>
      refine ⟨nofun, ?_⟩
      rintro ⟨checked, _⟩
      cases checked

/-- Whether a computation was accepted. -/
def Accepted (result : Except Error α) : Prop := ∃ value, result = .ok value

instance (result : Except Error α) : Decidable (Accepted result) :=
  match result with
  | .ok value => isTrue ⟨value, rfl⟩
  | .error _ => isFalse fun ⟨_, contradiction⟩ => by cases contradiction

/-- A returned value is accepted. -/
@[simp] theorem accepted_ok {value : α} : Accepted (.ok value : Except Error α) := ⟨value, rfl⟩

/-- A raised error is not accepted. -/
@[simp] theorem not_accepted_error {error : Error} :
    ¬ Accepted (.error error : Except Error α) := by
  rintro ⟨_, contradiction⟩
  cases contradiction

/-- A sequence is accepted exactly when its head returns a value with which its tail
is accepted. -/
@[simp] theorem accepted_bind_iff {first : Except Error α} {next : α → Except Error β} :
    Accepted (first >>= next) ↔ ∃ middle, first = .ok middle ∧ Accepted (next middle) := by
  simp only [Accepted, bind_eq_ok_iff]
  exact exists_comm.trans (exists_congr fun _ => exists_and_left)

/-- A value that needs its own check is built exactly when the check passes. -/
@[simp] theorem accepted_buildChecked_iff {check : Except Error Unit}
    {build : check = .ok () → α} : Accepted (buildChecked check build) ↔ check = .ok () := by
  simp only [Accepted, buildChecked_eq_ok_iff]
  exact ⟨fun ⟨_, checked, _⟩ => checked, fun checked => ⟨_, checked, rfl⟩⟩

theorem accepted_unit_iff {result : Except Error Unit} : Accepted result ↔ result = .ok () :=
  ⟨fun ⟨(), equal⟩ => equal, fun equal => ⟨(), equal⟩⟩

theorem eq_ok_of_mem_toOption {result : Except Error α} {value : α}
    (returned : value ∈ result.toOption) : result = .ok value := by
  cases result with
  | ok other => exact congrArg _ (Option.some.inj returned)
  | error => cases returned

/-- Results are collected exactly where every item has one. -/
@[simp] theorem accepted_collectEach_iff {compute : α → Except Error β} {items : List α} :
    Accepted (collectEach compute items) ↔ ∀ item ∈ items, Accepted (compute item) := by
  constructor
  · rintro ⟨results, collected⟩ item isItem
    obtain ⟨result, -, computed⟩ := exists_of_collectEach collected isItem
    exact ⟨result, computed⟩
  · intro each
    induction items with
    | nil => exact ⟨[], rfl⟩
    | cons item rest ih =>
        obtain ⟨first, isFirst⟩ := each item List.mem_cons_self
        obtain ⟨later, isLater⟩ := ih fun other isOther => each other (List.mem_cons_of_mem _ isOther)
        refine ⟨first :: later, ?_⟩
        rw [collectEach, isFirst, isLater]
        rfl

/-- Where every item is computed by a function if it fits, so are all of them if all fit. -/
theorem collectEach_eq_ok_map {compute : α → Except Error β} {Fits : α → Prop}
    {value : α → β}
    (computed : ∀ item result, compute item = .ok result ↔ Fits item ∧ value item = result)
    {items : List α} {collected : List β} :
    collectEach compute items = .ok collected ↔
      (∀ item ∈ items, Fits item) ∧ items.map value = collected := by
  induction items generalizing collected with
  | nil => simp [collectEach]
  | cons item rest ih =>
      simp only [collectEach, bind_eq_ok_iff, pure_eq_ok_iff, computed, ih, List.forall_mem_cons,
        List.map_cons]
      constructor
      · rintro ⟨_, ⟨fits, rfl⟩, _, ⟨others, rfl⟩, rfl⟩
        exact ⟨⟨fits, others⟩, rfl⟩
      · rintro ⟨⟨fits, others⟩, rfl⟩
        exact ⟨_, ⟨fits, rfl⟩, _, ⟨others, rfl⟩, rfl⟩

/-- The value of a computation that is known to give one. -/
def givenValue (result : Except Error α) (given : result.toOption.isSome) : α :=
  result.toOption.get given

theorem eq_ok_givenValue {result : Except Error α} (given : result.toOption.isSome) :
    result = .ok (givenValue result given) :=
  eq_ok_of_mem_toOption (Option.some_get given).symm

theorem givenValue_of_any {result : Except Error α} {found : α → Bool}
    (computed : result.toOption.any found) (given : result.toOption.isSome) :
    found (givenValue result given) := by
  obtain ⟨value, isValue, isFound⟩ := (Option.any_eq_true _ _).mp computed
  rwa [givenValue, Option.get_of_eq_some given isValue]

end PolicyOS.Foundation

/-!
# Checks against the items before

A validator that goes through a list and checks every item against those it has accepted
before. What each check guarantees holds of every item, and an item that is refused where
its key is already used leaves all keys distinct.
-/

namespace PolicyOS.Foundation

variable {Error α Key : Type} {check : List α → α → Except Error Unit} {earlier items : List α}

/-- Check every item of a list against those before it, stopping at the first error. -/
def checkAfter (check : List α → α → Except Error Unit) (earlier : List α) :
    List α → Except Error Unit
  | [] => .ok ()
  | item :: rest => do
      check earlier item
      checkAfter check (earlier ++ [item]) rest

/-- A walk that checks every item against those before it does nothing else. -/
theorem eq_checkAfter {walk : List α → List α → Except Error Unit}
    (ends : ∀ earlier, walk earlier [] = .ok ())
    (steps : ∀ earlier item rest, walk earlier (item :: rest) = do
      check earlier item
      walk (earlier ++ [item]) rest) : walk earlier items = checkAfter check earlier items := by
  induction items generalizing earlier with
  | nil => exact ends earlier
  | cons item rest ih =>
      rw [steps, checkAfter]
      simp only [ih]

theorem exists_of_checkAfter (checked : checkAfter check earlier items = .ok ()) {item : α}
    (isItem : item ∈ items) : ∃ before, check before item = .ok () := by
  induction items generalizing earlier with
  | nil => cases isItem
  | cons first rest ih =>
      simp only [checkAfter, bind_eq_ok_iff, exists_unit_iff] at checked
      rcases List.mem_cons.mp isItem with rfl | later
      · exact ⟨earlier, checked.1⟩
      · exact ih checked.2 later

/-- Keys that are refused twice stay distinct. -/
theorem nodup_append_of_checkAfter {key : α → Key}
    (fresh : ∀ before item, check before item = .ok () → key item ∉ before.map key)
    (distinct : (earlier.map key).Nodup) (checked : checkAfter check earlier items = .ok ()) :
    ((earlier ++ items).map key).Nodup := by
  induction items generalizing earlier with
  | nil => rwa [List.append_nil]
  | cons first rest ih =>
      simp only [checkAfter, bind_eq_ok_iff, exists_unit_iff] at checked
      have extended : ((earlier ++ [first]).map key).Nodup := by
        rw [List.map_append, List.map_singleton, List.nodup_append]
        refine ⟨distinct, List.pairwise_singleton _ _, ?_⟩
        rintro used isUsed last isLast rfl
        exact fresh _ _ checked.1 (List.mem_singleton.mp isLast ▸ isUsed)
      have all := ih extended checked.2
      rwa [List.append_assoc] at all

theorem nodup_of_checkAfter {key : α → Key}
    (fresh : ∀ before item, check before item = .ok () → key item ∉ before.map key)
    (checked : checkAfter check [] items = .ok ()) : (items.map key).Nodup :=
  nodup_append_of_checkAfter fresh (by exact List.nodup_nil) checked

end PolicyOS.Foundation
