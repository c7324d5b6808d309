import Mathlib.Data.List.Induction
import PolicyOS.Foundation.Checked

/-!
# Replayed histories

A validator that reads a recorded history carries a state from entry to entry and
raises at the first entry that does not follow. Where one step accepts exactly the
entries that follow its state, a whole replay accepts exactly the histories in
which every entry follows what the entries before it lead to, and a history is
extended by one entry exactly when that entry follows its final state.
-/

namespace PolicyOS.Foundation

variable {State Entry Error : Type} {Follows : State → Entry → Prop}
  {after : State → Entry → State}

/-- Every entry follows the state that the entries before it lead to. -/
def Replayed (Follows : State → Entry → Prop) (after : State → Entry → State) :
    State → List Entry → Prop
  | _, [] => True
  | state, entry :: rest => Follows state entry ∧ Replayed Follows after (after state entry) rest

namespace Replayed

/-- A replay accepts a history exactly when its entries follow each other, and ends
in the state they lead to. -/
theorem foldlM_eq_ok_iff {step : State → Entry → Except Error State}
    (accepts : ∀ {state entry next},
      step state entry = .ok next ↔ Follows state entry ∧ after state entry = next)
    {start final : State} {entries : List Entry} :
    entries.foldlM step start = .ok final ↔
      Replayed Follows after start entries ∧ entries.foldl after start = final := by
  induction entries generalizing start with
  | nil => simp [Replayed]
  | cons entry rest ih =>
      rw [List.foldlM_cons, bind_eq_ok_iff, List.foldl_cons, Replayed]
      constructor
      · rintro ⟨middle, first, later⟩
        obtain ⟨follows, rfl⟩ := accepts.mp first
        obtain ⟨replayed, ends⟩ := ih.mp later
        exact ⟨⟨follows, replayed⟩, ends⟩
      · rintro ⟨⟨follows, replayed⟩, ends⟩
        exact ⟨_, accepts.mpr ⟨follows, rfl⟩, ih.mpr ⟨replayed, ends⟩⟩

theorem snoc_iff {start : State} {entries : List Entry} {entry : Entry} :
    Replayed Follows after start (entries ++ [entry]) ↔
      Replayed Follows after start entries ∧ Follows (entries.foldl after start) entry := by
  induction entries generalizing start with
  | nil => simp [Replayed]
  | cons first rest ih =>
      rw [List.cons_append, Replayed, Replayed, ih, List.foldl_cons, and_assoc]

/-- A property of the entries read and the state they lead to, which holds of the
empty history and which every following entry keeps, holds of every replayed
history. -/
theorem holds_throughout {Holds : List Entry → State → Prop} {start : State} (empty : Holds [] start)
    (kept : ∀ {entries state entry}, Holds entries state → Follows state entry →
      Holds (entries ++ [entry]) (after state entry))
    {entries : List Entry} (replayed : Replayed Follows after start entries) :
    Holds entries (entries.foldl after start) := by
  induction entries using List.reverseRecOn with
  | nil => exact empty
  | append_singleton entries entry ih =>
      obtain ⟨earlier, follows⟩ := snoc_iff.mp replayed
      rw [List.foldl_append, List.foldl_cons, List.foldl_nil]
      exact kept (ih earlier) follows

end Replayed

end PolicyOS.Foundation
