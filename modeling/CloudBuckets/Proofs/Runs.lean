import Mathlib.Data.List.Induction

/-! Runs of systems whose actions are possible in some states only, and what actions change in lists
of calls.
-/

namespace CloudBuckets.Runs

variable {σ α : Type} {act : σ → α → Option σ}

/-- A run of two lists of actions is a run of the first and then of the second. -/
theorem append_iff {first last : σ} (before after : List α)
    : (before ++ after).foldlM act first = some last
      ↔ ∃ middle, before.foldlM act first = some middle ∧ after.foldlM act middle = some last := by
  rw [List.foldlM_append]
  exact Option.bind_eq_some_iff

/-- What holds at the start of a run and is kept by each action, given the run so far, holds at its
end. The induction is on the list of actions, from its last one.
-/
theorem induction {first last : σ} {actions : List α} (Holds : List α → σ → Prop)
    (reached : actions.foldlM act first = some last) (begins : Holds [] first)
    (kept
      : ∀ before s action later next,
          actions = before ++ action :: later
          → before.foldlM act first = some s
          → Holds before s
          → act s action = some next
          → Holds (before ++ [action]) next)
    : Holds actions last := by
  induction actions using List.reverseRecOn generalizing last with
  | nil => cases reached; exact begins
  | append_singleton before action ih =>
      obtain ⟨s, reachedBefore, acted⟩ := (append_iff before [action]).mp reached
      have acted : act s action = some last := by
        simpa [List.foldlM] using acted
      refine kept before s action [] last rfl reachedBefore ?_ acted
      refine ih reachedBefore fun prior s other later next split run holds acts => ?_
      exact kept prior s other (later ++ [action]) next (by simp [split]) run holds acts

/-- After one item has been replaced, each place holds that item or what it held before. -/
theorem set_cases {ι : Type} {items : List ι} {place other : Nat} {next item : ι}
    (found : (items.set place next)[other]? = some item)
    : (other = place ∧ item = next) ∨ (other ≠ place ∧ items[other]? = some item) := by
  rw [List.getElem?_set] at found
  split at found
  · rename_i same
    split at found <;> cases found
    exact Or.inl ⟨same.symm, rfl⟩
  · rename_i apart
    exact Or.inr ⟨Ne.symm apart, found⟩

end CloudBuckets.Runs
