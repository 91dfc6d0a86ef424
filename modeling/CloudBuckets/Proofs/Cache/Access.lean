import CloudBuckets.Cache.Access
import CloudBuckets.Proofs.Cache.Moves

/-! Calls that are carried out alone. Such a call makes its moves one after the other, with the
making of a value in between, until it ends or has to wait for a lock.
-/

namespace CloudBuckets.Cache.Access

variable {σ κ ε α : Type} [DecidableEq κ]

-----------------------------------------------------------------------------------------
-- One step of a call
-----------------------------------------------------------------------------------------

/-- How a call for a key goes on, with the state before and after. -/
inductive Goes (access : Access σ κ ε α) (key : κ) : Stage ε α → σ → Stage ε α → σ → Prop
  | move {stage next : Stage ε α} {w : σ} {cache : Cache κ α}
    (moves : Moves key stage (access.cache w) next cache)
    : Goes access key stage w next (access.setCache cache (access.told key stage w))
  | make {lock : Nat} {w : σ}
    : Goes access key (.making lock) w (.made lock (access.make key w).1) (access.make key w).2

/-- Every step brings a call nearer to its end, by cases on the step. -/
theorem Goes.rank_lt {access : Access σ κ ε α} {key : κ} {stage next : Stage ε α} {v w : σ}
    (goes : Goes access key stage v next w)
    : next.rank < stage.rank := by
  cases goes with
  | move moves => exact moves.rank_lt
  | make => exact Stage.rank_made_lt _ _

/-- A call without a next step makes a value, is at its end, or waits for a lock. -/
theorem step_eq_none {key : κ} {cache : Cache κ α} {stage : Stage ε α}
    (stuck : stage.step key cache = none)
    : (∃ lock, stage = .making lock)
      ∨ (∃ result, stage = .done result)
      ∨ ∃ lock, stage = .acquiring lock ∧ cache.acquire? lock = none := by
  cases stage with
  | looking | rechecking lock =>
      simp only [Stage.step] at stuck
      split at stuck <;> cases stuck
  | acquiring lock =>
      refine .inr (.inr ⟨lock, rfl, ?_⟩)
      simpa only [Stage.step, Option.map_eq_none_iff] using stuck
  | making lock => exact .inl ⟨lock, rfl⟩
  | done result => exact .inr (.inl ⟨result, rfl⟩)
  | registering | starting lock | storing lock value | releasing lock result
  | leaving lock result => cases stuck

/-- A call that is carried out is at its end, or goes on, or waits for a lock. -/
theorem proceed_cases (access : Access σ κ ε α) (key : κ) (n : Nat) (stage : Stage ε α) (w : σ)
    : (∃ result, stage = .done result)
      ∨ (∃ next v,
          Goes access key stage w next v
          ∧ access.proceed key (n + 1) stage w = access.proceed key n next v)
      ∨ ∃ lock,
          stage = .acquiring lock
          ∧ (access.cache w).acquire? lock = none
          ∧ access.proceed key (n + 1) stage w = (none, w) := by
  by_cases making : ∃ lock, stage = .making lock
  · obtain ⟨lock, rfl⟩ := making
    exact .inr (.inl ⟨_, _, .make, rfl⟩)
  by_cases ended : ∃ result, stage = .done result
  · exact .inl ended
  cases stepped : stage.step key (access.cache w) with
  | some result =>
      obtain ⟨next, cache⟩ := result
      refine .inr (.inl ⟨next, _, .move (Stage.step_moves stepped), ?_⟩)
      cases stage with
      | making lock => exact absurd ⟨lock, rfl⟩ making
      | done result => exact absurd ⟨result, rfl⟩ ended
      | _ => simp only [proceed, stepped]
  | none =>
      rcases step_eq_none stepped with made | done | ⟨lock, waits, held⟩
      · exact absurd made making
      · exact absurd done ended
      · subst waits
        refine .inr (.inr ⟨lock, rfl, held, ?_⟩)
        simp only [proceed, stepped]

-----------------------------------------------------------------------------------------
-- Whole calls
-----------------------------------------------------------------------------------------

/-- What every step of a call keeps holds where the call ends, by induction on the number of steps.
A result is that of the stage which the call has reached, and without one the call waits for a lock.
-/
theorem proceed_induction (access : Access σ κ ε α) {key : κ}
    (Holds : Stage ε α → σ → Prop)
    (kept
      : ∀ {stage next v w}, Holds stage v → Goes access key stage v next w → Holds next w)
    {n : Nat} {stage : Stage ε α} {w : σ} (begins : Holds stage w) (enough : stage.rank ≤ n)
    : ∃ last,
        Holds last (access.proceed key n stage w).2
        ∧ match (access.proceed key n stage w).1 with
          | some result => last = .done result
          | none => ∃ lock, last = .acquiring lock := by
  induction n generalizing stage w with
  | zero =>
      cases stage with
      | done result => exact ⟨_, begins, rfl⟩
      | _ => simp [Stage.rank] at enough
  | succ n ih =>
      rcases access.proceed_cases key n stage w with ⟨result, rfl⟩ | ⟨next, v, goes, same⟩
        | ⟨lock, rfl, _, same⟩
      · exact ⟨_, begins, rfl⟩
      · rw [same]
        exact ih (kept begins goes) (Nat.le_of_lt_succ (Nat.lt_of_lt_of_le goes.rank_lt enough))
      · rw [same]
        exact ⟨_, begins, lock, rfl⟩

/-- The same for a call from its start to its end. -/
theorem resolve_induction (access : Access σ κ ε α) {key : κ} (Holds : Stage ε α → σ → Prop)
    (kept
      : ∀ {stage next v w}, Holds stage v → Goes access key stage v next w → Holds next w)
    {w : σ} (begins : Holds .looking w)
    : ∃ last,
        Holds last (access.resolve key w).2
        ∧ match (access.resolve key w).1 with
          | some result => last = .done result
          | none => ∃ lock, last = .acquiring lock :=
  access.proceed_induction Holds kept begins (Nat.le_refl _)

/-- A call for a key that is cached ends at its first step, which takes no lock. -/
theorem resolve_of_found (access : Access σ κ ε α) {key : κ} {w : σ} {value : α}
    (found : (access.cache w).find? key = some value)
    : access.resolve key w
      = (some (.ok value), access.setCache (access.cache w) (access.tell key .reusing w)) := by
  have told : access.told key .looking w = access.tell key .reusing w := by
    simp [Access.told, Stage.notice?, Cache.contains, found]
  simp only [Access.resolve, Stage.rank, proceed, Stage.step, found, told]

/-- A call that never has to wait comes to its end, since every step brings it nearer. -/
theorem resolve_isSome (access : Access σ κ ε α) {key : κ} (Holds : Stage ε α → σ → Prop)
    (kept
      : ∀ {stage next v w}, Holds stage v → Goes access key stage v next w → Holds next w)
    (free
      : ∀ {lock w}, Holds (.acquiring lock) w → ((access.cache w).acquire? lock).isSome)
    {w : σ} (begins : Holds .looking w)
    : (access.resolve key w).1.isSome := by
  have proceeds : ∀ n {stage : Stage ε α} {w : σ},
      Holds stage w → stage.rank ≤ n → (access.proceed key n stage w).1.isSome := by
    intro n
    induction n with
    | zero =>
        intro stage w holds enough
        cases stage <;> first | rfl | simp [Stage.rank] at enough
    | succ n ih =>
        intro stage w holds enough
        rcases access.proceed_cases key n stage w with ⟨result, rfl⟩ | ⟨next, v, goes, same⟩
          | ⟨lock, rfl, held, _⟩
        · rfl
        · rw [same]
          exact ih (kept holds goes) (Nat.le_of_lt_succ (Nat.lt_of_lt_of_le goes.rank_lt enough))
        · simpa [held] using free holds
  exact proceeds _ begins (Nat.le_refl _)

end CloudBuckets.Cache.Access
