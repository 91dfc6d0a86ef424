import CloudBuckets.Cache.Interleaving
import CloudBuckets.Proofs.Runs

/-! What a call and a pool of calls can do next, one case for each kind of move. Later proofs take
these cases apart in place of the functions that compute them.
-/

namespace CloudBuckets.Cache

variable {κ ε α : Type}

-----------------------------------------------------------------------------------------
-- The moves of one call
-----------------------------------------------------------------------------------------

/-- To take a lock changes nothing but that it is held. -/
theorem acquire?_eq {cache next : Cache κ α} {id : Nat} (taken : cache.acquire? id = some next)
    : next = cache.changeLock id fun lock => { lock with held := true } := by
  unfold acquire? at taken
  split at taken
  · split at taken <;> cases taken
    rfl
  · cases taken

variable [DecidableEq κ]

/-- What a call is going to come to, once that is settled. -/
def Stage.result? : Stage ε α → Option (Except ε α)
  | .releasing _ result | .leaving _ result | .done result => some result
  | _ => none

/-- The moves of a call for a key, each with the cache before and after it. -/
inductive Moves (key : κ) : Stage ε α → Cache κ α → Stage ε α → Cache κ α → Prop
  | find {cache value} (found : cache.find? key = some value)
    : Moves key .looking cache (.done (.ok value)) cache
  | miss {cache} (absent : cache.find? key = none) : Moves key .looking cache .registering cache
  | register {cache}
    : Moves key .registering cache (.acquiring (cache.register key).1) (cache.register key).2
  | acquire {cache next lock} (free : cache.acquire? lock = some next)
    : Moves key (.acquiring lock) cache (.rechecking lock) next
  | refind {cache lock value} (found : cache.find? key = some value)
    : Moves key (.rechecking lock) cache (.releasing lock (.ok value)) cache
  | remiss {cache lock} (absent : cache.find? key = none)
    : Moves key (.rechecking lock) cache (.starting lock) cache
  | start {cache lock} : Moves key (.starting lock) cache (.making lock) cache
  | store {cache lock value}
    : Moves key (.storing lock value) cache (.releasing lock (.ok value)) (cache.store key value)
  | release {cache lock result}
    : Moves key (.releasing lock result) cache (.leaving lock result) (cache.release lock)
  | leave {cache lock result}
    : Moves key (.leaving lock result) cache (.done result) (cache.leave lock)

/-- Every step of a call is one of its moves, by cases on the stage. -/
theorem Stage.step_moves {key : κ} {cache next : Cache κ α} {stage after : Stage ε α}
    (h : stage.step key cache = some (after, next))
    : Moves key stage cache after next := by
  cases stage with
  | looking =>
      simp only [Stage.step] at h
      split at h <;> cases h
      · exact .find ‹_›
      · exact .miss ‹_›
  | registering => cases h; exact .register
  | acquiring lock =>
      simp only [Stage.step, Option.map_eq_some_iff] at h
      obtain ⟨taken, free, same⟩ := h
      cases same
      exact .acquire free
  | rechecking lock =>
      simp only [Stage.step] at h
      split at h <;> cases h
      · exact .refind ‹_›
      · exact .remiss ‹_›
  | starting lock => cases h; exact .start
  | making lock => cases h
  | storing lock value => cases h; exact .store
  | releasing lock result => cases h; exact .release
  | leaving lock result => cases h; exact .leave
  | done result => cases h

/-- Every move of a call is its step, by cases on the move. -/
theorem Moves.step_eq {key : κ} {cache next : Cache κ α} {stage after : Stage ε α}
    (moves : Moves key stage cache after next)
    : stage.step key cache = some (after, next) := by
  cases moves with
  | find found | refind found => simp [Stage.step, found]
  | miss absent | remiss absent => simp [Stage.step, absent]
  | acquire free => simp [Stage.step, free]
  | register | start | store | release | leave => rfl

/-- Only to store a value changes what is cached. -/
theorem Moves.entries_eq {key : κ} {cache next : Cache κ α} {stage after : Stage ε α}
    (moves : Moves key stage cache after next)
    (storesNot : ∀ lock value, stage ≠ .storing lock value)
    : next.entries = cache.entries := by
  cases moves with
  | find | miss | refind | remiss | start | release | leave => rfl
  | store => exact absurd rfl (storesNot _ _)
  | register =>
      unfold Cache.register
      split <;> rfl
  | acquire free =>
      rw [acquire?_eq free]
      rfl

/-- Every move brings a call nearer to its end, by cases on the move. -/
theorem Moves.rank_lt {key : κ} {cache next : Cache κ α} {stage after : Stage ε α}
    (moves : Moves key stage cache after next)
    : after.rank < stage.rank := by
  cases moves <;> simp [Stage.rank]

/-- So does the end of a making. -/
theorem Stage.rank_made_lt (lock : Nat) (made : Except ε α)
    : (Stage.made lock made).rank < (Stage.making lock : Stage ε α).rank := by
  cases made <;> simp [Stage.made, Stage.rank]

-----------------------------------------------------------------------------------------
-- The moves of a pool
-----------------------------------------------------------------------------------------

namespace Pool

/-- What an action does to a pool in which it is possible. -/
inductive Acts (p : Pool κ ε α) : Action κ ε α → Pool κ ε α → Prop
  | call (key : κ) : Acts p (.call key) { p with runs := p.runs ++ [⟨key, .looking⟩] }
  | advance {call run stage cache} (found : p.runs[call]? = some run)
    (moves : Moves run.key run.stage p.cache stage cache)
    : Acts p (.advance call) ⟨cache, p.runs.set call { run with stage }⟩
  | finish {call : Nat} {key : κ} {lock : Nat} (made : Except ε α)
    (found : p.runs[call]? = some ⟨key, .making lock⟩)
    : Acts p (.finish call made) { p with runs := p.runs.set call ⟨key, .made lock made⟩ }
  | clear : Acts p .clear { p with cache := p.cache.clear }

/-- A call that moves on stays at its place. -/
theorem set_self {κ : Type} {runs : List (Run κ ε α)} {call : Nat} {run : Run κ ε α}
    (found : runs[call]? = some run) (next : Run κ ε α)
    : (runs.set call next)[call]? = some next :=
  List.getElem?_set_self (List.getElem?_eq_some_iff.mp found).1

/-- After a call has been started, each place holds that call or what it held before. -/
theorem started_cases {κ : Type} {runs : List (Run κ ε α)} {call : Nat} {next run : Run κ ε α}
    (found : (runs ++ [next])[call]? = some run)
    : runs[call]? = some run ∨ run = next := by
  rw [List.getElem?_append] at found
  split at found
  · exact Or.inl found
  · exact Or.inr (List.mem_singleton.mp (List.mem_of_getElem? found))

/-- Every action of a pool is one of these, by cases on the action. -/
theorem act_acts {p q : Pool κ ε α} {action : Action κ ε α} (h : p.act action = some q)
    : p.Acts action q := by
  cases action with
  | call key => cases h; exact .call key
  | advance call =>
      simp only [act, Option.bind_eq_bind, Option.bind_eq_some_iff] at h
      obtain ⟨run, found, ⟨stage, cache⟩, stepped, same⟩ := h
      cases same
      exact .advance found (Stage.step_moves stepped)
  | finish call made =>
      simp only [act, Option.bind_eq_bind, Option.bind_eq_some_iff] at h
      obtain ⟨⟨key, stage⟩, found, rest⟩ := h
      split at rest
      · rename_i lock making
        cases rest
        obtain rfl : stage = .making lock := making
        exact .finish made found
      · cases rest
  | clear => cases h; exact .clear

theorem run_eq_foldlM (p : Pool κ ε α) (actions : List (Action κ ε α))
    : p.run actions = actions.foldlM act p := by
  induction actions generalizing p with
  | nil => rfl
  | cons action rest ih => exact congrArg (p.act action).bind (funext ih)

/-- A run of two lists of actions is a run of the first and then of the second. -/
theorem run_append {p q : Pool κ ε α} (before after : List (Action κ ε α))
    : p.run (before ++ after) = some q
      ↔ ∃ middle, p.run before = some middle ∧ middle.run after = some q := by
  simp only [run_eq_foldlM]
  exact Runs.append_iff before after

/-- What holds at the start of a run and is kept by each action, given the run so far, holds at its
end.
-/
theorem run_induction {first p : Pool κ ε α} {actions : List (Action κ ε α)}
    (Holds : List (Action κ ε α) → Pool κ ε α → Prop) (reached : first.run actions = some p)
    (begins : Holds [] first)
    (kept
      : ∀ before q action later next,
          actions = before ++ action :: later
          → first.run before = some q
          → Holds before q
          → q.Acts action next
          → Holds (before ++ [action]) next)
    : Holds actions p := by
  rw [run_eq_foldlM] at reached
  refine Runs.induction Holds reached begins ?_
  intro before q action later next split run holds acted
  rw [← run_eq_foldlM] at run
  exact kept before q action later next split run holds (act_acts acted)

/-- The key that a call is for. -/
def key? (p : Pool κ ε α) (call : Nat) : Option κ :=
  (p.runs[call]?).map (·.key)

/-- A call is for one key for ever, since actions start calls and move them on, but neither drop
them nor change their keys.
-/
theorem Acts.key?_kept {p next : Pool κ ε α} {action : Action κ ε α} (acts : p.Acts action next)
    {call : Nat} {key : κ} (known : p.key? call = some key)
    : next.key? call = some key := by
  obtain ⟨run, found, rfl⟩ := Option.map_eq_some_iff.mp known
  have inside := (List.getElem?_eq_some_iff.mp found).1
  have moved : ∀ {other : Nat} {old : Run κ ε α} (stage : Stage ε α),
      p.runs[other]? = some old
      → ((p.runs.set other { old with stage })[call]?).map (·.key) = some run.key := by
    intro other old stage atOther
    by_cases here : other = call
    · subst here
      obtain rfl := Option.some.inj (found.symm.trans atOther)
      simp [List.getElem?_set_self inside]
    · simp [List.getElem?_set_ne here, found]
  cases acts with
  | call key => simp [key?, List.getElem?_append_left inside, found]
  | advance atOther => exact moved _ atOther
  | finish made atOther => exact moved _ atOther
  | clear => exact known

/-- A call is for one key in all of a run. -/
theorem run_keeps_key? {q p : Pool κ ε α} {actions : List (Action κ ε α)}
    (reached : q.run actions = some p) {call : Nat} {key : κ} (known : q.key? call = some key)
    : p.key? call = some key :=
  run_induction (fun _ now => now.key? call = some key) reached known
    fun _ _ _ _ _ _ _ holds acts => acts.key?_kept holds

end Pool

end CloudBuckets.Cache
