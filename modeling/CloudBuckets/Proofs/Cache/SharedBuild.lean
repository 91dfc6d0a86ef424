import CloudBuckets.Proofs.Cache.Locks

/-! Calls for one key share one value. As long as nothing is cleared, the locks of a cache let one
call at a time make a value for a key, and nobody after one has succeeded.
-/

namespace CloudBuckets.Cache

variable {κ ε α : Type}

-----------------------------------------------------------------------------------------
-- What a stage says about the value of the key
-----------------------------------------------------------------------------------------

namespace Stage

/-- A value is about to be made, is being made, or is made but not yet cached. -/
def isBuilding : Stage ε α → Bool
  | starting _ | making _ | storing _ _ => true
  | _ => false

/-- Whoever builds holds the lock. -/
theorem held?_of_isBuilding {stage : Stage ε α} (building : stage.isBuilding)
    : ∃ lock, stage.held? = some lock := by
  cases stage <;> simp_all [isBuilding, held?]

end Stage

variable [DecidableEq κ]

/-- A stored value is found under its key. -/
theorem find?_store_self (cache : Cache κ α) (key : κ) (value : α)
    : (cache.store key value).find? key = some value := by
  simp [store, find?]

/-- To store a value changes nothing for other keys. -/
theorem find?_store_of_ne (cache : Cache κ α) {key other : κ} (value : α) (apart : other ≠ key)
    : (cache.store key value).find? other = cache.find? other := by
  have kept : ∀ entries : List (κ × α),
      (entries.filter fun entry => entry.1 ≠ key).lookup other = entries.lookup other := by
    intro entries
    induction entries with
    | nil => rfl
    | cons entry rest ih =>
        obtain ⟨first, stored⟩ := entry
        by_cases same : first = key
        · have different : (other == first) = false := by simpa [same] using apart
          simpa [same, List.lookup_cons, same ▸ different] using ih
        · simp only [ne_eq, same, not_false_eq_true, decide_true, List.filter_cons_of_pos,
            List.lookup_cons]
          rw [← ih]
  have different : (other == key) = false := by simpa using apart
  simpa [store, find?, List.lookup_cons, different] using kept cache.entries

/-- Only to store a value and to clear the cache changes what is found. -/
theorem Moves.find?_eq {key : κ} {cache next : Cache κ α} {stage after : Stage ε α}
    (moves : Moves key stage cache after next)
    (storesNot : ∀ lock value, stage ≠ .storing lock value) (other : κ)
    : next.find? other = cache.find? other := by
  unfold find?
  rw [moves.entries_eq storesNot]

/-- Calls list the locks that they make, and unlist none. -/
theorem Moves.listed {key : κ} {cache next : Cache κ α} {stage after : Stage ε α}
    (moves : Moves key stage cache after next) (listed : ∀ lock ∈ cache.locks, lock.listed)
    : ∀ lock ∈ next.locks, lock.listed := by
  have changed : ∀ {id} {change : Lock κ → Lock κ},
      (∀ lock, (change lock).listed = lock.listed)
      → ∀ lock ∈ (cache.changeLock id change).locks, lock.listed := by
    intro id change keeps lock member
    obtain ⟨old, inside, rfl⟩ := mem_changeLock.mp member
    split
    · exact (keeps old).trans (listed old inside)
    · exact listed old inside
  cases moves with
  | find | miss | refind | remiss | start | store => exact listed
  | register =>
      unfold Cache.register
      split
      · exact changed fun _ => rfl
      · intro lock member
        rcases List.mem_append.mp member with old | new
        · exact listed lock old
        · rw [List.mem_singleton.mp new]
  | acquire free =>
      rw [acquire?_eq free]
      exact changed fun _ => rfl
  | release => exact changed fun _ => rfl
  | leave =>
      intro lock member
      exact changed (fun _ => by rfl) lock (List.mem_filter.mp member).1

-----------------------------------------------------------------------------------------
-- The invariant of sharing
-----------------------------------------------------------------------------------------

namespace Pool

/-- Stages, cached values and the makings that have ended fit together, where `actions` is all
that has happened.
-/
structure Shared (actions : List (Action κ ε α)) (p : Pool κ ε α) : Prop where
  listed : ∀ lock ∈ p.cache.locks, lock.listed
  /-- Nobody builds what is cached. -/
  absent : ∀ run ∈ p.runs, run.stage.isBuilding → p.cache.find? run.key = none
  /-- What a call is going to return is cached. -/
  found
    : ∀ run ∈ p.runs,
        ∀ value, run.stage.result? = some (.ok value) → p.cache.find? run.key = some value
  /-- What has been made is cached or about to be. -/
  kept
    : ∀ call value,
        .finish call (.ok value) ∈ actions
        → ∃ run,
            p.runs[call]? = some run
            ∧ ((∃ lock, run.stage = .storing lock value)
              ∨ p.cache.find? run.key = some value)
  /-- What is about to be cached has been made by the call. -/
  pending
    : ∀ call key lock value,
        p.runs[call]? = some ⟨key, .storing lock value⟩
        → .finish call (.ok value) ∈ actions
  /-- What is cached for a key has been made by a call for it. -/
  source
    : ∀ key value,
        p.cache.find? key = some value
        → ∃ call run,
            p.runs[call]? = some run ∧ run.key = key ∧ .finish call (.ok value) ∈ actions
  /-- A call that is going to fail has failed to make a value itself. -/
  failed
    : ∀ (call : Nat) (run : Run κ ε α) (failure : ε),
        p.runs[call]? = some run
        → run.stage.result? = some (.error failure)
        → .finish call (.error failure) ∈ actions

/-- With all locks listed, two calls that hold locks for one key are one call: they hold the same
lock.
-/
theorem holder_unique {κ : Type} {p : Pool κ ε α} (locked : Locked p.cache p.runs)
    (listed : ∀ lock ∈ p.cache.locks, lock.listed) {i j a b : Nat} {key : κ}
    {stage other : Stage ε α} (atI : p.runs[i]? = some ⟨key, stage⟩)
    (atJ : p.runs[j]? = some ⟨key, other⟩) (ha : stage.held? = some a)
    (hb : other.held? = some b)
    : i = j :=
  locked.holder_unique_of_listed atI atJ rfl ha hb fun lock member _ => listed lock member

/-- What has happened grows by actions that end no making. -/
theorem Shared.more {actions : List (Action κ ε α)} {p : Pool κ ε α} (h : Shared actions p)
    {action : Action κ ε α} (endsNone : ∀ call made, action ≠ .finish call made)
    : Shared (actions ++ [action]) p := by
  have same : ∀ call made,
      .finish call made ∈ actions ++ [action] ↔ .finish call made ∈ actions := by
    intro call made
    simp [(endsNone call made).symm]
  constructor
  · exact h.listed
  · exact h.absent
  · exact h.found
  · simpa only [same] using h.kept
  · simpa only [same] using h.pending
  · simpa only [same] using h.source
  · simpa only [same] using h.failed

/-- A call that is started says nothing yet. -/
theorem Shared.call {actions : List (Action κ ε α)} {p : Pool κ ε α} (h : Shared actions p)
    (key : κ)
    : Shared actions { p with runs := p.runs ++ [⟨key, .looking⟩] } := by
  have before : ∀ {call : Nat} {run : Run κ ε α},
      p.runs[call]? = some run → (p.runs ++ [⟨key, .looking⟩])[call]? = some run := by
    intro call run found
    rw [List.getElem?_append_left (List.getElem?_eq_some_iff.mp found).1, found]
  constructor
  · exact h.listed
  · intro run member building
    rcases List.mem_append.mp member with old | new
    · exact h.absent run old building
    · rw [List.mem_singleton.mp new] at building
      cases building
  · intro run member value result
    rcases List.mem_append.mp member with old | new
    · exact h.found run old value result
    · rw [List.mem_singleton.mp new] at result
      cases result
  · intro call value made
    obtain ⟨run, found, rest⟩ := h.kept call value made
    exact ⟨run, before found, rest⟩
  · intro call key lock value storing
    rcases started_cases storing with old | new
    · exact h.pending call key lock value old
    · cases new
  · intro key value cached
    obtain ⟨call, run, found, rest⟩ := h.source key value cached
    exact ⟨call, run, before found, rest⟩
  · intro call run failure atCall result
    rcases started_cases atCall with old | rfl
    · exact h.failed call run failure old result
    · cases result

/-- A call that moves on, and does not cache a value with it, keeps what is shared. Its new stage
has to say about the value of the key what is the case.
-/
theorem Shared.advance {actions : List (Action κ ε α)} {p : Pool κ ε α} (h : Shared actions p)
    {call : Nat} {run : Run κ ε α} {stage : Stage ε α} {cache : Cache κ α}
    (found : p.runs[call]? = some run)
    (listed : ∀ lock ∈ cache.locks, lock.listed)
    (finds : ∀ key, cache.find? key = p.cache.find? key)
    (absent : stage.isBuilding → p.cache.find? run.key = none)
    (returns
      : ∀ value, stage.result? = some (.ok value) → p.cache.find? run.key = some value)
    (pending : ∀ lock value, stage = .storing lock value → .finish call (.ok value) ∈ actions)
    (made
      : ∀ value,
          .finish call (.ok value) ∈ actions
          → (∃ lock, stage = .storing lock value) ∨ p.cache.find? run.key = some value)
    (failed
      : ∀ failure,
          stage.result? = some (.error failure) → .finish call (.error failure) ∈ actions)
    : Shared actions ⟨cache, p.runs.set call { run with stage }⟩ := by
  constructor
  · exact listed
  · intro other member building
    rw [finds]
    rcases List.mem_or_eq_of_mem_set member with old | rfl
    · exact h.absent other old building
    · exact absent building
  · intro other member value result
    rw [finds]
    rcases List.mem_or_eq_of_mem_set member with old | rfl
    · exact h.found other old value result
    · exact returns value result
  · intro other value ended
    obtain ⟨before, atOther, rest⟩ := h.kept other value ended
    by_cases same : other = call
    · subst same
      refine ⟨_, set_self found _, ?_⟩
      rw [finds]
      exact made value ended
    · refine ⟨before, ?_, ?_⟩
      · rw [← atOther]
        exact List.getElem?_set_ne (Ne.symm same)
      · rw [finds]
        exact rest
  · intro other key lock value storing
    rcases Runs.set_cases storing with ⟨rfl, new⟩ | ⟨_, old⟩
    · exact pending lock value (congrArg Run.stage new).symm
    · exact h.pending other key lock value old
  · intro key value cached
    rw [finds] at cached
    obtain ⟨maker, before, atMaker, sameKey, ended⟩ := h.source key value cached
    by_cases same : maker = call
    · subst same
      obtain rfl := Option.some.inj (found.symm.trans atMaker)
      exact ⟨maker, _, set_self found _, sameKey, ended⟩
    · exact ⟨maker, before, (List.getElem?_set_ne (Ne.symm same)).trans atMaker, sameKey, ended⟩
  · intro other before failure atOther result
    rcases Runs.set_cases atOther with ⟨rfl, rfl⟩ | ⟨_, old⟩
    · exact failed failure result
    · exact h.failed other before failure old result

/-- A move of a call that does not cache a value keeps what is shared, by cases on the move. -/
theorem Shared.moves {actions : List (Action κ ε α)} {p : Pool κ ε α} (h : Shared actions p)
    {call : Nat} {run : Run κ ε α} {stage : Stage ε α} {cache : Cache κ α}
    (found : p.runs[call]? = some run)
    (moves : Moves run.key run.stage p.cache stage cache)
    (storesNot : ∀ lock value, run.stage ≠ .storing lock value)
    : Shared actions ⟨cache, p.runs.set call { run with stage }⟩ := by
  have member := List.mem_of_getElem? found
  refine h.advance found (moves.listed h.listed) (moves.find?_eq storesNot)
    ?_ ?_ ?_ ?_ ?_
  · intro building
    obtain ⟨key, before⟩ := run
    cases moves with
    | remiss absent => exact absent
    | start => exact h.absent _ member rfl
    | find | miss | register | acquire | refind | store | release | leave => cases building
  · intro value result
    obtain ⟨key, before⟩ := run
    cases moves with
    | find cached | refind cached =>
        cases result
        exact cached
    | store => exact absurd rfl (storesNot _ _)
    | release | leave => exact h.found _ member value result
    | miss | register | acquire | remiss | start => cases result
  · intro lock value same
    subst same
    obtain ⟨key, before⟩ := run
    cases moves
  · intro value ended
    obtain ⟨before, atCall, storing | cached⟩ := h.kept call value ended
    · obtain rfl := Option.some.inj (found.symm.trans atCall)
      exact absurd storing.choose_spec (storesNot _ _)
    · obtain rfl := Option.some.inj (found.symm.trans atCall)
      exact Or.inr cached
  · intro failure result
    obtain ⟨key, before⟩ := run
    cases moves with
    | release | leave => exact h.failed call _ failure found result
    | find | miss | register | acquire | refind | remiss | start | store => cases result

/-- To cache a value keeps what is shared. No other call for the key builds at that moment or is
going to return another value, since the value was absent up to now.
-/
theorem Shared.store {actions : List (Action κ ε α)} {p : Pool κ ε α} (h : Shared actions p)
    (locked : Locked p.cache p.runs) {call lock : Nat} {key : κ} {value : α}
    (found : p.runs[call]? = some ⟨key, .storing lock value⟩)
    : Shared actions
        ⟨p.cache.store key value, p.runs.set call ⟨key, .releasing lock (.ok value)⟩⟩ := by
  have absent : p.cache.find? key = none := h.absent _ (List.mem_of_getElem? found) rfl
  have ended := h.pending call key lock value found
  -- what was found before is found still, since it was found under another key
  have finds : ∀ other old,
      p.cache.find? other = some old → (p.cache.store key value).find? other = some old := by
    intro other old cached
    have apart : other ≠ key := by
      intro same
      subst same
      simp [absent] at cached
    rw [find?_store_of_ne _ _ apart, cached]
  have alone : ∀ other stage,
      p.runs[other]? = some ⟨key, stage⟩ → stage.isBuilding → other = call := by
    intro other stage atOther building
    obtain ⟨held, holds⟩ := Stage.held?_of_isBuilding building
    exact holder_unique locked h.listed atOther found holds rfl
  constructor
  · exact h.listed
  · intro other member building
    obtain ⟨place, atPlace⟩ := List.mem_iff_getElem?.mp member
    rcases Runs.set_cases atPlace with ⟨_, rfl⟩ | ⟨apart, old⟩
    · cases building
    · have different : other.key ≠ key := by
        intro same
        subst same
        exact apart (alone place other.stage old building)
      rw [find?_store_of_ne _ _ different]
      exact h.absent other (List.mem_of_getElem? old) building
  · intro other member returned result
    rcases List.mem_or_eq_of_mem_set member with old | rfl
    · exact finds _ _ (h.found other old returned result)
    · cases result
      exact find?_store_self _ _ _
  · intro other made madeBy
    obtain ⟨run, atOther, storing | cached⟩ := h.kept other made madeBy
    · obtain ⟨held, same⟩ := storing
      by_cases here : other = call
      · subst here
        obtain rfl := Option.some.inj (found.symm.trans atOther)
        cases same
        exact ⟨_, set_self found _, Or.inr (find?_store_self _ _ _)⟩
      · exact ⟨run, (List.getElem?_set_ne (Ne.symm here)).trans atOther, Or.inl ⟨held, same⟩⟩
    · by_cases here : other = call
      · subst here
        obtain rfl := Option.some.inj (found.symm.trans atOther)
        simp [absent] at cached
      · exact ⟨run, (List.getElem?_set_ne (Ne.symm here)).trans atOther,
          Or.inr (finds _ _ cached)⟩
  · intro other otherKey held made storing
    rcases Runs.set_cases storing with ⟨_, new⟩ | ⟨_, old⟩
    · cases new
    · exact h.pending other otherKey held made old
  · intro other cached inCache
    by_cases same : other = key
    · subst same
      obtain rfl : value = cached := by
        simpa [find?_store_self] using inCache
      exact ⟨call, _, set_self found _, rfl, ended⟩
    · rw [find?_store_of_ne _ _ same] at inCache
      obtain ⟨maker, run, atMaker, sameKey, madeBy⟩ := h.source other cached inCache
      have apart : maker ≠ call := by
        intro same
        subst same
        obtain rfl := Option.some.inj (found.symm.trans atMaker)
        exact same sameKey.symm
      exact ⟨maker, run, (List.getElem?_set_ne (Ne.symm apart)).trans atMaker, sameKey, madeBy⟩
  · intro other run failure atOther result
    rcases Runs.set_cases atOther with ⟨_, rfl⟩ | ⟨_, old⟩
    · cases result
    · exact h.failed other run failure old result

/-- A making that ends is on record, and a value made is about to be cached. -/
theorem Shared.finish {actions : List (Action κ ε α)} {p : Pool κ ε α} (h : Shared actions p)
    {call lock : Nat} {key : κ} (made : Except ε α)
    (found : p.runs[call]? = some ⟨key, .making lock⟩)
    : Shared (actions ++ [.finish call made])
        { p with runs := p.runs.set call ⟨key, .made lock made⟩ } := by
  have absent : p.cache.find? key = none := h.absent _ (List.mem_of_getElem? found) rfl
  have recorded : Action.finish call made ∈ actions ++ [.finish call made] := by simp
  constructor
  · exact h.listed
  · intro run member building
    rcases List.mem_or_eq_of_mem_set member with old | rfl
    · exact h.absent run old building
    · exact absent
  · intro run member value result
    rcases List.mem_or_eq_of_mem_set member with old | rfl
    · exact h.found run old value result
    · cases made <;> cases result
  · intro other value ended
    by_cases here : other = call
    · subst here
      refine ⟨_, set_self found _, Or.inl ⟨lock, ?_⟩⟩
      rcases List.mem_append.mp ended with old | new
      · obtain ⟨run, atCall, ⟨_, storing⟩ | cached⟩ := h.kept other value old
        · obtain rfl := Option.some.inj (found.symm.trans atCall)
          cases storing
        · obtain rfl := Option.some.inj (found.symm.trans atCall)
          simp [absent] at cached
      · cases List.mem_singleton.mp new
        rfl
    · have before : Action.finish other (.ok value) ∈ actions := by
        simpa [here] using ended
      obtain ⟨run, atOther, rest⟩ := h.kept other value before
      exact ⟨run, (List.getElem?_set_ne (Ne.symm here)).trans atOther, rest⟩
  · intro other otherKey held value storing
    rcases Runs.set_cases storing with ⟨rfl, new⟩ | ⟨_, old⟩
    · cases made <;> cases new
      exact recorded
    · exact List.mem_append_left _ (h.pending other otherKey held value old)
  · intro other value cached
    obtain ⟨maker, run, atMaker, sameKey, madeBy⟩ := h.source other value cached
    have apart : maker ≠ call := by
      intro same
      subst same
      obtain rfl := Option.some.inj (found.symm.trans atMaker)
      subst sameKey
      simp [absent] at cached
    exact ⟨maker, run, (List.getElem?_set_ne (Ne.symm apart)).trans atMaker, sameKey,
      List.mem_append_left _ madeBy⟩
  · intro other run failure atOther result
    rcases Runs.set_cases atOther with ⟨rfl, rfl⟩ | ⟨_, old⟩
    · cases made <;> cases result
      exact recorded
    · exact List.mem_append_left _ (h.failed other run failure old result)

-----------------------------------------------------------------------------------------
-- Whole runs without a clear
-----------------------------------------------------------------------------------------

/-- Every action but a clear keeps what is shared, by cases on the action and the stage. -/
theorem Shared.acts {actions : List (Action κ ε α)} {p next : Pool κ ε α}
    (h : Shared actions p) (locked : Locked p.cache p.runs) {action : Action κ ε α}
    (acts : p.Acts action next) (unclear : action ≠ .clear)
    : Shared (actions ++ [action]) next := by
  cases acts with
  | call key => exact (h.call key).more (by simp)
  | @advance call run stage cache found moves =>
      refine Shared.more ?_ (by simp)
      by_cases storing : ∃ lock value, run.stage = .storing lock value
      · obtain ⟨lock, value, here⟩ := storing
        obtain ⟨key, before⟩ := run
        cases here
        cases moves
        exact h.store locked found
      · exact h.moves found moves fun lock value here => storing ⟨lock, value, here⟩
  | finish made found => exact h.finish made found
  | clear => exact absurd rfl unclear

/-- After a run without a clear, what is shared fits together. -/
theorem run_shared {p : Pool κ ε α} {actions : List (Action κ ε α)}
    (unclear : .clear ∉ actions) (reached : start.run actions = some p)
    : Shared actions p := by
  refine run_induction _ reached ?_ ?_
  · constructor <;> simp [start, empty, find?]
  · intro before q action later next same runBefore shared acts
    subst same
    have kept : action ≠ .clear := by
      intro cleared
      subst cleared
      simp at unclear
    exact shared.acts (run_locked runBefore) acts kept

/-- What is cached stays cached as long as nothing is cleared: a value is only ever cached where
there was none.
-/
theorem run_keeps_found {q p : Pool κ ε α} {before after : List (Action κ ε α)}
    (unclear : .clear ∉ before ++ after) (reached : start.run before = some q)
    (rest : q.run after = some p) {key : κ} {value : α} (found : q.cache.find? key = some value)
    : p.cache.find? key = some value := by
  refine run_induction (fun _ now => now.cache.find? key = some value) rest found ?_
  intro prior now action later next same run cached acts
  subst same
  have shared : Shared (before ++ prior) now := by
    refine run_shared ?_ ((run_append before prior).mpr ⟨q, reached, run⟩)
    intro member
    rcases List.mem_append.mp member with early | late <;> simp_all
  cases acts with
  | call | finish => exact cached
  | clear => simp at unclear
  | @advance call run stage cache atCall moves =>
      by_cases storing : ∃ lock value, run.stage = .storing lock value
      · obtain ⟨lock, value, here⟩ := storing
        obtain ⟨other, before⟩ := run
        cases here
        cases moves
        have absent := shared.absent _ (List.mem_of_getElem? atCall) rfl
        have apart : key ≠ other := by
          intro same
          subst same
          simp [absent] at cached
        exact (find?_store_of_ne _ _ apart).trans cached
      · exact (moves.find?_eq (fun lock value here => storing ⟨lock, value, here⟩) key).trans
          cached

/-- What sharing comes to in a run of a pool from its start: `actions` is all that has happened, and
`p` what it has led to.
-/
structure BuildsOnce (actions : List (Action κ ε α)) (p : Pool κ ε α) : Prop where
  /-- No two calls make values for one key at the same time. -/
  apart
    : ∀ (i j : Nat) (key : κ) (a b : Nat),
        p.runs[i]? = some ⟨key, .making a⟩ → p.runs[j]? = some ⟨key, .making b⟩ → i = j
  /-- Once a call has made a value, no call for its key makes another one. -/
  once
    : ∀ (before after : List (Action κ ε α)) (i : Nat) (v : α),
        actions = before ++ .finish i (.ok v) :: after
        → ∀ (j : Nat) (w : α), .finish j (.ok w) ∈ after → p.key? j ≠ p.key? i
  /-- Once a value is cached for a key, no call for the key goes on to make one. -/
  noMore
    : ∀ (before after : List (Action κ ε α)) (q : Pool κ ε α) (key : κ),
        actions = before ++ after
        → start.run before = some q
        → q.cache.contains key
        → ∀ i lock : Nat, p.runs[i]? ≠ some ⟨key, .starting lock⟩
  /-- What a call has returned is cached for its key from then on. -/
  lasting
    : ∀ (before after : List (Action κ ε α)) (q : Pool κ ε α) (i : Nat) (key : κ) (v : α),
        actions = before ++ after
        → start.run before = some q
        → q.runs[i]? = some ⟨key, .done (.ok v)⟩
        → p.cache.find? key = some v
  /-- Calls for one key return one value. -/
  agree
    : ∀ (i j : Nat) (key : κ) (v w : α),
        p.runs[i]? = some ⟨key, .done (.ok v)⟩ → p.runs[j]? = some ⟨key, .done (.ok w)⟩ → v = w
  /-- Calls for two keys return values that two calls have made, each for its key. -/
  distinct
    : ∀ (i j : Nat) (key other : κ) (v w : α),
        key ≠ other
        → p.runs[i]? = some ⟨key, .done (.ok v)⟩
        → p.runs[j]? = some ⟨other, .done (.ok w)⟩
        → ∃ m n,
            m ≠ n
            ∧ p.key? m = some key
            ∧ .finish m (.ok v) ∈ actions
            ∧ p.key? n = some other
            ∧ .finish n (.ok w) ∈ actions
  /-- A call fails only with the failure of its own making. -/
  ownFailure
    : ∀ (i : Nat) (key : κ) (failure : ε),
        p.runs[i]? = some ⟨key, .done (.error failure)⟩
        → .finish i (.error failure) ∈ actions

/-- A value that a call returns has been made by a call for the same key. -/
theorem Shared.maker {actions : List (Action κ ε α)} {p : Pool κ ε α} (h : Shared actions p)
    {call : Nat} {key : κ} {value : α}
    (returned : p.runs[call]? = some ⟨key, .done (.ok value)⟩)
    : ∃ maker, p.key? maker = some key ∧ .finish maker (.ok value) ∈ actions := by
  have cached := h.found _ (List.mem_of_getElem? returned) value rfl
  obtain ⟨maker, run, atMaker, rfl, ended⟩ := h.source key value cached
  exact ⟨maker, by simp [key?, atMaker], ended⟩

/-- A second value is never made for a key. When the first one was made, it was cached or its maker
held the lock of the key; at the second one's making neither can have been so.
-/
theorem run_makes_once {p : Pool κ ε α} {before after : List (Action κ ε α)} {i : Nat} {v : α}
    (unclear : .clear ∉ before ++ .finish i (.ok v) :: after)
    (reached : start.run (before ++ .finish i (.ok v) :: after) = some p) {j : Nat} {w : α}
    (again : .finish j (.ok w) ∈ after)
    : p.key? j ≠ p.key? i := by
  obtain ⟨middle, later, rfl⟩ := List.append_of_mem again
  have split : before ++ .finish i (.ok v) :: (middle ++ .finish j (.ok w) :: later)
      = (before ++ .finish i (.ok v) :: middle) ++ .finish j (.ok w) :: later := by
    simp
  rw [split] at unclear reached
  obtain ⟨q, reachedQ, rest⟩ := (run_append _ _).mp reached
  have shared : Shared _ q :=
    run_shared (fun member => unclear (List.mem_append_left _ member)) reachedQ
  obtain ⟨run, atI, state⟩ := shared.kept i v (by simp)
  have keyI : p.key? i = some run.key :=
    run_keeps_key? rest (by simp [key?, atI])
  -- the call that ends now is making a value at this moment
  obtain ⟨next, acted, _⟩ := Option.bind_eq_some_iff.mp rest
  cases act_acts acted with
  | @finish _ key lock made atJ =>
      have keyJ : p.key? j = some key := run_keeps_key? rest (by simp [key?, atJ])
      rw [keyI, keyJ]
      intro same
      obtain rfl := Option.some.inj same
      have absent := shared.absent _ (List.mem_of_getElem? atJ) rfl
      rcases state with ⟨held, storing⟩ | cached
      · obtain ⟨key, stage⟩ := run
        cases storing
        obtain rfl :=
          holder_unique (run_locked reachedQ) shared.listed atI atJ rfl rfl
        cases Option.some.inj (atI.symm.trans atJ)
      · rw [absent] at cached
        cases cached

/-- In every interleaving of calls without a clear, at most one value is made for a key, one call at
a time tries, all calls for the key return that value, and a call fails only by its own making.
-/
theorem run_buildsOnce {p : Pool κ ε α} {actions : List (Action κ ε α)}
    (unclear : .clear ∉ actions) (reached : start.run actions = some p)
    : BuildsOnce actions p := by
  have shared := run_shared unclear reached
  constructor
  · intro i j key a b atI atJ
    exact holder_unique (run_locked reached) shared.listed atI atJ rfl rfl
  · intro before after i v same j w again
    subst same
    exact run_makes_once unclear reached again
  · intro before after q key same reachedQ contains i lock atI
    subst same
    obtain ⟨middle, runBefore, rest⟩ := (run_append before after).mp reached
    obtain rfl := Option.some.inj (reachedQ.symm.trans runBefore)
    obtain ⟨value, cached⟩ := Option.isSome_iff_exists.mp contains
    have found := run_keeps_found unclear reachedQ rest cached
    rw [shared.absent _ (List.mem_of_getElem? atI) rfl] at found
    cases found
  · intro before after q i key v same reachedQ returned
    subst same
    obtain ⟨middle, runBefore, rest⟩ := (run_append before after).mp reached
    obtain rfl := Option.some.inj (reachedQ.symm.trans runBefore)
    have sharedQ := run_shared (fun member => unclear (List.mem_append_left _ member)) reachedQ
    exact run_keeps_found unclear reachedQ rest
      (sharedQ.found _ (List.mem_of_getElem? returned) v rfl)
  · intro i j key v w atI atJ
    have cachedV := shared.found _ (List.mem_of_getElem? atI) v rfl
    have cachedW := shared.found _ (List.mem_of_getElem? atJ) w rfl
    exact Option.some.inj (cachedV.symm.trans cachedW)
  · intro i j key other v w apart atI atJ
    obtain ⟨m, keyM, madeV⟩ := shared.maker atI
    obtain ⟨n, keyN, madeW⟩ := shared.maker atJ
    refine ⟨m, n, ?_, keyM, madeV, keyN, madeW⟩
    intro same
    subst same
    exact apart (Option.some.inj (keyM.symm.trans keyN))
  · intro i key failure atI
    exact shared.failed i _ failure atI rfl

/-- Two calls queue for one key, the first fails to make a value and the second makes it, while a
third call makes one for another key.
-/
def queued : List (Action Nat String Nat) :=
  [.call 7, .call 7, .call 8]
    ++ [0, 1, 2, 0, 1, 0, 0, 0, 2, 2].map .advance
    ++ [.finish 0 (.error "unreachable")]
    ++ [2, 2, 0, 0, 1, 1, 1].map .advance
    ++ [.finish 2 (.ok 30), .finish 1 (.ok 20)]
    ++ [1, 1, 1, 2, 2, 2].map .advance

/-- The three calls end as `run_buildsOnce` says, and leave no lock behind. -/
theorem queued_buildsOnce
    : .clear ∉ queued
      ∧ ∃ p,
          start.run queued = some p
          ∧ p.runs
            = [
              ⟨7, .done (.error "unreachable")⟩,
              ⟨7, .done (.ok 20)⟩,
              ⟨8, .done (.ok 30)⟩
            ]
          ∧ p.cache.locks = []
          ∧ BuildsOnce queued p :=
  ⟨by simp [queued], _, rfl, rfl, rfl, run_buildsOnce (by simp [queued]) rfl⟩

end Pool

end CloudBuckets.Cache
