import CloudBuckets.Proofs.Cache.Locks

/-! Registrations of calls. In every state that a pool comes to, the table of locks agrees with the
calls that are registered on them, and calls for one key are registered on two locks only if the
cache was cleared after the one registration and before the other.
-/

namespace CloudBuckets

/-- A lock at two moments. Calls may come and go, but it has the same number and key, and is found
by the same calls.
-/
structure Lock.Same (old new : Lock κ) : Prop where
  id : old.id = new.id
  key : old.key = new.key
  listed : old.listed = new.listed

namespace Cache

variable {κ ε α : Type}

-----------------------------------------------------------------------------------------
-- The table of locks
-----------------------------------------------------------------------------------------

/-- The locks that calls find. -/
def table (cache : Cache κ α) : List (Lock κ) :=
  cache.locks.filter (·.listed)

theorem mem_table {cache : Cache κ α} {lock : Lock κ}
    : lock ∈ cache.table ↔ lock ∈ cache.locks ∧ lock.listed = true :=
  List.mem_filter

/-- To change what calls do with a lock neither makes a lock nor unlists one. -/
theorem changeLock_same {cache : Cache κ α} {id : Nat} {change : Lock κ → Lock κ} {lock : Lock κ}
    (member : lock ∈ (cache.changeLock id change).locks)
    (keeps : ∀ lock : Lock κ, lock.Same (change lock))
    : ∃ old ∈ cache.locks, old.Same lock := by
  obtain ⟨old, inside, rfl⟩ := mem_changeLock.mp member
  refine ⟨old, inside, ?_⟩
  split
  · exact keeps old
  · exact ⟨rfl, rfl, rfl⟩

/-- A lock is dropped by the last call that leaves it, and no other lock is. -/
theorem mem_leave {cache : Cache κ α} {id : Nat} {left : Lock κ}
    : left ∈ (cache.leave id).locks
      ↔ ∃ old ∈ cache.locks,
          left = (if old.id = id then { old with waiters := old.waiters - 1 } else old)
          ∧ (old.id = id → 1 < old.waiters) := by
  have kept : ∀ old : Lock κ,
      let left := if old.id = id then { old with waiters := old.waiters - 1 } else old
      (left.id ≠ id ∨ 0 < left.waiters) ↔ (old.id = id → 1 < old.waiters) := by
    intro old
    by_cases own : old.id = id
    · simp only [own, if_true, ne_eq, not_true, false_or, true_implies]
      omega
    · simp [own]
  simp only [leave, List.mem_filter, mem_changeLock, ne_eq, Bool.or_eq_true, decide_eq_true_eq]
  constructor
  · intro ⟨⟨old, inside, changed⟩, stays⟩
    subst changed
    exact ⟨old, inside, rfl, (kept old).mp (by simpa using stays)⟩
  · intro ⟨old, inside, changed, stays⟩
    subst changed
    exact ⟨⟨old, inside, rfl⟩, by simpa using (kept old).mpr stays⟩

/-- A call that leaves drops a lock just if it is its own and nobody else is registered on it. -/
theorem Locked.leave_drops {cache : Cache κ α} {runs : List (Run κ ε α)} (h : Locked cache runs)
    {call id : Nat} {key : κ} {result : Except ε α}
    (found : runs[call]? = some ⟨key, .leaving id result⟩) {lock : Lock κ}
    (member : lock ∈ cache.table)
    : (∀ left ∈ (cache.leave id).table, left.id ≠ lock.id)
      ↔ lock.id = id
        ∧ ∀ other run, runs[other]? = some run → run.stage.joined? = some id → other = call := by
  obtain ⟨inside, listed⟩ := mem_table.mp member
  rw [← joiners_eq_one_iff found rfl]
  constructor
  · intro gone
    have last : lock.id = id ∧ lock.waiters ≤ 1 := by
      by_contra stays
      have kept : lock.id = id → 1 < lock.waiters := by
        intro own
        by_contra few
        exact stays ⟨own, by omega⟩
      refine gone _ (mem_table.mpr ⟨mem_leave.mpr ⟨lock, inside, rfl, kept⟩, ?_⟩) ?_
      · split <;> exact listed
      · split <;> rfl
    have counted := h.waiting lock inside
    have positive := h.needed lock inside
    obtain ⟨own, few⟩ := last
    rw [own] at counted
    exact ⟨own, by omega⟩
  · intro ⟨own, one⟩ left present same
    obtain ⟨old, before, rfl, stays⟩ := mem_leave.mp (mem_table.mp present).1
    have sameId : old.id = lock.id := by
      split at same <;> exact same
    obtain rfl := h.eq_of_id before inside sameId
    have counted := h.waiting old before
    rw [own, one] at counted
    have more := stays own
    omega

/-- Without calls registered on them, no locks are in use. -/
theorem Locked.emptied {cache : Cache κ α} {runs : List (Run κ ε α)} (h : Locked cache runs)
    (nobody : ∀ run ∈ runs, run.stage.joined? = none)
    : cache.locks = [] := by
  refine List.eq_nil_iff_forall_not_mem.mpr fun lock member => ?_
  have positive := h.needed lock member
  have none : joiners runs lock.id = 0 :=
    List.countP_eq_zero.mpr fun run inside => by simp [nobody run inside]
  have counted := h.waiting lock member
  omega

variable [DecidableEq κ]

/-- A move that registers nothing leaves only locks that were in use before. -/
theorem Moves.lock_same {key : κ} {cache next : Cache κ α} {stage after : Stage ε α}
    (moves : Moves key stage cache after next) (registersNot : stage ≠ .registering) {lock : Lock κ}
    (member : lock ∈ next.locks)
    : ∃ old ∈ cache.locks, old.Same lock := by
  cases moves with
  | register => exact absurd rfl registersNot
  | find | miss | refind | remiss | start | store => exact ⟨lock, member, rfl, rfl, rfl⟩
  | acquire free =>
      rw [acquire?_eq free] at member
      exact changeLock_same member fun _ => ⟨rfl, rfl, rfl⟩
  | release => exact changeLock_same member fun _ => ⟨rfl, rfl, rfl⟩
  | leave =>
      obtain ⟨old, inside, rfl, _⟩ := mem_leave.mp member
      refine ⟨old, inside, ?_⟩
      split <;> exact ⟨rfl, rfl, rfl⟩

/-- A call that moves on without registering stays on its lock or leaves it. -/
theorem Moves.joined?_of_joined? {key : κ} {cache next : Cache κ α} {stage after : Stage ε α}
    (moves : Moves key stage cache after next) (registersNot : stage ≠ .registering) {id : Nat}
    (joined : after.joined? = some id)
    : stage.joined? = some id := by
  cases moves with
  | register => exact absurd rfl registersNot
  | find | miss | leave => cases joined
  | acquire | refind | remiss | start | store | release => exact joined

/-- The locks after a registration were in use before, or one of them is new and listed. -/
theorem register_same {cache : Cache κ α} {key : κ} {lock : Lock κ}
    (member : lock ∈ (cache.register key).2.locks)
    : (∃ old ∈ cache.locks, old.Same lock) ∨ lock.listed = true := by
  unfold Cache.register at member
  split at member
  · exact .inl (changeLock_same member fun _ => ⟨rfl, rfl, rfl⟩)
  · rcases List.mem_append.mp member with old | new
    · exact .inl ⟨lock, old, rfl, rfl, rfl⟩
    · rw [List.mem_singleton.mp new]
      exact .inr rfl

/-- A call registers on a lock that other calls find too. -/
theorem Numbered.register_listed {cache : Cache κ α} (numbered : cache.Numbered) {key : κ}
    {lock : Lock κ} (member : lock ∈ (cache.register key).2.locks)
    (joined : lock.id = (cache.register key).1)
    : lock.listed = true := by
  unfold Cache.register at member joined
  cases sought : cache.listed? key with
  | some found =>
      simp only [sought] at member joined
      obtain ⟨old, inside, rfl⟩ := mem_changeLock.mp member
      have same : old = found := by
        refine List.inj_on_of_nodup_map numbered.distinct inside
          (List.mem_of_find?_eq_some sought) ?_
        split at joined <;> exact joined
      have listed : found.listed = true ∧ found.key = key := by
        simpa using List.find?_some sought
      subst same
      simpa using listed.1
  | none =>
      simp only [sought] at member joined
      rcases List.mem_append.mp member with old | new
      · exact absurd joined (Nat.ne_of_lt (numbered.fresh lock old))
      · rw [List.mem_singleton.mp new]

/-- Where a lock is listed for a key, calls for the key register on it. -/
theorem Counted.register_eq {cache : Cache κ α} {runs : List (Run κ ε α)}
    (h : Counted cache runs) {lock : Lock κ} (member : lock ∈ cache.locks)
    (listed : lock.listed = true)
    : (cache.register lock.key).1 = lock.id := by
  unfold Cache.register
  cases sought : cache.listed? lock.key with
  | some found =>
      have foundListed : found.listed = true ∧ found.key = lock.key := by
        simpa using List.find?_some sought
      exact h.single found (List.mem_of_find?_eq_some sought) lock member foundListed.1 listed
        foundListed.2
  | none => simpa [listed] using List.find?_eq_none.mp sought lock member

namespace Pool

-----------------------------------------------------------------------------------------
-- When calls have registered
-----------------------------------------------------------------------------------------

/-- After a run of these actions, a call is about to register. -/
def Registers (before : List (Action κ ε α)) (call : Nat) : Prop :=
  ∃ q key, start.run before = some q ∧ q.runs[call]? = some ⟨key, .registering⟩

/-- In a run, two calls have registered in this order, and between them the cache was cleared. -/
def ClearedBetween (actions : List (Action κ ε α)) (first second : Nat) : Prop :=
  ∃ before between after,
    actions = before ++ .advance first :: between ++ .advance second :: after
    ∧ Registers before first
    ∧ Registers (before ++ .advance first :: between) second
    ∧ .clear ∈ between

theorem ClearedBetween.more {actions : List (Action κ ε α)} {first second : Nat}
    (cleared : ClearedBetween actions first second) (action : Action κ ε α)
    : ClearedBetween (actions ++ [action]) first second := by
  obtain ⟨before, between, after, rfl, facts⟩ := cleared
  exact ⟨before, between, after ++ [action], by simp, facts⟩

/-- What the locks tell about the registrations in a run, where `actions` is all that has happened.
-/
structure History (actions : List (Action κ ε α)) (p : Pool κ ε α) : Prop where
  /-- If its lock is found by no call any more, the cache was cleared after a call had registered. -/
  registered
    : ∀ {call : Nat} {run : Run κ ε α} {id : Nat},
        p.runs[call]? = some run
        → run.stage.joined? = some id
        → ∃ before after,
            actions = before ++ .advance call :: after
            ∧ Registers before call
            ∧ ∀ lock ∈ p.cache.locks, lock.id = id → lock.listed = false → .clear ∈ after
  /-- Calls for one key are on two locks only if the cache was cleared between them. -/
  parted
    : ∀ {i j a b : Nat} {key : κ} {stage other : Stage ε α},
        p.runs[i]? = some ⟨key, stage⟩
        → p.runs[j]? = some ⟨key, other⟩
        → stage.joined? = some a
        → other.joined? = some b
        → a ≠ b
        → ClearedBetween actions i j ∨ ClearedBetween actions j i

/-- An action by which no call registers adds to the history, and only a clear unlists locks. -/
theorem History.more {actions : List (Action κ ε α)} {p next : Pool κ ε α}
    (h : History actions p) {action : Action κ ε α}
    (joined
      : ∀ {call : Nat} {key : κ} {stage : Stage ε α} {id : Nat},
          next.runs[call]? = some ⟨key, stage⟩
          → stage.joined? = some id
          → ∃ old, p.runs[call]? = some ⟨key, old⟩ ∧ old.joined? = some id)
    (unlisted
      : ∀ lock ∈ next.cache.locks,
          lock.listed = false
          → action = .clear ∨ ∃ old ∈ p.cache.locks, old.Same lock)
    : History (actions ++ [action]) next := by
  constructor
  · intro call ⟨key, stage⟩ id found joins
    obtain ⟨old, before, joinedBefore⟩ := joined found joins
    obtain ⟨earlier, later, rfl, registers, cleared⟩ := h.registered before joinedBefore
    refine ⟨earlier, later ++ [action], by simp, registers, ?_⟩
    intro lock member rfl hidden
    rcases unlisted lock member hidden with rfl | ⟨first, inside, same⟩
    · simp
    · exact List.mem_append_left _ (cleared first inside same.id (same.listed.trans hidden))
  · intro i j a b key stage other atI atJ joinsA joinsB apart
    obtain ⟨_, beforeI, joinedI⟩ := joined atI joinsA
    obtain ⟨_, beforeJ, joinedJ⟩ := joined atJ joinsB
    exact (h.parted beforeI beforeJ joinedI joinedJ apart).imp (·.more action) (·.more action)

/-- A call registers on the lock that is listed for its key. Whoever is on another lock for the key
has registered before the cache was cleared.
-/
theorem History.register {actions : List (Action κ ε α)} {p : Pool κ ε α} (h : History actions p)
    (reached : start.run actions = some p) {call : Nat} {key : κ}
    (found : p.runs[call]? = some ⟨key, .registering⟩)
    : History (actions ++ [.advance call])
        ⟨(p.cache.register key).2,
          p.runs.set call ⟨key, .acquiring (p.cache.register key).1⟩⟩ := by
  have locked : Locked p.cache p.runs := run_locked reached
  have registers : Registers actions call := ⟨p, key, reached, found⟩
  -- a call on another lock for the key registered before a clear, and this one registers now
  have cleared : ∀ {other a : Nat} {stage : Stage ε α},
      p.runs[other]? = some ⟨key, stage⟩
      → stage.joined? = some a
      → a ≠ (p.cache.register key).1
      → ClearedBetween (actions ++ [.advance call]) other call := by
    intro other a stage atOther joins apart
    obtain ⟨before, after, rfl, first, hidden⟩ := h.registered atOther joins
    obtain ⟨lock, member, rfl, rfl⟩ := locked.known _ (List.mem_of_getElem? atOther) a joins
    refine ⟨before, after, [], rfl, first, registers, hidden lock member rfl ?_⟩
    by_contra listed
    exact apart (locked.register_eq member (by simpa using listed)).symm
  constructor
  · intro other run id atOther joins
    rcases Runs.set_cases atOther with ⟨rfl, rfl⟩ | ⟨_, old⟩
    · refine ⟨actions, [], rfl, registers, ?_⟩
      intro lock member rfl hidden
      have listed := locked.register_listed member (Option.some.inj joins).symm
      simp [listed] at hidden
    · obtain ⟨before, after, rfl, first, unlisted⟩ := h.registered old joins
      refine ⟨before, after ++ [.advance call], by simp, first, ?_⟩
      intro lock member rfl hidden
      rcases register_same member with ⟨same, inside, kept⟩ | listed
      · exact List.mem_append_left _ (unlisted same inside kept.id (kept.listed.trans hidden))
      · simp [listed] at hidden
  · intro i j a b shared stage other atI atJ joinsA joinsB apart
    rcases Runs.set_cases atI with ⟨rfl, new⟩ | ⟨_, oldI⟩
    · cases new
      cases joinsA
      rcases Runs.set_cases atJ with ⟨rfl, same⟩ | ⟨_, oldJ⟩
      · cases same
        exact absurd (Option.some.inj joinsB) apart
      · exact .inr (cleared oldJ joinsB apart.symm)
    · rcases Runs.set_cases atJ with ⟨rfl, new⟩ | ⟨_, oldJ⟩
      · cases new
        cases joinsB
        exact .inl (cleared oldI joinsA apart)
      · exact (h.parted oldI oldJ joinsA joinsB apart).imp (·.more _) (·.more _)

/-- The locks tell about the registrations after every run, by cases on each action. -/
theorem run_history {p : Pool κ ε α} {actions : List (Action κ ε α)}
    (reached : start.run actions = some p)
    : History actions p := by
  refine run_induction History reached ⟨by simp [start], by simp [start]⟩ ?_
  intro before q action later next _ runBefore history acts
  cases acts with
  | call key =>
      refine history.more ?_ fun lock member _ => .inr ⟨lock, member, rfl, rfl, rfl⟩
      intro call key stage id found joins
      rcases started_cases found with old | new
      · exact ⟨stage, old, joins⟩
      · cases new
        cases joins
  | @advance call run stage cache found moves =>
      by_cases registers : run.stage = .registering
      · obtain ⟨key, before⟩ := run
        cases registers
        cases moves
        exact history.register runBefore found
      · refine history.more ?_ fun lock member _ => .inr (moves.lock_same registers member)
        intro other key after id atOther joins
        rcases Runs.set_cases atOther with ⟨rfl, same⟩ | ⟨_, old⟩
        · cases same
          exact ⟨run.stage, found, moves.joined?_of_joined? registers joins⟩
        · exact ⟨after, old, joins⟩
  | @finish call key lock made found =>
      refine history.more ?_ fun lock member _ => .inr ⟨lock, member, rfl, rfl, rfl⟩
      intro other key after id atOther joins
      rcases Runs.set_cases atOther with ⟨rfl, same⟩ | ⟨_, old⟩
      · cases same
        exact ⟨_, found, (Stage.joined?_made lock made).symm.trans joins⟩
      · exact ⟨after, old, joins⟩
  | clear =>
      exact history.more (fun found joins => ⟨_, found, joins⟩) fun _ _ _ => .inl rfl

-----------------------------------------------------------------------------------------
-- What the table of locks tells
-----------------------------------------------------------------------------------------

/-- The table of locks and the calls in progress agree, where `actions` is all that has happened. -/
structure Tallied (actions : List (Action κ ε α)) (p : Pool κ ε α) : Prop where
  /-- A registered call is on one lock, which is for its key. -/
  joined
    : ∀ run ∈ p.runs,
        ∀ id,
          run.stage.joined? = some id
          → ∃ lock ∈ p.cache.locks,
              lock.id = id
              ∧ lock.key = run.key
              ∧ ∀ other ∈ p.cache.locks, other.id = id → other = lock
  /-- A lock counts the calls that have registered on it and not yet left, listed or not. -/
  counted : ∀ lock ∈ p.cache.locks, lock.waiters = joiners p.runs lock.id
  awaited : ∀ lock ∈ p.cache.table, 1 ≤ lock.waiters
  /-- A call that leaves drops its own lock from the table, if nobody else is registered on it, and
  no other lock. -/
  dropped
    : ∀ (call : Nat) (key : κ) (id : Nat) (result : Except ε α) (next : Pool κ ε α),
        p.runs[call]? = some ⟨key, .leaving id result⟩
        → p.act (.advance call) = some next
        → ∀ lock ∈ p.cache.table,
            (∀ left ∈ next.cache.table, left.id ≠ lock.id)
            ↔ lock.id = id
              ∧ ∀ (other : Nat) (run : Run κ ε α),
                  p.runs[other]? = some run → run.stage.joined? = some id → other = call
  /-- Calls for one key are on two locks only if the cache was cleared between them. -/
  parted
    : ∀ (i j a b : Nat) (key : κ) (stage other : Stage ε α),
        p.runs[i]? = some ⟨key, stage⟩
        → p.runs[j]? = some ⟨key, other⟩
        → stage.joined? = some a
        → other.joined? = some b
        → a ≠ b
        → ClearedBetween actions i j ∨ ClearedBetween actions j i
  /-- No lock is left once no call is registered, as when all calls have ended. -/
  emptied : (∀ run ∈ p.runs, run.stage.joined? = none) → p.cache.locks = []

/-- In every state that a pool comes to, whatever has failed and whenever it was cleared, the table
of locks agrees with the calls in progress.
-/
theorem run_tallied {p : Pool κ ε α} {actions : List (Action κ ε α)}
    (reached : start.run actions = some p)
    : Tallied actions p := by
  have locked : Locked p.cache p.runs := run_locked reached
  constructor
  · intro run member id joins
    obtain ⟨lock, inside, rfl, sameKey⟩ := locked.known run member id joins
    exact ⟨lock, inside, rfl, sameKey, fun other here same => locked.eq_of_id here inside same⟩
  · exact locked.waiting
  · exact fun lock member => locked.needed lock (mem_table.mp member).1
  · intro call key id result next found acted lock member
    cases act_acts acted with
    | advance atCall moves =>
        obtain rfl := Option.some.inj (found.symm.trans atCall)
        cases moves
        exact locked.leave_drops found member
  · intro i j a b key stage other atI atJ joinsA joinsB apart
    exact (run_history reached).parted atI atJ joinsA joinsB apart
  · exact locked.emptied

/-- Two calls for one key register, with a clear between them. The first fails to make a value
while the second still waits for it to be made.
-/
def overlapping : List (Action Nat String Nat) :=
  [.call 7, .call 7, .advance 0, .advance 0, .clear]
    ++ [0, 0, 0, 1, 1, 1, 1, 1].map .advance
    ++ [.finish 0 (.error "unreachable"), .advance 0]

/-- The calls are on two locks for one key, of which only the second is in the table. -/
theorem overlapping_tallied
    : ∃ p,
        start.run overlapping = some p
        ∧ p.runs = [⟨7, .leaving 0 (.error "unreachable")⟩, ⟨7, .making 1⟩]
        ∧ p.cache.locks = [⟨0, 7, 1, false, false⟩, ⟨1, 7, 1, true, true⟩]
        ∧ p.cache.table = [⟨1, 7, 1, true, true⟩]
        ∧ Tallied overlapping p :=
  ⟨_, rfl, rfl, rfl, rfl, run_tallied rfl⟩

end Pool

end Cache

end CloudBuckets
