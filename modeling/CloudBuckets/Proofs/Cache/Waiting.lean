import CloudBuckets.Proofs.Cache.Access
import CloudBuckets.Proofs.Cache.Locks

/-! When a call that is carried out alone has to wait. Whatever is done while it makes a value has
given back every lock that it has taken, so that a call waits for itself only if the lock for its
key was held from the start.
-/

namespace CloudBuckets.Cache

variable {κ ε α : Type}

-----------------------------------------------------------------------------------------
-- Held locks
-----------------------------------------------------------------------------------------

/-- Nobody holds the lock that a call for a key would find. -/
def Free (cache : Cache κ α) (key : κ) : Prop :=
  ∀ lock ∈ cache.locks, lock.listed → lock.key = key → lock.held = false

/-- No lock but one with the given number is held that was not held before. -/
def Settles (but : Option Nat) (before after : Cache κ α) : Prop :=
  ∀ lock ∈ after.locks,
    lock.held
    → some lock.id ≠ but
    → ∃ old ∈ before.locks,
        old.id = lock.id ∧ old.key = lock.key ∧ old.held ∧ (lock.listed → old.listed)

theorem Settles.refl (but : Option Nat) (cache : Cache κ α) : Settles but cache cache :=
  fun lock member held _ => ⟨lock, member, rfl, rfl, held, id⟩

theorem Settles.trans {but : Option Nat} {first middle last : Cache κ α}
    (earlier : Settles but first middle) (later : Settles none middle last)
    : Settles but first last := by
  intro lock member held apart
  obtain ⟨between, inside, id, key, heldBetween, listed⟩ := later lock member held (by simp)
  obtain ⟨old, oldest, sameId, sameKey, heldBefore, listedBefore⟩ :=
    earlier between inside heldBetween (id ▸ apart)
  exact ⟨old, oldest, sameId.trans id, sameKey.trans key, heldBefore,
    fun here => listedBefore (listed here)⟩

/-- A lock that nobody held before is free afterwards. -/
theorem Free.settles {before after : Cache κ α} {key : κ} (free : Free before key)
    (settles : Settles none before after)
    : Free after key := by
  intro lock member listed same
  by_contra held
  obtain ⟨old, inside, _, sameKey, heldBefore, listedBefore⟩ :=
    settles lock member (by simpa using held) (by simp)
  have free := free old inside (listedBefore listed) (sameKey.trans same)
  simp [free] at heldBefore

/-- Nobody holds a lock, as it is between calls that are made one after the other. -/
structure Unheld (cache : Cache κ α) : Prop where
  numbered : cache.Numbered
  unheld : ∀ lock ∈ cache.locks, lock.held = false

theorem Unheld.free {cache : Cache κ α} (unheld : cache.Unheld) (key : κ) : Free cache key :=
  fun lock member _ _ => unheld.unheld lock member

theorem Unheld.settles {before after : Cache κ α} (unheld : before.Unheld)
    (numbered : after.Numbered) (settles : Settles none before after)
    : after.Unheld := by
  refine ⟨numbered, fun lock member => ?_⟩
  by_contra held
  obtain ⟨old, inside, _, _, heldBefore, _⟩ := settles lock member (by simpa using held) (by simp)
  simp [unheld.unheld old inside] at heldBefore

theorem Unheld.empty : (Cache.empty : Cache κ α).Unheld :=
  ⟨.empty, fun _ member => absurd member List.not_mem_nil⟩

/-- Locks that have been changed without taking one settle as they did before. -/
theorem Settles.changeLock {but : Option Nat} {before cache : Cache κ α}
    (settles : Settles but before cache) {id : Nat} {change : Lock κ → Lock κ}
    (keeps
      : ∀ lock,
          (change lock).id = lock.id
          ∧ (change lock).key = lock.key
          ∧ (change lock).listed = lock.listed
          ∧ ((change lock).held → lock.held))
    : Settles but before (cache.changeLock id change) := by
  intro lock member held apart
  obtain ⟨old, inside, rfl⟩ := mem_changeLock.mp member
  split at held
  · rename_i here
    obtain ⟨sameId, sameKey, sameListed, heldOld⟩ := keeps old
    simp only [here, if_true] at apart ⊢
    rw [sameId] at apart
    obtain ⟨first, oldest, facts⟩ := settles old inside (heldOld held) apart
    refine ⟨first, oldest, ?_⟩
    simpa only [sameId, sameKey, sameListed] using facts
  · rename_i elsewhere
    simp only [elsewhere, if_false] at apart ⊢
    exact settles old inside held apart

-----------------------------------------------------------------------------------------
-- The moves of a call
-----------------------------------------------------------------------------------------

/-- A free lock can be taken. -/
theorem Numbered.acquire?_isSome {cache : Cache κ α} (numbered : cache.Numbered) {lock : Lock κ}
    (member : lock ∈ cache.locks) (free : lock.held = false)
    : (cache.acquire? lock.id).isSome := by
  simp [acquire?, numbered.lock? member, free]

variable [DecidableEq κ]

theorem Moves.numbered {key : κ} {cache next : Cache κ α} {stage after : Stage ε α}
    (moves : Moves key stage cache after next) (numbered : cache.Numbered)
    : next.Numbered := by
  cases moves with
  | find | miss | refind | remiss | start => exact numbered
  | store => exact ⟨numbered.distinct, numbered.fresh⟩
  | register => exact numbered.register key
  | acquire free =>
      rw [acquire?_eq free]
      exact numbered.changeLock fun _ => rfl
  | release => exact numbered.changeLock fun _ => rfl
  | leave => exact numbered.leave _

/-- A call holds no lock but the one that its stage says it holds, by cases on the move. -/
theorem Settles.moves {key : κ} {start cache next : Cache κ α} {stage after : Stage ε α}
    (settles : Settles stage.held? start cache) (moves : Moves key stage cache after next)
    : Settles after.held? start next := by
  cases moves with
  | find | miss | refind | remiss | start | store => exact settles
  | register =>
      simp only [Stage.held?] at settles ⊢
      unfold Cache.register
      split
      · exact settles.changeLock fun _ => ⟨rfl, rfl, rfl, id⟩
      · intro lock member held apart
        rcases List.mem_append.mp member with old | new
        · exact settles lock old held apart
        · obtain rfl := List.mem_singleton.mp new
          cases held
  | @acquire _ _ id free =>
      rw [acquire?_eq free]
      intro lock member held apart
      obtain ⟨old, inside, rfl⟩ := mem_changeLock.mp member
      by_cases here : old.id = id
      · simp [here, Stage.held?] at apart
      · simp only [here, if_false] at held ⊢
        exact settles old inside held (by simp [Stage.held?])
  | @release _ id _ =>
      intro lock member held _
      obtain ⟨old, inside, rfl⟩ := mem_changeLock.mp member
      by_cases here : old.id = id
      · simp [here] at held
      · simp only [here, if_false] at held ⊢
        exact settles old inside held (by simpa [Stage.held?] using here)
  | @leave _ id _ =>
      have changed : Settles none start
          (cache.changeLock id fun lock => { lock with waiters := lock.waiters - 1 }) :=
        settles.changeLock fun _ => ⟨rfl, rfl, rfl, fun held => held⟩
      exact fun lock member => changed lock (List.mem_filter.mp member).1

/-- A call registers on a free lock where nobody holds one for its key. -/
theorem Free.register {cache : Cache κ α} {key : κ} (free : Free cache key)
    : ∃ lock ∈ (cache.register key).2.locks,
        lock.id = (cache.register key).1 ∧ lock.held = false := by
  unfold Cache.register
  cases listed : cache.listed? key with
  | some lock =>
      have member := List.mem_of_find?_eq_some listed
      have found : lock.listed = true ∧ lock.key = key := by
        simpa using List.find?_some listed
      refine ⟨_, mem_changeLock.mpr ⟨lock, member, rfl⟩, ?_⟩
      simpa using free lock member found.1 found.2
  | none => exact ⟨_, List.mem_append_right _ (List.mem_singleton.mpr rfl), rfl, rfl⟩

-----------------------------------------------------------------------------------------
-- Whole calls
-----------------------------------------------------------------------------------------

namespace Access

variable {σ : Type}

/-- The cache is that which was set last, and while a value is made, every lock that is taken is
given back.
-/
structure Orderly (access : Access σ κ ε α) : Prop where
  cache_setCache : ∀ cache w, access.cache (access.setCache cache w) = cache
  make_numbered
    : ∀ key w, (access.cache w).Numbered → (access.cache (access.make key w).2).Numbered
  make_settles
    : ∀ key w,
        (access.cache w).Numbered
        → Settles none (access.cache w) (access.cache (access.make key w).2)

variable {access : Access σ κ ε α} {key : κ}

/-- A call that started with some cache holds no lock but its own. -/
structure Tidy (access : Access σ κ ε α) (start : Cache κ α) (stage : Stage ε α) (w : σ) : Prop where
  numbered : (access.cache w).Numbered
  settles : Settles stage.held? start (access.cache w)

theorem Tidy.goes (orderly : access.Orderly) {start : Cache κ α} {stage next : Stage ε α} {v w : σ}
    (tidy : Tidy access start stage v) (goes : Goes access key stage v next w)
    : Tidy access start next w := by
  cases goes with
  | move moves =>
      refine ⟨?_, ?_⟩ <;> rw [orderly.cache_setCache]
      · exact moves.numbered tidy.numbered
      · exact tidy.settles.moves moves
  | make =>
      refine ⟨orderly.make_numbered key v tidy.numbered, ?_⟩
      rw [Stage.held?_made]
      exact Settles.trans tidy.settles (orderly.make_settles key v tidy.numbered)

/-- A call gives back every lock that it has taken, also where it has to wait. -/
theorem Orderly.resolve (orderly : access.Orderly) (key : κ) {w : σ}
    (numbered : (access.cache w).Numbered)
    : (access.cache (access.resolve key w).2).Numbered
      ∧ Settles none (access.cache w) (access.cache (access.resolve key w).2) := by
  have begins : Tidy access (access.cache w) .looking w := ⟨numbered, .refl _ _⟩
  obtain ⟨last, tidy, reached⟩ :=
    access.resolve_induction (Tidy access (access.cache w)) (Tidy.goes orderly) begins
  refine ⟨tidy.numbered, ?_⟩
  have unheld : last.held? = none := by
    split at reached
    · obtain rfl := reached
      rfl
    · obtain ⟨lock, rfl⟩ := reached
      rfl
  simpa only [unheld] using tidy.settles

/-- What keeps a call from having to wait: up to its registration, nobody holds a lock for its
key, and then nobody holds the lock that it has registered on.
-/
structure Unhindered (access : Access σ κ ε α) (key : κ) (stage : Stage ε α) (w : σ) : Prop where
  numbered : (access.cache w).Numbered
  free : stage = .looking ∨ stage = .registering → Free (access.cache w) key
  joined
    : ∀ id,
        stage = .acquiring id
        → ∃ lock ∈ (access.cache w).locks, lock.id = id ∧ lock.held = false

theorem Unhindered.goes (orderly : access.Orderly) {stage next : Stage ε α} {v w : σ}
    (unhindered : Unhindered access key stage v) (goes : Goes access key stage v next w)
    : Unhindered access key next w := by
  cases goes with
  | move moves =>
      have numbered := moves.numbered unhindered.numbered
      cases moves with
      | miss absent =>
          refine ⟨?_, ?_, nofun⟩ <;> rw [orderly.cache_setCache]
          · exact numbered
          · exact fun _ => unhindered.free (.inl rfl)
      | register =>
          refine ⟨?_, nofun, ?_⟩ <;> rw [orderly.cache_setCache]
          · exact numbered
          · intro id same
            cases same
            exact (unhindered.free (.inr rfl)).register
      | find | acquire | refind | remiss | start | store | release | leave =>
          exact ⟨by rwa [orderly.cache_setCache], nofun, nofun⟩
  | make =>
      refine ⟨orderly.make_numbered key v unhindered.numbered, ?_, ?_⟩
      · cases (access.make key v).1 <;> exact nofun
      · cases (access.make key v).1 <;> exact nofun

/-- A call comes to its end if nobody holds a lock for its key when it starts. -/
theorem Orderly.resolve_isSome (orderly : access.Orderly) {w : σ}
    (numbered : (access.cache w).Numbered) (free : Free (access.cache w) key)
    : (access.resolve key w).1.isSome := by
  refine access.resolve_isSome (Unhindered access key) (Unhindered.goes orderly) ?_
    ⟨numbered, fun _ => free, nofun⟩
  intro id v unhindered
  obtain ⟨lock, member, rfl, unheld⟩ := unhindered.joined id rfl
  exact unhindered.numbered.acquire?_isSome member unheld

/-- Where nobody holds a lock, a call comes to its end, and nobody holds one afterwards. -/
theorem Orderly.resolve_unheld (orderly : access.Orderly) (key : κ) {w : σ}
    (unheld : (access.cache w).Unheld)
    : (access.resolve key w).1.isSome ∧ (access.cache (access.resolve key w).2).Unheld := by
  obtain ⟨numbered, settles⟩ := orderly.resolve key unheld.numbered
  exact ⟨orderly.resolve_isSome unheld.numbered (unheld.free key), unheld.settles numbered settles⟩

end Access

end CloudBuckets.Cache
