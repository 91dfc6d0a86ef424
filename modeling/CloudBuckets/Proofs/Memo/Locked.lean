import CloudBuckets.Proofs.Cache.Access
import CloudBuckets.Proofs.Cache.Locks
import CloudBuckets.Proofs.Calls
import CloudBuckets.Proofs.Memo.Program

/-! The cache with its locks, used by programs as a table. A call that has an adapter built takes a
lock of its own, the last in the list, and drops it at its end, if the build leaves it in place.
-/

namespace CloudBuckets

-----------------------------------------------------------------------------------------
-- A lock for one call
-----------------------------------------------------------------------------------------

namespace Cache

variable {κ α : Type}

/-- A cache in which a call has taken a new lock for a key. -/
def locking (cache : Cache κ α) (key : κ) : Cache κ α :=
  { cache with
    locks := cache.locks ++ [⟨cache.nextLock, key, 1, true, true⟩]
    nextLock := cache.nextLock + 1 }

/-- The last lock can be changed alone. -/
theorem changeLock_last (cache : Cache κ α) {others : List (Lock κ)} {lock : Lock κ}
    (last : cache.locks = others ++ [lock]) (apart : ∀ other ∈ others, other.id ≠ lock.id)
    (change : Lock κ → Lock κ)
    : cache.changeLock lock.id change = { cache with locks := others ++ [change lock] } := by
  have same : (others.map fun other => if other.id = lock.id then change other else other)
      = others :=
    (List.map_congr_left fun other member => if_neg (apart other member)).trans others.map_id'
  simp [changeLock, last, same]

/-- A call for a key finds neither a value nor a lock. -/
structure Vacant [DecidableEq κ] (cache : Cache κ α) (key : κ) : Prop extends Numbered cache where
  absent : cache.find? key = none
  unlisted : cache.listed? key = none

/-- Such a call takes a new lock. -/
theorem Vacant.acquire?_register [DecidableEq κ] {cache : Cache κ α} {key : κ}
    (vacant : cache.Vacant key)
    : (cache.register key).1 = cache.nextLock
      ∧ (cache.register key).2.acquire? cache.nextLock = some (cache.locking key) := by
  have registers : cache.register key
      = (cache.nextLock,
          { cache with
            locks := cache.locks ++ [⟨cache.nextLock, key, 1, false, true⟩]
            nextLock := cache.nextLock + 1 }) := by
    simp only [Cache.register, vacant.unlisted]
  have free : (cache.register key).2.lock? cache.nextLock
      = some ⟨cache.nextLock, key, 1, false, true⟩ := by
    have member : ⟨cache.nextLock, key, 1, false, true⟩ ∈ (cache.register key).2.locks := by
      simp [registers]
    exact (vacant.register key).lock? member
  have taken := changeLock_last (cache.register key).2 (by rw [registers])
    (fun lock member => Nat.ne_of_lt (vacant.fresh lock member))
    fun lock => { lock with held := true }
  rw [registers] at free taken ⊢
  exact ⟨rfl, by simp [acquire?, free, taken, locking]⟩

theorem Vacant.locking [DecidableEq κ] {cache : Cache κ α} {key : κ} (vacant : cache.Vacant key)
    : (cache.locking key).Numbered := by
  rw [acquire?_eq vacant.acquire?_register.2]
  exact (vacant.register key).changeLock fun _ => rfl

/-- A call that gives back and leaves a lock of its own drops it, and leaves the other locks as they
are. -/
theorem Numbered.leave_release {cache : Cache κ α} (numbered : cache.Numbered)
    {others : List (Lock κ)} {lock : Lock κ} (last : cache.locks = others ++ [lock])
    (alone : lock.waiters = 1)
    : (cache.release lock.id).leave lock.id = { cache with locks := others } := by
  have apart : ∀ other ∈ others, other.id ≠ lock.id := by
    have distinct := numbered.distinct
    rw [last, List.map_append, List.nodup_append] at distinct
    exact fun other member => distinct.2.2 _ (List.mem_map_of_mem member) _ (by simp)
  have released := cache.changeLock_last last apart fun lock => { lock with held := false }
  have left := Cache.changeLock_last { cache with locks := others ++ [{ lock with held := false }] }
    rfl apart fun lock => { lock with waiters := lock.waiters - 1 }
  have kept : others.filter (fun other => other.id ≠ lock.id || 0 < other.waiters) = others :=
    List.filter_eq_self.mpr fun other member => by simp [apart other member]
  simp only [Cache.release, released, Cache.leave, left, List.filter_append, kept]
  simp [alone]

/-- The locks are as they were before, but that a clear may have unlisted them. -/
def KeepsLocks (before after : Cache κ α) : Prop :=
  ∃ cleared : Bool,
    after.locks = before.locks.map fun lock => { lock with listed := lock.listed && !cleared }

namespace KeepsLocks

theorem refl (cache : Cache κ α) : cache.KeepsLocks cache :=
  ⟨false, by simp⟩

theorem trans {first second third : Cache κ α} (before : first.KeepsLocks second)
    (after : second.KeepsLocks third)
    : first.KeepsLocks third := by
  obtain ⟨early, before⟩ := before
  obtain ⟨late, after⟩ := after
  exact ⟨early || late, by simp [after, before, Bool.and_assoc]⟩

theorem clear (cache : Cache κ α) : cache.KeepsLocks cache.clear :=
  ⟨true, by simp [Cache.clear]⟩

/-- A lock that has been taken stays the last one. -/
theorem of_locking {cache after : Cache κ α} {key : κ}
    (keeps : (cache.locking key).KeepsLocks after)
    : ∃ others own,
        after.locks = others ++ [own]
        ∧ own.id = cache.nextLock
        ∧ own.waiters = 1
        ∧ ∀ next : Cache κ α, next.locks = others → cache.KeepsLocks next := by
  obtain ⟨cleared, same⟩ := keeps
  rw [locking, List.map_append] at same
  exact ⟨_, _, same, rfl, rfl, fun next locks => ⟨cleared, locks⟩⟩

end KeepsLocks

end Cache

namespace Memo

variable {ρ : Type}

-----------------------------------------------------------------------------------------
-- The cache as a table
-----------------------------------------------------------------------------------------

/-- The surroundings of calls that have nothing but a cache and a factory. -/
def surroundings (factory : Factory ρ (Cache Key Adapter))
    : Surroundings (State ρ (Cache Key Adapter)) where
  cache w := w.table
  setCache cache w := w.put cache
  build := factory
  probe _ _ w := (.ok none, w)
  list _ _ w := (.ok [], w)
  close _ w := w
  note _ w := w

/-- The cache with its locks. -/
def locked : Table ρ (Cache Key Adapter) where
  lookup cache key := cache.find? key
  resolve key factory := (surroundings factory).call (Call.resolve key)
  contains cache key := cache.contains key
  size cache := cache.size
  clear cache := cache.clear

section Resolving

variable {key : Key} {adapter : Adapter} {factory : Factory ρ (Cache Key Adapter)}
  {w v : State ρ (Cache Key Adapter)}

/-- The stored adapter is returned. -/
theorem locked_resolve_of_found (found : w.table.find? key = some adapter)
    : locked.resolve key factory w = (.ok adapter, w) := by
  have inside : ((surroundings factory).access.cache w).find? key = some adapter := found
  simp only [locked, Surroundings.call_resolve, Cache.Access.resolve_of_found _ inside]
  rfl

/-- What is told to surroundings of this kind goes unheard. -/
theorem surroundings_told (stage : Cache.Stage Fault Adapter)
    : (surroundings factory).access.told key stage w = w := by
  simp only [Cache.Access.told]
  cases stage.notice? key ((surroundings factory).access.cache w) with
  | none => rfl
  | some notice => cases notice <;> rfl

/-- The cache once what a factory has made is stored, if it has made anything. -/
def cacheAfter (key : Key) (cache : Cache Key Adapter) : Except Fault Adapter → Cache Key Adapter
  | .ok adapter => cache.store key adapter
  | .error _ => cache

/-- A call that finds neither an adapter nor a lock builds under a lock of its own, stores what has
been made and drops the lock. -/
theorem surroundings_resolve (vacant : w.table.Vacant key) {made : Except Fault Adapter}
    (called
      : factory key.configuration.userProject key.options (w.put (w.table.locking key))
        = (made, v))
    : (surroundings factory).access.resolve key w
      = (some made,
          v.put
            (((cacheAfter key v.table made).release w.table.nextLock).leave w.table.nextLock)) := by
  obtain ⟨registers, acquires⟩ := vacant.acquire?_register
  have again : (w.table.locking key).find? key = none := vacant.absent
  have makes : (surroundings factory).access.make key (w.put (w.table.locking key))
      = (made, v) :=
    called
  have cache : ∀ u, (surroundings factory).access.cache u = u.table := fun _ => rfl
  have setCache : ∀ c u, (surroundings factory).access.setCache c u = u.put c :=
    fun _ _ => rfl
  simp only [Cache.Access.resolve, Cache.Stage.rank, Cache.Access.proceed, Cache.Stage.step,
    vacant.absent, registers, acquires, again, surroundings_told, cache, setCache, makes,
    State.put_table, State.put_put, State.put_self, Option.map_some]
  cases made <;>
    simp only [Cache.Access.proceed, Cache.Stage.made, Cache.Stage.step, surroundings_told, cache,
      setCache, State.put_table, State.put_put, cacheAfter]

/-- Nothing that can be seen happens in such a call after the factory has returned. -/
theorem locked_resolve_past_of_vacant (vacant : w.table.Vacant key)
    {made : Except Fault Adapter}
    (called
      : factory key.configuration.userProject key.options (w.put (w.table.locking key))
        = (made, v))
    : (locked.resolve key factory w).2.past = v.past := by
  simp only [locked, Surroundings.call_resolve, surroundings_resolve vacant called]
  cases made <;> rfl

/-- If the build leaves the lock of the call in place, no other lock is changed after it. -/
theorem locked_resolve_of_vacant (vacant : w.table.Vacant key) {made : Except Fault Adapter}
    (called
      : factory key.configuration.userProject key.options (w.put (w.table.locking key))
        = (made, v))
    {others : List (Lock Key)} {own : Lock Key} (last : v.table.locks = others ++ [own])
    (same : own.id = w.table.nextLock) (alone : own.waiters = 1) (after : v.table.Numbered)
    : locked.resolve key factory w
      = (made.mapError fun cause => .resolution ⟨.building, cause⟩,
          v.put { cacheAfter key v.table made with locks := others }) := by
  have leaves : ((cacheAfter key v.table made).release own.id).leave own.id
      = { cacheAfter key v.table made with locks := others } := by
    cases made with
    | ok adapter =>
        have numbered : (v.table.store key adapter).Numbered := ⟨after.distinct, after.fresh⟩
        exact numbered.leave_release last alone
    | error cause => exact after.leave_release last alone
  simp only [locked, Surroundings.call_resolve, surroundings_resolve vacant called, ← same, leaves]
  cases made <;> rfl

/-- A call only adds to what has happened, if the factory does so, by what each step of it keeps. -/
theorem locked_resolve_past (key : Key) (factory : Factory ρ (Cache Key Adapter))
    (w : State ρ (Cache Key Adapter))
    (grows : ∀ project options u, u.past <:+ (factory project options u).2.past)
    : w.past <:+ (locked.resolve key factory w).2.past := by
  have reached : (locked.resolve key factory w).2
      = ((surroundings factory).access.resolve key w).2 := by
    simp only [locked, Surroundings.call_resolve]
    rcases (surroundings factory).access.resolve key w with ⟨_ | _ | _, v⟩ <;> rfl
  rw [reached]
  refine ((surroundings factory).access.resolve_induction (fun _ u => w.past <:+ u.past) ?_
    (List.suffix_refl _)).elim fun _ grown => grown.1
  intro stage next u v grown goes
  cases goes with
  | move moves =>
      rw [surroundings_told]
      exact grown
  | make => exact grown.trans (grows _ _ _)

end Resolving

end Memo

end CloudBuckets
