/-! A cache of values that are expensive to make. A call that has to make one registers on a lock
for its key, so that calls for one key wait for each other and calls for different keys do not.
A lock is dropped by the last call that leaves it. -/

namespace CloudBuckets

/-- A lock for a key. -/
structure Lock (κ : Type) where
  /-- Its number tells it from all other locks. -/
  id : Nat
  key : κ
  /-- How many calls have registered and not yet left. -/
  waiters : Nat
  held : Bool
  /-- Whether calls that register for the key find it. -/
  listed : Bool
deriving DecidableEq, Repr

/-- The cached values and the locks in use. -/
structure Cache (κ α : Type) where
  entries : List (κ × α)
  locks : List (Lock κ)
  nextLock : Nat
deriving DecidableEq, Repr

namespace Cache

variable {κ α : Type} [DecidableEq κ]

/-- A cache with nothing in it. -/
def empty : Cache κ α := ⟨[], [], 0⟩

instance : Inhabited (Cache κ α) := ⟨empty⟩

/-- The value cached for a key. -/
def find? (cache : Cache κ α) (key : κ) : Option α :=
  cache.entries.lookup key

/-- Whether a value is cached for a key. -/
def contains (cache : Cache κ α) (key : κ) : Bool :=
  (cache.find? key).isSome

/-- How many values are cached. -/
def size (cache : Cache κ α) : Nat :=
  cache.entries.length

/-- Caches a value for a key, in place of any other. -/
def store (cache : Cache κ α) (key : κ) (value : α) : Cache κ α :=
  { cache with entries := (key, value) :: cache.entries.filter fun entry => entry.1 ≠ key }

/-- The lock with a given number. -/
def lock? (cache : Cache κ α) (id : Nat) : Option (Lock κ) :=
  cache.locks.find? fun lock => lock.id = id

/-- The lock that calls for a key find. -/
def listed? (cache : Cache κ α) (key : κ) : Option (Lock κ) :=
  cache.locks.find? fun lock => lock.listed && lock.key = key

/-- Changes the lock with a given number. -/
def changeLock (cache : Cache κ α) (id : Nat) (change : Lock κ → Lock κ) : Cache κ α :=
  { cache with locks := cache.locks.map fun lock => if lock.id = id then change lock else lock }

/-- Registers a call for a key, on the lock listed for it or else on a new one. -/
def register (cache : Cache κ α) (key : κ) : Nat × Cache κ α :=
  match cache.listed? key with
  | some lock =>
      (lock.id, cache.changeLock lock.id fun lock => { lock with waiters := lock.waiters + 1 })
  | none =>
      let id := cache.nextLock
      (id, { cache with
        locks := cache.locks ++ [⟨id, key, 1, false, true⟩]
        nextLock := id + 1 })

/-- Takes a lock, unless it is held. -/
def acquire? (cache : Cache κ α) (id : Nat) : Option (Cache κ α) :=
  match cache.lock? id with
  | some lock =>
      if lock.held then none
      else some (cache.changeLock id fun lock => { lock with held := true })
  | none => none

/-- Gives a lock back. -/
def release (cache : Cache κ α) (id : Nat) : Cache κ α :=
  cache.changeLock id fun lock => { lock with held := false }

/-- Ends the registration of a call, and drops the lock if it was the last. -/
def leave (cache : Cache κ α) (id : Nat) : Cache κ α :=
  let left := cache.changeLock id fun lock => { lock with waiters := lock.waiters - 1 }
  { left with locks := left.locks.filter fun lock => lock.id ≠ id || 0 < lock.waiters }

/-- Forgets all values, and lets no later call find the locks in use. -/
def clear (cache : Cache κ α) : Cache κ α :=
  { cache with
    entries := []
    locks := cache.locks.map fun lock => { lock with listed := false } }

end Cache

end CloudBuckets
