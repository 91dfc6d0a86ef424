import CloudBuckets.Cache.Basic

/-! The steps of a call that looks a key up in a cache and makes the value if there is none. Each
step is atomic: it sees and changes the cache at one moment. -/

namespace CloudBuckets.Cache

/-- Where a call stands. The lock that it has registered on goes by its number. -/
inductive Stage (ε α : Type)
  /-- About to look the key up. -/
  | looking
  /-- About to register on the lock of the key. -/
  | registering
  /-- About to take the lock. -/
  | acquiring (lock : Nat)
  /-- About to look the key up once more, with the lock taken. -/
  | rechecking (lock : Nat)
  /-- About to start making a value. -/
  | starting (lock : Nat)
  /-- A value is being made. -/
  | making (lock : Nat)
  /-- About to cache the value made. -/
  | storing (lock : Nat) (value : α)
  /-- About to give the lock back. -/
  | releasing (lock : Nat) (result : Except ε α)
  /-- About to end the registration. -/
  | leaving (lock : Nat) (result : Except ε α)
  /-- At its end. -/
  | done (result : Except ε α)

namespace Stage

variable {κ ε α : Type} [DecidableEq κ]

/-- The next step of a call for a key. There is none while the lock is held by another call or a
value is being made, and at the end. -/
def step (key : κ) (cache : Cache κ α) : Stage ε α → Option (Stage ε α × Cache κ α)
  | looking =>
      match cache.find? key with
      | some value => some (done (.ok value), cache)
      | none => some (registering, cache)
  | registering =>
      let (lock, cache) := cache.register key
      some (acquiring lock, cache)
  | acquiring lock => (cache.acquire? lock).map fun cache => (rechecking lock, cache)
  | rechecking lock =>
      match cache.find? key with
      | some value => some (releasing lock (.ok value), cache)
      | none => some (starting lock, cache)
  | starting lock => some (making lock, cache)
  | making _ => none
  | storing lock value => some (releasing lock (.ok value), cache.store key value)
  | releasing lock result => some (leaving lock result, cache.release lock)
  | leaving lock result => some (done result, cache.leave lock)
  | done _ => none

/-- The stage after a value has been made, or could not be made. -/
def made (lock : Nat) : Except ε α → Stage ε α
  | .ok value => storing lock value
  | .error failure => releasing lock (.error failure)

/-- How many steps a call takes to its end from here, at most. -/
def rank : Stage ε α → Nat
  | looking => 9
  | registering => 8
  | acquiring _ => 7
  | rechecking _ => 6
  | starting _ => 5
  | making _ => 4
  | storing _ _ => 3
  | releasing _ _ => 2
  | leaving _ _ => 1
  | done _ => 0

/-- What a call has to tell at its next step. -/
inductive Notice
  /-- The value is there. -/
  | reusing
  /-- The value has to be made. -/
  | making
deriving DecidableEq, Repr

/-- What a call for a key has to tell at its next step, if anything. -/
def notice? (key : κ) (cache : Cache κ α) : Stage ε α → Option Notice
  | looking => if cache.contains key then some .reusing else none
  | starting _ => some .making
  | _ => none

end Stage

end CloudBuckets.Cache
