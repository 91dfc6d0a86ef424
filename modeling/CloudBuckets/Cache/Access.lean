import CloudBuckets.Cache.Call

/-! Calls carried out alone, where nothing happens to the cache in between but what the making of a
value sets off. -/

namespace CloudBuckets.Cache

/-- A cache that is part of some state, and how a value for a key is made in that state. -/
structure Access (σ κ ε α : Type) where
  cache : σ → Cache κ α
  setCache : Cache κ α → σ → σ
  make : κ → σ → Except ε α × σ
  /-- What is done about a notice. -/
  tell : κ → Stage.Notice → σ → σ

namespace Access

variable {σ κ ε α : Type} [DecidableEq κ] (access : Access σ κ ε α)

/-- The state once it is told what a call for a key has to tell at its next step. -/
def told (key : κ) (stage : Stage ε α) (w : σ) : σ :=
  match stage.notice? key (access.cache w) with
  | some notice => access.tell key notice w
  | none => w

/-- Goes on with a call for a key for a number of steps. There is no result if the call has not
come to its end, as when it waits for a lock that is held by a call around it. -/
def proceed (key : κ) : Nat → Stage ε α → σ → Option (Except ε α) × σ
  | _, .done result, w => (some result, w)
  | 0, _, w => (none, w)
  | n + 1, .making lock, w =>
      let (made, w) := access.make key w
      proceed key n (.made lock made) w
  | n + 1, stage, w =>
      match stage.step key (access.cache w) with
      | some (next, cache) => proceed key n next (access.setCache cache (access.told key stage w))
      | none => (none, w)

/-- The value of a key, which is made unless it is cached. -/
def resolve (key : κ) (w : σ) : Option (Except ε α) × σ :=
  access.proceed key (Stage.looking : Stage ε α).rank .looking w

end Access

end CloudBuckets.Cache
