import CloudBuckets.Cache.Access
import CloudBuckets.Event
import CloudBuckets.Provider

/-! Plans: what a call is going to ask of its surroundings, one request after the other. A plan can
be carried out by itself, where nothing happens in between but what the building of an adapter
sets off. -/

namespace CloudBuckets

/-- The requests that a call has left, up to its result. -/
inductive Plan (β : Type)
  | done (result : β)
  /-- Asks the cache for the adapter of a key, which is built if there is none. -/
  | resolve (key : Key) (next : Except Fault Adapter → Plan β)
  /-- Builds an adapter. -/
  | build (project : String) (options : Option ClientOptions)
      (next : Except Fault Adapter → Plan β)
  /-- Asks an adapter whether a bucket is requester-pays. -/
  | probe (adapter : Adapter) (bucket : String)
      (next : Except AdapterError (Option Bool) → Plan β)
  /-- Asks an adapter for the names of buckets. -/
  | list (adapter : Adapter) (start : Option String)
      (next : Except AdapterError (List String) → Plan β)
  /-- Closes an adapter. -/
  | close (adapter : Adapter) (next : Plan β)
  /-- Writes a log record. -/
  | note (record : LogRecord) (next : Plan β)

namespace Plan

/-- The plan that goes on with the result of another. -/
def bind {β γ : Type} : Plan β → (β → Plan γ) → Plan γ
  | done result, f => f result
  | resolve key next, f => resolve key fun answer => (next answer).bind f
  | build project options next, f => build project options fun answer => (next answer).bind f
  | probe adapter bucket next, f => probe adapter bucket fun answer => (next answer).bind f
  | list adapter start next, f => list adapter start fun answer => (next answer).bind f
  | close adapter next, f => close adapter (next.bind f)
  | note record next, f => note record (next.bind f)

instance : Monad Plan where
  pure := done
  bind := bind

end Plan

/-- Plans that may end with an error. -/
abbrev Call := ExceptT Error Plan

namespace Call

/-- The adapter of a key. -/
def resolve (key : Key) : Call Adapter :=
  ExceptT.mk (.resolve key fun
    | .ok adapter => .done (.ok adapter)
    | .error cause => .done (.error (.resolution ⟨.building, cause⟩)))

/-- A new adapter. -/
def build (project : String) (options : Option ClientOptions) : Call Adapter :=
  ExceptT.mk (.build project options fun
    | .ok adapter => .done (.ok adapter)
    | .error cause => .done (.error (.fault cause)))

/-- Whether a bucket is requester-pays, by the answer of an adapter. -/
def probe (adapter : Adapter) (bucket : String) : Plan (Except AdapterError (Option Bool)) :=
  .probe adapter bucket .done

/-- The names of buckets that begin with a text, by the answer of an adapter. -/
def list (adapter : Adapter) (start : Option String) : Plan (Except AdapterError (List String)) :=
  .list adapter start .done

/-- Closes an adapter. -/
def close (adapter : Adapter) : Plan Unit :=
  .close adapter (.done ())

/-- Writes a log record. -/
def note (record : LogRecord) : Plan Unit :=
  .note record (.done ())

end Call

/-- What answers the requests of plans, as functions on some state. The cache can be seen and
changed in the state, and only the building of an adapter may change it in passing. -/
structure Surroundings (σ : Type) where
  cache : σ → Cache Key Adapter
  setCache : Cache Key Adapter → σ → σ
  build : String → Option ClientOptions → σ → Except Fault Adapter × σ
  probe : Adapter → String → σ → Except AdapterError (Option Bool) × σ
  list : Adapter → Option String → σ → Except AdapterError (List String) × σ
  close : Adapter → σ → σ
  note : LogRecord → σ → σ

namespace Surroundings

variable {σ : Type} (s : Surroundings σ)

/-- The cache, as it is used by calls for a key. -/
def access : Cache.Access σ Key Fault Adapter where
  cache := s.cache
  setCache := s.setCache
  make key := s.build key.configuration.userProject key.options
  tell key
    | .reusing => s.note (.reusing key)
    | .making => s.note (.building key)

/-- Carries out a plan. There is no result if it waits for itself. -/
def carryOut {β : Type} : Plan β → σ → Option β × σ
  | .done result, w => (some result, w)
  | .resolve key next, w =>
      match s.access.resolve key w with
      | (some answer, w) => carryOut (next answer) w
      | (none, w) => (none, w)
  | .build project options next, w =>
      let (answer, w) := s.build project options w
      carryOut (next answer) w
  | .probe adapter bucket next, w =>
      let (answer, w) := s.probe adapter bucket w
      carryOut (next answer) w
  | .list adapter start next, w =>
      let (answer, w) := s.list adapter start w
      carryOut (next answer) w
  | .close adapter next, w => carryOut next (s.close adapter w)
  | .note record next, w => carryOut next (s.note record w)

/-- Carries out a call. A call that waits for itself ends with an error. -/
def call {β : Type} (plan : Call β) (w : σ) : Except Error β × σ :=
  match s.carryOut plan.run w with
  | (some result, w) => (result, w)
  | (none, w) => (.error .deadlock, w)

end Surroundings

end CloudBuckets
