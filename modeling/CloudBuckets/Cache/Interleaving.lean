import CloudBuckets.Cache.Call

/-! Calls on one cache whose steps are interleaved, as when they are made by several threads. -/

namespace CloudBuckets.Cache

/-- A call for a key, and where it stands. -/
structure Run (κ ε α : Type) where
  key : κ
  stage : Stage ε α

/-- A cache with the calls that have been started, in the order of their starts. -/
structure Pool (κ ε α : Type) where
  cache : Cache κ α
  runs : List (Run κ ε α)

namespace Pool

variable {κ ε α : Type} [DecidableEq κ]

/-- A new cache, and no calls. -/
def start : Pool κ ε α := ⟨.empty, []⟩

/-- What may happen next. Calls go by their place in the order of starts. -/
inductive Action (κ ε α : Type)
  /-- A call for a key is started. -/
  | call (key : κ)
  /-- A call takes a step. -/
  | advance (call : Nat)
  /-- The making of a value ends. -/
  | finish (call : Nat) (made : Except ε α)
  /-- The cache is cleared. -/
  | clear

/-- The pool after an action, if the action is possible. -/
def act (p : Pool κ ε α) : Action κ ε α → Option (Pool κ ε α)
  | .call key => some { p with runs := p.runs ++ [⟨key, .looking⟩] }
  | .advance call => do
      let run ← p.runs[call]?
      let (stage, cache) ← run.stage.step run.key p.cache
      return ⟨cache, p.runs.set call { run with stage }⟩
  | .finish call made => do
      let run ← p.runs[call]?
      match run.stage with
      | .making lock =>
          return { p with runs := p.runs.set call { run with stage := .made lock made } }
      | _ => none
  | .clear => some { p with cache := p.cache.clear }

/-- The pool after several actions, if each of them is possible. -/
def run (p : Pool κ ε α) : List (Action κ ε α) → Option (Pool κ ε α)
  | [] => some p
  | action :: rest => (p.act action).bind fun next => next.run rest

end Pool

end CloudBuckets.Cache
