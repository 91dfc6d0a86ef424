import CloudBuckets.Plan

/-! Calls whose requests are interleaved, as when they are made by several threads on one cache. A
request to the cache takes several steps, and all other requests take one. -/

namespace CloudBuckets

/-- A call under way: what it has left, and where its request to the cache stands, if that comes
next. -/
structure Task (β : Type) where
  plan : Plan β
  stage : Cache.Stage Fault Adapter

/-- A cache with the calls that have been started, in the order of their starts. -/
structure Crowd (β : Type) where
  cache : Cache Key Adapter
  tasks : List (Task β)

namespace Task

variable {β : Type}

/-- A call at its start, or where it goes on with a plan. -/
def begin (plan : Plan β) : Task β := ⟨plan, .looking⟩

/-- What a call has come to, if it is at its end. -/
def result? (t : Task β) : Option β :=
  match t.plan with
  | .done result => some result
  | _ => none

/-- What surroundings may answer. -/
inductive Reply
  | built (made : Except Fault Adapter)
  | probed (answer : Except AdapterError (Option Bool))
  | listed (names : Except AdapterError (List String))

/-- The next step of a call that needs no answer. -/
def step (t : Task β) (cache : Cache Key Adapter) : Option (Task β × Cache Key Adapter) :=
  match t.plan with
  | .resolve key next =>
      match t.stage with
      | .done result => some (begin (next result), cache)
      | stage => (stage.step key cache).map fun (stage, cache) => (⟨t.plan, stage⟩, cache)
  | .close _ next | .note _ next => some (begin next, cache)
  | _ => none

/-- A call that has asked something, with the answer. -/
def answer (t : Task β) : Reply → Option (Task β)
  | .built made =>
      match t.plan, t.stage with
      | .resolve _ _, .making lock => some ⟨t.plan, .made lock made⟩
      | .build _ _ next, _ => some (begin (next made))
      | _, _ => none
  | .probed answer =>
      match t.plan with
      | .probe _ _ next => some (begin (next answer))
      | _ => none
  | .listed names =>
      match t.plan with
      | .list _ _ next => some (begin (next names))
      | _ => none

end Task

namespace Crowd

variable {β : Type}

/-- What may happen next. Calls go by their place in the order of starts. -/
inductive Action (β : Type)
  /-- A call is started. -/
  | call (plan : Plan β)
  /-- A call takes a step that needs no answer. -/
  | advance (call : Nat)
  /-- A call gets an answer. -/
  | answer (call : Nat) (reply : Task.Reply)

/-- The crowd after an action, if the action is possible. -/
def act (c : Crowd β) : Action β → Option (Crowd β)
  | .call plan => some { c with tasks := c.tasks ++ [.begin plan] }
  | .advance call => do
      let task ← c.tasks[call]?
      let (task, cache) ← task.step c.cache
      return ⟨cache, c.tasks.set call task⟩
  | .answer call reply => do
      let task ← c.tasks[call]?
      let task ← task.answer reply
      return { c with tasks := c.tasks.set call task }

/-- The crowd after several actions, if each of them is possible. -/
def run (c : Crowd β) : List (Action β) → Option (Crowd β)
  | [] => some c
  | action :: rest => (c.act action).bind fun next => next.run rest

end Crowd

end CloudBuckets
