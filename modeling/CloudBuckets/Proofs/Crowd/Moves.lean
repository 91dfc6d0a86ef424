import CloudBuckets.Interleaving
import CloudBuckets.Proofs.Cache.Moves
import CloudBuckets.Proofs.Recording

/-! What calls on one cache can do next, one case for each kind of move, and what is seen of it:
what passes between the calls and the backend, and what their requests are answered.
-/

namespace CloudBuckets

variable {β : Type}

-----------------------------------------------------------------------------------------
-- The moves of one call
-----------------------------------------------------------------------------------------

/-- A request of a plan, with the answer. -/
inductive Answered
  /-- A request to the cache, whether or not the adapter had to be built. -/
  | resolved (key : Key) (answer : Except Fault Adapter)
  /-- A request to the backend. -/
  | exchanged (exchange : Exchange)
  | listed (adapter : Adapter) (start : Option String) (names : Except AdapterError (List String))

/-- The adapter that has been built. -/
def Exchange.adapter? : Exchange → Option Adapter
  | .build _ _ (.ok adapter) => some adapter
  | _ => none

/-- The answer is that of an adapter that has been probed. -/
def Answered.isProbe : Answered → Bool
  | .exchanged exchange => exchange.isProbe
  | _ => false

namespace Task

/-- What passes between a call and the backend with a reply. -/
def exchange? (t : Task β) : Reply → Option Exchange
  | .built made =>
      match t.plan with
      | .resolve key _ => some (.build key.configuration.userProject key.options made)
      | .build project options _ => some (.build project options made)
      | _ => none
  | .probed answer =>
      match t.plan with
      | .probe adapter bucket _ => some (.probe adapter bucket answer)
      | _ => none
  | .listed _ => none

/-- What the plan of a call is answered by the next step of the call. -/
def heard? (t : Task β) : Option Answered :=
  match t.plan, t.stage with
  | .resolve key _, .done result => some (.resolved key result)
  | _, _ => none

/-- What the plan of a call is answered by a reply. What is built for the cache is stored first. -/
def heardFrom? (t : Task β) (reply : Reply) : Option Answered :=
  match t.plan with
  | .resolve _ _ => none
  | .list adapter start _ =>
      match reply with
      | .listed names => some (.listed adapter start names)
      | _ => none
  | _ => (t.exchange? reply).map .exchanged

/-- The moves that a call takes by itself, each with the cache before and after it. -/
inductive Moves : Task β → Cache Key Adapter → Task β → Cache Key Adapter → Prop
  | stage {key : Key} {next : Except Fault Adapter → Plan β} {stage after}
    {cache cacheAfter : Cache Key Adapter}
    (moves : Cache.Moves key stage cache after cacheAfter)
    : Moves ⟨.resolve key next, stage⟩ cache ⟨.resolve key next, after⟩ cacheAfter
  | resolved {key : Key} {next : Except Fault Adapter → Plan β} {result cache}
    : Moves ⟨.resolve key next, .done result⟩ cache (.begin (next result)) cache
  | close {adapter : Adapter} {next : Plan β} {stage cache}
    : Moves ⟨.close adapter next, stage⟩ cache (.begin next) cache
  | note {record : LogRecord} {next : Plan β} {stage cache}
    : Moves ⟨.note record next, stage⟩ cache (.begin next) cache

/-- Every step of a call is one of its moves, by cases on the plan. -/
theorem step_moves {task next : Task β} {cache after : Cache Key Adapter}
    (stepped : task.step cache = some (next, after))
    : Moves task cache next after := by
  obtain ⟨plan, stage⟩ := task
  cases plan with
  | resolve key goesOn =>
      simp only [step] at stepped
      split at stepped
      · cases stepped
        exact .resolved
      · obtain ⟨⟨later, cacheAfter⟩, moved, same⟩ := Option.map_eq_some_iff.mp stepped
        cases same
        exact .stage (Cache.Stage.step_moves moved)
  | close adapter goesOn => cases stepped; exact .close
  | note record goesOn => cases stepped; exact .note
  | done | build | probe | list => cases stepped

/-- The moves that a call takes with a reply. -/
inductive Takes : Task β → Reply → Task β → Prop
  | made {key : Key} {next : Except Fault Adapter → Plan β} {lock : Nat}
    (made : Except Fault Adapter)
    : Takes ⟨.resolve key next, .making lock⟩ (.built made) ⟨.resolve key next, .made lock made⟩
  | built {project : String} {options : Option ClientOptions}
    {next : Except Fault Adapter → Plan β} {stage} (made : Except Fault Adapter)
    : Takes ⟨.build project options next, stage⟩ (.built made) (.begin (next made))
  | probed {adapter : Adapter} {bucket : String}
    {next : Except AdapterError (Option Bool) → Plan β} {stage}
    (answer : Except AdapterError (Option Bool))
    : Takes ⟨.probe adapter bucket next, stage⟩ (.probed answer) (.begin (next answer))
  | listed {adapter : Adapter} {start : Option String}
    {next : Except AdapterError (List String) → Plan β} {stage}
    (names : Except AdapterError (List String))
    : Takes ⟨.list adapter start next, stage⟩ (.listed names) (.begin (next names))

/-- Every reply is taken in one of these ways, by cases on the reply and the plan. -/
theorem answer_takes {task next : Task β} {reply : Reply}
    (answered : task.answer reply = some next)
    : Takes task reply next := by
  obtain ⟨plan, stage⟩ := task
  cases reply with
  | built made =>
      simp only [answer] at answered
      split at answered <;> cases answered
      · exact .made made
      · exact .built made
  | probed answer =>
      simp only [Task.answer] at answered
      split at answered <;> cases answered
      exact .probed answer
  | listed names =>
      simp only [Task.answer] at answered
      split at answered <;> cases answered
      exact .listed names

end Task

-----------------------------------------------------------------------------------------
-- The moves of a crowd
-----------------------------------------------------------------------------------------

namespace Crowd

/-- A cache on which no call has been started. -/
def start (cache : Cache Key Adapter) : Crowd β := ⟨cache, []⟩

/-- What a call has come to, if it is at its end. -/
def result? (c : Crowd β) (call : Nat) : Option β :=
  c.tasks[call]?.bind Task.result?

/-- A call takes several steps that need no answer. -/
def steps (call count : Nat) : List (Action β) :=
  List.replicate count (.advance call)

/-- What an action does to a crowd in which it is possible. -/
inductive Acts (c : Crowd β) : Action β → Crowd β → Prop
  | call (plan : Plan β) : Acts c (.call plan) { c with tasks := c.tasks ++ [.begin plan] }
  | advance {call task next cache} (found : c.tasks[call]? = some task)
    (moves : Task.Moves task c.cache next cache)
    : Acts c (.advance call) ⟨cache, c.tasks.set call next⟩
  | answer {call task next} {reply : Task.Reply} (found : c.tasks[call]? = some task)
    (takes : Task.Takes task reply next)
    : Acts c (.answer call reply) { c with tasks := c.tasks.set call next }

/-- Every action of a crowd is one of these, by cases on the action. -/
theorem act_acts {c next : Crowd β} {action : Action β} (acted : c.act action = some next)
    : c.Acts action next := by
  cases action with
  | call plan => cases acted; exact .call plan
  | advance call =>
      simp only [act, Option.bind_eq_bind, Option.bind_eq_some_iff] at acted
      obtain ⟨task, found, ⟨later, cache⟩, stepped, same⟩ := acted
      cases same
      exact .advance found (Task.step_moves stepped)
  | answer call reply =>
      simp only [act, Option.bind_eq_bind, Option.bind_eq_some_iff] at acted
      obtain ⟨task, found, later, answered, same⟩ := acted
      cases same
      exact .answer found (Task.answer_takes answered)

theorem run_eq_foldlM (c : Crowd β) (actions : List (Action β))
    : c.run actions = actions.foldlM act c := by
  induction actions generalizing c with
  | nil => rfl
  | cons action rest ih => exact congrArg (c.act action).bind (funext ih)

/-- A run of two lists of actions is a run of the first and then of the second. -/
theorem run_append {c d : Crowd β} (before after : List (Action β))
    : c.run (before ++ after) = some d
      ↔ ∃ middle, c.run before = some middle ∧ middle.run after = some d := by
  simp only [run_eq_foldlM]
  exact Runs.append_iff before after

/-- What holds at the start of a run and is kept by each action, given the run so far, holds at its
end.
-/
theorem run_induction {first c : Crowd β} {actions : List (Action β)}
    (Holds : List (Action β) → Crowd β → Prop) (reached : first.run actions = some c)
    (begins : Holds [] first)
    (kept
      : ∀ before d action later next,
          actions = before ++ action :: later
          → first.run before = some d
          → Holds before d
          → d.Acts action next
          → Holds (before ++ [action]) next)
    : Holds actions c := by
  rw [run_eq_foldlM] at reached
  refine Runs.induction Holds reached begins ?_
  intro before d action later next split run holds acted
  rw [← run_eq_foldlM] at run
  exact kept before d action later next split run holds (act_acts acted)

-----------------------------------------------------------------------------------------
-- What is seen of a run
-----------------------------------------------------------------------------------------

/-- What passes between a call and the backend with an action. -/
def exchanged (c : Crowd β) : Action β → Option (Nat × Exchange)
  | .answer call reply => (c.tasks[call]?.bind (·.exchange? reply)).map (call, ·)
  | _ => none

/-- What the plan of a call is answered with an action. -/
def heard (c : Crowd β) : Action β → Option (Nat × Answered)
  | .call _ => none
  | .advance call => (c.tasks[call]?.bind Task.heard?).map (call, ·)
  | .answer call reply => (c.tasks[call]?.bind (·.heardFrom? reply)).map (call, ·)

/-- What is seen of a run, in order. -/
def log {ν : Type} (sees : Crowd β → Action β → Option ν) (c : Crowd β) : List (Action β) → List ν
  | [] => []
  | action :: rest =>
      (sees c action).toList
        ++ match c.act action with
          | some next => next.log sees rest
          | none => []

/-- What passes between calls and the backend in a run, in order. Calls go by their place. -/
def exchanges (c : Crowd β) (actions : List (Action β)) : List (Nat × Exchange) :=
  c.log exchanged actions

/-- What the plans of calls are answered in a run, in order. -/
def history (c : Crowd β) (actions : List (Action β)) : List (Nat × Answered) :=
  c.log heard actions

/-- What is seen of one call. -/
def own {ν : Type} (call : Nat) (seen : List (Nat × ν)) : List ν :=
  seen.filterMap fun entry => if entry.1 = call then some entry.2 else none

/-- The adapters that are built in a run, in order. -/
def built (c : Crowd β) (actions : List (Action β)) : List Adapter :=
  (c.exchanges actions).filterMap (·.2.adapter?)

/-- How often a call probes in a run. -/
def probes (c : Crowd β) (actions : List (Action β)) (call : Nat) : Nat :=
  (own call (c.exchanges actions)).countP Exchange.isProbe

/-- The plans of the calls that are started in a run, in order. -/
def started : List (Action β) → List (Plan β) :=
  List.filterMap fun
    | .call plan => some plan
    | _ => none

variable {ν : Type}

theorem log_cons {sees : Crowd β → Action β → Option ν} {c next : Crowd β} {action : Action β}
    (acted : c.act action = some next) (rest : List (Action β))
    : c.log sees (action :: rest) = (sees c action).toList ++ next.log sees rest := by
  rw [log, acted]

/-- What is seen of a run is seen of its first part and then of the rest. -/
theorem log_append {sees : Crowd β → Action β → Option ν} {c d : Crowd β} {before : List (Action β)}
    (reached : c.run before = some d) (after : List (Action β))
    : c.log sees (before ++ after) = c.log sees before ++ d.log sees after := by
  induction before generalizing c with
  | nil => cases reached; rfl
  | cons action rest ih =>
      obtain ⟨next, acted, run⟩ := Option.bind_eq_some_iff.mp reached
      rw [List.cons_append, log_cons acted, log_cons acted, ih run, List.append_assoc]

/-- What is seen of a run with one more action. -/
theorem log_concat {sees : Crowd β → Action β → Option ν} {c d : Crowd β}
    {before : List (Action β)} (reached : c.run before = some d) (action : Action β)
    : c.log sees (before ++ [action]) = c.log sees before ++ (sees d action).toList := by
  have last : d.log sees [action] = (sees d action).toList := by
    simp only [log]
    split <;> exact List.append_nil _
  rw [log_append reached, last]

/-- A call is told of an adapter at the end of its request to the cache. -/
theorem of_heard_resolved {c : Crowd β} {action : Action β} {call : Nat} {key : Key}
    {answer : Except Fault Adapter} (told : c.heard action = some (call, .resolved key answer))
    : ∃ next, c.tasks[call]? = some ⟨.resolve key next, .done answer⟩ := by
  cases action with
  | call plan => cases told
  | advance other =>
      obtain ⟨entry, answered, same⟩ := Option.map_eq_some_iff.mp told
      obtain ⟨⟨plan, stage⟩, found, heard⟩ := Option.bind_eq_some_iff.mp answered
      cases same
      unfold Task.heard? at heard
      split at heard
      · rename_i asks ended
        obtain rfl : plan = _ := asks
        obtain rfl : stage = _ := ended
        cases heard
        exact ⟨_, found⟩
      · cases heard
  | answer other reply =>
      obtain ⟨entry, answered, same⟩ := Option.map_eq_some_iff.mp told
      obtain ⟨⟨plan, stage⟩, found, heard⟩ := Option.bind_eq_some_iff.mp answered
      cases same
      cases plan <;> cases reply <;> cases heard

/-- What is seen of an action is seen of a run with it. -/
theorem mem_log {sees : Crowd β → Action β → Option ν} {c d : Crowd β}
    {before later : List (Action β)}
    (reached : c.run before = some d) {action : Action β} {entry : ν}
    (seen : sees d action = some entry)
    : entry ∈ c.log sees (before ++ action :: later) := by
  rw [log_append reached, log, seen]
  simp

@[simp]
theorem own_append (call : Nat) (seen more : List (Nat × ν))
    : own call (seen ++ more) = own call seen ++ own call more :=
  List.filterMap_append

theorem own_self (call : Nat) (seen : Option ν)
    : own call (seen.map (call, ·)).toList = seen.toList := by
  cases seen <;> simp [own]

theorem own_other {call other : Nat} (apart : other ≠ call) (seen : Option ν)
    : own other (seen.map (call, ·)).toList = [] := by
  cases seen <;> simp [own, apart.symm]

theorem mem_own {call : Nat} {seen : List (Nat × ν)} {entry : ν}
    : entry ∈ own call seen ↔ (call, entry) ∈ seen := by
  simp [own]

theorem exchanges_concat {c d : Crowd β} {before : List (Action β)}
    (reached : c.run before = some d) (action : Action β)
    : c.exchanges (before ++ [action]) = c.exchanges before ++ (d.exchanged action).toList :=
  log_concat reached action

theorem history_concat {c d : Crowd β} {before : List (Action β)} (reached : c.run before = some d)
    (action : Action β)
    : c.history (before ++ [action]) = c.history before ++ (d.heard action).toList :=
  log_concat reached action

end Crowd

end CloudBuckets
