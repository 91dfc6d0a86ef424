import CloudBuckets.Proofs.Calls
import CloudBuckets.Proofs.Crowd.Moves

/-! What plans come to, by the answers that they get. A call of a crowd goes by its own answers
only, however it is interleaved with others, so that its history tells what it has come to.
-/

namespace CloudBuckets

variable {β γ : Type}

-----------------------------------------------------------------------------------------
-- Histories of plans
-----------------------------------------------------------------------------------------

/-- With these answers to its requests, in order, a plan comes to this result. -/
inductive Plan.Comes : Plan β → List Answered → β → Prop
  | done (result : β) : Comes (.done result) [] result
  | resolve {key : Key} {next : Except Fault Adapter → Plan β} {answer} {rest : List Answered}
    {result : β} (goesOn : Comes (next answer) rest result)
    : Comes (.resolve key next) (.resolved key answer :: rest) result
  | build {project : String} {options : Option ClientOptions}
    {next : Except Fault Adapter → Plan β} {answer} {rest : List Answered} {result : β}
    (goesOn : Comes (next answer) rest result)
    : Comes (.build project options next)
        (.exchanged (.build project options answer) :: rest)
        result
  | probe {adapter : Adapter} {bucket : String}
    {next : Except AdapterError (Option Bool) → Plan β} {answer} {rest : List Answered} {result : β}
    (goesOn : Comes (next answer) rest result)
    : Comes (.probe adapter bucket next)
        (.exchanged (.probe adapter bucket answer) :: rest)
        result
  | list {adapter : Adapter} {start : Option String}
    {next : Except AdapterError (List String) → Plan β} {answer} {rest : List Answered} {result : β}
    (goesOn : Comes (next answer) rest result)
    : Comes (.list adapter start next) (.listed adapter start answer :: rest) result
  | close {adapter : Adapter} {next : Plan β} {history : List Answered} {result : β}
    (goesOn : Comes next history result)
    : Comes (.close adapter next) history result
  | note {record : LogRecord} {next : Plan β} {history : List Answered} {result : β}
    (goesOn : Comes next history result)
    : Comes (.note record next) history result

/-- A plan that goes on with the result of another gets its answers after those of the first, by
induction on the first plan.
-/
theorem Plan.Comes.of_bind {plan : Plan β} {next : β → Plan γ} {history : List Answered}
    {result : γ} (comes : (plan.bind next).Comes history result)
    : ∃ before after middle,
        history = before ++ after
        ∧ plan.Comes before middle
        ∧ (next middle).Comes after result := by
  induction plan generalizing history with
  | done middle => exact ⟨[], history, middle, rfl, .done middle, comes⟩
  | resolve key rest ih =>
      cases comes with
      | resolve goesOn =>
          obtain ⟨before, after, middle, rfl, first, last⟩ := ih _ goesOn
          exact ⟨_ :: before, after, middle, rfl, .resolve first, last⟩
  | build project options rest ih =>
      cases comes with
      | build goesOn =>
          obtain ⟨before, after, middle, rfl, first, last⟩ := ih _ goesOn
          exact ⟨_ :: before, after, middle, rfl, .build first, last⟩
  | probe adapter bucket rest ih =>
      cases comes with
      | probe goesOn =>
          obtain ⟨before, after, middle, rfl, first, last⟩ := ih _ goesOn
          exact ⟨_ :: before, after, middle, rfl, .probe first, last⟩
  | list adapter start rest ih =>
      cases comes with
      | list goesOn =>
          obtain ⟨before, after, middle, rfl, first, last⟩ := ih _ goesOn
          exact ⟨_ :: before, after, middle, rfl, .list first, last⟩
  | close adapter rest ih =>
      cases comes with
      | close goesOn =>
          obtain ⟨before, after, middle, rfl, first, last⟩ := ih goesOn
          exact ⟨before, after, middle, rfl, .close first, last⟩
  | note record rest ih =>
      cases comes with
      | note goesOn =>
          obtain ⟨before, after, middle, rfl, first, last⟩ := ih goesOn
          exact ⟨before, after, middle, rfl, .note first, last⟩

-----------------------------------------------------------------------------------------
-- Histories of the calls of a crowd
-----------------------------------------------------------------------------------------

/-- What a call comes to after a move, it comes to with what it has been answered. -/
theorem Task.Moves.comes {task next : Task β} {cache after : Cache Key Adapter}
    (moves : Task.Moves task cache next after) {rest : List Answered} {result : β}
    (comes : next.plan.Comes rest result)
    : task.plan.Comes (task.heard?.toList ++ rest) result := by
  cases moves with
  | stage moves => cases moves <;> exact comes
  | resolved => exact .resolve comes
  | close => exact .close comes
  | note => exact .note comes

theorem Task.Takes.comes {task next : Task β} {reply : Task.Reply}
    (takes : Task.Takes task reply next) {rest : List Answered} {result : β}
    (comes : next.plan.Comes rest result)
    : task.plan.Comes ((task.heardFrom? reply).toList ++ rest) result := by
  cases takes with
  | made => exact comes
  | built => exact .build comes
  | probed => exact .probe comes
  | listed => exact .list comes

namespace Crowd

/-- What the calls that have been started come to, they come to with their histories. -/
structure Traced (plans : List (Plan β)) (history : List (Nat × Answered)) (c : Crowd β)
    : Prop where
  count : c.tasks.length = plans.length
  known : ∀ entry ∈ history, entry.1 < c.tasks.length
  comes
    : ∀ (call : Nat) (plan : Plan β) (task : Task β) (rest : List Answered) (result : β),
        plans[call]? = some plan
        → c.tasks[call]? = some task
        → task.plan.Comes rest result
        → plan.Comes (own call history ++ rest) result

/-- A call that is started has no history yet. -/
theorem Traced.call {plans : List (Plan β)} {history : List (Nat × Answered)} {c : Crowd β}
    (traced : Traced plans history c) (plan : Plan β)
    : Traced (plans ++ [plan]) history { c with tasks := c.tasks ++ [.begin plan] } := by
  obtain ⟨count, known, comes⟩ := traced
  refine ⟨by simp [count], ?_, ?_⟩
  · intro entry member
    have before := known entry member
    simp only [List.length_append]
    omega
  · intro call begun task rest result planned found goesOn
    by_cases before : call < c.tasks.length
    · rw [List.getElem?_append_left (count ▸ before)] at planned
      rw [List.getElem?_append_left before] at found
      exact comes call begun task rest result planned found goesOn
    · have here : call = c.tasks.length := by
        have inside := (List.getElem?_eq_some_iff.mp found).1
        simp only [List.length_append, List.length_singleton] at inside
        omega
      subst here
      have fresh : own c.tasks.length history = [] := by
        refine List.eq_nil_iff_forall_not_mem.mpr fun entry member => ?_
        exact Nat.lt_irrefl _ (known _ (mem_own.mp member))
      rw [count, List.getElem?_concat_length] at planned
      rw [List.getElem?_concat_length] at found
      cases planned
      cases found
      rw [fresh]
      exact goesOn

/-- A call that moves on adds to its own history alone. -/
theorem Traced.set {plans : List (Plan β)} {history : List (Nat × Answered)} {c : Crowd β}
    (traced : Traced plans history c) {call : Nat} {task next : Task β}
    (found : c.tasks[call]? = some task) {heard : Option Answered}
    (goesOn
      : ∀ rest result,
          next.plan.Comes rest result → task.plan.Comes (heard.toList ++ rest) result)
    (cache : Cache Key Adapter)
    : Traced plans (history ++ (heard.map (call, ·)).toList) ⟨cache, c.tasks.set call next⟩ := by
  obtain ⟨count, known, comes⟩ := traced
  have inside := (List.getElem?_eq_some_iff.mp found).1
  refine ⟨by simpa using count, ?_, ?_⟩
  · intro entry member
    rw [List.length_set]
    rcases List.mem_append.mp member with old | new
    · exact known entry old
    · obtain ⟨answered, _, rfl⟩ := by simpa using new
      exact inside
  · intro other plan later rest result planned atOther onward
    rw [own_append]
    rcases Runs.set_cases atOther with ⟨rfl, rfl⟩ | ⟨apart, old⟩
    · rw [own_self, List.append_assoc]
      exact comes _ plan task _ result planned found (goesOn rest result onward)
    · rw [own_other apart, List.append_nil]
      exact comes other plan later rest result planned old onward

/-- In every run the calls go by their own histories. -/
theorem run_traced {cache : Cache Key Adapter} {c : Crowd β} {actions : List (Action β)}
    (reached : (start cache).run actions = some c)
    : Traced (started actions) ((start cache).history actions) c := by
  refine run_induction (fun actions c => Traced (started actions) ((start cache).history actions) c)
    reached ?_ ?_
  · refine ⟨rfl, fun _ member => absurd member List.not_mem_nil, ?_⟩
    intro call plan task rest result planned
    cases planned
  · intro before d action later next _ run traced acts
    rw [history_concat run]
    cases acts with
    | call plan =>
        have begun : started (before ++ [.call plan]) = started before ++ [plan] := by
          simp [started]
        rw [begun]
        simpa [heard] using traced.call plan
    | @advance call task after cache found moves =>
        have same : started (before ++ [.advance call]) = started before := by simp [started]
        have moved := traced.set found (fun rest result => moves.comes) cache
        simpa [same, heard, found] using moved
    | @answer call task after reply found takes =>
        have same : started (before ++ [.answer call reply]) = started before := by simp [started]
        have moved := traced.set found (fun rest result => takes.comes) d.cache
        simpa [same, heard, found] using moved

/-- A call that is at its end has come to its result by its history. -/
theorem run_comes {cache : Cache Key Adapter} {c : Crowd β} {actions : List (Action β)}
    (reached : (start cache).run actions = some c) {call : Nat} {plan : Plan β} {result : β}
    (planned : (started actions)[call]? = some plan) (ended : c.result? call = some result)
    : plan.Comes (own call ((start cache).history actions)) result := by
  obtain ⟨task, found, atResult⟩ := Option.bind_eq_some_iff.mp ended
  have atEnd : task.plan = .done result := by
    unfold Task.result? at atResult
    split at atResult <;> cases atResult
    assumption
  have comes := (run_traced reached).comes call plan task [] result planned found
    (atEnd ▸ .done result)
  rwa [List.append_nil] at comes

end Crowd

-----------------------------------------------------------------------------------------
-- Probes in histories
-----------------------------------------------------------------------------------------

/-- By itself a call does not probe. -/
theorem Task.heard?_isProbe (t : Task β) : t.heard?.toList.countP Answered.isProbe = 0 := by
  unfold heard?
  split <;> rfl

/-- A reply that answers a probe also passes between the call and the backend. -/
theorem Task.heardFrom?_isProbe (t : Task β) (reply : Task.Reply)
    : (t.heardFrom? reply).toList.countP Answered.isProbe
      = (t.exchange? reply).toList.countP Exchange.isProbe := by
  obtain ⟨plan, stage⟩ := t
  cases reply <;> cases plan <;> rfl

namespace Crowd

/-- So a call is answered as often as it probes with an action. -/
theorem heard_isProbe (c : Crowd β) (action : Action β) (call : Nat)
    : (own call (c.heard action).toList).countP Answered.isProbe
      = (own call (c.exchanged action).toList).countP Exchange.isProbe := by
  cases action with
  | call plan => rfl
  | advance other =>
      by_cases same : call = other
      · subst same
        simp only [heard, exchanged, own_self]
        cases c.tasks[call]? with
        | none => rfl
        | some task => exact task.heard?_isProbe
      · simp only [heard, own_other same]
        rfl
  | answer other reply =>
      by_cases same : call = other
      · subst same
        simp only [heard, exchanged, own_self]
        cases c.tasks[call]? with
        | none => rfl
        | some task => exact task.heardFrom?_isProbe reply
      · simp only [heard, exchanged, own_other same]
        rfl

/-- How often a call probes can be told from its history, by induction on the run. -/
theorem probes_eq (c : Crowd β) (actions : List (Action β)) (call : Nat)
    : c.probes actions call = (own call (c.history actions)).countP Answered.isProbe := by
  unfold probes exchanges history
  induction actions generalizing c with
  | nil => rfl
  | cons action rest ih =>
      simp only [log, own_append, List.countP_append, heard_isProbe]
      congr 1
      cases c.act action with
      | none => rfl
      | some next => exact ih next

end Crowd

end CloudBuckets
