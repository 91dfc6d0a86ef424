import CloudBuckets.Proofs.Crowd.Mirroring
import CloudBuckets.Proofs.Crowd.Openings

/-! Handles share adapters. The adapter of a handle is the one that the cache has for the
configuration of the handle, however the handle has come by it, so that handles have one adapter
just if they have one configuration and one set of options.
-/

namespace CloudBuckets

-----------------------------------------------------------------------------------------
-- Calls for handles and for adapters
-----------------------------------------------------------------------------------------

/-- What a call asks of a cache: a handle, or the adapter of a key itself. -/
inductive Demand
  | handle (request : Opening.Request)
  | adapter (key : Key)

/-- What a call is given. -/
inductive Supply
  | handle (handle : Handle)
  | adapter (adapter : Adapter)

/-- The plan of a call. -/
def Demand.plan : Demand → Plan (Except Error Supply)
  | handle r =>
      ExceptT.run do
        return .handle (← openBucket r.bucket r.configuration r.options r.scheme)
  | adapter key =>
      ExceptT.run do
        return .adapter (← Call.resolve key)

/-- The adapter of a handle is that with which the cache has answered for the configuration of the
handle, at the first request or at the second.
-/
theorem Opening.History.resolved {bucket : Value} {c : Configuration}
    {options : Option ClientOptions} {scheme : String} {history : List Answered} {h : Handle}
    (opens : Opening.History bucket c options scheme history (.ok h))
    : .resolved ⟨h.configuration, options⟩ (.ok h.adapter) ∈ history := by
  cases opens with
  | opened named billable settles =>
      cases settles with
      | unconditional | pays => exact List.mem_cons_self
      | strips => simp

theorem Demand.resolved_of_handle {r : Opening.Request} {history : List Answered} {h : Handle}
    (comes : (Demand.handle r).plan.Comes history (.ok (.handle h)))
    : .resolved ⟨h.configuration, r.options⟩ (.ok h.adapter) ∈ history := by
  rcases Call.comes_bind comes with ⟨_, _, same⟩ | ⟨before, after, opened, rfl, opens, ends⟩
  · cases same
  · obtain ⟨_, same⟩ := Call.comes_pure ends
    cases same
    exact List.mem_append_left _ (Opening.history opens).resolved

theorem Demand.resolved_of_adapter {key : Key} {history : List Answered} {a : Adapter}
    (comes : (Demand.adapter key).plan.Comes history (.ok (.adapter a)))
    : .resolved key (.ok a) ∈ history := by
  rcases Call.comes_bind comes with ⟨_, _, same⟩ | ⟨before, after, found, rfl, resolved, ends⟩
  · cases same
  · obtain ⟨_, same⟩ := Call.comes_pure ends
    cases same
    rcases Call.comes_resolve resolved with ⟨_, _, same⟩ | ⟨_, rfl, same⟩
    · cases same
    · cases same
      simp

-----------------------------------------------------------------------------------------
-- What calls have been given is cached
-----------------------------------------------------------------------------------------

namespace Crowd

variable {demands : List Demand} {actions : List (Action (Except Error Supply))}
    {c d : Crowd (Except Error Supply)}

/-- What a call has been told of when it ends is cached then. -/
theorem run_holds (planned : started actions = demands.map Demand.plan)
    {before after : List (Action (Except Error Supply))} (split : actions = before ++ after)
    (reached : (start .empty).run before = some d) {call : Nat} {demand : Demand}
    {outcome : Except Error Supply} (demanded : demands[call]? = some demand)
    (ended : d.result? call = some outcome) {key : Key} {adapter : Adapter}
    (tells : ∀ history, demand.plan.Comes history outcome → .resolved key (.ok adapter) ∈ history)
    : d.cache.find? key = some adapter := by
  subst split
  have inside : call < (started before).length := by
    obtain ⟨task, found, _⟩ := Option.bind_eq_some_iff.mp ended
    rw [← (run_traced reached).count]
    exact (List.getElem?_eq_some_iff.mp found).1
  have begun : (started before)[call]? = some demand.plan := by
    have whole : (started before ++ started after)[call]? = some demand.plan := by
      rw [started, ← List.filterMap_append]
      exact (congrArg (·[call]?) planned).trans (by simp [demanded])
    rwa [List.getElem?_append_left inside] at whole
  exact run_resolved reached (mem_own.mp (tells _ (run_comes reached begun ended)))

end Crowd

-----------------------------------------------------------------------------------------
-- Calls for what is cached
-----------------------------------------------------------------------------------------

/-- The stages of a call for the adapter of a key that is cached. -/
inductive Task.Serves (key : Key) (adapter : Adapter) : Task (Except Error Supply) → Prop
  | asks {next} (serves : next (.ok adapter) = .done (.ok (.adapter adapter)))
    : Serves key adapter ⟨.resolve key next, .looking⟩
  | finds {next} (serves : next (.ok adapter) = .done (.ok (.adapter adapter)))
    : Serves key adapter ⟨.resolve key next, .done (.ok adapter)⟩
  | ends {stage} : Serves key adapter ⟨.done (.ok (.adapter adapter)), stage⟩

namespace Task.Serves

variable {key : Key} {adapter : Adapter} {task next : Task (Except Error Supply)}
    {cache after : Cache Key Adapter}

theorem moves (serves : Serves key adapter task) (cached : cache.find? key = some adapter)
    (moves : Task.Moves task cache next after)
    : Serves key adapter next := by
  cases serves with
  | asks serves =>
      cases moves with
      | stage moves =>
          cases moves with
          | find found =>
              obtain rfl := Option.some.inj (cached.symm.trans found)
              exact .finds serves
          | miss absent =>
              rw [cached] at absent
              cases absent
  | finds serves =>
      cases moves with
      | stage moves => cases moves
      | resolved =>
          rw [serves]
          exact .ends
  | ends => cases moves

/-- A call for what is cached needs no reply. -/
theorem takes {reply : Task.Reply} (serves : Serves key adapter task)
    (takes : Task.Takes task reply next)
    : Serves key adapter next := by
  cases serves <;> cases takes

/-- It has ended with the adapter, or it can go on. -/
theorem progress (serves : Serves key adapter task) (cached : cache.find? key = some adapter)
    : task.result? = some (.ok (.adapter adapter))
      ∨ task.result? = none ∧ (task.step cache).isSome = true := by
  cases serves with
  | asks => exact .inr ⟨rfl, by simp [step, Cache.Stage.step, cached]⟩
  | finds => exact .inr ⟨rfl, rfl⟩
  | ends => exact .inl rfl

end Task.Serves

theorem Demand.serves (key : Key) (adapter : Adapter)
    : Task.Serves key adapter (.begin (Demand.adapter key).plan) :=
  .asks rfl

namespace Crowd

variable {before after : List (Action (Except Error Supply))} {c d : Crowd (Except Error Supply)}
    {key : Key} {adapter : Adapter}

/-- A call for the adapter of a key that is started when that is cached is served with it. -/
theorem run_serves (reached : (start .empty).run before = some d)
    (cached : d.cache.find? key = some adapter)
    (rest : d.run (.call (Demand.adapter key).plan :: after) = some c)
    : c.cache.find? key = some adapter
      ∧ ∃ task, c.tasks[d.tasks.length]? = some task ∧ task.Serves key adapter := by
  refine ⟨run_keeps_found reached rest cached, ?_⟩
  have goesOn : (⟨d.cache, d.tasks ++ [.begin (Demand.adapter key).plan]⟩ : Crowd _).run after
      = some c :=
    rest
  refine run_induction
    (fun _ now => ∃ task, now.tasks[d.tasks.length]? = some task ∧ task.Serves key adapter)
    goesOn ⟨_, List.getElem?_concat_length, Demand.serves key adapter⟩ ?_
  rintro prior now action later next _ run ⟨task, found, serves⟩ acts
  have inside := (List.getElem?_eq_some_iff.mp found).1
  have sofar : d.run (.call (Demand.adapter key).plan :: prior) = some now := run
  have cachedNow := run_keeps_found reached sofar cached
  cases acts with
  | call plan => exact ⟨task, by rw [List.getElem?_append_left inside, found], serves⟩
  | @advance other before after cache atOther moves =>
      by_cases same : other = d.tasks.length
      · subst same
        obtain rfl := Option.some.inj (found.symm.trans atOther)
        exact ⟨after, List.getElem?_set_self inside, serves.moves cachedNow moves⟩
      · exact ⟨task, (List.getElem?_set_ne same).trans found, serves⟩
  | @answer other before after reply atOther takes =>
      by_cases same : other = d.tasks.length
      · subst same
        obtain rfl := Option.some.inj (found.symm.trans atOther)
        exact ⟨after, List.getElem?_set_self inside, serves.takes takes⟩
      · exact ⟨task, (List.getElem?_set_ne same).trans found, serves⟩

/-- How handles share adapters in a run of calls on one cache, where `actions` is all that has
happened and `c` what it has led to.
-/
structure Sharing (demands : List Demand) (actions : List (Action (Except Error Supply)))
    (c : Crowd (Except Error Supply))
    : Prop where
  /-- From the return of a handle on, its adapter is what is cached for its configuration. -/
  lasting
    : ∀ before after d call r h,
        actions = before ++ after
        → (start .empty).run before = some d
        → demands[call]? = some (.handle r)
        → d.result? call = some (.ok (.handle h))
        → c.cache.find? ⟨h.configuration, r.options⟩ = some h.adapter
  /-- Two handles have one adapter just if their configurations and their options are the same. -/
  same
    : ∀ i j r s h k,
        demands[i]? = some (.handle r)
        → demands[j]? = some (.handle s)
        → c.result? i = some (.ok (.handle h))
        → c.result? j = some (.ok (.handle k))
        → (h.adapter.id = k.adapter.id
          ↔ h.configuration = k.configuration ∧ r.options = s.options)
  /-- Handles stripped of their projects, whose configurations agree otherwise, share one adapter,
  and that was built to bill nobody. -/
  stripped
    : ∀ i j r s h k,
        demands[i]? = some (.handle r)
        → demands[j]? = some (.handle s)
        → c.result? i = some (.ok (.handle h))
        → c.result? j = some (.ok (.handle k))
        → r.configuration.unbilled = s.configuration.unbilled
        → r.options = s.options
        → h.configuration = r.configuration.unbilled
        → k.configuration = s.configuration.unbilled
        → h.adapter = k.adapter
          ∧ ∃ call,
              (call, .build "" r.options (.ok h.adapter))
              ∈ (start .empty : Crowd (Except Error Supply)).exchanges actions
  /-- An adapter that a call for a key has returned is that of each handle with the key. -/
  resolved
    : ∀ i j r h adapter,
        demands[i]? = some (.handle r)
        → demands[j]? = some (.adapter ⟨h.configuration, r.options⟩)
        → c.result? i = some (.ok (.handle h))
        → c.result? j = some (.ok (.adapter adapter))
        → adapter = h.adapter
  /-- If such a call is started when the handle is there, it ends with that adapter, and until then
  it can go on by itself. -/
  direct
    : ∀ before after d call r h,
        actions = before ++ .call (Demand.adapter ⟨h.configuration, r.options⟩).plan :: after
        → (start .empty).run before = some d
        → demands[call]? = some (.handle r)
        → d.result? call = some (.ok (.handle h))
        → c.result? d.tasks.length = some (.ok (.adapter h.adapter))
          ∨ c.result? d.tasks.length = none
            ∧ (c.act (.advance d.tasks.length)).isSome = true

section

variable {demands : List Demand} {actions : List (Action (Except Error Supply))}

/-- When a call returns a handle, the adapter is cached for the configuration. -/
theorem handle_cached (planned : started actions = demands.map Demand.plan)
    (split : actions = before ++ after) (reached : (start .empty).run before = some d) {call : Nat}
    {r : Opening.Request} {h : Handle} (demanded : demands[call]? = some (.handle r))
    (ended : d.result? call = some (.ok (.handle h)))
    : d.cache.find? ⟨h.configuration, r.options⟩ = some h.adapter :=
  run_holds planned split reached demanded ended fun _ => Demand.resolved_of_handle

/-- So it is at the end of a run. -/
theorem handle_cached_at_end (planned : started actions = demands.map Demand.plan)
    (reached : (start .empty).run actions = some c) {call : Nat} {r : Opening.Request} {h : Handle}
    (demanded : demands[call]? = some (.handle r))
    (ended : c.result? call = some (.ok (.handle h)))
    : c.cache.find? ⟨h.configuration, r.options⟩ = some h.adapter :=
  handle_cached planned (List.append_nil actions).symm reached demanded ended

/-- What is cached for a key and bills nobody was built to do so. -/
theorem built_unbilled (reached : (start .empty).run actions = some c)
    (found : c.cache.find? key = some adapter) (nobody : key.configuration.userProject = "")
    : ∃ call,
        (call, .build "" key.options (.ok adapter))
        ∈ (start .empty : Crowd (Except Error Supply)).exchanges actions := by
  obtain ⟨call, built⟩ := run_built reached found
  exact ⟨call, nobody ▸ built⟩

/-- A call that is started when the adapter of its key is cached ends with it, and until then it can
go on by itself.
-/
theorem run_directly (reached : (start .empty).run before = some d)
    (cached : d.cache.find? key = some adapter)
    (rest : d.run (.call (Demand.adapter key).plan :: after) = some c)
    : c.result? d.tasks.length = some (.ok (.adapter adapter))
      ∨ c.result? d.tasks.length = none
        ∧ (c.act (.advance d.tasks.length)).isSome = true := by
  obtain ⟨cachedStill, task, found, serves⟩ := run_serves reached cached rest
  rcases serves.progress cachedStill with atEnd | ⟨underway, steps⟩
  · exact .inl (by simp [result?, found, atEnd])
  · obtain ⟨⟨next, cache⟩, stepped⟩ := Option.isSome_iff_exists.mp steps
    exact .inr ⟨by simp [result?, found, underway], by simp [act, found, stepped]⟩

end

/-- In every interleaving of calls for handles and for adapters, where each adapter that is built
is a new one, handles share adapters just if they are alike.
-/
theorem run_sharing {demands : List Demand} {actions : List (Action (Except Error Supply))}
    (reached : (start .empty).run actions = some c)
    (planned : started actions = demands.map Demand.plan)
    (fresh
      : (((start .empty : Crowd (Except Error Supply)).built actions).map Adapter.id).Nodup)
    : Sharing demands actions c where
  lasting before after d call r h split run demanded ended := by
    have found := handle_cached planned split run demanded ended
    subst split
    obtain ⟨middle, first, rest⟩ := (run_append before after).mp reached
    obtain rfl := Option.some.inj (run.symm.trans first)
    exact run_keeps_found run rest found
  same i j r s h k demandedI demandedJ endedI endedJ := by
    have first := handle_cached_at_end planned reached demandedI endedI
    have second := handle_cached_at_end planned reached demandedJ endedJ
    constructor
    · intro one
      have key := run_distinct reached fresh first second one
      exact ⟨congrArg Key.configuration key, congrArg Key.options key⟩
    · rintro ⟨configurations, options⟩
      rw [configurations, options, second] at first
      rw [Option.some.inj first]
  stripped i j r s h k demandedI demandedJ endedI endedJ agree options strippedI strippedJ := by
    have first := handle_cached_at_end planned reached demandedI endedI
    have second := handle_cached_at_end planned reached demandedJ endedJ
    have key : (⟨h.configuration, r.options⟩ : Key) = ⟨k.configuration, s.options⟩ := by
      rw [strippedI, strippedJ, agree, options]
    have nobody : h.configuration.userProject = "" := by
      rw [strippedI]
      rfl
    exact ⟨Option.some.inj (first.symm.trans (key ▸ second)), built_unbilled reached first nobody⟩
  resolved i j r h adapter demandedI demandedJ endedI endedJ := by
    have first := handle_cached_at_end planned reached demandedI endedI
    have second := run_holds planned (List.append_nil actions).symm reached demandedJ endedJ
      fun _ => Demand.resolved_of_adapter
    exact Option.some.inj (second.symm.trans first)
  direct before after d call r h split run demanded ended := by
    have found := handle_cached planned split run demanded ended
    subst split
    obtain ⟨middle, first, rest⟩ := (run_append before _).mp reached
    obtain rfl := Option.some.inj (run.symm.trans first)
    exact run_directly run found rest

/-- Two handles for different projects, and the adapter that bills nobody. -/
def three : List Demand :=
  [
    .handle (Opening.billing "alpha" true),
    .handle (Opening.billing "beta" true),
    .adapter ⟨(Opening.billing "alpha" true).configuration.unbilled, none⟩
  ]

/-- Three calls at the same time. The first one builds the adapter that bills nobody, while the
others wait for it.
-/
def sideBySide : List (Action (Except Error Supply)) :=
  [
    three.map fun demand => .call demand.plan,
    steps 0 5,
    steps 1 5,
    [
      .answer 1 (.built (.ok (Opening.numbered 0))),
      .answer 0 (.built (.ok (Opening.numbered 1)))
    ],
    steps 0 4,
    steps 1 4,
    [.answer 0 (.probed (.ok (some false))), .answer 1 (.probed (.ok none))],
    steps 0 6,
    steps 1 3,
    steps 2 2,
    [.answer 0 (.built (.ok (Opening.numbered 2)))],
    steps 0 5,
    steps 1 6,
    steps 2 5
  ].flatten

/-- The three calls share one adapter. -/
theorem sideBySide_sharing
    : ∃ c,
        (start .empty).run sideBySide = some c
        ∧ started sideBySide = three.map Demand.plan
        ∧ (((start .empty : Crowd (Except Error Supply)).built sideBySide).map Adapter.id).Nodup
        ∧ [c.result? 0, c.result? 1, c.result? 2]
          = [
            some (.ok (.handle
              ⟨⟨"data", (Opening.billing "alpha" true).configuration.unbilled, "gs"⟩,
                Opening.numbered 2⟩)),
            some (.ok (.handle
              ⟨⟨"data", (Opening.billing "beta" true).configuration.unbilled, "gs"⟩,
                Opening.numbered 2⟩)),
            some (.ok (.adapter (Opening.numbered 2)))
          ]
        ∧ Sharing three sideBySide c := by
  have fresh
      : (((start .empty : Crowd (Except Error Supply)).built sideBySide).map Adapter.id).Nodup := by
    have numbers : ((start .empty : Crowd (Except Error Supply)).built sideBySide).map Adapter.id
        = [0, 1, 2] :=
      rfl
    rw [numbers]
    decide
  exact ⟨_, rfl, rfl, fresh, rfl, run_sharing rfl rfl fresh⟩

end Crowd

end CloudBuckets
