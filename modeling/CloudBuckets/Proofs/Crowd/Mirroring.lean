import CloudBuckets.Proofs.Cache.SharedBuild
import CloudBuckets.Proofs.Crowd.Moves
import Mathlib.Data.List.Pairwise

/-! Crowds are mirrored by pools. What calls of a crowd do to their cache is what the calls of a
pool do, one for each time that some call of the crowd asks for the adapter of a key.
-/

namespace CloudBuckets

variable {β : Type}

open Cache

/-- The value that has been made. -/
def Cache.Pool.Action.made? {κ ε α : Type} : Pool.Action κ ε α → Option α
  | .finish _ (.ok value) => some value
  | _ => none

/-- In a list whose items tell different things, items that tell the same are one. -/
theorem eq_of_nodup_filterMap {α γ : Type} {tells : α → Option γ} {items : List α}
    (distinct : (items.filterMap tells).Nodup) {a b : α} (inA : a ∈ items) (inB : b ∈ items)
    {word : γ} (tellsA : tells a = some word) (tellsB : tells b = some word)
    : a = b := by
  by_contra apart
  have symmetric : Std.Symm fun a b : α => ∀ x, tells a = some x → ∀ y, tells b = some y → x ≠ y :=
    ⟨fun _ _ unlike x hx y hy => (unlike y hy x hx).symm⟩
  have pairs := List.pairwise_filterMap.mp distinct
  exact pairs.forall inA inB apart word tellsA word tellsB rfl

-----------------------------------------------------------------------------------------
-- What is mirrored
-----------------------------------------------------------------------------------------

/-- The call of a pool that stands for a call of a crowd, which there is if that one asks for an
adapter.
-/
def Task.run? (t : Task β) : Option (Run Key Fault Adapter) :=
  match t.plan with
  | .resolve key _ => some ⟨key, t.stage⟩
  | _ => none

namespace Crowd

def run? (c : Crowd β) (call : Nat) : Option (Run Key Fault Adapter) :=
  c.tasks[call]?.bind Task.run?

/-- A pool has the same cache, and shows the calls that ask for adapters, each at its own place. -/
structure Mirrors (place : Nat → Nat) (c : Crowd β) (p : Pool Key Fault Adapter) : Prop where
  cache : p.cache = c.cache
  shown : ∀ call run, c.run? call = some run → p.runs[place call]? = some run
  apart
    : ∀ call other run otherRun,
        c.run? call = some run
        → c.run? other = some otherRun
        → place call = place other
        → call = other

/-- Actions of a pool make what calls of a crowd have had built, for the same keys. -/
structure Matches (moves : List (Pool.Action Key Fault Adapter)) (seen : List (Nat × Exchange))
    (p : Pool Key Fault Adapter)
    : Prop where
  unclear : .clear ∉ moves
  made : (moves.filterMap Pool.Action.made?).Sublist (seen.filterMap (·.2.adapter?))
  makers
    : ∀ maker made,
        .finish maker made ∈ moves
        → ∃ key call,
            p.key? maker = some key
            ∧ (call, .build key.configuration.userProject key.options made) ∈ seen

theorem Matches.append {moves more : List (Pool.Action Key Fault Adapter)}
    {seen later : List (Nat × Exchange)} {p q : Pool Key Fault Adapter}
    (first : Matches moves seen p) (goesOn : p.run more = some q) (rest : Matches more later q)
    : Matches (moves ++ more) (seen ++ later) q := by
  refine ⟨?_, ?_, ?_⟩
  · intro cleared
    rcases List.mem_append.mp cleared with early | late
    · exact first.unclear early
    · exact rest.unclear late
  · rw [List.filterMap_append, List.filterMap_append]
    exact first.made.append rest.made
  · intro maker made ends
    rcases List.mem_append.mp ends with early | late
    · obtain ⟨key, call, known, built⟩ := first.makers maker made early
      exact ⟨key, call, Pool.run_keeps_key? goesOn known, List.mem_append_left _ built⟩
    · obtain ⟨key, call, known, built⟩ := rest.makers maker made late
      exact ⟨key, call, known, List.mem_append_right _ built⟩

/-- Actions that make nothing match whatever has passed. -/
theorem Matches.quiet {moves : List (Pool.Action Key Fault Adapter)} (unclear : .clear ∉ moves)
    (endsNone : ∀ maker made, .finish maker made ∉ moves) (seen : List (Nat × Exchange))
    (p : Pool Key Fault Adapter)
    : Matches moves seen p := by
  refine ⟨unclear, ?_, fun maker made ends => absurd ends (endsNone maker made)⟩
  have nothing : moves.filterMap Pool.Action.made? = [] := by
    refine List.filterMap_eq_nil_iff.mpr fun action member => ?_
    cases action with
    | finish maker made => exact absurd member (endsNone maker made)
    | call | advance | clear => rfl
  rw [nothing]
  exact List.nil_sublist _

-----------------------------------------------------------------------------------------
-- The mirror of each action
-----------------------------------------------------------------------------------------

variable {place : Nat → Nat} {c d : Crowd β} {p : Pool Key Fault Adapter}

/-- Where a call that asks for an adapter moves on, so does the call that stands for it. -/
theorem Mirrors.move (mirrors : Mirrors place c p) {call : Nat} {run next : Run Key Fault Adapter}
    (asks : c.run? call = some run) (asksStill : d.run? call = some next)
    (others : ∀ other, other ≠ call → d.run? other = c.run? other)
    : Mirrors place d ⟨d.cache, p.runs.set (place call) next⟩ := by
  obtain ⟨_, shown, apart⟩ := mirrors
  have asked : ∀ other run, d.run? other = some run → ∃ before, c.run? other = some before := by
    intro other later atOther
    by_cases same : other = call
    · exact ⟨run, same ▸ asks⟩
    · exact ⟨later, others other same ▸ atOther⟩
  refine ⟨rfl, ?_, ?_⟩
  · intro other later atOther
    by_cases same : other = call
    · subst same
      obtain rfl := Option.some.inj (asksStill.symm.trans atOther)
      exact Pool.set_self (shown _ _ asks) _
    · have before : c.run? other = some later := others other same ▸ atOther
      have different : place call ≠ place other :=
        fun here => same (apart call other run later asks before here).symm
      rw [List.getElem?_set_ne different]
      exact shown other later before
  · intro first second run otherRun atFirst atSecond here
    obtain ⟨before, askedFirst⟩ := asked first run atFirst
    obtain ⟨otherBefore, askedSecond⟩ := asked second otherRun atSecond
    exact apart first second before otherBefore askedFirst askedSecond here

/-- A call that does not ask for an adapter needs no call of the pool. -/
theorem Mirrors.rest (mirrors : Mirrors place c p) {call : Nat} (asksNot : d.run? call = none)
    (others : ∀ other, other ≠ call → d.run? other = c.run? other) (cache : d.cache = c.cache)
    : Mirrors place d p := by
  obtain ⟨sameCache, shown, apart⟩ := mirrors
  have asked : ∀ other run, d.run? other = some run → c.run? other = some run := by
    intro other run atOther
    have different : other ≠ call := by
      rintro rfl
      rw [asksNot] at atOther
      cases atOther
    rw [← others other different, atOther]
  refine ⟨sameCache.trans cache.symm, ?_, ?_⟩
  · exact fun other run atOther => shown other run (asked other run atOther)
  · intro first second run otherRun atFirst atSecond
    exact apart first second run otherRun (asked first run atFirst) (asked second otherRun atSecond)

/-- A call that comes to ask for an adapter is a new call of the pool, at the place after all
others.
-/
theorem Mirrors.ask (mirrors : Mirrors place c p) {call : Nat} {key : Key}
    (asks : d.run? call = some ⟨key, .looking⟩)
    (others : ∀ other, other ≠ call → d.run? other = c.run? other) (cache : d.cache = c.cache)
    : Mirrors (Function.update place call p.runs.length) d
        { p with runs := p.runs ++ [⟨key, .looking⟩] } := by
  obtain ⟨sameCache, shown, apart⟩ := mirrors
  have before : ∀ other run,
      d.run? other = some run → other ≠ call → p.runs[place other]? = some run :=
    fun other run atOther different => shown other run (others other different ▸ atOther)
  have inside : ∀ other run,
      d.run? other = some run → other ≠ call → place other < p.runs.length :=
    fun other run atOther different =>
      (List.getElem?_eq_some_iff.mp (before other run atOther different)).1
  refine ⟨sameCache.trans cache.symm, ?_, ?_⟩
  · intro other run atOther
    by_cases same : other = call
    · subst same
      obtain rfl := Option.some.inj (asks.symm.trans atOther)
      simp
    · rw [Function.update_of_ne same, List.getElem?_append_left (inside other run atOther same)]
      exact before other run atOther same
  · intro first second run otherRun atFirst atSecond here
    by_cases isFirst : first = call
    · by_cases isSecond : second = call
      · rw [isFirst, isSecond]
      · have early := inside second otherRun atSecond isSecond
        rw [isFirst, Function.update_self, Function.update_of_ne isSecond] at here
        omega
    · by_cases isSecond : second = call
      · have early := inside first run atFirst isFirst
        rw [isSecond, Function.update_self, Function.update_of_ne isFirst] at here
        omega
      · rw [Function.update_of_ne isFirst, Function.update_of_ne isSecond] at here
        exact apart first second run otherRun (others first isFirst ▸ atFirst)
          (others second isSecond ▸ atSecond) here

/-- Where a call comes to a plan, the pool can follow. -/
theorem Mirrors.begin (mirrors : Mirrors place c p) {call : Nat} {plan : Plan β}
    (begins : d.run? call = (Task.begin plan).run?)
    (others : ∀ other, other ≠ call → d.run? other = c.run? other) (cache : d.cache = c.cache)
    (seen : List (Nat × Exchange))
    : ∃ moves q place, p.run moves = some q ∧ Mirrors place d q ∧ Matches moves seen q := by
  cases plan with
  | resolve key next =>
      exact ⟨[.call key], _, _, rfl, mirrors.ask begins others cache,
        .quiet (by simp) (by simp) _ _⟩
  | done | build | probe | list | close | note =>
      exact ⟨[], p, place, rfl, mirrors.rest begins others cache, .quiet (by simp) (by simp) _ _⟩

/-- What calls of a crowd ask for after one of them has been replaced. -/
theorem run?_set {call : Nat} {task : Task β} (found : c.tasks[call]? = some task) (next : Task β)
    (cache : Cache Key Adapter)
    : Crowd.run? ⟨cache, c.tasks.set call next⟩ call = next.run?
      ∧ ∀ other,
          other ≠ call → Crowd.run? ⟨cache, c.tasks.set call next⟩ other = c.run? other := by
  have inside := (List.getElem?_eq_some_iff.mp found).1
  constructor
  · simp [run?, List.getElem?_set_self inside]
  · intro other different
    simp [run?, List.getElem?_set_ne (Ne.symm different)]

/-- Every action of a crowd is matched by actions of the pool, by cases on the action. -/
theorem Mirrors.acts (mirrors : Mirrors place c p) {action : Action β} (acts : c.Acts action d)
    : ∃ moves q place,
        p.run moves = some q ∧ Mirrors place d q ∧ Matches moves (c.exchanged action).toList q := by
  cases acts with
  | call plan =>
      have here : Crowd.run? ⟨c.cache, c.tasks ++ [.begin plan]⟩ c.tasks.length
          = (Task.begin plan).run? := by
        simp [run?]
      refine mirrors.begin here (fun other different => ?_) rfl _
      rcases Nat.lt_or_gt_of_ne different with before | beyond
      · simp [run?, List.getElem?_append_left before]
      · have outside : c.tasks[other]? = none := List.getElem?_eq_none (Nat.le_of_lt beyond)
        simp [run?, outside, List.getElem?_append_right (Nat.le_of_lt beyond),
          Nat.sub_ne_zero_of_lt beyond]
  | @advance call task next cache found moves =>
      obtain ⟨here, others⟩ := run?_set found next cache
      cases moves with
      | @stage key goesOn stage after _ _ moves =>
          have asks : c.run? call = some ⟨key, stage⟩ := by simp [run?, found, Task.run?]
          have shown := mirrors.shown call _ asks
          refine ⟨[.advance (place call)], _, place, ?_, mirrors.move asks here others,
            .quiet (by simp) (by simp) _ _⟩
          simp [Pool.run, Pool.act, shown, mirrors.cache, moves.step_eq]
      | resolved | close | note => exact mirrors.begin here others rfl _
  | @answer call task next reply found takes =>
      obtain ⟨here, others⟩ := run?_set found next c.cache
      cases takes with
      | @made key goesOn lock made =>
          have asks : c.run? call = some ⟨key, .making lock⟩ := by simp [run?, found, Task.run?]
          have shown := mirrors.shown call _ asks
          refine ⟨[.finish (place call) made], _, place, ?_, mirrors.move asks here others, ?_⟩
          · simp [Pool.run, Pool.act, shown, mirrors.cache]
          · have built : c.exchanged (.answer call (.built made))
                = some (call, .build key.configuration.userProject key.options made) := by
              simp [exchanged, found, Task.exchange?]
            rw [built]
            refine ⟨by simp, ?_, ?_⟩
            · cases made <;> exact List.Sublist.refl _
            · intro maker other ends
              cases List.mem_singleton.mp ends
              exact ⟨key, call, by simp [Pool.key?, Pool.set_self shown], by simp⟩
      | built | probed | listed => exact mirrors.begin here others rfl _

/-- In every run from an empty cache a crowd is mirrored by a pool. -/
theorem run_mirrored {actions : List (Action β)}
    (reached : (start .empty).run actions = some c)
    : ∃ moves p place,
        Pool.start.run moves = some p
        ∧ Mirrors place c p
        ∧ Matches moves ((start .empty : Crowd β).exchanges actions) p := by
  refine run_induction
    (fun actions c => ∃ moves p place,
      Pool.start.run moves = some p
      ∧ Mirrors place c p
      ∧ Matches moves ((start .empty : Crowd β).exchanges actions) p)
    reached ?_ ?_
  · refine ⟨[], Pool.start, id, rfl, ⟨rfl, ?_, ?_⟩, .quiet (by simp) (by simp) _ _⟩
    · intro call run asks
      cases asks
    · intro call other run otherRun asks
      cases asks
  · rintro before d action later next _ run ⟨moves, p, place, reached, mirrors, matched⟩ acts
    obtain ⟨more, q, placeAfter, goesOn, mirrorsStill, rest⟩ := mirrors.acts acts
    refine ⟨moves ++ more, q, placeAfter, ?_, mirrorsStill, ?_⟩
    · exact (Pool.run_append moves more).mpr ⟨p, reached, goesOn⟩
    · rw [exchanges_concat run]
      exact matched.append goesOn rest

-----------------------------------------------------------------------------------------
-- What is found in the cache of a crowd
-----------------------------------------------------------------------------------------

variable {actions before : List (Action β)} {key : Key} {adapter : Adapter}

/-- What is cached stays cached with every action. -/
theorem Acts.keeps_found (reached : (start .empty).run before = some c) {action : Action β}
    (acts : c.Acts action d) (found : c.cache.find? key = some adapter)
    : d.cache.find? key = some adapter := by
  obtain ⟨moves, p, place, run, mirrors, matched⟩ := run_mirrored reached
  obtain ⟨more, q, placeAfter, goesOn, mirrorsStill, rest⟩ := mirrors.acts acts
  rw [← mirrorsStill.cache]
  rw [← mirrors.cache] at found
  exact Pool.run_keeps_found (matched.append goesOn rest).unclear run goesOn found

/-- What is cached stays cached for the rest of a run. -/
theorem run_keeps_found (reached : (start .empty).run before = some d)
    (rest : d.run actions = some c) (found : d.cache.find? key = some adapter)
    : c.cache.find? key = some adapter := by
  refine run_induction (fun _ now => now.cache.find? key = some adapter) rest found ?_
  intro prior now action later next _ run cached acts
  exact acts.keeps_found ((run_append before prior).mpr ⟨d, reached, run⟩) cached

/-- An adapter that a call is told of is the one that is cached for the key from then on. -/
theorem run_resolved (reached : (start .empty).run actions = some c) {call : Nat}
    (told : (call, .resolved key (.ok adapter)) ∈ (start .empty : Crowd β).history actions)
    : c.cache.find? key = some adapter := by
  refine run_induction
    (fun actions c =>
      (call, .resolved key (.ok adapter)) ∈ (start .empty : Crowd β).history actions
      → c.cache.find? key = some adapter)
    reached (fun told => absurd told List.not_mem_nil) ?_ told
  intro before d action later next _ run found acts told
  refine acts.keeps_found run ?_
  rw [history_concat run] at told
  rcases List.mem_append.mp told with old | new
  · exact found old
  · obtain ⟨goesOn, atCall⟩ := of_heard_resolved (Option.mem_toList.mp new)
    obtain ⟨moves, p, place, reachedPool, mirrors, matched⟩ := run_mirrored run
    have shown := mirrors.shown call ⟨key, .done (.ok adapter)⟩ (by simp [run?, atCall, Task.run?])
    have shared := Pool.run_shared matched.unclear reachedPool
    rw [← mirrors.cache]
    exact shared.found _ (List.mem_of_getElem? shown) adapter rfl

/-- An adapter that is cached has been built, for what its key asks for. -/
theorem run_built (reached : (start .empty).run actions = some c)
    (found : c.cache.find? key = some adapter)
    : ∃ call,
        (call, .build key.configuration.userProject key.options (.ok adapter))
        ∈ (start .empty : Crowd β).exchanges actions := by
  obtain ⟨moves, p, place, run, mirrors, matched⟩ := run_mirrored reached
  have shared := Pool.run_shared matched.unclear run
  rw [← mirrors.cache] at found
  obtain ⟨maker, making, atMaker, rfl, ends⟩ := shared.source key adapter found
  obtain ⟨known, call, sameKey, built⟩ := matched.makers maker _ ends
  obtain rfl : making.key = known := by simpa [Pool.key?, atMaker] using sameKey
  exact ⟨call, built⟩

/-- If every adapter that is built is a new one, different keys have different adapters: two calls
of the pool have made them, since each call is for one key.
-/
theorem run_distinct (reached : (start .empty).run actions = some c)
    (fresh : (((start .empty : Crowd β).built actions).map Adapter.id).Nodup)
    (found : c.cache.find? key = some adapter) {other : Key} {second : Adapter}
    (foundOther : c.cache.find? other = some second) (same : adapter.id = second.id)
    : key = other := by
  obtain ⟨moves, p, place, run, mirrors, matched⟩ := run_mirrored reached
  have shared := Pool.run_shared matched.unclear run
  rw [← mirrors.cache] at found foundOther
  obtain ⟨maker, making, atMaker, rfl, ends⟩ := shared.source key adapter found
  obtain ⟨twin, twinMaking, atTwin, rfl, endsToo⟩ := shared.source other second foundOther
  have numbers : (moves.filterMap fun move => move.made?.map Adapter.id).Nodup := by
    rw [← List.map_filterMap]
    exact (matched.made.map Adapter.id).nodup fresh
  have once := eq_of_nodup_filterMap numbers ends endsToo rfl (congrArg some same.symm)
  cases once
  obtain rfl := Option.some.inj (atMaker.symm.trans atTwin)
  rfl

end Crowd

end CloudBuckets
