import CloudBuckets.Proofs.OpeningEffects
import CloudBuckets.Proofs.Session.Opening

/-! What the opening of a handle does to a session in which no steps are done while an adapter is
built. It changes no cache but its own and no default, and what is seen of it is its trace.
-/

namespace CloudBuckets

/-- What is seen of an effect, where adapters of a provider are built. -/
def Effect.events (provider : Provider) (logging : Bool) : Effect → List Event
  | .note record => if logging then [.log record] else []
  | .build project options _ => [.ofBuild provider project options]
  | .probe adapter bucket _ => [.probe adapter bucket]
  | .list adapter start _ => [.list adapter start]
  | .close adapter => [.close adapter]

namespace Session

-----------------------------------------------------------------------------------------
-- Quiet factories
-----------------------------------------------------------------------------------------

/-- The factory neither touches a cache nor sets a default, as where it does no steps. -/
structure Factory.Quiet (factory : Factory) : Prop where
  caches
    : ∀ provider project options w, (factory provider project options w).2.caches = w.caches
  default
    : ∀ provider project options w, (factory provider project options w).2.default = w.default

/-- All that is seen of the factory is what it has been asked to build. -/
structure Factory.Seen (factory : Factory) : Prop where
  logging
    : ∀ provider project options w, (factory provider project options w).2.logging = w.logging
  events
    : ∀ provider project options w,
        (factory provider project options w).2.events
        = w.events ++ [.ofBuild provider project options]

/-- Without hooks, nothing is done while an adapter is built but to let it be seen. -/
theorem build_hookless (provider : Provider) (project : String) (options : Option ClientOptions)
    (w : World)
    : let next := (World.build (hookRunner 0) provider project options w).2
      next.caches = w.caches
      ∧ next.default = w.default
      ∧ next.logging = w.logging
      ∧ next.events = w.events ++ [.ofBuild provider project options] := by
  unfold World.build
  dsimp only
  split
  · exact ⟨rfl, rfl, rfl, rfl⟩
  · split <;> split <;> exact ⟨rfl, rfl, rfl, rfl⟩

/-- A session whose steps have no hooks is run with the factory that does none. -/
theorem run_hookless (provider : Provider) (logging : Bool) {steps : List Step}
    (hookless : ∀ step ∈ steps, step.1.depth = 0)
    : run provider logging steps
      = report (World.build (hookRunner 0)) steps { provider, logging } := by
  have depth : Action.depth.depthOfHook steps = 0 := by
    induction steps with
    | nil => rfl
    | cons step rest ih =>
        obtain ⟨here, later⟩ := List.forall_mem_cons.mp hookless
        simp only [Action.depth.depthOfHook, here, ih later, Nat.max_self]
  unfold run
  rw [depth]

theorem build_quiet : Factory.Quiet (World.build (hookRunner 0)) :=
  ⟨fun _ _ _ w => (build_hookless _ _ _ w).1, fun _ _ _ w => (build_hookless _ _ _ w).2.1⟩

theorem build_seen : Factory.Seen (World.build (hookRunner 0)) :=
  ⟨fun _ _ _ w => (build_hookless _ _ _ w).2.2.1, fun _ _ _ w => (build_hookless _ _ _ w).2.2.2⟩

section

variable {factory : Factory}

theorem Factory.Quiet.cache (quiet : factory.Quiet) (provider : Provider) (project : String)
    (options : Option ClientOptions) (w : World) (name : String)
    : (factory provider project options w).2.cache name = w.cache name := by
  unfold World.cache
  rw [quiet.caches]

theorem surroundings_calm (quiet : factory.Quiet) (provider : Provider) (name : String)
    : (World.surroundings factory provider name).Calm where
  cache_setCache cache w := by
    change (w.setCache name cache).cache name = cache
    rw [World.cache_setCache, if_pos rfl]
  build project options w := quiet.cache provider project options w name
  probe _ _ _ := rfl
  note record w := w.cache_note record name

/-- Calls that use one cache change no other one, and no default. -/
theorem surroundings_keeps (quiet : factory.Quiet) (provider : Provider) (name : String)
    (start : World)
    : (World.surroundings factory provider name).Keeps fun w =>
        (∀ other, other ≠ name → w.cache other = start.cache other)
        ∧ w.default = start.default where
  setCache cache w holds := by
    refine ⟨fun other apart => ?_, holds.2⟩
    change (w.setCache name cache).cache other = _
    rw [World.cache_setCache, if_neg apart]
    exact holds.1 other apart
  build project options w holds := by
    refine ⟨fun other apart => ?_, (quiet.default provider project options w).trans holds.2⟩
    exact (quiet.cache provider project options w other).trans (holds.1 other apart)
  probe _ _ _ holds := holds
  list _ _ _ holds := holds
  close _ _ holds := holds
  note record w holds := by
    change (∀ other, other ≠ name → (w.note record).cache other = start.cache other)
      ∧ (w.note record).default = start.default
    unfold World.note
    split <;> exact holds

/-- What has been seen since the start is the trace. -/
structure Shows (provider : Provider) (start : World) (w : World × List Effect) : Prop where
  logging : w.1.logging = start.logging
  events : w.1.events = start.events ++ w.2.flatMap (Effect.events provider start.logging)

theorem Shows.append {provider : Provider} {start v w : World} {trace : List Effect}
    (shows : Shows provider start (v, trace)) {effect : Effect} (logging : w.logging = v.logging)
    (events : w.events = v.events ++ effect.events provider start.logging)
    : Shows provider start (w, trace ++ [effect]) := by
  refine ⟨logging.trans shows.logging, ?_⟩
  rw [events, shows.events, List.flatMap_append, List.append_assoc, List.flatMap_singleton]

/-- What is seen of a call is its trace. -/
theorem traced_keeps_shows (seen : factory.Seen) (provider : Provider) (name : String)
    (start : World)
    : (World.surroundings factory provider name).traced.Keeps (Shows provider start) where
  setCache _ _ shows := ⟨shows.logging, shows.events⟩
  build project options w shows :=
    shows.append (seen.logging provider project options w.1)
      (seen.events provider project options w.1)
  probe _ _ _ shows := shows.append rfl rfl
  list _ _ _ shows := shows.append rfl rfl
  close _ _ shows := shows.append rfl rfl
  note record w shows := by
    refine shows.append ?_ ?_
    · change (w.1.note record).logging = _
      unfold World.note
      split <;> rfl
    · change (w.1.note record).events = _
      rw [Effect.events, ← shows.logging]
      unfold World.note
      split
      · rfl
      · exact (List.append_nil _).symm

end

-----------------------------------------------------------------------------------------
-- Handles in sessions
-----------------------------------------------------------------------------------------

/-- Between its steps, nobody holds a lock in a session. -/
theorem Evolves.unheld {Honest : Factory → Prop} {provider : Provider} {logging : Bool} {w : World}
    (evolves : Evolves Honest { provider, logging } w) (name : String)
    : (w.cache name).Unheld := by
  obtain ⟨numbered, settles⟩ := evolves.givesBack name .empty
  exact Cache.Unheld.empty.settles numbered settles

/-- Preparing a cache for a handle changes nothing but the caches. -/
theorem World.prepare_eq (w : World) (name : String) (bucket : Value)
    : w.prepare name bucket = { w with caches := (w.prepare name bucket).caches } := by
  unfold World.prepare
  split <;> rfl

/-- A handle is opened by a call with the cache that has been prepared for it. -/
theorem run_openHandle_prepared (factory : Factory) (bucket : Value)
    (given : Option Configuration) (options : Option ClientOptions) (cache scheme : String)
    (w : World)
    : (Act.openHandle factory bucket given options cache scheme).run w
      = (World.surroundings factory (w.providerOf cache) cache).call
          (CloudBuckets.openBucket bucket (given.getD w.defaultConfiguration) options scheme)
          (w.prepare cache bucket) := by
  have provider : (w.prepare cache bucket).providerOf cache = w.providerOf cache := by
    rw [w.prepare_eq cache bucket]
    rfl
  rw [Act.run_openHandle]
  dsimp only
  rw [provider, World.prepare_defaultConfiguration]

/-- The effects of the opening of a handle, in order. -/
def openTrace (factory : Factory) (bucket : Value) (given : Option Configuration)
    (options : Option ClientOptions) (cache scheme : String) (w : World)
    : List Effect :=
  (World.surroundings factory (w.providerOf cache) cache).trace
    (CloudBuckets.openBucket bucket (given.getD w.defaultConfiguration) options scheme)
    (w.prepare cache bucket)

/-- A handle is opened with the effects that it should have and with no others, for all that it may
be opened with, whatever is cached, and with every quiet factory. Nobody may hold a lock of the
cache at the start, as nobody does between the steps of a session.
-/
theorem openHandle_effects {factory : Factory} (quiet : factory.Quiet) (bucket : Value)
    (given : Option Configuration) (options : Option ClientOptions) (cache scheme : String)
    {w : World} (unheld : (w.cache cache).Unheld)
    : let c := given.getD w.defaultConfiguration
      let trace := openTrace factory bucket given options cache scheme w
      let ended := (Act.openHandle factory bucket given options cache scheme).run w
      Opening.Effects bucket c options scheme (w.cache cache) trace ended.1 (ended.2.cache cache)
      ∧ (ended.2.cache cache).Unheld
      ∧ (∀ other, other ≠ cache → ended.2.cache other = w.cache other)
      ∧ ended.2.default = w.default
      ∧ (factory.Seen
          → ended.2.events
            = w.events ++ trace.flatMap (Effect.events (w.providerOf cache) w.logging)) := by
  intro c trace ended
  have called : ended
      = (World.surroundings factory (w.providerOf cache) cache).call
          (CloudBuckets.openBucket bucket c options scheme) (w.prepare cache bucket) :=
    run_openHandle_prepared factory bucket given options cache scheme w
  have here : (w.prepare cache bucket).cache cache = w.cache cache :=
    w.prepare_cache cache bucket cache
  have onlyCaches := w.prepare_eq cache bucket
  have calm := surroundings_calm quiet (w.providerOf cache) cache
  obtain ⟨effects, stillUnheld⟩ := calm.openBucket_effects bucket c options scheme
    (here.symm ▸ unheld : ((w.prepare cache bucket).cache cache).Unheld)
  obtain ⟨others, sameDefault⟩ := (surroundings_keeps quiet (w.providerOf cache) cache w).call
    (CloudBuckets.openBucket bucket c options scheme)
    ⟨fun other _ => w.prepare_cache cache bucket other, by rw [onlyCaches]⟩
  rw [called]
  refine ⟨?_, stillUnheld, others, sameDefault, fun seen => ?_⟩
  · rw [← here]
    exact effects
  · have begins : Shows (w.providerOf cache) w (w.prepare cache bucket, []) := by
      rw [onlyCaches]
      exact ⟨rfl, (List.append_nil _).symm⟩
    have shows := (traced_keeps_shows seen (w.providerOf cache) cache w).call
      (CloudBuckets.openBucket bucket c options scheme) begins
    have mirrors := (World.surroundings factory (w.providerOf cache) cache).traced_mirrors.call
      (CloudBuckets.openBucket bucket c options scheme) (w.prepare cache bucket, [])
    exact (congrArg (fun ended => World.events ended.2) mirrors).trans shows.events

/-- A bucket whose probe has failed is opened once more. The adapter that was built is still there,
and takes the next probe. The answer is that the bucket is not requester-pays, so one that bills
nobody is built.
-/
theorem openHandle_effects_retried
    : let factory := World.build (hookRunner 0)
      let trace := openTrace factory (.text "data") (some conditional) none "mine" "gs"
      let opens := (Act.openHandle factory (.text "data") (some conditional) none "mine" "gs").run
      let failing : World :=
        {
          provider := .memory,
          logging := true,
          backend := { missing := .error ⟨.timeout, none, []⟩ }
        }
      let first := opens failing
      let answering := { first.2 with backend := {}, events := [] }
      let second := opens answering
      let billed : Adapter := ⟨0, .memory, "payer", none⟩
      let unbilled : Adapter := ⟨1, .memory, "", none⟩
      Opening.Effects (.text "data") conditional none "gs" (failing.cache "mine") (trace failing)
        first.1 (first.2.cache "mine")
      ∧ (first.2.cache "mine").entries = [(⟨conditional, none⟩, billed)]
      ∧ Opening.Effects (.text "data") conditional none "gs" (answering.cache "mine")
          (trace answering) second.1 (second.2.cache "mine")
      ∧ second.2.events
        = [
          .log (.reusing ⟨conditional, none⟩),
          .probe billed "data",
          .log (.notBilling "data" "payer"),
          .log (.building ⟨conditional.unbilled, none⟩),
          .build "" none,
          .log (.opened ⟨⟨"data", conditional.unbilled, "gs"⟩, unbilled⟩)
        ]
      ∧ (second.2.cache "mine").entries
        = [(⟨conditional.unbilled, none⟩, unbilled), (⟨conditional, none⟩, billed)] := by
  intro factory trace opens failing first answering second billed unbilled
  have effects : ∀ {w : World}, (w.cache "mine").Unheld → _ :=
    openHandle_effects build_quiet (.text "data") (some conditional) none "mine" "gs"
  have evolves : Evolves (fun _ => True) { provider := .memory, logging := true } failing :=
    .aside (.refl _) rfl rfl
  have opened := effects (w := failing) (evolves.unheld "mine")
  have stillUnheld : ∀ v : World,
      (v.cache "mine").Unheld
      → (World.cache { v with backend := {}, events := [] } "mine").Unheld :=
    fun _ => id
  have openedAgain := effects (w := answering) (stillUnheld first.2 opened.2.1)
  have shown := openedAgain.2.2.2.2 build_seen
  refine ⟨opened.1, by decide +kernel, openedAgain.1, ?_, by decide +kernel⟩
  rw [shown]
  decide +kernel

end Session

end CloudBuckets
