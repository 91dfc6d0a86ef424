import CloudBuckets.Proofs.Session.Evolution

/-! Handles bill the project of their configuration. What is cached under a key and what a handle
is given both come from a factory that was called with the project and the options of the key.
-/

namespace CloudBuckets

-----------------------------------------------------------------------------------------
-- Adapters that suit a key
-----------------------------------------------------------------------------------------

/-- An adapter bills the project of a key, and connects with its options. -/
structure Adapter.Suits (adapter : Adapter) (key : Key) : Prop where
  project : adapter.billingProject = key.configuration.userProject
  options : adapter.options = key.options

/-- Every cached adapter suits its key. -/
def Cache.Suited (cache : Cache Key Adapter) : Prop :=
  ∀ entry ∈ cache.entries, entry.2.Suits entry.1

namespace Cache.Suited

/-- What is found suits the key that it is found for. -/
theorem find? {cache : Cache Key Adapter} (suited : cache.Suited) {key : Key} {adapter : Adapter}
    (found : cache.find? key = some adapter)
    : adapter.Suits key := by
  obtain ⟨before, after, split, _⟩ := List.lookup_eq_some_iff.mp found
  exact suited (key, adapter) (by simp [split])

theorem store {cache : Cache Key Adapter} (suited : cache.Suited) {key : Key} {adapter : Adapter}
    (suits : adapter.Suits key)
    : (cache.store key adapter).Suited := by
  intro entry member
  rcases List.mem_cons.mp member with rfl | old
  · exact suits
  · exact suited entry (List.mem_filter.mp old).1

end Cache.Suited

-----------------------------------------------------------------------------------------
-- Coherence
-----------------------------------------------------------------------------------------

open Session in
/-- A handle that has been opened with some options bills the project of its configuration. -/
structure Handle.Coherent (handle : Handle) (options : Option ClientOptions) : Prop where
  project : handle.adapter.billingProject = handle.configuration.userProject
  options : handle.adapter.options = options
  /-- A reference to a bucket names the project, or none exactly when that is empty. -/
  reference
    : ∀ factory bucket w,
        (Act.askAdapter factory handle.adapter (.reference bucket)).run w
        = (.ok (.text bucket),
            w.see (.refer handle.adapter bucket
              (if handle.configuration.userProject = "" then none
                else some handle.configuration.userProject)))

/-- An adapter that suits the key of a handle makes the handle coherent, since requests name the
project that the adapter bills.
-/
theorem Adapter.Suits.handle {handle : Handle} {options : Option ClientOptions}
    (suits : handle.adapter.Suits ⟨handle.configuration, options⟩)
    : handle.Coherent options := by
  refine ⟨suits.project, suits.options, fun factory bucket w => ?_⟩
  have asked : handle.adapter.requestProject
      = if handle.configuration.userProject = "" then none
        else some handle.configuration.userProject := by
    simp [Adapter.requestProject, suits.project]
  rw [← asked]
  rfl

namespace Session

/-- The adapters that a factory builds bill the project that it is called for, and connect with
the options that it is called with.
-/
def Factory.Carries (factory : Factory) : Prop :=
  ∀ provider project options w adapter,
    (factory provider project options w).1 = .ok adapter
    → adapter.billingProject = project ∧ adapter.options = options

/-- The caches and the handle that a step has left behind are coherent. -/
structure Deed.Coherent (deed : Deed) : Prop where
  cached : ∀ entry ∈ deed.caches, entry.2.Suited
  opened
    : ∀ bucket configuration options cache scheme mark handle,
        deed.step.1 = .openBucket bucket configuration options cache scheme
        → deed.outcome = .ok (.object ⟨mark, .handle handle⟩)
        → handle.Coherent options

/-- All cached adapters suit their keys, and so it was after every step, whose handle is coherent.
-/
structure World.Coherent (w : World) : Prop where
  cached : ∀ entry ∈ w.caches, entry.2.Suited
  recorded : ∀ deed ∈ w.journal, deed.Coherent

-----------------------------------------------------------------------------------------
-- Changes of the caches
-----------------------------------------------------------------------------------------

namespace World

/-- A cache that is put in place leaves the others as they are. -/
theorem mem_setCache {w : World} {name : String} {cache : Cache Key Adapter}
    {entry : String × Cache Key Adapter} (member : entry ∈ (w.setCache name cache).caches)
    : entry ∈ w.caches ∨ entry = (name, cache) := by
  have replaced : ∀ entries,
      entry ∈ setCache.replace name cache entries → entry ∈ entries ∨ entry = (name, cache) := by
    intro entries inside
    induction entries with
    | nil => exact .inr (List.mem_singleton.mp inside)
    | cons first rest ih =>
        unfold setCache.replace at inside
        split at inside
        · rcases List.mem_cons.mp inside with new | old
          · exact .inr new
          · exact .inl (List.mem_cons_of_mem _ old)
        · rcases List.mem_cons.mp inside with rfl | later
          · exact .inl (List.mem_cons_self ..)
          · exact (ih later).imp_left (List.mem_cons_of_mem _)
  exact replaced w.caches member

namespace Coherent

theorem aside {v w : World} (coherent : v.Coherent) (caches : w.caches = v.caches)
    (journal : w.journal = v.journal)
    : w.Coherent :=
  ⟨caches ▸ coherent.cached, journal ▸ coherent.recorded⟩

theorem noted {w : World} (coherent : w.Coherent) (record : LogRecord)
    : (w.note record).Coherent := by
  unfold note
  split
  · exact coherent.aside rfl rfl
  · exact coherent

/-- A cache by its name is suited, whether it has been made or not. -/
theorem cache {w : World} (coherent : w.Coherent) (name : String) : (w.cache name).Suited := by
  unfold World.cache
  cases found : w.caches.lookup name with
  | none => exact fun entry member => absurd member (List.not_mem_nil)
  | some cache =>
      obtain ⟨before, after, split, _⟩ := List.lookup_eq_some_iff.mp found
      exact coherent.cached (name, cache) (by simp [split])

theorem setCache {w : World} (coherent : w.Coherent) {name : String} {cache : Cache Key Adapter}
    (suited : cache.Suited)
    : (w.setCache name cache).Coherent := by
  refine ⟨fun entry member => ?_, coherent.recorded⟩
  rcases mem_setCache member with old | rfl
  · exact coherent.cached entry old
  · exact suited

end Coherent

end World

-----------------------------------------------------------------------------------------
-- Asking a cache for an adapter
-----------------------------------------------------------------------------------------

/-- The state is coherent while a cache is asked for the adapter of a key, and an adapter that is
going to be cached or returned suits the key.
-/
structure Asking (key : Key) (stage : Cache.Stage Fault Adapter) (w : World) : Prop where
  coherent : w.Coherent
  storing : ∀ lock adapter, stage = .storing lock adapter → adapter.Suits key
  result : ∀ adapter, stage.result? = some (.ok adapter) → adapter.Suits key

section

variable {factory : Factory} {provider : Provider} {name : String}

/-- What a call tells is only seen. -/
theorem World.Coherent.told {key : Key} {stage : Cache.Stage Fault Adapter} {w : World}
    (coherent : w.Coherent)
    : ((World.surroundings factory provider name).access.told key stage w).Coherent := by
  unfold Cache.Access.told
  split
  · rename_i notice _
    cases notice <;> exact coherent.noted _
  · exact coherent

/-- A move stores an adapter that suits the key, or stores none. -/
theorem Asking.moves {key : Key} {stage next : Cache.Stage Fault Adapter} {v : World}
    {cache : Cache Key Adapter} (asking : Asking key stage v)
    (moves : Cache.Moves key stage (v.cache name) next cache)
    : Asking key next
        (((World.surroundings factory provider name).access.told key stage v).setCache name cache) := by
  have before : (v.cache name).Suited := asking.coherent.cache name
  have suited : cache.Suited := by
    by_cases stores : ∃ lock adapter, stage = .storing lock adapter
    · obtain ⟨lock, adapter, rfl⟩ := stores
      cases moves
      exact before.store (asking.storing lock adapter rfl)
    · have same := moves.entries_eq fun lock adapter same => stores ⟨lock, adapter, same⟩
      exact fun entry member => before entry (same ▸ member)
  refine ⟨asking.coherent.told.setCache suited, ?_, ?_⟩
  · intro lock adapter same
    subst same
    cases moves
  · intro adapter comes
    cases moves with
    | miss | register | acquire | remiss | start => cases comes
    | find found | refind found =>
        cases comes
        exact before.find? found
    | store =>
        cases comes
        exact asking.storing _ adapter rfl
    | release | leave => exact asking.result adapter comes

/-- Every step on the way keeps the state coherent, since the factory is called with the project
and the options of the key.
-/
theorem Asking.goes (carries : factory.Carries)
    (nested
      : ∀ provider project options w,
          w.Coherent → (factory provider project options w).2.Coherent)
    {key : Key} {stage next : Cache.Stage Fault Adapter} {v w : World} (asking : Asking key stage v)
    (goes : (World.surroundings factory provider name).access.Goes key stage v next w)
    : Asking key next w := by
  cases goes with
  | move moves => exact asking.moves moves
  | @make lock =>
      have after := nested provider key.configuration.userProject key.options v asking.coherent
      have built := carries provider key.configuration.userProject key.options v
      change Asking key (.made lock (factory provider _ _ v).1) (factory provider _ _ v).2
      cases made : (factory provider key.configuration.userProject key.options v).1 with
      | ok adapter =>
          obtain ⟨project, options⟩ := built adapter made
          refine ⟨after, ?_, nofun⟩
          intro _ _ same
          cases same
          exact ⟨project, options⟩
      | error failure =>
          exact ⟨after, nofun, nofun⟩

/-- About to be asked, a cache has nothing yet that could not suit the key. -/
theorem World.Coherent.asking {w : World} (coherent : w.Coherent) (key : Key)
    : Asking key .looking w :=
  ⟨coherent, nofun, nofun⟩

theorem resolve_coherent (provider : Provider) (name : String) (carries : factory.Carries)
    (nested
      : ∀ provider project options w,
          w.Coherent → (factory provider project options w).2.Coherent)
    (key : Key) {w : World} (coherent : w.Coherent)
    : ((World.surroundings factory provider name).access.resolve key w).2.Coherent := by
  obtain ⟨last, asked, _⟩ :=
    (World.surroundings factory provider name).access.resolve_induction (Asking key)
      (Asking.goes carries nested) (coherent.asking key)
  exact asked.coherent

/-- Nothing has to be shown of a result where there is none. -/
private theorem of_error {β : Type} {error : Error} {P : β → Prop}
    : ∀ value, (.error error : Except Error β) = .ok value → P value := by
  intro value same
  cases same

/-- A cache that is asked for the adapter of a key answers with one that suits it. -/
theorem ensures_resolve (carries : factory.Carries)
    (nested
      : ∀ provider project options w,
          w.Coherent → (factory provider project options w).2.Coherent)
    (key : Key)
    : (World.surroundings factory provider name).Ensures World.Coherent (Call.resolve key)
        fun outcome w => w.Coherent ∧ ∀ adapter, outcome = .ok adapter → adapter.Suits key := by
  refine .resolve (Asking key) (fun w coherent => coherent.asking key)
    (Asking.goes carries nested) ?_ ?_ ?_
  · intro adapter w asked
    refine ⟨asked.coherent, fun other same => ?_⟩
    cases same
    exact asked.result adapter rfl
  · exact fun asked => ⟨asked.coherent, of_error⟩
  · intro w coherent v waits
    have after := resolve_coherent provider name carries nested key coherent
    rw [waits] at after
    exact ⟨after, of_error⟩

-----------------------------------------------------------------------------------------
-- Opening a handle
-----------------------------------------------------------------------------------------

/-- Where billing is settled, the adapter suits the configuration that it comes with. -/
theorem ensures_settle (carries : factory.Carries)
    (nested
      : ∀ provider project options w,
          w.Coherent → (factory provider project options w).2.Coherent)
    (bucket : String) {c : Configuration} {adapter : Adapter} {options : Option ClientOptions}
    (suits : adapter.Suits ⟨c, options⟩)
    : (World.surroundings factory provider name).Ensures World.Coherent
        (Billing.settle bucket c adapter options)
        fun outcome w =>
          w.Coherent ∧ ∀ settled, outcome = .ok settled → settled.2.Suits ⟨settled.1, options⟩ := by
  have given : ∀ settled,
      (.ok (c, adapter) : Except Error (Configuration × Adapter)) = .ok settled
      → settled.2.Suits ⟨settled.1, options⟩ := by
    intro _ same
    cases same
    exact suits
  unfold Billing.settle
  split
  · refine .check (fun _ _ => ?_) fun _ _ _ coherent => ⟨coherent, of_error⟩
    refine .probe fun answer => ?_
    have probed : ∀ w v : World,
        v.Coherent
        → (World.surroundings factory provider name).probe adapter bucket v = (answer, w)
        → w.Coherent := by
      intro w v coherent same
      cases same
      exact coherent.aside rfl rfl
    refine Surroundings.Ensures.weaken ?_ fun w ⟨v, coherent, same⟩ => probed w v coherent same
    split
    · exact .throw fun w coherent => ⟨coherent, of_error⟩
    · exact .pure fun w coherent => ⟨coherent, given⟩
    · have noted : ∀ w v : World,
          v.Coherent
          → (World.surroundings factory provider name).note (.notBilling bucket c.userProject) v = w
          → w.Coherent := by
        intro _ v coherent same
        subst same
        exact coherent.noted _
      refine .note (.weaken ?_ fun w ⟨v, coherent, same⟩ => noted w v coherent same)
      refine .bind (ensures_resolve carries nested _) (fun adapter => ?_) ?_
      · refine .pure fun w ⟨coherent, suits⟩ => ⟨coherent, ?_⟩
        intro _ same
        cases same
        exact suits adapter rfl
      · exact fun _ _ ⟨coherent, _⟩ => ⟨coherent, of_error⟩
  · exact .pure fun w coherent => ⟨coherent, given⟩

/-- A handle has the adapter and the view that it is made of. -/
theorem handle_parts {adapter : Adapter} {bucket : String} {c : Configuration} {scheme : String}
    {handle : Handle}
    (made : (Handle.make adapter bucket c scheme).mapError Error.bucketName = .ok handle)
    : handle = ⟨⟨bucket, c, scheme⟩, adapter⟩ := by
  unfold Handle.make View.make at made
  split at made <;> cases made
  rfl

/-- A handle that is opened is coherent. -/
theorem ensures_openBucket (carries : factory.Carries)
    (nested
      : ∀ provider project options w,
          w.Coherent → (factory provider project options w).2.Coherent)
    (bucket : Value) (c : Configuration) (options : Option ClientOptions) (scheme : String)
    : (World.surroundings factory provider name).Ensures World.Coherent
        (CloudBuckets.openBucket bucket c options scheme)
        fun outcome _ => ∀ handle, outcome = .ok handle → handle.Coherent options := by
  unfold CloudBuckets.openBucket
  refine .check (fun bucket _ => ?_) fun _ _ _ _ => of_error
  refine .check (fun _ _ => ?_) fun _ _ _ _ => of_error
  refine .bind (ensures_resolve carries nested _) (fun adapter => ?_) fun _ _ _ => of_error
  refine Surroundings.Ensures.assume (fun w ⟨_, suits⟩ => suits adapter rfl) fun suits => ?_
  refine .weaken ?_ fun w ⟨coherent, _⟩ => coherent
  refine .bind (ensures_settle carries nested bucket suits) (fun ⟨settled, adapter⟩ => ?_)
    fun _ _ _ => of_error
  refine .check (fun handle made => .note (.pure ?_)) fun _ _ _ _ => of_error
  intro _ given _ same
  obtain ⟨_, ⟨_, suits⟩, _⟩ := given
  cases same
  have parts := handle_parts made
  exact Adapter.Suits.handle (by simpa only [parts] using suits _ rfl)

-----------------------------------------------------------------------------------------
-- Whole sessions
-----------------------------------------------------------------------------------------

/-- All changes that actions are put together from keep the state coherent. -/
theorem steady_coherent (carries : factory.Carries)
    (nested
      : ∀ provider project options w,
          w.Coherent → (factory provider project options w).2.Coherent)
    : Steady factory fun v w => v.Coherent → w.Coherent where
  trans first second coherent := second (first coherent)
  aside caches journal coherent := coherent.aside caches journal
  touch _ name coherent := coherent.setCache (coherent.cache name)
  clear _ _ coherent := coherent.setCache fun _ member => absurd member List.not_mem_nil
  build := nested
  resolve provider name key _ coherent := resolve_coherent provider name carries nested key coherent

/-- A step that opens a handle opens a coherent one. -/
theorem perform_openBucket_coherent (carries : factory.Carries)
    (nested
      : ∀ provider project options w,
          w.Coherent → (factory provider project options w).2.Coherent)
    {bucket : Value} {recipe : Option Configuration.Recipe} {options : Option ClientOptions}
    {cache scheme : String} {w : World} (coherent : w.Coherent) {mark : Nat} {handle : Handle}
    (opened
      : ((Act.perform factory (.openBucket bucket recipe options cache scheme)).run w).1
        = .ok (.object ⟨mark, .handle handle⟩))
    : handle.Coherent options := by
  have prepared : (w.prepare cache bucket).Coherent := by
    unfold World.prepare
    split
    · exact coherent.setCache (coherent.cache cache)
    · exact coherent
  obtain ⟨given, _, done⟩ := Act.run_openBucket opened
  rw [Act.run_openHandle] at done
  exact ensures_openBucket carries nested _ _ _ _ _ prepared handle done

/-- A step leaves the state coherent, and what it has opened. -/
theorem doStep_coherent (carries : factory.Carries)
    (nested
      : ∀ provider project options w,
          w.Coherent → (factory provider project options w).2.Coherent)
    (step : Step) {w : World} (coherent : w.Coherent)
    : (doStep factory step w).2.Coherent := by
  have performed := Act.Does.perform (steady_coherent carries nested) step.1 w coherent
  have cached : ∀ entry ∈ (doStep factory step w).2.caches, entry.2.Suited := by
    simpa only [doStep_caches] using performed.cached
  refine ⟨cached, fun deed member => ?_⟩
  rw [doStep_journal] at member
  rcases List.mem_append.mp member with earlier | last
  · exact performed.recorded deed earlier
  · obtain rfl := List.mem_singleton.mp last
    refine ⟨cached, ?_⟩
    intro bucket recipe options cache scheme mark handle opens done
    obtain ⟨action, name⟩ := step
    obtain rfl : action = .openBucket bucket recipe options cache scheme := opens
    exact perform_openBucket_coherent carries nested coherent done

end

/-- The factory of a session carries what it is called with. -/
theorem build_carries (runHook : HookRunner) : Factory.Carries (World.build runHook) := by
  intro provider project options w adapter built
  unfold World.build at built
  dsimp only at built
  split at built
  · cases built
  · split at built <;> cases built
    exact ⟨rfl, rfl⟩

/-- In every session whose factories build adapters for the project and with the options that they
are called with, what is cached suits its key and every handle bills the project of its
configuration, however steps are nested.
-/
theorem evolves_coherent {provider : Provider} {logging : Bool} {w : World}
    (evolves : Evolves Factory.Carries { provider, logging } w)
    : w.Coherent := by
  have start : World.Coherent { provider, logging } :=
    ⟨fun _ member => absurd member List.not_mem_nil,
      fun _ member => absurd member List.not_mem_nil⟩
  have keeps : ∀ {v u : World}, Evolves Factory.Carries v u → v.Coherent → u.Coherent := by
    intro v u evolves
    induction evolves with
    | refl => exact id
    | aside _ caches journal ih => exact fun coherent => (ih coherent).aside caches journal
    | step _ carries _ step ih nested =>
        exact fun coherent => doStep_coherent carries nested step (ih coherent)
  exact keeps evolves start

/-- Settings that bill a project to requester-pays buckets only. -/
def payer : Settings
  | .userProject => some "payer"
  | .billOnlyRequesterPays => true
  | field => Configuration.standard.settings field

/-- Steps that open handles, where a cache is used and cleared while an adapter is built for it. -/
def reentrant : List Step :=
  let billing := Configuration.Recipe.settings
    [("user_project", payer), ("use_user_project_only_for_requester_pays", payer)]
  let hook : List Step := [
    (.openBucket (.text "inner") none none "shared" "gs", some "inner"),
    (.clear "shared", none)]
  [(.set [.buckets [("outer", .ok (some true))]] (some hook), none),
    (.openBucket (.text "outer") (some billing) none "shared" "gs", some "outer"),
    (.setDefault (some billing), none),
    (.openBucket (.text "again") none none "shared" "gs", some "again")]

/-- The handle that was opened on a requester-pays bucket bills the project, the other nobody. -/
theorem reentrant_coherent
    : let first : World := { provider := .memory, logging := false }
      let w := (doSteps (World.build (hookRunner 1)) reentrant first).2
      Evolves Factory.Carries first w
      ∧ w.Coherent
      ∧ w.journal.length = 6
      ∧ (w.handle "outer").toOption.map (·.adapter.billingProject) = some "payer"
      ∧ (w.handle "again").toOption.map (·.adapter.billingProject) = some "" := by
  intro first w
  have evolves : Evolves Factory.Carries first w :=
    Evolves.doSteps (build_carries _) (Evolves.build (Evolves.hookRunner build_carries 1))
      reentrant first
  exact ⟨evolves, evolves_coherent evolves, by decide +kernel, by decide +kernel, by decide +kernel⟩

end Session

end CloudBuckets
