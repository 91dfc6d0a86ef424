import CloudBuckets.Proofs.Session.OpeningEffects

/-! Buckets that are opened again, under the configuration of the handle that has been returned for
them. Where the project has been stripped, the configuration asks for billing but names nobody to
bill, so it is refused. In all other cases the adapter is still cached, and the same handle comes
out.
-/

namespace CloudBuckets

-----------------------------------------------------------------------------------------
-- What a first opening leaves behind
-----------------------------------------------------------------------------------------

/-- An adapter has answered that a bucket is not requester-pays, or has left it open. -/
def Effect.denies : Effect → Bool
  | .probe _ _ (.ok answer) => answer != some true
  | _ => false

/-- Among the effects of an opening is the answer by which the project is stripped. -/
def Opening.Strips (trace : List Effect) : Prop :=
  trace.any Effect.denies = true

/-- A handle has been opened under the configuration that was given, and its adapter is cached. -/
structure Opening.Kept (bucket : Value) (c : Configuration) (options : Option ClientOptions)
    (scheme : String) (trace : List Effect) (handle : Handle) (after : List (Key × Adapter))
    : Prop where
  names : Bucket.Names bucket handle.bucket
  billable : ¬ c.Unbillable
  view : handle.toView = ⟨handle.bucket, c, scheme⟩
  cached : after.lookup ⟨c, options⟩ = some handle.adapter
  asked
    : c.billOnlyRequesterPays = true
      → .probe handle.adapter handle.bucket (.ok (some true)) ∈ trace

/-- A handle has been opened under the configuration that was given, stripped of its project. -/
structure Opening.Stripped (bucket : Value) (c : Configuration) (handle : Handle) : Prop where
  names : Bucket.Names bucket handle.bucket
  billable : ¬ c.Unbillable
  conditional : c.billOnlyRequesterPays = true
  configuration : handle.configuration = c.unbilled

theorem Obtains.undenied {key : Key} {entries after : List (Key × Adapter)} {trace : List Effect}
    {answer : Except Fault Adapter} (obtains : Obtains key entries trace answer after)
    : trace.any Effect.denies = false := by
  cases obtains <;> rfl

theorem Obtains.cached {key : Key} {entries after : List (Key × Adapter)} {trace : List Effect}
    {adapter : Adapter} (obtains : Obtains key entries trace (.ok adapter) after)
    : after.lookup key = some adapter := by
  cases obtains with
  | reuses found => exact found
  | builds => exact List.lookup_cons_self

/-- A handle that is opened is kept under the given configuration, or the project has been stripped,
by cases on how billing has been settled.
-/
theorem Opening.Course.kept_or_stripped {bucket : Value} {c : Configuration}
    {options : Option ClientOptions} {scheme : String} {entries after : List (Key × Adapter)}
    {trace : List Effect} {handle : Handle}
    (course : Course bucket c options scheme entries trace (.ok handle) after)
    : (¬ Strips trace ∧ Kept bucket c options scheme trace handle after)
      ∨ (Strips trace ∧ Stripped bucket c handle) := by
  cases course with
  | @opened name trace later adapter last settled middle after names billable obtains settles =>
      have undenied := obtains.undenied
      cases settles with
      | unconditional always =>
          refine .inl ⟨by simp [Strips, undenied, Effect.denies], names, billable, rfl,
            obtains.cached, fun asks => ?_⟩
          rw [always] at asks
          cases asks
      | pays conditional =>
          refine .inl ⟨by simp [Strips, undenied, Effect.denies], names, billable, rfl,
            obtains.cached, fun _ => by simp⟩
      | strips conditional notPays _ =>
          refine .inr ⟨?_, names, billable, conditional, rfl⟩
          rcases notPays with rfl | rfl <;> simp [Strips, Effect.denies]

-----------------------------------------------------------------------------------------
-- A second opening
-----------------------------------------------------------------------------------------

namespace Surroundings

variable {σ : Type} {s : Surroundings σ} {Holds : σ → Prop} {cache : Cache Key Adapter}

/-- The cache is as it was, `seen` is all that has been done, and what requests keep still holds. -/
structure Unmoved (s : Surroundings σ) (Holds : σ → Prop) (cache : Cache Key Adapter)
    (seen : List Effect) (w : σ × List Effect)
    : Prop where
  cache : s.cache w.1 = cache
  holds : Holds w.1
  seen : w.2 = seen

theorem Unmoved.note {seen : List Effect} {w : σ × List Effect} (calm : s.Calm)
    (keeps : s.Keeps Holds) (unmoved : s.Unmoved Holds cache seen w) (record : LogRecord)
    : s.Unmoved Holds cache (seen ++ [.note record]) (s.traced.note record w) :=
  ⟨(calm.note record w.1).trans unmoved.cache, keeps.note record w.1 unmoved.holds,
    congrArg (· ++ [Effect.note record]) unmoved.seen⟩

/-- A call for a key that is cached does nothing but to note it. -/
theorem ensures_resolve_cached (calm : s.Calm) (keeps : s.Keeps Holds) {key : Key}
    {adapter : Adapter} (found : cache.find? key = some adapter) (seen : List Effect)
    : s.traced.Ensures (s.Unmoved Holds cache seen) (Call.resolve key) fun outcome w =>
        outcome = .ok adapter ∧ s.Unmoved Holds cache (seen ++ [.note (.reusing key)]) w := by
  intro w unmoved
  have inside : (s.traced.access.cache w).find? key = some adapter := by
    rw [← found, ← unmoved.cache]
    rfl
  rw [call_resolve, s.traced.access.resolve_of_found inside]
  refine ⟨rfl, ?_⟩
  obtain ⟨same, holds, noted⟩ := unmoved.note calm keeps (.reusing key)
  exact ⟨(calm.cache_setCache _ _).trans unmoved.cache, keeps.setCache _ _ holds, noted⟩

/-- What is asked of an adapter before a bucket is opened under the given configuration. -/
def asks (name : String) (c : Configuration) (adapter : Adapter) : List Effect :=
  if c.billOnlyRequesterPays then [.probe adapter name (.ok (some true))] else []

/-- Billing is settled as it is given where the adapter answers that the bucket is
requester-pays, if it is asked.
-/
theorem ensures_settle_paid (calm : s.Calm) (keeps : s.Keeps Holds) {name : String}
    {c : Configuration} {adapter : Adapter} (billable : ¬ c.Unbillable)
    (pays
      : c.billOnlyRequesterPays = true
        → ∀ w, Holds w → (s.probe adapter name w).1 = .ok (some true))
    (options : Option ClientOptions) (seen : List Effect)
    : s.traced.Ensures (s.Unmoved Holds cache seen) (Billing.settle name c adapter options)
        fun outcome w =>
          outcome = .ok (c, adapter) ∧ s.Unmoved Holds cache (seen ++ asks name c adapter) w := by
  unfold Billing.settle asks
  split
  · rename_i conditional
    refine .check (fun _ _ => .probe fun answer => ?_) ?_
    · have probed : ∀ w : σ × List Effect,
          (∃ v, s.Unmoved Holds cache seen v ∧ s.traced.probe adapter name v = (answer, w))
          → answer = .ok (some true)
            ∧ s.Unmoved Holds cache (seen ++ [.probe adapter name (.ok (some true))]) w := by
        rintro _ ⟨v, unmoved, ⟨⟩⟩
        have answered := pays conditional v.1 unmoved.holds
        refine ⟨answered, (calm.probe adapter name v.1).trans unmoved.cache,
          keeps.probe adapter name v.1 unmoved.holds, ?_⟩
        rw [← unmoved.seen, ← answered]
      refine .assume (fun w reached => (probed w reached).1) ?_
      rintro rfl
      exact .pure fun w reached => ⟨rfl, (probed w reached).2⟩
    · intro error w refused
      obtain ⟨inner, refused, -⟩ := mapError_eq_error.mp refused
      exact absurd (Billing.unbillable_of_check refused) billable
  · refine .pure fun w unmoved => ⟨rfl, ?_⟩
    rwa [List.append_nil]

/-- Where the adapter of a configuration is cached and says, if asked, that the bucket is
requester-pays, a handle is opened with it, and nothing is built.
-/
theorem ensures_openBucket_cached (calm : s.Calm) (keeps : s.Keeps Holds) {bucket : Value}
    {name : String} {c : Configuration} {options : Option ClientOptions} {adapter : Adapter}
    (names : Bucket.Names bucket name) (billable : ¬ c.Unbillable)
    (found : cache.find? ⟨c, options⟩ = some adapter)
    (pays
      : c.billOnlyRequesterPays = true
        → ∀ w, Holds w → (s.probe adapter name w).1 = .ok (some true))
    (scheme : String)
    : s.traced.Ensures (s.Unmoved Holds cache []) (openBucket bucket c options scheme)
        fun outcome w =>
          outcome = .ok ⟨⟨name, c, scheme⟩, adapter⟩
          ∧ s.Unmoved Holds cache
              (.note (.reusing ⟨c, options⟩)
                :: asks name c adapter
                ++ [.note (.opened ⟨⟨name, c, scheme⟩, adapter⟩)])
              w := by
  unfold openBucket
  refine .check (fun given named => ?_) ?_
  · have same : given = name := by
      have checked := mapError_eq_ok.mp named
      rw [Bucket.checkName_ok_iff.mpr names] at checked
      exact (Except.ok.inj checked).symm
    subst same
    refine .check (fun _ _ => ?_) ?_
    · refine .bind (ensures_resolve_cached calm keeps found []) (fun value => ?_) ?_
      · refine .assume (fun _ reached => Except.ok.inj reached.1) ?_
        rintro rfl
        refine .weaken ?_ fun _ reached => reached.2
        refine .bind (ensures_settle_paid calm keeps billable pays options _) (fun settled => ?_) ?_
        · refine .assume (fun _ reached => Except.ok.inj reached.1) ?_
          rintro rfl
          dsimp only
          rw [Handle.make_of_nonempty names.2.1]
          refine .note (.pure ?_)
          rintro _ ⟨v, ⟨-, unmoved⟩, rfl⟩
          exact ⟨rfl, unmoved.note calm keeps _⟩
        · exact fun _ _ reached => nomatch reached.1
      · exact fun _ _ reached => nomatch reached.1
    · intro error w refused
      obtain ⟨inner, refused, -⟩ := mapError_eq_error.mp refused
      exact absurd (Billing.unbillable_of_check refused) billable
  · intro error w refused
    obtain ⟨inner, refused, -⟩ := mapError_eq_error.mp refused
    rw [Bucket.checkName_ok_iff.mpr names] at refused
    cases refused

/-- A configuration that asks for billing but names nobody to bill is refused at once. -/
theorem call_openBucket_unbillable (s : Surroundings σ) {bucket : Value} {name : String}
    {c : Configuration} (names : Bucket.Names bucket name) (refused : c.Unbillable)
    (options : Option ClientOptions) (scheme : String) (w : σ)
    : s.call (openBucket bucket c options scheme) w
      = (.error (.configuration .noProjectToBill), w) := by
  have checked : Billing.check c = .error .noProjectToBill := by
    simp [Billing.check, refused.1, refused.2]
  unfold openBucket
  rw [Bucket.checkName_ok_iff.mpr names, checked]
  rfl

end Surroundings

/-- What comes of it when a bucket is opened again, under the configuration of a handle that has
been opened on it under `c` with the effects `trace`. `before` and `after` are the cache at the start
and at the end, and `again` are the effects.
-/
structure Opening.Reopens (c : Configuration) (trace : List Effect) (handle : Handle)
    (before : Cache Key Adapter) (again : List Effect) (outcome : Except Error Handle)
    (after : Cache Key Adapter)
    : Prop where
  /-- The project is stripped just where the handle has got another configuration. -/
  stripped : Strips trace ↔ handle.configuration ≠ c
  /-- The configuration of a handle is refused just where its project has been stripped. -/
  checked : (∃ error, Billing.check handle.configuration = .error error) ↔ Strips trace
  refused
    : Strips trace
      → outcome = .error (.configuration .noProjectToBill) ∧ again = [] ∧ after = before
  /-- Otherwise the handle is opened once more, and nothing is built. -/
  same
    : ¬ Strips trace
      → outcome = .ok handle
        ∧ (∀ project options answer, .build project options answer ∉ again)
        ∧ after = before

namespace Session

-----------------------------------------------------------------------------------------
-- Sessions with a backend that stays the same
-----------------------------------------------------------------------------------------

/-- The factory does not change the backend either. -/
structure Factory.Still (factory : Factory) : Prop extends factory.Quiet where
  backend
    : ∀ provider project options w, (factory provider project options w).2.backend = w.backend

/-- Without hooks, nothing happens to the backend. -/
theorem build_still : Factory.Still (World.build (hookRunner 0)) where
  toQuiet := build_quiet
  backend provider project options w := by
    unfold World.build
    dsimp only
    split
    · rfl
    · split <;> split <;> rfl

section

variable {factory : Factory}

/-- No request changes the backend. -/
theorem surroundings_keeps_backend (still : factory.Still) (provider : Provider) (name : String)
    (backend : Backend)
    : (World.surroundings factory provider name).Keeps fun w => w.backend = backend where
  setCache _ _ holds := holds
  build project options w holds := (still.backend provider project options w).trans holds
  probe _ _ _ holds := holds
  list _ _ _ holds := holds
  close _ _ holds := holds
  note record w holds := by
    change (w.note record).backend = backend
    unfold World.note
    split <;> exact holds

theorem openHandle_backend (still : factory.Still) (bucket : Value) (given : Option Configuration)
    (options : Option ClientOptions) (cache scheme : String) (w : World)
    : ((Act.openHandle factory bucket given options cache scheme).run w).2.backend = w.backend := by
  rw [run_openHandle_prepared]
  refine (surroundings_keeps_backend still (w.providerOf cache) cache w.backend).call _ ?_
  rw [w.prepare_eq cache bucket]

/-- All probes so far have been answered as the backend says. -/
structure Told (source : Backend) (w : World × List Effect) : Prop where
  backend : w.1.backend = source
  probes
    : ∀ adapter bucket answer,
        .probe adapter bucket answer ∈ w.2
        → answer = adapter.provider.probe bucket (source.reply bucket)

/-- Whatever is done next, it is no probe or is answered as the backend says. -/
theorem Told.append {source : Backend} {v w : World} {trace : List Effect}
    (told : Told source (v, trace)) (effect : Effect) (same : w.backend = source)
    (next
      : ∀ adapter bucket answer,
          effect = .probe adapter bucket answer
          → answer = adapter.provider.probe bucket (source.reply bucket))
    : Told source (w, trace ++ [effect]) := by
  refine ⟨same, fun adapter bucket answer member => ?_⟩
  rcases List.mem_append.mp member with old | new
  · exact told.probes adapter bucket answer old
  · exact next adapter bucket answer (List.mem_singleton.mp new).symm

theorem traced_keeps_told (still : factory.Still) (provider : Provider) (name : String)
    (source : Backend)
    : (World.surroundings factory provider name).traced.Keeps (Told source) where
  setCache _ _ told := ⟨told.backend, told.probes⟩
  build project options w told :=
    told.append (.build project options _)
      ((still.backend provider project options w.1).trans told.backend)
      fun _ _ _ same => nomatch same
  probe adapter bucket w told := by
    refine told.append (.probe adapter bucket _) told.backend ?_
    rintro _ _ _ ⟨⟩
    exact congrArg (fun source : Backend => adapter.provider.probe bucket (source.reply bucket))
      told.backend
  list adapter start _ told :=
    told.append (.list adapter start _) told.backend fun _ _ _ same => nomatch same
  close adapter _ told :=
    told.append (.close adapter) told.backend fun _ _ _ same => nomatch same
  note record w told :=
    told.append (.note record)
      ((surroundings_keeps_backend still provider name source).note record w.1 told.backend)
      fun _ _ _ same => nomatch same

/-- Every probe of an opening is answered as the backend says. -/
theorem openTrace_told (still : factory.Still) (bucket : Value) (given : Option Configuration)
    (options : Option ClientOptions) (cache scheme : String) (w : World) {adapter : Adapter}
    {name : String} {answer : Except AdapterError (Option Bool)}
    (member : .probe adapter name answer ∈ openTrace factory bucket given options cache scheme w)
    : answer = adapter.provider.probe name (w.backend.reply name) := by
  have begins : Told w.backend (w.prepare cache bucket, []) := by
    rw [w.prepare_eq cache bucket]
    exact ⟨rfl, fun _ _ _ => nofun⟩
  exact ((traced_keeps_told still (w.providerOf cache) cache w.backend).call _ begins).probes
    adapter name answer member

/-- Where a handle has been opened under a configuration as it was given, it is opened again. -/
theorem openHandle_kept (still : factory.Still) {bucket : Value} {given : Option Configuration}
    {c : Configuration} {options : Option ClientOptions} {cache scheme : String} {w v : World}
    {handle : Handle}
    (kept
      : Opening.Kept bucket c options scheme
          (openTrace factory bucket given options cache scheme w) handle (v.cache cache).entries)
    (sameBackend : v.backend = w.backend)
    : let again := (Act.openHandle factory bucket (some c) options cache scheme).run v
      again.1 = .ok handle
      ∧ (∀ project options' answer,
          .build project options' answer
          ∉ openTrace factory bucket (some c) options cache scheme v)
      ∧ again.2.cache cache = v.cache cache := by
  obtain ⟨⟨name, _, _⟩, adapter⟩ := handle
  obtain ⟨names, billable, view, cached, asked⟩ := kept
  cases view
  let s := World.surroundings factory (v.providerOf cache) cache
  have pays : c.billOnlyRequesterPays = true
      → ∀ u : World, u.backend = w.backend → (s.probe adapter name u).1 = .ok (some true) := by
    intro conditional u sameBackend
    rw [openTrace_told still bucket given options cache scheme w (asked conditional),
      ← sameBackend]
    rfl
  have prepared : s.Unmoved (fun u => u.backend = w.backend) (v.cache cache) []
      (v.prepare cache bucket, []) := by
    refine ⟨v.prepare_cache cache bucket cache, ?_, rfl⟩
    rw [v.prepare_eq cache bucket]
    exact sameBackend
  obtain ⟨ends, unmoved⟩ := Surroundings.ensures_openBucket_cached
    (surroundings_calm still.toQuiet (v.providerOf cache) cache)
    (surroundings_keeps_backend still (v.providerOf cache) cache w.backend) names billable cached
    pays scheme _ prepared
  have mirrored := s.traced_mirrors.call
    (CloudBuckets.openBucket bucket c options scheme) (v.prepare cache bucket, [])
  intro again
  have called : again = _ :=
    (run_openHandle_prepared factory bucket c options cache scheme v).trans mirrored
  rw [called]
  refine ⟨ends, fun project options' answer member => ?_, unmoved.cache⟩
  have trace : openTrace factory bucket (some c) options cache scheme v = _ := unmoved.seen
  rw [trace, Surroundings.asks] at member
  split at member <;> simp at member

/-- Where the project has been stripped, the configuration of the handle is refused. -/
theorem openHandle_stripped {bucket : Value} {c : Configuration} {handle : Handle}
    (stripped : Opening.Stripped bucket c handle) (options : Option ClientOptions)
    (cache scheme : String) (v : World)
    : let again :=
        (Act.openHandle factory bucket handle.configuration options cache scheme).run v
      again.1 = .error (.configuration .noProjectToBill)
      ∧ openTrace factory bucket handle.configuration options cache scheme v = []
      ∧ again.2.cache cache = v.cache cache := by
  have refused : handle.configuration.Unbillable := by
    rw [stripped.configuration]
    exact ⟨stripped.conditional, rfl⟩
  intro again
  have called : again = _ :=
    (run_openHandle_prepared factory bucket handle.configuration options cache scheme v).trans
      (Surroundings.call_openBucket_unbillable _ stripped.names refused options scheme _)
  rw [called]
  refine ⟨rfl, ?_, v.prepare_cache cache bucket cache⟩
  let s := World.surroundings factory (v.providerOf cache) cache
  exact congrArg (fun ended : Except Error Handle × World × List Effect => ended.2.2)
    (s.traced.call_openBucket_unbillable stripped.names refused options scheme
      (v.prepare cache bucket, []))

end

/-- A bucket is opened again under the configuration of a handle on it, with the same options and
the same cache. If the project has been stripped, that is refused and nothing is done, and otherwise
the same handle comes out and nothing is built. Factories may do no steps, and the second opening
may be from any state in which the cache is as the first one has left it and the backend as it was.
-/
theorem openHandle_reopens {factory : Factory} (still : factory.Still) (bucket : Value)
    (given : Option Configuration) (options : Option ClientOptions) (cache scheme : String)
    {w v : World} (unheld : (w.cache cache).Unheld) {handle : Handle}
    (opened
      : ((Act.openHandle factory bucket given options cache scheme).run w).1 = .ok handle)
    (sameCache
      : v.cache cache
        = ((Act.openHandle factory bucket given options cache scheme).run w).2.cache cache)
    (sameBackend : v.backend = w.backend)
    : let again := (Act.openHandle factory bucket handle.configuration options cache scheme).run v
      Opening.Reopens (given.getD w.defaultConfiguration)
        (openTrace factory bucket given options cache scheme w) handle (v.cache cache)
        (openTrace factory bucket handle.configuration options cache scheme v) again.1
        (again.2.cache cache) := by
  intro again
  obtain ⟨effects, -⟩ := openHandle_effects still.toQuiet bucket given options cache scheme unheld
  have course := effects.course
  rw [opened, ← sameCache] at course
  rcases course.kept_or_stripped with ⟨unstripped, kept⟩ | ⟨strips, stripped⟩
  · have same : handle.configuration = given.getD w.defaultConfiguration := by
      rw [kept.view]
    have accepted : Billing.check handle.configuration = .ok () := by
      rw [same]
      exact Billing.check_ok_iff.mpr kept.billable
    refine ⟨?_, ?_, fun strips => absurd strips unstripped, fun _ => ?_⟩
    · exact iff_of_false unstripped (not_not_intro same)
    · refine iff_of_false ?_ unstripped
      rintro ⟨error, refused⟩
      rw [accepted] at refused
      cases refused
    · rw [← same] at kept
      exact openHandle_kept still kept sameBackend
  · have unbilled := stripped.configuration
    refine ⟨iff_of_true strips ?_, iff_of_true ?_ strips, fun _ => ?_, fun not => absurd strips not⟩
    · intro same
      refine stripped.billable ⟨stripped.conditional, ?_⟩
      rw [← same, unbilled]
      rfl
    · refine ⟨.noProjectToBill, ?_⟩
      rw [unbilled]
      simp [Billing.check, Configuration.unbilled, stripped.conditional]
    · exact openHandle_stripped stripped options cache scheme v

/-- A bucket that is not requester-pays is opened, and the handle's configuration is refused after
that. One that is requester-pays is opened, and opened again with the adapter that is cached.
-/
theorem openHandle_reopens_both
    : let factory := World.build (hookRunner 0)
      let opens := fun (bucket : String) (c : Configuration) =>
        (Act.openHandle factory (.text bucket) (some c) none "mine" "gs").run
      let trace := fun (bucket : String) (c : Configuration) =>
        openTrace factory (.text bucket) (some c) none "mine" "gs"
      let start : World :=
        {
          provider := .cloud,
          logging := false,
          backend := { buckets := [("paid", .ok (some true))] }
        }
      let plain := opens "plain" conditional start
      let paid := opens "paid" conditional start
      let unbilled : Handle := ⟨⟨"plain", conditional.unbilled, "gs"⟩, ⟨1, .cloud, "", none⟩⟩
      let billed : Handle := ⟨⟨"paid", conditional, "gs"⟩, ⟨0, .cloud, "payer", none⟩⟩
      plain.1 = .ok unbilled
      ∧ Opening.Strips (trace "plain" conditional start)
      ∧ (opens "plain" conditional.unbilled plain.2).1 = .error (.configuration .noProjectToBill)
      ∧ paid.1 = .ok billed
      ∧ ¬ Opening.Strips (trace "paid" conditional start)
      ∧ (opens "paid" conditional paid.2).1 = .ok billed
      ∧ (opens "paid" conditional paid.2).2.cache "mine" = paid.2.cache "mine" := by
  intro factory opens trace start plain paid unbilled billed
  have evolves : Evolves (fun _ => True) { provider := .cloud, logging := false } start :=
    .aside (.refl _) rfl rfl
  have unheld := evolves.unheld "mine"
  have openedPlain : plain.1 = .ok unbilled := ok_of_toOption (by decide +kernel)
  have openedPaid : paid.1 = .ok billed := ok_of_toOption (by decide +kernel)
  have plainAgain := openHandle_reopens build_still (.text "plain") (some conditional) none "mine"
    "gs" unheld openedPlain rfl (openHandle_backend build_still _ _ _ _ _ _)
  have paidAgain := openHandle_reopens build_still (.text "paid") (some conditional) none "mine"
    "gs" unheld openedPaid rfl (openHandle_backend build_still _ _ _ _ _ _)
  have strips : Opening.Strips (trace "plain" conditional start) :=
    plainAgain.stripped.mpr (by decide)
  have keeps : ¬ Opening.Strips (trace "paid" conditional start) :=
    fun strips => paidAgain.stripped.mp strips rfl
  exact ⟨openedPlain, strips, (plainAgain.refused strips).1, openedPaid, keeps,
    (paidAgain.same keeps).1, (paidAgain.same keeps).2.2⟩

end Session

end CloudBuckets
