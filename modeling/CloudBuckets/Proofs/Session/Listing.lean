import CloudBuckets.Proofs.Listing
import CloudBuckets.Proofs.Session.OpeningEffects

/-! What the listing of buckets does to a session. Whatever the factory and the backend answer, the
adapter that has been built for the listing is closed, and nothing else is changed.
-/

namespace CloudBuckets.Session

/-- Where there are no steps to be done while an adapter is built, it does not matter how they would
be done.
-/
theorem build_of_hookless (runHook : HookRunner) (provider : Provider) (project : String)
    (options : Option ClientOptions) {w : World} (hookless : w.hook = [])
    : World.build runHook provider project options w
      = World.build (hookRunner 0) provider project options w := by
  have nothing : (w.see (.ofBuild provider project options)).hook.isEmpty = true := by
    rw [World.see, hookless]
    rfl
  simp only [World.build, nothing, if_pos]

-----------------------------------------------------------------------------------------
-- Listings
-----------------------------------------------------------------------------------------

/-- What a listing of the buckets of a project has come to. The factory has answered `built` and
left the session as `between`, and the listing leaves it as `after`.
-/
structure ListingEffects (project start : Option String) (built : Except Fault Adapter)
    (between : World) (trace : List Effect) (outcome : Except Error (List String)) (after : World)
    : Prop where
  /-- One adapter is asked for. -/
  requested : Effect.requested trace = [("", some { project })]
  /-- What has been built is closed, once. -/
  closed : Effect.closed trace = built.toOption.toList
  /-- A failure of the factory is passed on, and nothing else is done. -/
  unbuilt
    : ∀ fault,
        built = .error fault
        → trace = [.build "" (some { project }) built]
          ∧ outcome = .error (.fault fault)
          ∧ after = between
  /-- The adapter is closed after it has answered, whatever it has answered. -/
  listed
    : ∀ adapter,
        built = .ok adapter
        → (∃ answer,
            trace = [.build "" (some { project }) built, .list adapter start answer, .close adapter]
            ∧ outcome = answer.mapError AdapterError.toError)
          ∧ after = (between.see (.list adapter start)).see (.close adapter)
  /-- The backend is listed, and its failures are reported as the provider has it. -/
  answered
    : ∀ adapter, built = .ok adapter → between.backend.Lists start adapter.provider outcome
  /-- There are names just if nothing has failed, and then there are all of them. -/
  complete
    : ∀ names,
        outcome = .ok names
        ↔ built.toBool = true
          ∧ between.backend.listFailure = none
          ∧ names = between.backend.starting start
  caches : after.caches = between.caches
  default : after.default = between.default

/-- The session with all that is seen of an adapter that has been built for a listing. -/
def World.listed (w : World) (start : Option String) : Except Fault Adapter → World
  | .error _ => w
  | .ok adapter => (w.see (.list adapter start)).see (.close adapter)

/-- A listing has these effects if the adapter answers for the backend, by cases on what the factory
has answered.
-/
theorem ListingEffects.of_course {project start : Option String} {built : Except Fault Adapter}
    {between : World} {trace : List Effect} {outcome : Except Error (List String)} {after : World}
    (course
      : Listing.Course project start
          (fun adapter => adapter.provider.list (between.backend.listing start)) built trace outcome)
    (leaves : after = between.listed start built)
    : ListingEffects project start built between trace outcome after where
  requested := course.requested_eq
  closed := course.closed_eq
  unbuilt fault failed := by
    subst failed
    cases course
    exact ⟨rfl, rfl, leaves⟩
  listed adapter made := by
    subst made
    cases course
    exact ⟨⟨_, rfl, rfl⟩, leaves⟩
  answered adapter made := by
    subst made
    cases course
    exact adapter.provider.list_lists between.backend start
  complete names := by
    cases course with
    | unbuilt fault => simp [Except.toBool]
    | built adapter =>
        have lists := adapter.provider.list_lists between.backend start
        simpa [Except.toBool] using lists.eq_ok_iff
  caches := by cases built <;> rw [leaves] <;> rfl
  default := by cases built <;> rw [leaves] <;> rfl

section

variable (factory : Factory) (project start : Option String) (w : World)

/-- The call that lists the buckets of a project. -/
def listCall : Except Error (List String) × World :=
  (World.surroundings factory w.provider processWide).call
    (CloudBuckets.listBuckets project start) w

/-- The effects of the call, in order. -/
def listTrace : List Effect :=
  (World.surroundings factory w.provider processWide).trace
    (CloudBuckets.listBuckets project start) w

/-- To list buckets is to make the call. -/
theorem perform_listBuckets
    : (Act.perform factory (.listBuckets project start)).run w
      = ((listCall factory project start w).1.map Answer.names,
          (listCall factory project start w).2) := by
  have called
      : (Act.call factory w.provider processWide (CloudBuckets.listBuckets project start)).run w
        = listCall factory project start w :=
    rfl
  change ((Act.call factory w.provider processWide (CloudBuckets.listBuckets project start))
    >>= fun names => (pure (Answer.names names) : Act Answer)).run w = _
  rw [Act.run_bind, called]
  cases listCall factory project start w with
  | mk outcome v => cases outcome <;> rfl

/-- The call leaves the session as the build of the adapter has left it, with what is seen of the
adapter.
-/
theorem listCall_snd
    : let built := factory w.provider "" (some { project }) w
      (listCall factory project start w).2 = built.2.listed start built.1 := by
  rw [listCall, Surroundings.call_listBuckets]
  dsimp only [World.surroundings]
  cases (factory w.provider "" (some { project }) w).1 <;> rfl

end

/-- The buckets of a project are listed with one adapter that is closed at the end, for every
factory and every backend, and no cache is touched and no default is set by it. Where no steps are
done while the adapter is built, all that is seen are the build, the listing and the close.
-/
theorem listBuckets_effects (factory : Factory) (project start : Option String) (w : World)
    : let built := factory w.provider "" (some { project }) w
      let trace := listTrace factory project start w
      let ended := listCall factory project start w
      (Act.perform factory (.listBuckets project start)).run w
        = (ended.1.map Answer.names, ended.2)
      ∧ ListingEffects project start built.1 built.2 trace ended.1 ended.2
      ∧ ∀ runHook,
          factory = World.build runHook
          → w.hook = []
          → ended.2.caches = w.caches
            ∧ ended.2.default = w.default
            ∧ ended.2.events
              = w.events ++ trace.flatMap (Effect.events w.provider w.logging) := by
  intro built trace ended
  have course := (World.surroundings factory w.provider processWide).listBuckets_course
    project start w
  have effects : ListingEffects project start built.1 built.2 trace ended.1 ended.2 :=
    .of_course course (listCall_snd factory project start w)
  refine ⟨perform_listBuckets factory project start w, effects, fun runHook same hookless => ?_⟩
  obtain ⟨caches, default, -, events⟩ := build_hookless w.provider "" (some { project }) w
  rw [← build_of_hookless runHook w.provider "" (some { project }) hookless, ← same]
    at caches default events
  refine ⟨effects.caches.trans caches, effects.default.trans default, ?_⟩
  cases made : built.1 with
  | error fault =>
      obtain ⟨traced, -, left⟩ := effects.unbuilt fault made
      rw [left, traced]
      exact events
  | ok adapter =>
      obtain ⟨⟨answer, traced, -⟩, left⟩ := effects.listed adapter made
      rw [left, traced]
      simp only [World.see, built, events, List.append_assoc]
      rfl

/-- The service breaks down after it has listed some of the buckets: none of them is returned, and
the adapter is closed. When it is back, the names that begin with the text are returned in order.
Where no adapter can be built, none is closed.
-/
theorem listBuckets_effects_interrupted
    : let factory := World.build (hookRunner 0)
      let busy : Fault := ⟨.call .serviceUnavailable, some "busy", []⟩
      let buckets : List (String × Reply) :=
        [("data-2", .ok none), ("logs", .ok (some true)), ("data-1", .error busy)]
      let failing : World :=
        {
          provider := .cloud,
          logging := true,
          backend := { buckets, listFailure := some busy, listedBefore := 2 }
        }
      let answering : World := { failing with backend := { buckets } }
      let refusing : World := { failing with backend := { buckets, buildFailure := some busy } }
      let listed := listCall factory (some "acme") (some "data")
      let adapter : Adapter := ⟨0, .cloud, "", some { project := some "acme" }⟩
      (listed failing).1 = .error (.resolution ⟨.listing, busy⟩)
      ∧ (listed failing).2.events
        = [
          .ofBuild .cloud "" (some { project := some "acme" }),
          .list adapter (some "data"),
          .close adapter
        ]
      ∧ (listed failing).2.caches = []
      ∧ (listed answering).1 = .ok ["data-2", "data-1"]
      ∧ (listed refusing).1 = .error (.fault busy)
      ∧ Effect.closed (listTrace factory (some "acme") (some "data") refusing) = [] := by
  intro factory busy buckets failing answering refusing listed adapter
  obtain ⟨-, -, quietly⟩ := listBuckets_effects factory (some "acme") (some "data") failing
  obtain ⟨-, answered, -⟩ := listBuckets_effects factory (some "acme") (some "data") answering
  obtain ⟨-, refused, -⟩ := listBuckets_effects factory (some "acme") (some "data") refusing
  obtain ⟨caches, -, events⟩ := quietly (hookRunner 0) rfl rfl
  refine ⟨rfl, ?_, caches, ?_, (refused.unbuilt busy rfl).2.1, refused.closed⟩
  · rw [events]
    rfl
  · exact (answered.complete _).mpr ⟨rfl, rfl, by decide +kernel⟩

end CloudBuckets.Session
