import CloudBuckets.Proofs.Opening
import CloudBuckets.Proofs.Tracing

/-! What the opening of a handle does, and in which order. Each stage of it is described by the
effects that it has, how it ends, and what the cache holds then, by what the cache held before.
-/

namespace CloudBuckets

-----------------------------------------------------------------------------------------
-- The courses that calls may take
-----------------------------------------------------------------------------------------

/-- How a cache that holds `entries` comes to the adapter of a key: it reuses the one that is there,
or else has one built, which it holds from then on.
-/
inductive Obtains (key : Key) (entries : List (Key × Adapter))
    : List Effect → Except Fault Adapter → List (Key × Adapter) → Prop
  | reuses {adapter : Adapter} (found : entries.lookup key = some adapter)
    : Obtains key entries [.note (.reusing key)] (.ok adapter) entries
  | builds {adapter : Adapter} (missing : entries.lookup key = none)
    : Obtains key entries
        [.note (.building key), .build key.configuration.userProject key.options (.ok adapter)]
        (.ok adapter)
        ((key, adapter) :: entries)
  | fails {cause : Fault} (missing : entries.lookup key = none)
    : Obtains key entries
        [.note (.building key), .build key.configuration.userProject key.options (.error cause)]
        (.error cause)
        entries

/-- How the billing for a bucket is settled. Only where it depends on the bucket, the adapter is
asked, once. Unless it answers that the bucket is requester-pays, that is noted, and the adapter of
the configuration that bills nobody is obtained.
-/
inductive Billing.Course (name : String) (c : Configuration) (options : Option ClientOptions)
    (adapter : Adapter) (entries : List (Key × Adapter))
    : List Effect
      → Except Error (Configuration × Adapter)
      → List (Key × Adapter)
      → Prop
  | unconditional (always : c.billOnlyRequesterPays = false)
    : Course name c options adapter entries [] (.ok (c, adapter)) entries
  | unanswered {error : AdapterError} (conditional : c.billOnlyRequesterPays = true)
    : Course name c options adapter entries
        [.probe adapter name (.error error)]
        (.error (Billing.probeError name error))
        entries
  | pays (conditional : c.billOnlyRequesterPays = true)
    : Course name c options adapter entries
        [.probe adapter name (.ok (some true))]
        (.ok (c, adapter))
        entries
  | strips {answer : Option Bool} {trace : List Effect} {other : Adapter}
    {after : List (Key × Adapter)} (conditional : c.billOnlyRequesterPays = true)
    (notPays : answer = some false ∨ answer = none)
    (obtains : Obtains ⟨c.unbilled, options⟩ entries trace (.ok other) after)
    : Course name c options adapter entries
        (.probe adapter name (.ok answer) :: .note (.notBilling name c.userProject) :: trace)
        (.ok (c.unbilled, other))
        after
  | unbuilt {answer : Option Bool} {trace : List Effect} {cause : Fault}
    {after : List (Key × Adapter)} (conditional : c.billOnlyRequesterPays = true)
    (notPays : answer = some false ∨ answer = none)
    (obtains : Obtains ⟨c.unbilled, options⟩ entries trace (.error cause) after)
    : Course name c options adapter entries
        (.probe adapter name (.ok answer) :: .note (.notBilling name c.userProject) :: trace)
        (.error (.resolution ⟨.building, cause⟩))
        after

/-- How a handle is opened. What is refused has no effects. Otherwise the adapter for the
configuration is obtained, then billing is settled, and then a handle that is returned is noted.
-/
inductive Opening.Course (bucket : Value) (c : Configuration) (options : Option ClientOptions)
    (scheme : String) (entries : List (Key × Adapter))
    : List Effect → Except Error Handle → List (Key × Adapter) → Prop
  | misnamed {error : BucketNameError} (refused : ¬ ∃ name, Bucket.Names bucket name)
    : Course bucket c options scheme entries [] (.error (.bucketName error)) entries
  | unbillable {name : String} {error : ConfigurationError} (names : Bucket.Names bucket name)
    (refused : c.Unbillable)
    : Course bucket c options scheme entries [] (.error (.configuration error)) entries
  | unbuilt {name : String} {trace : List Effect} {cause : Fault} {after : List (Key × Adapter)}
    (names : Bucket.Names bucket name) (billable : ¬ c.Unbillable)
    (obtains : Obtains ⟨c, options⟩ entries trace (.error cause) after)
    : Course bucket c options scheme entries
        trace
        (.error (.resolution ⟨.building, cause⟩))
        after
  | unsettled {name : String} {trace later : List Effect} {adapter : Adapter} {error : Error}
    {middle after : List (Key × Adapter)}
    (names : Bucket.Names bucket name) (billable : ¬ c.Unbillable)
    (obtains : Obtains ⟨c, options⟩ entries trace (.ok adapter) middle)
    (settles : Billing.Course name c options adapter middle later (.error error) after)
    : Course bucket c options scheme entries (trace ++ later) (.error error) after
  | opened {name : String} {trace later : List Effect} {adapter last : Adapter}
    {settled : Configuration} {middle after : List (Key × Adapter)}
    (names : Bucket.Names bucket name) (billable : ¬ c.Unbillable)
    (obtains : Obtains ⟨c, options⟩ entries trace (.ok adapter) middle)
    (settles : Billing.Course name c options adapter middle later (.ok (settled, last)) after)
    : Course bucket c options scheme entries
        (trace ++ later ++ [.note (.opened ⟨⟨name, settled, scheme⟩, last⟩)])
        (.ok ⟨⟨name, settled, scheme⟩, last⟩)
        after

-----------------------------------------------------------------------------------------
-- What all courses have in common
-----------------------------------------------------------------------------------------

/-- What has been built goes on top of what was cached before, which had nothing for these keys. -/
structure Adds (before : List (Key × Adapter)) (trace : List Effect)
    (after : List (Key × Adapter))
    : Prop where
  cached : after = (Effect.built trace).reverse ++ before
  missing : ∀ entry ∈ Effect.built trace, before.lookup entry.1 = none

namespace Adds

theorem of_built_nil {trace : List Effect} (entries : List (Key × Adapter))
    (nothing : Effect.built trace = [])
    : Adds entries trace entries := by
  refine ⟨?_, fun entry member => ?_⟩
  · rw [nothing, List.reverse_nil, List.nil_append]
  · rw [nothing] at member
    cases member

theorem trans {first middle last : List (Key × Adapter)} {trace later all : List Effect}
    (earlier : Adds first trace middle) (adds : Adds middle later last)
    (built : Effect.built all = Effect.built trace ++ Effect.built later)
    : Adds first all last := by
  refine ⟨?_, ?_⟩
  · rw [adds.cached, earlier.cached, built, List.reverse_append, List.append_assoc]
  · intro entry member
    rw [built] at member
    rcases List.mem_append.mp member with old | new
    · exact earlier.missing entry old
    · have missing := adds.missing entry new
      rw [earlier.cached, List.lookup_append, Option.or_eq_none_iff] at missing
      exact missing.2

/-- What was cached for a key stays. -/
theorem kept {before after : List (Key × Adapter)} {trace : List Effect}
    (adds : Adds before trace after) {key : Key} {adapter : Adapter}
    (found : before.lookup key = some adapter)
    : after.lookup key = some adapter := by
  have notBuilt : (Effect.built trace).reverse.lookup key = none := by
    refine List.lookup_eq_none_iff.mpr fun entry member => bne_iff_ne.mpr ?_
    rintro rfl
    have missing := adds.missing entry (List.mem_reverse.mp member)
    rw [found] at missing
    cases missing
  rw [adds.cached, List.lookup_append, notBuilt, Option.none_or, found]

end Adds

namespace Obtains

variable {key : Key} {entries after : List (Key × Adapter)} {trace : List Effect}
  {answer : Except Fault Adapter}

theorem opened (obtains : Obtains key entries trace answer after) : Effect.opened trace = [] := by
  cases obtains <;> rfl

theorem built_append (obtains : Obtains key entries trace answer after) (later : List Effect)
    : Effect.built (trace ++ later) = Effect.built trace ++ Effect.built later := by
  cases obtains <;> rfl

theorem adds (obtains : Obtains key entries trace answer after) : Adds entries trace after := by
  cases obtains with
  | reuses | fails => exact .of_built_nil entries rfl
  | builds missing =>
      refine ⟨rfl, fun entry member => ?_⟩
      rw [List.mem_singleton.mp member]
      exact missing

end Obtains

namespace Billing.Course

variable {name : String} {c : Configuration} {options : Option ClientOptions} {adapter : Adapter}
  {entries after : List (Key × Adapter)} {trace : List Effect}
  {outcome : Except Error (Configuration × Adapter)}

theorem opened (course : Course name c options adapter entries trace outcome after)
    : Effect.opened trace = [] := by
  cases course with
  | unconditional | unanswered | pays => rfl
  | strips _ _ obtains | unbuilt _ _ obtains => exact obtains.opened

theorem built_append (course : Course name c options adapter entries trace outcome after)
    (later : List Effect)
    : Effect.built (trace ++ later) = Effect.built trace ++ Effect.built later := by
  cases course with
  | unconditional | unanswered | pays => rfl
  | strips _ _ obtains | unbuilt _ _ obtains => exact obtains.built_append later

theorem adds (course : Course name c options adapter entries trace outcome after)
    : Adds entries trace after := by
  cases course with
  | unconditional | unanswered | pays => exact .of_built_nil entries rfl
  | strips _ _ obtains | unbuilt _ _ obtains =>
      exact ⟨obtains.adds.cached, obtains.adds.missing⟩

/-- Billing that cannot be settled ends with an error of resolution. -/
theorem seenKind {error : Error}
    (course : Course name c options adapter entries trace (.error error) after)
    : error.seenKind = .resolution := by
  cases course with
  | @unanswered failure _ => exact (Exchange.causes_probeError adapter name failure).seenKind
  | unbuilt => rfl

end Billing.Course

namespace Opening.Course

variable {bucket : Value} {c : Configuration} {options : Option ClientOptions} {scheme : String}
  {entries after : List (Key × Adapter)} {trace : List Effect} {outcome : Except Error Handle}

/-- The handle that is noted is that which is returned. -/
theorem opened_eq (course : Course bucket c options scheme entries trace outcome after)
    : Effect.opened trace = outcome.toOption.toList := by
  cases course with
  | misnamed | unbillable => rfl
  | unbuilt _ _ obtains => exact obtains.opened
  | unsettled _ _ obtains settles =>
      rw [Effect.opened, List.filterMap_append]
      exact congrArg₂ (· ++ ·) obtains.opened settles.opened
  | opened _ _ obtains settles =>
      rw [Effect.opened, List.filterMap_append, List.filterMap_append]
      exact congrArg₂ (· ++ ·) (congrArg₂ (· ++ ·) obtains.opened settles.opened) rfl

theorem adds (course : Course bucket c options scheme entries trace outcome after)
    : Adds entries trace after := by
  cases course with
  | misnamed | unbillable => exact .of_built_nil entries rfl
  | unbuilt _ _ obtains => exact obtains.adds
  | unsettled _ _ obtains settles => exact obtains.adds.trans settles.adds (obtains.built_append _)
  | opened _ _ obtains settles =>
      refine obtains.adds.trans settles.adds ?_
      rw [List.append_assoc, obtains.built_append, settles.built_append]
      exact congrArg _ (List.append_nil _)

/-- A call that ends with a refusal has no effects, and it is the arguments that are refused. -/
theorem refused {error : Error}
    (course : Course bucket c options scheme entries trace (.error error) after)
    (kind : error.seenKind = .bucketName ∨ error.seenKind = .configuration)
    : trace = [] ∧ ∀ name, Bucket.Names bucket name → c.Unbillable := by
  have resolved : error.seenKind ≠ .resolution := by
    intro same
    rw [same] at kind
    rcases kind with kind | kind <;> cases kind
  cases course with
  | misnamed refused => exact ⟨rfl, fun name names => absurd ⟨name, names⟩ refused⟩
  | unbillable _ refused => exact ⟨rfl, fun _ _ => refused⟩
  | unbuilt => exact absurd rfl resolved
  | unsettled _ _ _ settles => exact absurd settles.seenKind resolved

end Opening.Course

/-- The effects of the opening of a handle, where `before` and `after` are the cache at its start and
at its end.
-/
structure Opening.Effects (bucket : Value) (c : Configuration) (options : Option ClientOptions)
    (scheme : String) (before : Cache Key Adapter) (trace : List Effect)
    (outcome : Except Error Handle) (after : Cache Key Adapter)
    : Prop where
  course : Opening.Course bucket c options scheme before.entries trace outcome after.entries
  /-- A refusal has no effects at all. -/
  refused
    : ∀ error,
        outcome = .error error
        → error.seenKind = .bucketName ∨ error.seenKind = .configuration
        → trace = [] ∧ after = before
  /-- A handle is noted just if it is returned. -/
  opened : Effect.opened trace = outcome.toOption.toList
  /-- What has been built is added to the cache, and nothing else. -/
  adds : Adds before.entries trace after.entries
  kept : ∀ key adapter, before.find? key = some adapter → after.find? key = some adapter

-----------------------------------------------------------------------------------------
-- Calls where nothing else happens to the cache
-----------------------------------------------------------------------------------------

namespace Surroundings

variable {σ β γ : Type} {s : Surroundings σ}

/-- Nothing but calls for keys changes the cache. -/
structure Calm (s : Surroundings σ) : Prop where
  cache_setCache : ∀ cache w, s.cache (s.setCache cache w) = cache
  build : ∀ project options w, s.cache (s.build project options w).2 = s.cache w
  probe : ∀ adapter bucket w, s.cache (s.probe adapter bucket w).2 = s.cache w
  note : ∀ record w, s.cache (s.note record w) = s.cache w

theorem Calm.traced (calm : s.Calm) : s.traced.Calm :=
  ⟨fun cache w => calm.cache_setCache cache w.1, fun project options w =>
    calm.build project options w.1, fun adapter bucket w => calm.probe adapter bucket w.1,
    fun record w => calm.note record w.1⟩

theorem Calm.orderly (calm : s.Calm) : s.access.Orderly where
  cache_setCache := calm.cache_setCache
  make_numbered key w numbered := by
    change (s.cache (s.build _ _ w).2).Numbered
    rwa [calm.build]
  make_settles key w _ := by
    change Cache.Settles none (s.cache w) (s.cache (s.build _ _ w).2)
    rw [calm.build]
    exact .refl none _

/-- From every state in which the cache holds `entries` and nobody holds a lock, the call takes a
course of the kind, given by its effects, its outcome and what the cache holds then. Nobody holds a
lock afterwards.
-/
def Takes (s : Surroundings σ) (entries : List (Key × Adapter)) (call : Call β)
    (Course : List Effect → Except Error β → List (Key × Adapter) → Prop)
    : Prop :=
  ∀ w : σ × List Effect,
    (s.cache w.1).entries = entries
    → (s.cache w.1).Unheld
    → ∃ trace,
        (s.traced.call call w).2.2 = w.2 ++ trace
        ∧ Course trace (s.traced.call call w).1 (s.cache (s.traced.call call w).2.1).entries
        ∧ (s.cache (s.traced.call call w).2.1).Unheld

namespace Takes

variable {entries : List (Key × Adapter)}
  {Course : List Effect → Except Error β → List (Key × Adapter) → Prop}

theorem pure {value : β} (ends : Course [] (.ok value) entries)
    : s.Takes entries (Pure.pure value) Course := by
  rintro w rfl unheld
  exact ⟨[], (List.append_nil _).symm, ends, unheld⟩

theorem throw {error : Error} (ends : Course [] (.error error) entries)
    : s.Takes entries (MonadExcept.throw error) Course := by
  rintro w rfl unheld
  exact ⟨[], (List.append_nil _).symm, ends, unheld⟩

/-- A call after another adds its effects to those of the first. -/
theorem bind {first : Call γ} {next : γ → Call β}
    {First : List Effect → Except Error γ → List (Key × Adapter) → Prop}
    (begins : s.Takes entries first First)
    (goesOn
      : ∀ value trace middle,
          First trace (.ok value) middle
          → s.Takes middle (next value) fun later => Course (trace ++ later))
    (fails
      : ∀ error trace after, First trace (.error error) after → Course trace (.error error) after)
    : s.Takes entries (first >>= next) Course := by
  intro w held unheld
  obtain ⟨trace, noted, course, stillUnheld⟩ := begins w held unheld
  rw [call_bind]
  cases ended : s.traced.call first w with
  | mk outcome v =>
      simp only [ended] at noted course stillUnheld
      cases outcome with
      | error error => exact ⟨trace, noted, fails _ _ _ course, stillUnheld⟩
      | ok value =>
          obtain ⟨later, notedLater, course, unheldLater⟩ :=
            goesOn value trace _ course v rfl stillUnheld
          refine ⟨trace ++ later, ?_, course, unheldLater⟩
          dsimp only
          rw [notedLater, noted, List.append_assoc]

theorem check {outcome : Except Error γ} {next : γ → Call β}
    (goesOn : ∀ value, outcome = .ok value → s.Takes entries (next value) Course)
    (fails : ∀ error, outcome = .error error → Course [] (.error error) entries)
    : s.Takes entries (liftM outcome >>= next) Course := by
  cases outcome with
  | ok value => exact goesOn value rfl
  | error error => exact .throw (fails error rfl)

theorem probe (calm : s.Calm) {adapter : Adapter} {bucket : String}
    {next : Except AdapterError (Option Bool) → Call β}
    (goesOn
      : ∀ answer,
          s.Takes entries (next answer) fun later =>
            Course (.probe adapter bucket answer :: later))
    : s.Takes entries (liftM (Call.probe adapter bucket) >>= next) Course := by
  intro w held unheld
  have same := calm.traced.probe adapter bucket w
  obtain ⟨later, noted, course, stillUnheld⟩ :=
    goesOn (s.traced.probe adapter bucket w).1 (s.traced.probe adapter bucket w).2
      ((congrArg Cache.entries same).trans held) (same ▸ unheld)
  exact ⟨_, noted.trans (List.append_assoc _ _ _), course, stillUnheld⟩

theorem note (calm : s.Calm) {record : LogRecord} {next : Unit → Call β}
    (goesOn : s.Takes entries (next ()) fun later => Course (.note record :: later))
    : s.Takes entries (liftM (Call.note record) >>= next) Course := by
  intro w held unheld
  have same := calm.traced.note record w
  obtain ⟨later, noted, course, stillUnheld⟩ :=
    goesOn (s.traced.note record w) ((congrArg Cache.entries same).trans held) (same ▸ unheld)
  exact ⟨_, noted.trans (List.append_assoc _ _ _), course, stillUnheld⟩

end Takes

-----------------------------------------------------------------------------------------
-- How adapters are obtained
-----------------------------------------------------------------------------------------

/-- The log records of what a call for a key has to tell at its next step. -/
def toldEffects (key : Key) (stage : Cache.Stage Fault Adapter) (cache : Cache Key Adapter)
    : List Effect :=
  match stage.notice? key cache with
  | some .reusing => [.note (.reusing key)]
  | some .making => [.note (.building key)]
  | none => []

theorem told_traced (key : Key) (stage : Cache.Stage Fault Adapter) (w : σ × List Effect)
    : (s.traced.access.told key stage w).2 = w.2 ++ toldEffects key stage (s.cache w.1) := by
  have sameCache : s.traced.access.cache w = s.cache w.1 := rfl
  unfold Cache.Access.told toldEffects
  rw [sameCache]
  cases stage.notice? key (s.cache w.1) with
  | none => exact (List.append_nil _).symm
  | some notice => cases notice <;> rfl

theorem make_traced (key : Key) (w : σ × List Effect)
    : s.traced.access.make key w
      = let (answer, next) := s.build key.configuration.userProject key.options w.1
        (answer, next, w.2 ++ [.build key.configuration.userProject key.options answer]) :=
  rfl

/-- How far a call for a key has come, by its effects so far and what the cache holds, where it
held `entries` at the start.
-/
def Underway (key : Key) (entries : List (Key × Adapter)) (stage : Cache.Stage Fault Adapter)
    (trace : List Effect) (now : List (Key × Adapter))
    : Prop :=
  match stage with
  | .looking => trace = [] ∧ now = entries
  | .registering | .acquiring _ | .rechecking _ | .starting _ =>
      entries.lookup key = none ∧ trace = [] ∧ now = entries
  | .making _ =>
      entries.lookup key = none ∧ trace = [.note (.building key)] ∧ now = entries
  | .storing _ adapter =>
      entries.lookup key = none
      ∧ trace
        = [
          .note (.building key),
          .build key.configuration.userProject key.options (.ok adapter)
        ]
      ∧ now = entries
  | .releasing _ result | .leaving _ result | .done result =>
      Obtains key entries trace result now

/-- An adapter that is stored for a key goes on top where there is none yet. -/
theorem store_entries {cache : Cache Key Adapter} {key : Key} (adapter : Adapter)
    (missing : cache.entries.lookup key = none)
    : (cache.store key adapter).entries = (key, adapter) :: cache.entries := by
  have others : cache.entries.filter (fun entry => entry.1 ≠ key) = cache.entries := by
    rw [List.filter_eq_self]
    intro entry member
    have apart : key ≠ entry.1 := bne_iff_ne.mp (List.lookup_eq_none_iff.mp missing entry member)
    exact decide_eq_true apart.symm
  exact congrArg ((key, adapter) :: ·) others

/-- A call comes further with every move, by cases on the move. -/
theorem Underway.moves {key : Key} {entries : List (Key × Adapter)}
    {stage next : Cache.Stage Fault Adapter} {cache after : Cache Key Adapter}
    {trace : List Effect} (underway : Underway key entries stage trace cache.entries)
    (moves : Cache.Moves key stage cache next after)
    : Underway key entries next (trace ++ toldEffects key stage cache) after.entries := by
  have kept := moves.entries_eq
  cases moves with
  | find found =>
      obtain ⟨rfl, held⟩ := underway
      have told : toldEffects key (.looking : Cache.Stage Fault Adapter) cache
          = [.note (.reusing key)] := by
        simp [toldEffects, Cache.Stage.notice?, Cache.contains, found]
      rw [told, held]
      exact .reuses (held ▸ found)
  | miss absent =>
      obtain ⟨rfl, held⟩ := underway
      have told : toldEffects key (.looking : Cache.Stage Fault Adapter) cache = [] := by
        simp [toldEffects, Cache.Stage.notice?, Cache.contains, absent]
      exact ⟨held ▸ absent, told, held⟩
  | register | acquire =>
      obtain ⟨missing, rfl, held⟩ := underway
      exact ⟨missing, rfl, (kept fun _ _ same => by cases same).trans held⟩
  | refind found =>
      obtain ⟨missing, rfl, held⟩ := underway
      rw [Cache.find?, held, missing] at found
      cases found
  | remiss | start => exact ⟨underway.1, by rw [underway.2.1]; rfl, underway.2.2⟩
  | store =>
      obtain ⟨missing, rfl, held⟩ := underway
      rw [store_entries _ (held ▸ missing), held]
      exact .builds missing
  | release | leave =>
      rw [show toldEffects key _ cache = [] from rfl, List.append_nil]
      exact underway

/-- The same for every step, with the trace before the call. -/
theorem Calm.underway (calm : s.Calm) {key : Key} {entries : List (Key × Adapter)}
    {seen : List Effect} {stage next : Cache.Stage Fault Adapter} {v w : σ × List Effect}
    (underway
      : ∃ trace, v.2 = seen ++ trace ∧ Underway key entries stage trace (s.cache v.1).entries)
    (goes : s.traced.access.Goes key stage v next w)
    : ∃ trace, w.2 = seen ++ trace ∧ Underway key entries next trace (s.cache w.1).entries := by
  obtain ⟨trace, noted, underway⟩ := underway
  cases goes with
  | @move _ _ _ cache moves =>
      refine ⟨trace ++ toldEffects key stage (s.cache v.1), ?_, ?_⟩
      · rw [← List.append_assoc, ← noted]
        exact told_traced key stage v
      · have set := calm.traced.cache_setCache cache (s.traced.access.told key stage v)
        exact (congrArg Cache.entries set).symm ▸ underway.moves moves
  | @make lock =>
      obtain ⟨missing, rfl, held⟩ := underway
      rw [make_traced]
      dsimp only
      rw [calm.build, held, noted, List.append_assoc]
      refine ⟨_, rfl, ?_⟩
      cases (s.build key.configuration.userProject key.options v.1).1 with
      | ok adapter => exact ⟨missing, rfl, rfl⟩
      | error cause => exact .fails missing

/-- A call for the adapter of a key obtains it, or fails as the factory has. -/
theorem Takes.resolve (calm : s.Calm) (key : Key) (entries : List (Key × Adapter))
    : s.Takes entries (Call.resolve key) fun trace outcome after =>
        ∃ answer,
          Obtains key entries trace answer after
          ∧ outcome = answer.mapError fun cause => .resolution ⟨.building, cause⟩ := by
  rintro w rfl unheld
  obtain ⟨last, ⟨trace, noted, underway⟩, reached⟩ := s.traced.access.resolve_induction
    (fun stage v =>
      ∃ trace,
        v.2 = w.2 ++ trace ∧ Underway key (s.cache w.1).entries stage trace (s.cache v.1).entries)
    calm.underway ⟨[], (List.append_nil _).symm, rfl, rfl⟩
  obtain ⟨ends, stillUnheld⟩ := calm.traced.orderly.resolve_unheld key unheld
  rw [call_resolve]
  cases resolved : s.traced.access.resolve key w with
  | mk answer v =>
      simp only [resolved] at noted underway reached ends stillUnheld
      cases answer with
      | none => cases ends
      | some answer =>
          obtain rfl := reached
          cases answer <;> exact ⟨trace, noted, ⟨_, underway, rfl⟩, stillUnheld⟩

-----------------------------------------------------------------------------------------
-- How handles are opened
-----------------------------------------------------------------------------------------

/-- Billing is settled in one of these ways. -/
theorem Takes.settle (calm : s.Calm) (name : String) {c : Configuration}
    (billable : ¬ c.Unbillable) (adapter : Adapter) (options : Option ClientOptions)
    (entries : List (Key × Adapter))
    : s.Takes entries (Billing.settle name c adapter options)
        (Billing.Course name c options adapter entries) := by
  unfold Billing.settle
  split
  · rename_i conditional
    refine .check (fun _ _ => .probe calm fun answer => ?_) ?_
    · split
      · exact .throw (.unanswered conditional)
      · exact .pure (.pays conditional)
      · rename_i answer notTrue
        have notPays : answer = some false ∨ answer = none := by
          rcases answer with _ | _ | _
          · exact .inr rfl
          · exact .inl rfl
          · exact absurd rfl notTrue
        refine .note calm (.bind (.resolve calm _ entries) ?_ ?_)
        · rintro other trace after ⟨answer, obtains, same⟩
          cases answer <;> cases same
          refine .pure ?_
          rw [List.append_nil]
          exact .strips conditional notPays obtains
        · rintro error trace after ⟨answer, obtains, same⟩
          cases answer <;> cases same
          exact .unbuilt conditional notPays obtains
    · intro error refused
      obtain ⟨inner, refused, -⟩ := mapError_eq_error.mp refused
      exact absurd (Billing.unbillable_of_check refused) billable
  · rename_i unconditional
    exact .pure (.unconditional (by simpa using unconditional))

/-- A handle is opened in one of these ways. -/
theorem Takes.openBucket (calm : s.Calm) (bucket : Value) (c : Configuration)
    (options : Option ClientOptions) (scheme : String) (entries : List (Key × Adapter))
    : s.Takes entries (openBucket bucket c options scheme)
        (Opening.Course bucket c options scheme entries) := by
  unfold CloudBuckets.openBucket
  refine .check (fun name named => ?_) ?_
  · have names := Bucket.checkName_ok_iff.mp (mapError_eq_ok.mp named)
    refine .check (fun _ checked => ?_) ?_
    · have billable := Billing.check_ok_iff.mp (mapError_eq_ok.mp checked)
      refine .bind (.resolve calm ⟨c, options⟩ entries) ?_ ?_
      · rintro adapter trace middle ⟨answer, obtains, same⟩
        cases answer <;> cases same
        refine .bind (.settle calm name billable adapter options middle) ?_ ?_
        · rintro ⟨settled, last⟩ later after settles
          dsimp only
          rw [Handle.make_of_nonempty names.2.1]
          refine .note calm (.pure ?_)
          rw [← List.append_assoc]
          exact .opened names billable obtains settles
        · exact fun error later after settles => .unsettled names billable obtains settles
      · rintro error trace after ⟨answer, obtains, same⟩
        cases answer <;> cases same
        exact .unbuilt names billable obtains
    · intro error refused
      obtain ⟨inner, failed, rfl⟩ := mapError_eq_error.mp refused
      exact .unbillable names (Billing.unbillable_of_check failed)
  · intro error refused
    obtain ⟨inner, refused, rfl⟩ := mapError_eq_error.mp refused
    refine .misnamed fun ⟨name, names⟩ => ?_
    rw [Bucket.checkName_ok_iff.mpr names] at refused
    cases refused

/-- Where the arguments are refused, everything is left as it is. -/
theorem call_openBucket_refused (s : Surroundings σ) {bucket : Value} {c : Configuration}
    (refused : ∀ name, Bucket.Names bucket name → c.Unbillable) (options : Option ClientOptions)
    (scheme : String) (w : σ)
    : (s.call (openBucket bucket c options scheme) w).2 = w := by
  unfold openBucket
  cases named : Bucket.checkName bucket with
  | error error => rfl
  | ok name =>
      cases checked : Billing.check c with
      | error error => rfl
      | ok _ =>
          have names := Bucket.checkName_ok_iff.mp named
          exact absurd (refused name names) (Billing.check_ok_iff.mp checked)

/-- The effects of the opening of a handle where nobody holds a lock, whatever is cached and whatever
the backend answers. Nobody holds a lock afterwards.
-/
theorem Calm.openBucket_effects (calm : s.Calm) (bucket : Value) (c : Configuration)
    (options : Option ClientOptions) (scheme : String) {w : σ} (unheld : (s.cache w).Unheld)
    : let ended := s.call (openBucket bucket c options scheme) w
      Opening.Effects bucket c options scheme (s.cache w)
        (s.trace (openBucket bucket c options scheme) w) ended.1 (s.cache ended.2)
      ∧ (s.cache ended.2).Unheld := by
  intro ended
  obtain ⟨trace, noted, course, stillUnheld⟩ :=
    Takes.openBucket calm bucket c options scheme (s.cache w).entries (w, []) rfl unheld
  have same : s.trace (openBucket bucket c options scheme) w = trace := noted
  have view : ended = ((s.traced.call _ (w, [])).1, (s.traced.call _ (w, [])).2.1) :=
    s.traced_mirrors.call (openBucket bucket c options scheme) (w, [])
  rw [same, view]
  refine ⟨⟨course, ?_, course.opened_eq, course.adds, fun _ _ => course.adds.kept⟩, stillUnheld⟩
  intro error ends kind
  dsimp only at ends
  rw [ends] at course
  obtain ⟨silent, refused⟩ := course.refused kind
  refine ⟨silent, congrArg s.cache ?_⟩
  have kept := s.call_openBucket_refused refused options scheme w
  rwa [show s.call _ w = _ from view] at kept

end Surroundings

end CloudBuckets
