import CloudBuckets.Proofs.Cache.Waiting
import CloudBuckets.Proofs.Recording

/-! How the opening of a handle ends. Every way from the checks over the cache to the probe of the
bucket leads to a handle or to an error of the class that callers are promised.
-/

namespace CloudBuckets

-----------------------------------------------------------------------------------------
-- Classes of errors, and what they come from
-----------------------------------------------------------------------------------------

/-- The class by which callers know an error. A failure of the backend may look like an error of
this library.
-/
def Error.seenKind : Error → Error.Kind
  | .fault failure =>
      match failure.kind with
      | .resolution => .resolution
      | .configuration => .configuration
      | .bucketName => .bucketName
      | kind => .fault kind
  | error => error.kind

/-- The error that a failed exchange leads to. The failure of the backend is behind it, unless the
probe has failed with what is an error of resolution already.
-/
inductive Exchange.Causes : Exchange → Error → Prop
  | build {project : String} {options : Option ClientOptions} (fault : Fault)
    : Causes (.build project options (.error fault)) (.resolution ⟨.building, fault⟩)
  | probe {adapter : Adapter} {bucket : String} {fault : Fault} (other : fault.kind ≠ .resolution)
    : Causes (.probe adapter bucket (.error (.fault fault))) (.resolution ⟨.probing bucket, fault⟩)
  | passedFault {adapter : Adapter} {bucket : String} {fault : Fault}
    (same : fault.kind = .resolution)
    : Causes (.probe adapter bucket (.error (.fault fault))) (.fault fault)
  | passed {adapter : Adapter} {bucket : String} (error : ResolutionError)
    : Causes (.probe adapter bucket (.error (.resolution error))) (.resolution error)

namespace Exchange

theorem Causes.isFailure {exchange : Exchange} {error : Error} (causes : exchange.Causes error)
    : exchange.isFailure := by
  cases causes <;> rfl

theorem Causes.seenKind {exchange : Exchange} {error : Error} (causes : exchange.Causes error)
    : error.seenKind = .resolution := by
  cases causes with
  | passedFault same => simp [Error.seenKind, same]
  | build | probe | passed => rfl

/-- The errors of failed probes are caused by them. -/
theorem causes_probeError (adapter : Adapter) (bucket : String) (error : AdapterError)
    : Causes (.probe adapter bucket (.error error)) (Billing.probeError bucket error) := by
  cases error with
  | resolution error => exact .passed error
  | fault fault =>
      simp only [Billing.probeError]
      split
      · exact .passedFault ‹_›
      · exact .probe ‹_›

/-- Nothing has failed. -/
def Clean (exchanges : List Exchange) : Prop :=
  ∀ exchange ∈ exchanges, exchange.isFailure = false

/-- The probes among exchanges. -/
def probes (exchanges : List Exchange) : List Exchange :=
  exchanges.filter isProbe

@[simp]
theorem probes_append_build (before : List Exchange) (project : String)
    (options : Option ClientOptions) (answer : Except Fault Adapter)
    : probes (before ++ [.build project options answer]) = probes before := by
  simp [probes, List.filter_append, isProbe]

@[simp]
theorem probes_append_probe (before : List Exchange) (adapter : Adapter) (bucket : String)
    (answer : Except AdapterError (Option Bool))
    : probes (before ++ [.probe adapter bucket answer])
      = probes before ++ [.probe adapter bucket answer] := by
  simp [probes, List.filter_append, isProbe]

/-- An error comes from the last exchange, the only one that has failed, or the call waits for
itself.
-/
def Fail (exchanges : List Exchange) (error : Error) : Prop :=
  error = .deadlock
  ∨ ∃ before last, exchanges = before ++ [last] ∧ Clean before ∧ last.Causes error

theorem Clean.append {exchanges : List Exchange} (clean : Clean exchanges) {last : Exchange}
    (succeeds : last.isFailure = false)
    : Clean (exchanges ++ [last]) := by
  intro exchange member
  rcases List.mem_append.mp member with earlier | new
  · exact clean exchange earlier
  · rwa [List.mem_singleton.mp new]

end Exchange

-----------------------------------------------------------------------------------------
-- Checks
-----------------------------------------------------------------------------------------

theorem mapError_eq_ok {ε ε' β : Type} {outcome : Except ε β} {wrap : ε → ε'} {value : β}
    : outcome.mapError wrap = .ok value ↔ outcome = .ok value := by
  cases outcome <;> simp [Except.mapError]

theorem mapError_eq_error {ε ε' β : Type} {outcome : Except ε β} {wrap : ε → ε'}
    {error : ε'}
    : outcome.mapError wrap = .error error
      ↔ ∃ inner, outcome = .error inner ∧ wrap inner = error := by
  cases outcome <;> simp [Except.mapError]

theorem ok_of_toOption {ε β : Type} {outcome : Except ε β} {value : β}
    (found : outcome.toOption = some value)
    : outcome = .ok value := by
  cases outcome <;> cases found
  rfl

/-- A value is a name for a bucket: a text that is not empty and does not begin with the scheme. -/
def Bucket.Names (bucket : Value) (name : String) : Prop :=
  bucket = .text name ∧ name ≠ "" ∧ ¬ "gs:".toList <+: name.toList

theorem Bucket.checkName_ok_iff {bucket : Value} {name : String}
    : checkName bucket = .ok name ↔ Names bucket name := by
  cases bucket with
  | text given =>
      have scheme : hasScheme Bucket.scheme given.toList = true ↔ "gs:".toList <+: given.toList :=
        List.isPrefixOf_iff_prefix
      simp only [checkName, Names, Value.text.injEq]
      split
      · rename_i isEmpty
        have same : given = "" := by simpa using isEmpty
        exact ⟨nofun, fun ⟨here, nonempty, _⟩ => absurd (here.symm.trans same) nonempty⟩
      · rename_i nonempty
        split
        · rename_i marked
          exact ⟨nofun, fun ⟨here, _, unmarked⟩ => absurd (scheme.mp marked) (here ▸ unmarked)⟩
        · rename_i unmarked
          constructor
          · intro passed
            cases passed
            exact ⟨rfl, by simpa using nonempty, fun marked => unmarked (scheme.mpr marked)⟩
          · intro names
            obtain ⟨rfl, -⟩ := names
            rfl
  | _ => simp [checkName, Names]

/-- A handle with a name is made of what is given. -/
theorem Handle.make_of_nonempty {adapter : Adapter} {bucket : String} (nonempty : bucket ≠ "")
    (c : Configuration) (scheme : String)
    : Handle.make adapter bucket c scheme = .ok ⟨⟨bucket, c, scheme⟩, adapter⟩ := by
  have named : bucket.isEmpty = false := by simpa using nonempty
  simp [Handle.make, View.make, named, Except.map]

/-- A configuration would bill a project where a bucket is requester-pays, but names none. -/
def Configuration.Unbillable (c : Configuration) : Prop :=
  c.billOnlyRequesterPays = true ∧ c.userProject = ""

theorem Billing.check_ok_iff {c : Configuration} : check c = .ok () ↔ ¬ c.Unbillable := by
  unfold check Configuration.Unbillable
  split <;> simp_all

theorem Billing.unbillable_of_check {c : Configuration} {error : ConfigurationError}
    (refused : check c = .error error)
    : c.Unbillable := by
  by_contra billable
  rw [check_ok_iff.mpr billable] at refused
  cases refused

-----------------------------------------------------------------------------------------
-- The ways in which a call ends
-----------------------------------------------------------------------------------------

/-- The configuration of a handle on a bucket. It is the given one, unless billing depends on the
bucket and the one probe has answered that it is not, or may not be, requester-pays.
-/
def Billing.Settled (name : String) (c : Configuration) (exchanges : List Exchange)
    (settled : Configuration)
    : Prop :=
  if c.billOnlyRequesterPays then
    ∃ adapter answer,
      Exchange.probes exchanges = [.probe adapter name (.ok answer)]
      ∧ settled = if answer = some true then c else { c with userProject := "" }
  else settled = c ∧ Exchange.probes exchanges = []

/-- The ways in which the opening of a handle ends, with what has passed up to there. -/
inductive Opening (bucket : Value) (c : Configuration)
    : List Exchange → Except Error Handle → Prop
  | misnamed {error : BucketNameError} (refused : ¬ ∃ name, Bucket.Names bucket name)
    : Opening bucket c [] (.error (.bucketName error))
  | unbillable {name : String} {error : ConfigurationError} (names : Bucket.Names bucket name)
    (refused : c.Unbillable)
    : Opening bucket c [] (.error (.configuration error))
  | fails {name : String} {exchanges : List Exchange} {error : Error}
    (names : Bucket.Names bucket name) (billable : ¬ c.Unbillable)
    (fail : Exchange.Fail exchanges error)
    : Opening bucket c exchanges (.error error)
  | opens {exchanges : List Exchange} {handle : Handle}
    (names : Bucket.Names bucket handle.bucket) (billable : ¬ c.Unbillable)
    (clean : Exchange.Clean exchanges)
    (settled : Billing.Settled handle.bucket c exchanges handle.configuration)
    : Opening bucket c exchanges (.ok handle)

/-- What callers are promised of the opening of a handle on a bucket under a configuration, where
`exchanges` is what has passed between the call and the backend.
-/
structure Opening.Promise (bucket : Value) (c : Configuration) (exchanges : List Exchange)
    (outcome : Except Error Handle)
    : Prop where
  misnamed
    : (∃ error, outcome = .error error ∧ error.seenKind = .bucketName)
      ↔ ¬ ∃ name, Bucket.Names bucket name
  unbillable
    : (∃ error, outcome = .error error ∧ error.seenKind = .configuration)
      ↔ (∃ name, Bucket.Names bucket name) ∧ c.Unbillable
  /-- Otherwise there is a handle or an error of resolution, once the call ends. -/
  otherwise
    : (∃ name, Bucket.Names bucket name)
      → ¬ c.Unbillable
      → outcome ≠ .error .deadlock
      → (∃ handle, outcome = .ok handle)
        ∨ ∃ error, outcome = .error error ∧ error.seenKind = .resolution
  /-- An error of resolution comes from the last exchange, the only one that has failed. -/
  caused
    : ∀ error,
        outcome = .error error
        → error.seenKind = .resolution
        → ∃ before last,
            exchanges = before ++ [last] ∧ Exchange.Clean before ∧ last.Causes error
  /-- Where there is a handle, nothing has failed. -/
  opened
    : ∀ handle,
        outcome = .ok handle
        → bucket = .text handle.bucket
          ∧ Exchange.Clean exchanges
          ∧ Billing.Settled handle.bucket c exchanges handle.configuration

/-- An error keeps the promise if its class does. -/
theorem Opening.Promise.of_error {bucket : Value} {c : Configuration} {exchanges : List Exchange}
    {error : Error}
    (misnamed : error.seenKind = .bucketName ↔ ¬ ∃ name, Bucket.Names bucket name)
    (unbillable
      : error.seenKind = .configuration ↔ (∃ name, Bucket.Names bucket name) ∧ c.Unbillable)
    (otherwise : error.seenKind = .resolution → Exchange.Fail exchanges error)
    (deadlock
      : (∃ name, Bucket.Names bucket name)
        → ¬ c.Unbillable
        → error ≠ .deadlock
        → error.seenKind = .resolution)
    : Opening.Promise bucket c exchanges (.error error) := by
  have itself : ∀ kind,
      (∃ other, (.error error : Except Error Handle) = .error other ∧ other.seenKind = kind)
      ↔ error.seenKind = kind := by
    simp
  refine ⟨(itself _).trans misnamed, (itself _).trans unbillable, ?_, ?_, ?_⟩
  · intro names billable ends
    exact .inr ⟨error, rfl, deadlock names billable fun same => ends (by rw [same])⟩
  · intro other same kind
    cases same
    rcases otherwise kind with rfl | caused
    · cases kind
    · exact caused
  · intro handle same
    cases same

namespace Surroundings

open Exchange

variable {σ : Type} {s : Surroundings σ}

/-- While a cache is asked for an adapter, nothing has failed but the factory, if that is what the
call is going to end with.
-/
def Resolving (seen : List Exchange) (stage : Cache.Stage Fault Adapter)
    (w : σ × List Exchange)
    : Prop :=
  match stage.result? with
  | some (.error cause) =>
      ∃ before project options,
        w.2 = before ++ [.build project options (.error cause)] ∧ Clean before
  | _ => Clean w.2 ∧ probes w.2 = seen

/-- What a call tells does not pass between it and the backend. -/
theorem told_exchanges (key : Key) (stage : Cache.Stage Fault Adapter) (w : σ × List Exchange)
    : (s.recorded.access.told key stage w).2 = w.2 := by
  unfold Cache.Access.told
  split
  · rename_i notice _
    cases notice <;> rfl
  · rfl

theorem Resolving.goes {seen : List Exchange} {key : Key}
    {stage next : Cache.Stage Fault Adapter} {v w : σ × List Exchange}
    (resolving : Resolving seen stage v) (goes : s.recorded.access.Goes key stage v next w)
    : Resolving seen next w := by
  cases goes with
  | @move _ _ _ cache moves =>
      have same : (s.recorded.setCache cache (s.recorded.access.told key stage v)).2 = v.2 :=
        told_exchanges key stage v
      change Resolving seen next (s.recorded.setCache cache (s.recorded.access.told key stage v))
      unfold Resolving at resolving ⊢
      rw [same]
      cases moves <;> exact resolving
  | @make lock =>
      have resolving : Clean v.2 ∧ probes v.2 = seen := resolving
      obtain ⟨clean, same⟩ := resolving
      change Resolving seen
        (.made lock (s.build key.configuration.userProject key.options v.1).1)
        ((s.build key.configuration.userProject key.options v.1).2,
          v.2 ++ [.build _ _ (s.build key.configuration.userProject key.options v.1).1])
      cases (s.build key.configuration.userProject key.options v.1).1 with
      | ok adapter =>
          refine ⟨clean.append rfl, ?_⟩
          simpa using same
      | error cause => exact ⟨v.2, _, _, rfl, clean⟩

/-- A call for the adapter of a key fails only if the factory has. -/
theorem ensures_resolve (key : Key) (seen : List Exchange)
    : s.recorded.Ensures (fun w => Clean w.2 ∧ probes w.2 = seen) (Call.resolve key)
        fun outcome w =>
          match outcome with
          | .ok _ => Clean w.2 ∧ probes w.2 = seen
          | .error error => Fail w.2 error := by
  refine .resolve (Resolving seen) (fun _ holds => holds) Resolving.goes id ?_ ?_
  · intro cause w found
    obtain ⟨before, project, options, same, clean⟩ := found
    exact .inr ⟨before, _, same, clean, .build cause⟩
  · exact fun _ _ _ _ => .inl rfl

/-- Where billing can be settled, the configuration is settled as it should be. -/
theorem ensures_settle (name : String) {c : Configuration} (billable : ¬ c.Unbillable)
    (adapter : Adapter) (options : Option ClientOptions)
    : s.recorded.Ensures (fun w => Clean w.2 ∧ probes w.2 = [])
        (Billing.settle name c adapter options)
        fun outcome w =>
          match outcome with
          | .ok settled => Clean w.2 ∧ Billing.Settled name c w.2 settled.1
          | .error error => Fail w.2 error := by
  unfold Billing.settle
  split
  · rename_i conditional
    refine .check (fun _ _ => .probe fun answer => ?_) ?_
    · have probed : ∀ w : σ × List Exchange,
          (∃ v : σ × List Exchange,
            (Clean v.2 ∧ probes v.2 = []) ∧ s.recorded.probe adapter name v = (answer, w))
          → ∃ before,
              Clean before ∧ probes before = [] ∧ w.2 = before ++ [.probe adapter name answer] := by
        intro w holds
        obtain ⟨v, ⟨clean, unprobed⟩, same⟩ := holds
        cases same
        exact ⟨v.2, clean, unprobed, rfl⟩
      refine Surroundings.Ensures.weaken ?_ probed
      split
      · rename_i error
        refine .throw fun w ⟨before, clean, _, same⟩ => ?_
        exact .inr ⟨before, _, same, clean, causes_probeError adapter name error⟩
      · refine .pure fun w ⟨before, clean, unprobed, same⟩ => ⟨same ▸ clean.append rfl, ?_⟩
        simp only [Billing.Settled, conditional, if_true]
        exact ⟨adapter, some true, by simp [same, unprobed], rfl⟩
      · rename_i flag notTrue
        have noted : ∀ w : σ × List Exchange,
            (∃ v : σ × List Exchange,
              (∃ before,
                Clean before ∧ probes before = []
                ∧ v.2 = before ++ [.probe adapter name (.ok flag)])
              ∧ s.recorded.note (.notBilling name c.userProject) v = w)
            → Clean w.2 ∧ probes w.2 = [.probe adapter name (.ok flag)] := by
          intro w holds
          obtain ⟨v, ⟨before, clean, unprobed, same⟩, rfl⟩ := holds
          change Clean v.2 ∧ probes v.2 = _
          rw [same]
          exact ⟨clean.append rfl, by simp [unprobed]⟩
        refine .note (.weaken ?_ noted)
        refine .bind (ensures_resolve _ _) (fun stripped => ?_) fun error w failed => failed
        refine .pure fun w ⟨clean, once⟩ => ⟨clean, ?_⟩
        simp only [Billing.Settled, conditional, if_true]
        refine ⟨adapter, flag, once, ?_⟩
        have notBilled : flag ≠ some true := notTrue
        simp [notBilled, Configuration.unbilled, conditional]
    · intro error w refused
      obtain ⟨inner, refused, -⟩ := mapError_eq_error.mp refused
      exact absurd (Billing.unbillable_of_check refused) billable
  · rename_i unconditional
    refine .pure fun w ⟨clean, unprobed⟩ => ⟨clean, ?_⟩
    simp [Billing.Settled, unconditional, unprobed]

/-- The opening of a handle ends in one of these ways, by the rules for the calls that it is put
together from.
-/
theorem ensures_openBucket (s : Surroundings σ) (bucket : Value) (c : Configuration)
    (options : Option ClientOptions) (scheme : String)
    : s.recorded.Ensures (fun w => w.2 = []) (openBucket bucket c options scheme)
        fun outcome w => Opening bucket c w.2 outcome := by
  unfold openBucket
  refine .check (fun name named => ?_) ?_
  · have names := Bucket.checkName_ok_iff.mp (mapError_eq_ok.mp named)
    refine .check (fun _ checked => ?_) ?_
    · have billable := Billing.check_ok_iff.mp (mapError_eq_ok.mp checked)
      have begins : ∀ w : σ × List Exchange, w.2 = [] → Clean w.2 ∧ probes w.2 = [] := by
        intro holds same
        obtain ⟨_, _⟩ := holds
        subst same
        exact ⟨fun _ member => absurd member List.not_mem_nil, rfl⟩
      refine .bind ((ensures_resolve ⟨c, options⟩ []).weaken begins) (fun adapter => ?_) ?_
      · have settles := ensures_settle (s := s) name billable adapter options
        refine .bind settles (fun ⟨settled, adapter⟩ => ?_) ?_
        · dsimp only
          rw [Handle.make_of_nonempty names.2.1]
          refine .note (.pure ?_)
          intro _ holds
          obtain ⟨v, ⟨clean, settles⟩, rfl⟩ := holds
          exact .opens names billable clean settles
        · exact fun error w fail => .fails names billable fail
      · exact fun error w fail => .fails names billable fail
    · intro error w refused fresh
      obtain ⟨inner, failed, rfl⟩ := mapError_eq_error.mp refused
      rw [fresh]
      exact .unbillable names (Billing.unbillable_of_check failed)
  · intro error w refused fresh
    obtain ⟨inner, refused, rfl⟩ := mapError_eq_error.mp refused
    rw [fresh]
    refine .misnamed fun ⟨name, names⟩ => ?_
    rw [Bucket.checkName_ok_iff.mpr names] at refused
    cases refused

/-- Only the building of an adapter changes the cache in passing, and it gives back every lock. -/
structure Orderly (s : Surroundings σ) : Prop where
  access : s.access.Orderly
  probe : ∀ adapter bucket w, s.cache (s.probe adapter bucket w).2 = s.cache w
  note : ∀ record w, s.cache (s.note record w) = s.cache w

/-- Nobody holds a lock for either of two keys. -/
structure Unlocked (s : Surroundings σ) (key other : Key) (w : σ) : Prop where
  numbered : (s.cache w).Numbered
  free : (s.cache w).Free key
  freeOther : (s.cache w).Free other

theorem Orderly.ensures_resolve (orderly : s.Orderly) (key other : Key)
    : s.Ensures (s.Unlocked key other) (Call.resolve key) fun outcome w =>
        outcome ≠ .error .deadlock ∧ (s.cache w).Numbered ∧ (s.cache w).Free other := by
  intro w holds
  obtain ⟨numbered, free, freeOther⟩ := holds
  have ends := orderly.access.resolve_isSome numbered free
  obtain ⟨stillNumbered, settles⟩ := orderly.access.resolve key numbered
  rw [call_resolve]
  cases resolved : s.access.resolve key w with
  | mk answer v =>
      rw [resolved] at ends stillNumbered settles
      have stillFree := freeOther.settles settles
      cases answer with
      | none => cases ends
      | some answer => cases answer <;> exact ⟨nofun, stillNumbered, stillFree⟩

/-- A refusal in a class of its own is no deadlock. -/
theorem mapError_ne_deadlock {ε α β : Type} {outcome : Except ε α} {wrap : ε → Error}
    {error : Error} (refused : outcome.mapError wrap = .error error)
    (other : ∀ inner, wrap inner ≠ .deadlock)
    : (.error error : Except Error β) ≠ .error .deadlock := by
  intro same
  obtain ⟨inner, _, rfl⟩ := mapError_eq_error.mp refused
  exact other inner (Except.error.inj same)

theorem Orderly.ensures_settle (orderly : s.Orderly) (name : String) (c : Configuration)
    (adapter : Adapter) (options : Option ClientOptions)
    : s.Ensures (fun w => (s.cache w).Numbered ∧ (s.cache w).Free ⟨c.unbilled, options⟩)
        (Billing.settle name c adapter options) fun outcome _ => outcome ≠ .error .deadlock := by
  unfold Billing.settle
  split
  · refine .check (fun _ _ => .probe fun answer => ?_) ?_
    · have probed : ∀ w,
          (∃ v,
            ((s.cache v).Numbered ∧ (s.cache v).Free ⟨c.unbilled, options⟩)
            ∧ s.probe adapter name v = (answer, w))
          → (s.cache w).Numbered ∧ (s.cache w).Free ⟨c.unbilled, options⟩ := by
        intro w holds
        obtain ⟨v, unlocked, same⟩ := holds
        have kept := orderly.probe adapter name v
        rw [same] at kept
        rwa [kept]
      refine Surroundings.Ensures.weaken ?_ probed
      split
      · rename_i error
        refine .throw fun w _ same => ?_
        have seen := (causes_probeError adapter name error).seenKind
        rw [Except.error.inj same] at seen
        cases seen
      · exact .pure fun _ _ => nofun
      · have noted : ∀ w,
            (∃ v,
              ((s.cache v).Numbered ∧ (s.cache v).Free ⟨c.unbilled, options⟩)
              ∧ s.note (.notBilling name c.userProject) v = w)
            → s.Unlocked ⟨c.unbilled, options⟩ ⟨c.unbilled, options⟩ w := by
          intro w holds
          obtain ⟨v, ⟨numbered, free⟩, rfl⟩ := holds
          have kept := orderly.note (.notBilling name c.userProject) v
          exact ⟨by rwa [kept], by rwa [kept], by rwa [kept]⟩
        refine .note (.weaken ?_ noted)
        refine .bind (orderly.ensures_resolve _ _) (fun adapter => .pure fun _ _ => nofun) ?_
        exact fun error w failed same => failed.1 (by rw [Except.error.inj same])
    · intro error w refused _
      exact mapError_ne_deadlock refused fun _ => nofun
  · exact .pure fun _ _ => nofun

/-- The opening of a handle comes to its end if nobody holds a lock for the keys that it may ask
for.
-/
theorem Orderly.ensures_openBucket (orderly : s.Orderly) (bucket : Value) (c : Configuration)
    (options : Option ClientOptions) (scheme : String)
    : s.Ensures (s.Unlocked ⟨c, options⟩ ⟨c.unbilled, options⟩) (openBucket bucket c options scheme)
        fun outcome _ => outcome ≠ .error .deadlock := by
  unfold openBucket
  refine .check (fun name named => ?_) fun _ _ refused _ =>
    mapError_ne_deadlock refused fun _ => nofun
  refine .check (fun _ _ => ?_) fun _ _ refused _ =>
    mapError_ne_deadlock refused fun _ => nofun
  refine .bind (orderly.ensures_resolve _ _) (fun adapter => ?_) ?_
  · refine Surroundings.Ensures.weaken ?_ fun w ⟨_, unlocked⟩ => unlocked
    refine .bind (orderly.ensures_settle name c adapter options) (fun ⟨settled, adapter⟩ => ?_) ?_
    · refine .check (fun handle _ => .note (.pure fun _ _ => nofun)) ?_
      exact fun _ _ refused _ =>
    mapError_ne_deadlock refused fun _ => nofun
    · exact fun error w failed same => failed (by rw [Except.error.inj same])
  · exact fun error w failed same => failed.1 (by rw [Except.error.inj same])

end Surroundings

end CloudBuckets
