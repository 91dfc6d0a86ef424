import CloudBuckets.Proofs.Cache.SharedBuild
import CloudBuckets.Proofs.Crowd.Openings

/-! Openings do not depend on their order. With a backend that goes by what it is asked alone, how
the calls of a crowd end can be told from what is cached at the start, since a key that some call
has had built is one that every call could have had built.
-/

namespace CloudBuckets

variable {β : Type}

/-- The failure of an outcome. -/
def failure? {ε α : Type} : Except ε α → Option ε
  | .ok _ => none
  | .error failure => some failure

-----------------------------------------------------------------------------------------
-- Backends that go by what they are asked
-----------------------------------------------------------------------------------------

/-- A backend that goes by what it is asked alone: for which project and options no adapter can be
built, and what is answered about a bucket.
-/
structure Oracle where
  failure : String → Option ClientOptions → Option Fault
  probe : String → Except AdapterError (Option Bool)

namespace Oracle

variable {o : Oracle}

/-- An answer is that of the oracle, where each adapter that is built may be a new one. -/
def Gives (o : Oracle) : Exchange → Prop
  | .build project options made => failure? made = o.failure project options
  | .probe _ bucket answer => answer = o.probe bucket

/-- With what every call for the adapter of a key fails, from what is cached at the start. -/
def fault? (o : Oracle) (cached : Cache Key Adapter) (key : Key) : Option Fault :=
  if cached.contains key then none else o.failure key.configuration.userProject key.options

/-- An answer to a plan is one that the oracle tells, from what is cached at the start. -/
def Tells (o : Oracle) (cached : Cache Key Adapter) : Answered → Prop
  | .resolved key answer => failure? answer = o.fault? cached key
  | .exchanged exchange => o.Gives exchange
  | .listed _ _ _ => True

/-- What a stage of a call for a key says is what the oracle tells, and is cached `now`. -/
def Foresees (o : Oracle) (cached now : Cache Key Adapter) (key : Key)
    : Cache.Stage Fault Adapter → Prop
  | .starting _ | .making _ => cached.contains key = false
  | .storing _ _ => o.fault? cached key = none
  | .releasing _ result | .leaving _ result | .done result =>
      failure? result = o.fault? cached key
      ∧ ∀ adapter, result = .ok adapter → now.contains key = true
  | _ => True

end Oracle

-----------------------------------------------------------------------------------------
-- What is cached in the course of a call
-----------------------------------------------------------------------------------------

/-- A move of a call for a key caches nothing but the value that the call stores. -/
theorem Cache.Moves.contains_iff {κ ε α : Type} [DecidableEq κ] {key : κ} {cache next : Cache κ α}
    {stage after : Stage ε α} (moves : Moves key stage cache after next) {other : κ}
    : next.contains other = true
      ↔ cache.contains other = true ∨ other = key ∧ ∃ lock value, stage = .storing lock value := by
  by_cases storing : ∃ lock value, stage = .storing lock value
  · obtain ⟨lock, value, rfl⟩ := storing
    cases moves
    by_cases same : other = key
    · subst same
      simp [contains, find?_store_self]
    · simp [contains, find?_store_of_ne _ _ same, same]
  · have kept : next.find? other = cache.find? other :=
      moves.find?_eq (fun lock value here => storing ⟨lock, value, here⟩) other
    simp [contains, kept, storing]

/-- A call that is going to return something goes on to return it. -/
theorem Cache.Moves.result?_kept {κ ε α : Type} [DecidableEq κ] {key : κ} {cache next : Cache κ α}
    {stage after : Stage ε α} (moves : Moves key stage cache after next) {result : Except ε α}
    (returns : stage.result? = some result)
    : after.result? = some result := by
  cases moves with
  | release | leave => exact returns
  | find | miss | register | acquire | refind | remiss | start | store => cases returns

namespace Oracle

variable {o : Oracle} {cached : Cache Key Adapter}

/-- What is foreseen stays so while more is cached. -/
theorem Foresees.mono {now later : Cache Key Adapter} {key : Key}
    {stage : Cache.Stage Fault Adapter} (foresees : o.Foresees cached now key stage)
    (grows : ∀ key, now.contains key = true → later.contains key = true)
    : o.Foresees cached later key stage := by
  cases stage with
  | releasing lock result | leaving lock result | done result =>
      exact ⟨foresees.1, fun adapter same => grows key (foresees.2 adapter same)⟩
  | looking | registering | acquiring | rechecking | starting | making | storing => exact foresees

/-- A move of a call leads to what is foreseen, by cases on the move. What is found was not there at
the start or could be built, and what is not found was not there at the start.
-/
theorem Foresees.moves {now next : Cache Key Adapter} {key : Key}
    {stage after : Cache.Stage Fault Adapter} (foresees : o.Foresees cached now key stage)
    (kept : cached.contains key = true → now.contains key = true)
    (sound : now.contains key = true → o.fault? cached key = none)
    (moves : Cache.Moves key stage now after next)
    : o.Foresees cached next key after := by
  have grows : ∀ other, now.contains other = true → next.contains other = true :=
    fun other contained => moves.contains_iff.mpr (.inl contained)
  cases moves with
  | find found | refind found =>
      have contained : now.contains key = true := by simp [Cache.contains, found]
      exact ⟨(sound contained).symm, fun _ _ => contained⟩
  | remiss absent =>
      have missing : now.contains key = false := by simp [Cache.contains, absent]
      exact Bool.eq_false_iff.mpr fun early => by simp [kept early] at missing
  | start => exact foresees
  | store =>
      exact ⟨foresees.symm, fun _ _ => by simp [Cache.contains, Cache.find?_store_self]⟩
  | release | leave => exact foresees.mono grows
  | miss | register | acquire => exact trivial

/-- So does the end of a building, with the answer of the oracle. -/
theorem Foresees.made {now : Cache Key Adapter} {key : Key} {lock : Nat}
    (foresees : o.Foresees cached now key (.making lock)) {made : Except Fault Adapter}
    (gives : o.Gives (.build key.configuration.userProject key.options made))
    : o.Foresees cached now key (.made lock made) := by
  have missing : cached.contains key = false := foresees
  have told : failure? made = o.fault? cached key := by
    rw [fault?, missing]
    exact gives
  cases made with
  | ok adapter => exact told.symm
  | error cause => exact ⟨told, nofun⟩

end Oracle

-----------------------------------------------------------------------------------------
-- What is foretold of a crowd
-----------------------------------------------------------------------------------------

/-- A call is going to be told of an adapter for a key. -/
def Task.Finds (t : Task β) (key : Key) : Prop :=
  ∃ next adapter, t.plan = .resolve key next ∧ t.stage.result? = some (.ok adapter)

/-- What is cached, what calls have been answered and where they stand is what the oracle tells,
from what was cached at the start.
-/
structure Oracle.Foretold (o : Oracle) (cached : Cache Key Adapter)
    (history : List (Nat × Answered)) (c : Crowd β)
    : Prop where
  kept : ∀ key, cached.contains key = true → c.cache.contains key = true
  sound : ∀ key, c.cache.contains key = true → o.fault? cached key = none
  stages
    : ∀ task ∈ c.tasks,
        ∀ key next,
          task.plan = .resolve key next → o.Foresees cached c.cache key task.stage
  answers : ∀ entry ∈ history, o.Tells cached entry.2
  holds
    : ∀ call key adapter,
        (call, .resolved key (.ok adapter)) ∈ history → c.cache.contains key = true
  /-- What has been cached has been so for a call. -/
  source
    : ∀ key,
        c.cache.contains key = true
        → cached.contains key = true
          ∨ ∃ call,
              (∃ adapter, (call, .resolved key (.ok adapter)) ∈ history)
              ∨ ∃ task, c.tasks[call]? = some task ∧ task.Finds key

namespace Oracle.Foretold

variable {o : Oracle} {cached : Cache Key Adapter} {history : List (Nat × Answered)} {c : Crowd β}

/-- A call that is started has not been told anything. -/
theorem call (foretold : o.Foretold cached history c) (plan : Plan β)
    : o.Foretold cached history { c with tasks := c.tasks ++ [.begin plan] } := by
  refine { foretold with stages := ?_, source := ?_ }
  · intro task member key next asks
    rcases List.mem_append.mp member with old | new
    · exact foretold.stages task old key next asks
    · rw [List.mem_singleton.mp new]
      exact trivial
  · intro key contained
    rcases foretold.source key contained with early | ⟨call, told | ⟨task, found, finds⟩⟩
    · exact .inl early
    · exact .inr ⟨call, .inl told⟩
    · have inside := (List.getElem?_eq_some_iff.mp found).1
      exact .inr ⟨call, .inr ⟨task, by rw [List.getElem?_append_left inside, found], finds⟩⟩

/-- A call that moves on keeps what is foretold, if that holds of the call itself. -/
theorem set (foretold : o.Foretold cached history c) {call : Nat} {task next : Task β}
    {cache : Cache Key Adapter} {heard : Option Answered} (found : c.tasks[call]? = some task)
    (grows : ∀ key, c.cache.contains key = true → cache.contains key = true)
    (caches
      : ∀ key,
          cache.contains key = true
          → c.cache.contains key = true ∨ o.fault? cached key = none ∧ next.Finds key)
    (stage
      : ∀ key goesOn, next.plan = .resolve key goesOn → o.Foresees cached cache key next.stage)
    (answer : ∀ entry ∈ heard, o.Tells cached entry)
    (holds
      : ∀ key adapter, heard = some (.resolved key (.ok adapter)) → cache.contains key = true)
    (finds
      : ∀ key,
          task.Finds key
          → next.Finds key ∨ ∃ adapter, heard = some (.resolved key (.ok adapter)))
    : o.Foretold cached (history ++ (heard.map (call, ·)).toList)
        ⟨cache, c.tasks.set call next⟩ := by
  have inside := (List.getElem?_eq_some_iff.mp found).1
  refine ⟨?_, ?_, ?_, ?_, ?_, ?_⟩
  · exact fun key early => grows key (foretold.kept key early)
  · intro key contained
    rcases caches key contained with old | ⟨builds, _⟩
    · exact foretold.sound key old
    · exact builds
  · intro other member key goesOn asks
    rcases List.mem_or_eq_of_mem_set member with old | rfl
    · exact (foretold.stages other old key goesOn asks).mono grows
    · exact stage key goesOn asks
  · intro entry member
    rcases List.mem_append.mp member with old | new
    · exact foretold.answers entry old
    · obtain ⟨answered, told, rfl⟩ := by simpa using new
      exact answer answered told
  · intro other key adapter member
    rcases List.mem_append.mp member with old | new
    · exact grows key (foretold.holds other key adapter old)
    · obtain ⟨told, rfl⟩ := by simpa using new
      exact holds key adapter told
  · intro key contained
    rcases caches key contained with old | ⟨_, new⟩
    · rcases foretold.source key old with early | ⟨other, ⟨adapter, told⟩ | ⟨before, atOther, goes⟩⟩
      · exact .inl early
      · exact .inr ⟨other, .inl ⟨adapter, List.mem_append_left _ told⟩⟩
      · by_cases same : other = call
        · subst same
          obtain rfl := Option.some.inj (found.symm.trans atOther)
          rcases finds key goes with goesOn | ⟨adapter, rfl⟩
          · exact .inr ⟨other, .inr ⟨next, List.getElem?_set_self inside, goesOn⟩⟩
          · exact .inr ⟨other, .inl ⟨adapter, by simp⟩⟩
        · have stays : (c.tasks.set call next)[other]? = some before :=
            (List.getElem?_set_ne (Ne.symm same)).trans atOther
          exact .inr ⟨other, .inr ⟨before, stays, goes⟩⟩
    · exact .inr ⟨call, .inr ⟨next, List.getElem?_set_self inside, new⟩⟩

/-- What a call does by itself keeps what is foretold, by cases on the move. -/
theorem moves (foretold : o.Foretold cached history c) {call : Nat} {task next : Task β}
    {cache : Cache Key Adapter} (found : c.tasks[call]? = some task)
    (moves : Task.Moves task c.cache next cache)
    : o.Foretold cached (history ++ (task.heard?.map (call, ·)).toList)
        ⟨cache, c.tasks.set call next⟩ := by
  have member := List.mem_of_getElem? found
  cases moves with
  | @stage key goesOn stage after _ _ moves =>
      have foresees := foretold.stages _ member key goesOn rfl
      have unheard : Task.heard? ⟨.resolve key goesOn, stage⟩ = none := by
        cases moves <;> rfl
      rw [unheard]
      refine foretold.set found (fun _ old => moves.contains_iff.mpr (.inl old)) ?_ ?_
        (fun _ told => nomatch told) (fun _ _ told => nomatch told) ?_
      · intro other contained
        rcases moves.contains_iff.mp contained with old | ⟨rfl, lock, adapter, rfl⟩
        · exact .inl old
        · have builds : o.fault? cached other = none := foresees
          cases moves
          exact .inr ⟨builds, goesOn, adapter, rfl, rfl⟩
      · intro other goesOn asks
        cases asks
        exact foresees.moves (foretold.kept key) (foretold.sound key) moves
      · rintro other ⟨goesOn, adapter, asks, returns⟩
        exact .inl ⟨goesOn, adapter, asks, moves.result?_kept returns⟩
  | @resolved key goesOn result =>
      obtain ⟨told, contained⟩ := foretold.stages _ member key goesOn rfl
      refine foretold.set found (fun _ old => old) (fun _ old => .inl old) (fun _ _ _ => trivial)
        ?_ ?_ ?_
      · rintro entry ⟨⟩
        exact told
      · intro other adapter same
        cases same
        exact contained adapter rfl
      · rintro other ⟨goesOn, adapter, asks, returns⟩
        cases asks
        cases returns
        exact .inr ⟨adapter, rfl⟩
  | close | note =>
      refine foretold.set found (fun _ old => old) (fun _ old => .inl old) (fun _ _ _ => trivial)
        (fun _ told => nomatch told) (fun _ _ told => nomatch told) ?_
      rintro other ⟨goesOn, adapter, asks, returns⟩
      cases asks

/-- So does a reply of the oracle, by cases on how the call takes it. -/
theorem takes (foretold : o.Foretold cached history c) {call : Nat} {task next : Task β}
    {reply : Task.Reply} (found : c.tasks[call]? = some task)
    (takes : Task.Takes task reply next)
    (gives : ∀ exchange ∈ task.exchange? reply, o.Gives exchange)
    : o.Foretold cached (history ++ ((task.heardFrom? reply).map (call, ·)).toList)
        { c with tasks := c.tasks.set call next } := by
  have member := List.mem_of_getElem? found
  cases takes with
  | @made key goesOn lock made =>
      have foresees := foretold.stages _ member key goesOn rfl
      refine foretold.set found (fun _ old => old) (fun _ old => .inl old) ?_
        (fun _ told => nomatch told) (fun _ _ told => nomatch told) ?_
      · intro other goesOn asks
        cases asks
        exact foresees.made (gives _ rfl)
      · rintro other ⟨goesOn, adapter, asks, returns⟩
        cases returns
  | built | probed =>
      refine foretold.set found (fun _ old => old) (fun _ old => .inl old) (fun _ _ _ => trivial)
        ?_ (fun _ _ told => nomatch told) ?_
      · rintro entry ⟨⟩
        exact gives _ rfl
      · rintro other ⟨goesOn, adapter, asks, returns⟩
        cases asks
  | listed =>
      refine foretold.set found (fun _ old => old) (fun _ old => .inl old) (fun _ _ _ => trivial)
        ?_ (fun _ _ told => nomatch told) ?_
      · rintro entry ⟨⟩
        exact trivial
      · rintro other ⟨goesOn, adapter, asks, returns⟩
        cases asks

end Oracle.Foretold

/-- In every run with the answers of an oracle, all goes as the oracle tells. -/
theorem Crowd.run_foretold {o : Oracle} {cached : Cache Key Adapter} {c : Crowd β}
    {actions : List (Crowd.Action β)} (reached : (start cached).run actions = some c)
    (gives : ∀ entry ∈ (start cached : Crowd β).exchanges actions, o.Gives entry.2)
    : o.Foretold cached ((start cached).history actions) c := by
  refine run_induction (fun actions c => o.Foretold cached ((start cached).history actions) c)
    reached ?_ ?_
  · refine ⟨fun _ early => early, ?_, ?_, ?_, ?_, fun _ early => .inl early⟩
    · intro key early
      exact if_pos early
    · exact fun _ member => absurd member List.not_mem_nil
    · exact fun _ member => absurd member List.not_mem_nil
    · exact fun _ _ _ member => absurd member List.not_mem_nil
  · intro before d action later next same run foretold acts
    rw [history_concat run]
    cases acts with
    | call plan => simpa [heard] using foretold.call plan
    | @advance call task after cache found moves =>
        simpa [heard, found] using foretold.moves found moves
    | @answer call task after reply found takes =>
        have gives : ∀ exchange ∈ task.exchange? reply, o.Gives exchange := by
          intro exchange member
          have seen : d.exchanged (.answer call reply) = some (call, exchange) := by
            simpa [exchanged, found] using member
          exact gives (call, exchange) (same ▸ mem_log run seen)
        simpa [heard, found] using foretold.takes found takes gives

-----------------------------------------------------------------------------------------
-- What is foretold of an opening
-----------------------------------------------------------------------------------------

/-- The key for which an adapter was found. -/
def Answered.found? : Answered → Option Key
  | .resolved key (.ok _) => some key
  | _ => none

theorem Answered.found?_eq_some_iff {entry : Answered} {key : Key}
    : entry.found? = some key ↔ ∃ adapter, entry = .resolved key (.ok adapter) := by
  unfold found?
  split <;> simp_all

/-- How a call ends, for which keys it finds adapters, and how often it probes. -/
structure Forecast (β : Type) where
  ending : Except Error β
  keys : List Key
  probes : Nat

/-- What a call with a history has come to. -/
def Forecast.of (history : List Answered) (ending : Except Error β) : Forecast β :=
  ⟨ending, history.filterMap Answered.found?, history.countP Answered.isProbe⟩

/-- What becomes of the billing for a bucket. -/
def Billing.forecast (o : Oracle) (cached : Cache Key Adapter) (name : String) (c : Configuration)
    (options : Option ClientOptions)
    : Forecast Configuration :=
  if c.billOnlyRequesterPays then
    match o.probe name with
    | .error error => ⟨.error (probeError name error), [], 1⟩
    | .ok (some true) => ⟨.ok c, [], 1⟩
    | .ok _ =>
        match o.fault? cached ⟨c.unbilled, options⟩ with
        | some cause => ⟨.error (.resolution ⟨.building, cause⟩), [], 1⟩
        | none => ⟨.ok c.unbilled, [⟨c.unbilled, options⟩], 1⟩
  else ⟨.ok c, [], 0⟩

/-- What becomes of an opening once its adapter is found, by what becomes of billing. -/
def Forecast.opening (settles : Forecast Configuration) (name : String) (r : Opening.Request)
    : Forecast View where
  ending := settles.ending.map fun settled => ⟨name, settled, r.scheme⟩
  keys := ⟨r.configuration, r.options⟩ :: settles.keys
  probes := settles.probes

/-- What becomes of an opening. Nothing but what is cached at the start and the oracle counts. -/
def Opening.Request.forecast (r : Request) (o : Oracle) (cached : Cache Key Adapter)
    : Forecast View :=
  match Bucket.checkName r.bucket, Billing.check r.configuration with
  | .error error, _ => ⟨.error (.bucketName error), [], 0⟩
  | .ok _, .error error => ⟨.error (.configuration error), [], 0⟩
  | .ok name, .ok _ =>
      match o.fault? cached ⟨r.configuration, r.options⟩ with
      | some cause => ⟨.error (.resolution ⟨.building, cause⟩), [], 0⟩
      | none => (Billing.forecast o cached name r.configuration r.options).opening name r

section

variable {o : Oracle} {cached : Cache Key Adapter} {history : List Answered}

/-- Billing that is settled with what the oracle tells is settled as forecast. -/
theorem Billing.History.foretold {name : String} {c : Configuration}
    {options : Option ClientOptions} {adapter : Adapter}
    {outcome : Except Error (Configuration × Adapter)}
    (settles : Billing.History name c options adapter history outcome)
    (tells : ∀ entry ∈ history, o.Tells cached entry)
    : Billing.forecast o cached name c options = .of history (outcome.map Prod.fst) := by
  unfold forecast
  cases settles with
  | unconditional always =>
      rw [if_neg (by simp [always])]
      rfl
  | unanswered conditional =>
      have asked : .error _ = o.probe name := tells _ List.mem_cons_self
      rw [if_pos conditional, ← asked]
      rfl
  | pays conditional =>
      have asked : .ok (some true) = o.probe name := tells _ List.mem_cons_self
      rw [if_pos conditional, ← asked]
      rfl
  | @unbuilt answer cause conditional notPays =>
      have asked : .ok answer = o.probe name := tells _ List.mem_cons_self
      have told : some cause = o.fault? cached ⟨c.unbilled, options⟩ :=
        tells _ (List.mem_cons_of_mem _ List.mem_cons_self)
      rw [if_pos conditional, ← asked, ← told]
      rcases notPays with rfl | rfl <;> rfl
  | @strips answer other conditional notPays =>
      have asked : .ok answer = o.probe name := tells _ List.mem_cons_self
      have told : none = o.fault? cached ⟨c.unbilled, options⟩ :=
        tells _ (List.mem_cons_of_mem _ List.mem_cons_self)
      rw [if_pos conditional, ← asked, ← told]
      rcases notPays with rfl | rfl <;> rfl

/-- So is an opening. -/
theorem Opening.History.foretold {r : Opening.Request} {outcome : Except Error Handle}
    (opens : Opening.History r.bucket r.configuration r.options r.scheme history outcome)
    (tells : ∀ entry ∈ history, o.Tells cached entry)
    : r.forecast o cached = .of history (outcome.map Handle.toView) := by
  unfold Request.forecast
  cases opens with
  | misnamed refused =>
      rw [refused]
      rfl
  | unbillable named refused =>
      rw [named, refused]
      rfl
  | @unbuilt name cause named billable =>
      have told : some cause = o.fault? cached ⟨r.configuration, r.options⟩ :=
        tells _ List.mem_cons_self
      rw [named, billable, ← told]
      rfl
  | @unsettled name adapter rest error named billable settles =>
      have told : none = o.fault? cached ⟨r.configuration, r.options⟩ :=
        tells _ List.mem_cons_self
      have settled := settles.foretold fun entry member =>
        tells entry (List.mem_cons_of_mem _ member)
      rw [named, billable, ← told]
      exact congrArg (fun forecast => forecast.opening name r) settled
  | @opened name adapter last rest configuration named billable settles =>
      have told : none = o.fault? cached ⟨r.configuration, r.options⟩ :=
        tells _ List.mem_cons_self
      have settled := settles.foretold fun entry member =>
        tells entry (List.mem_cons_of_mem _ member)
      rw [named, billable, ← told]
      exact congrArg (fun forecast => forecast.opening name r) settled

end

-----------------------------------------------------------------------------------------
-- Runs of the same openings
-----------------------------------------------------------------------------------------

namespace Opening

/-- A run on a cache of the calls that open these handles, with the answers of an oracle, up to
where all calls have ended.
-/
structure Completed (o : Oracle) (cached : Cache Key Adapter) (requests : List Request)
    (actions : List (Crowd.Action (Except Error Handle))) (c : Crowd (Except Error Handle))
    : Prop where
  reached : (Crowd.start cached).run actions = some c
  started : Crowd.started actions = requests.map Request.plan
  answered
    : ∀ entry ∈ (Crowd.start cached : Crowd (Except Error Handle)).exchanges actions,
        o.Gives entry.2
  ended : ∀ task ∈ c.tasks, task.result?.isSome = true

namespace Completed

variable {o : Oracle} {cached : Cache Key Adapter} {requests : List Request}
    {actions : List (Crowd.Action (Except Error Handle))} {c : Crowd (Except Error Handle)}

/-- Each call comes to what is forecast of it. -/
theorem forecast (completed : Completed o cached requests actions c) {call : Nat} {r : Request}
    (requested : requests[call]? = some r)
    : ∃ outcome,
        c.result? call = some outcome
        ∧ r.forecast o cached
          = .of (Crowd.own call ((Crowd.start cached).history actions))
              (outcome.map Handle.toView) := by
  obtain ⟨reached, started, answered, ended⟩ := completed
  have planned : (Crowd.started actions)[call]? = some r.plan := by
    rw [started, List.getElem?_map, requested]
    rfl
  have inside : call < c.tasks.length := by
    rw [(Crowd.run_traced reached).count]
    exact (List.getElem?_eq_some_iff.mp planned).1
  have found := List.getElem?_eq_getElem inside
  obtain ⟨outcome, atResult⟩ := Option.isSome_iff_exists.mp (ended _ (List.getElem_mem inside))
  have result : c.result? call = some outcome := by
    rw [Crowd.result?, found]
    exact atResult
  have opens := Opening.history (Crowd.run_comes reached planned result)
  refine ⟨outcome, result, opens.foretold fun entry member => ?_⟩
  exact (Crowd.run_foretold reached answered).answers (call, entry) (Crowd.mem_own.mp member)

/-- In the end those keys are cached that were so at the start or are forecast to be found. -/
theorem contains_iff (completed : Completed o cached requests actions c) {key : Key}
    : c.cache.contains key = true
      ↔ cached.contains key = true ∨ ∃ r ∈ requests, key ∈ (r.forecast o cached).keys := by
  have foretold := Crowd.run_foretold completed.reached completed.answered
  constructor
  · intro contained
    rcases foretold.source key contained with early | ⟨call, ⟨adapter, told⟩ | ⟨task, found, finds⟩⟩
    · exact .inl early
    · have traced := Crowd.run_traced completed.reached
      have inside : call < requests.length := by
        have known : call < c.tasks.length := traced.known _ told
        rwa [traced.count, completed.started, List.length_map] at known
      have requested := List.getElem?_eq_getElem inside
      obtain ⟨outcome, _, same⟩ := completed.forecast requested
      refine .inr ⟨requests[call], List.getElem_mem inside, ?_⟩
      rw [same]
      exact List.mem_filterMap.mpr ⟨_, Crowd.mem_own.mpr told, rfl⟩
    · obtain ⟨next, _, asks, _⟩ := finds
      have ended := completed.ended task (List.mem_of_getElem? found)
      simp [Task.result?, asks] at ended
  · rintro (early | ⟨r, member, found⟩)
    · exact foretold.kept key early
    · obtain ⟨call, requested⟩ := List.mem_iff_getElem?.mp member
      obtain ⟨outcome, _, same⟩ := completed.forecast requested
      rw [same] at found
      obtain ⟨entry, inside, told⟩ := List.mem_filterMap.mp found
      obtain ⟨adapter, rfl⟩ := Answered.found?_eq_some_iff.mp told
      exact foretold.holds call key adapter (Crowd.mem_own.mp inside)

end Completed

/-- Two runs with the same openings compare like this: `requests` and `others` are the openings in
the orders of their starts, `actions` and `later` the runs, and `c` and `d` what they have led to.
-/
structure Alike (cached : Cache Key Adapter) (requests others : List Request)
    (actions later : List (Crowd.Action (Except Error Handle))) (c d : Crowd (Except Error Handle))
    : Prop where
  /-- An opening ends with the same error, or with a handle on the same bucket under the same
  configuration. -/
  ends
    : ∀ i j r,
        requests[i]? = some r
        → others[j]? = some r
        → ∃ outcome other,
            c.result? i = some outcome
            ∧ d.result? j = some other
            ∧ outcome.map Handle.toView = other.map Handle.toView
  keys : ∀ key, c.cache.contains key = d.cache.contains key
  probes
    : ∀ i j r,
        requests[i]? = some r
        → others[j]? = some r
        → (Crowd.start cached).probes actions i = (Crowd.start cached).probes later j

/-- The order of openings, and how they are interleaved, does not count. -/
theorem Completed.alike {o : Oracle} {cached : Cache Key Adapter} {requests others : List Request}
    {actions later : List (Crowd.Action (Except Error Handle))} {c d : Crowd (Except Error Handle)}
    (completed : Completed o cached requests actions c) (again : Completed o cached others later d)
    (same : requests.Perm others)
    : Alike cached requests others actions later c d where
  ends i j r atI atJ := by
    obtain ⟨outcome, ended, foretold⟩ := completed.forecast atI
    obtain ⟨other, endedToo, foretoldToo⟩ := again.forecast atJ
    refine ⟨outcome, other, ended, endedToo, ?_⟩
    exact congrArg Forecast.ending (foretold.symm.trans foretoldToo)
  keys key := by
    rw [Bool.eq_iff_iff, completed.contains_iff, again.contains_iff]
    simp only [same.mem_iff]
  probes i j r atI atJ := by
    obtain ⟨outcome, _, foretold⟩ := completed.forecast atI
    obtain ⟨other, _, foretoldToo⟩ := again.forecast atJ
    rw [Crowd.probes_eq, Crowd.probes_eq]
    exact congrArg Forecast.probes (foretold.symm.trans foretoldToo)

/-- Why no adapter can be built for one project. -/
def refusal : Fault := ⟨.permission, some "closed", []⟩

/-- No adapter can be built for one project, and no bucket is requester-pays. -/
def partlyClosed : Oracle where
  failure project _ := if project = "closed" then some refusal else none
  probe _ := .ok (some false)

/-- The adapter of one project is there already. -/
def warm : Cache Key Adapter :=
  Cache.empty.store ⟨(billing "alpha" true).configuration, none⟩ (numbered 0)

/-- Two openings for projects that are stripped, and two for the one that is closed. -/
def four : List Request :=
  [billing "alpha" true, billing "beta" true, billing "closed" false, billing "closed" false]

/-- The four openings, one after the other. -/
def oneByOne : List (Crowd.Action (Except Error Handle)) :=
  [
    [.call (billing "alpha" true).plan],
    Crowd.steps 0 2,
    [.answer 0 (.probed (.ok (some false)))],
    Crowd.steps 0 6,
    [.answer 0 (.built (.ok (numbered 1)))],
    Crowd.steps 0 5,
    [.call (billing "beta" true).plan],
    Crowd.steps 1 5,
    [.answer 1 (.built (.ok (numbered 2)))],
    Crowd.steps 1 4,
    [.answer 1 (.probed (.ok (some false)))],
    Crowd.steps 1 4,
    [.call (billing "closed" false).plan],
    Crowd.steps 2 5,
    [.answer 2 (.built (.error refusal))],
    Crowd.steps 2 3,
    [.call (billing "closed" false).plan],
    Crowd.steps 3 5,
    [.answer 3 (.built (.error refusal))],
    Crowd.steps 3 3
  ].flatten

/-- The four openings in the opposite order and at the same time. One waits behind the building that
fails, and another one for the adapter that bills nobody.
-/
def atOnce : List (Crowd.Action (Except Error Handle)) :=
  [
    four.reverse.map fun r => .call r.plan,
    Crowd.steps 0 5,
    Crowd.steps 1 2,
    Crowd.steps 2 5,
    Crowd.steps 3 2,
    [
      .answer 3 (.probed (.ok (some false))),
      .answer 0 (.built (.error refusal)),
      .answer 2 (.built (.ok (numbered 1)))
    ],
    Crowd.steps 2 4,
    [.answer 2 (.probed (.ok (some false)))],
    Crowd.steps 0 3,
    Crowd.steps 2 2,
    Crowd.steps 3 2,
    Crowd.steps 2 4,
    Crowd.steps 3 1,
    [.answer 2 (.built (.ok (numbered 2)))],
    Crowd.steps 1 3,
    [.answer 1 (.built (.error refusal))],
    Crowd.steps 2 5,
    Crowd.steps 3 6,
    Crowd.steps 1 3
  ].flatten

/-- Both runs come to the same. -/
theorem atOnce_alike
    : ∃ c d,
        Completed partlyClosed warm four oneByOne c
        ∧ Completed partlyClosed warm four.reverse atOnce d
        ∧ four.Perm four.reverse
        ∧ Alike warm four four.reverse oneByOne atOnce c d := by
  have completed : ∃ c, Completed partlyClosed warm four oneByOne c := by
    refine ⟨_, rfl, rfl, List.forall_iff_forall_mem.mp ?_, List.all_eq_true.mp rfl⟩
    exact ⟨rfl, rfl, rfl, rfl, rfl, rfl⟩
  have again : ∃ d, Completed partlyClosed warm four.reverse atOnce d := by
    refine ⟨_, rfl, rfl, List.forall_iff_forall_mem.mp ?_, List.all_eq_true.mp rfl⟩
    exact ⟨rfl, rfl, rfl, rfl, rfl, rfl⟩
  obtain ⟨c, completed⟩ := completed
  obtain ⟨d, again⟩ := again
  have same : four.Perm four.reverse := (List.reverse_perm four).symm
  exact ⟨c, d, completed, again, same, completed.alike again same⟩

end Opening

end CloudBuckets
