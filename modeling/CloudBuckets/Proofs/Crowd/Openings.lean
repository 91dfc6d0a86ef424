import CloudBuckets.Proofs.Crowd.Histories
import CloudBuckets.Proofs.Opening

/-! The histories of calls that open handles: which answers they get, and what they come to with
them.
-/

namespace CloudBuckets

-----------------------------------------------------------------------------------------
-- Histories of calls that are put together
-----------------------------------------------------------------------------------------

namespace Call

variable {β γ : Type} {history : List Answered} {outcome : Except Error β}

/-- A call after another gets its answers after those of the first, unless that has failed. -/
theorem comes_bind {first : Call γ} {next : γ → Call β}
    (comes : (first >>= next).run.Comes history outcome)
    : (∃ error, first.run.Comes history (.error error) ∧ outcome = .error error)
      ∨ ∃ before after value,
          history = before ++ after
          ∧ first.run.Comes before (.ok value)
          ∧ (next value).run.Comes after outcome := by
  rw [run_bind] at comes
  obtain ⟨before, after, middle, rfl, begun, goesOn⟩ := comes.of_bind
  cases middle with
  | ok value => exact .inr ⟨before, after, value, rfl, begun, goesOn⟩
  | error error =>
      cases goesOn
      exact .inl ⟨error, (List.append_nil before).symm ▸ begun, rfl⟩

theorem comes_pure {value : β} (comes : (pure value : Call β).run.Comes history outcome)
    : history = [] ∧ outcome = .ok value := by
  cases comes
  exact ⟨rfl, rfl⟩

theorem comes_throw {error : Error} (comes : (throw error : Call β).run.Comes history outcome)
    : history = [] ∧ outcome = .error error := by
  cases comes
  exact ⟨rfl, rfl⟩

/-- A check before a call gets no answer. -/
theorem comes_check {check : Except Error γ} {next : γ → Call β}
    (comes : (liftM check >>= next : Call β).run.Comes history outcome)
    : (∃ error, check = .error error ∧ history = [] ∧ outcome = .error error)
      ∨ ∃ value, check = .ok value ∧ (next value).run.Comes history outcome := by
  cases check with
  | ok value => exact .inr ⟨value, rfl, comes⟩
  | error error =>
      obtain ⟨unanswered, same⟩ := comes_throw comes
      exact .inl ⟨error, rfl, unanswered, same⟩

/-- A call for the adapter of a key gets one answer. -/
theorem comes_resolve {key : Key} {outcome : Except Error Adapter}
    (comes : (Call.resolve key).run.Comes history outcome)
    : (∃ cause,
        history = [.resolved key (.error cause)]
        ∧ outcome = .error (.resolution ⟨.building, cause⟩))
      ∨ ∃ adapter, history = [.resolved key (.ok adapter)] ∧ outcome = .ok adapter := by
  cases comes with
  | @resolve _ _ answer rest _ goesOn =>
      cases answer with
      | ok adapter =>
          cases goesOn
          exact .inr ⟨adapter, rfl, rfl⟩
      | error cause =>
          cases goesOn
          exact .inl ⟨cause, rfl, rfl⟩

/-- So does a request to an adapter before a call. -/
theorem comes_probe {adapter : Adapter} {bucket : String}
    {next : Except AdapterError (Option Bool) → Call β}
    (comes : (liftM (Call.probe adapter bucket) >>= next : Call β).run.Comes history outcome)
    : ∃ answer rest,
        history = .exchanged (.probe adapter bucket answer) :: rest
        ∧ (next answer).run.Comes rest outcome := by
  cases comes with
  | probe goesOn => exact ⟨_, _, rfl, goesOn⟩

/-- A log record before a call gets none. -/
theorem comes_note {record : LogRecord} {next : Unit → Call β}
    (comes : (liftM (Call.note record) >>= next : Call β).run.Comes history outcome)
    : (next ()).run.Comes history outcome := by
  cases comes with
  | note goesOn => exact goesOn

end Call

-----------------------------------------------------------------------------------------
-- Histories of openings
-----------------------------------------------------------------------------------------

/-- What the opening of a handle is called with. -/
structure Opening.Request where
  bucket : Value
  configuration : Configuration
  options : Option ClientOptions
  scheme : String

/-- The plan of an opening. -/
def Opening.Request.plan (r : Request) : Plan (Except Error Handle) :=
  (openBucket r.bucket r.configuration r.options r.scheme).run

namespace Opening

/-- The opening of one bucket for a project, which may be billed only where the bucket is
requester-pays.
-/
def billing (project : String) (conditional : Bool) : Request where
  bucket := .text "data"
  configuration := {
    Configuration.standard with
    userProject := project
    billOnlyRequesterPays := conditional
  }
  options := none
  scheme := Bucket.scheme

/-- An adapter with a number. -/
def numbered (id : Nat) : Adapter := ⟨id, .memory, "", none⟩

end Opening

/-- The answers with which the billing for a bucket is settled. -/
inductive Billing.History (name : String) (c : Configuration) (options : Option ClientOptions)
    (adapter : Adapter)
    : List Answered → Except Error (Configuration × Adapter) → Prop
  | unconditional (always : c.billOnlyRequesterPays = false)
    : History name c options adapter [] (.ok (c, adapter))
  | unanswered {error : AdapterError} (conditional : c.billOnlyRequesterPays = true)
    : History name c options adapter
        [.exchanged (.probe adapter name (.error error))]
        (.error (Billing.probeError name error))
  | pays (conditional : c.billOnlyRequesterPays = true)
    : History name c options adapter
        [.exchanged (.probe adapter name (.ok (some true)))]
        (.ok (c, adapter))
  | unbuilt {answer : Option Bool} {cause : Fault} (conditional : c.billOnlyRequesterPays = true)
    (notPays : answer = some false ∨ answer = none)
    : History name c options adapter
        [
          .exchanged (.probe adapter name (.ok answer)),
          .resolved ⟨c.unbilled, options⟩ (.error cause)
        ]
        (.error (.resolution ⟨.building, cause⟩))
  | strips {answer : Option Bool} {other : Adapter} (conditional : c.billOnlyRequesterPays = true)
    (notPays : answer = some false ∨ answer = none)
    : History name c options adapter
        [
          .exchanged (.probe adapter name (.ok answer)),
          .resolved ⟨c.unbilled, options⟩ (.ok other)
        ]
        (.ok (c.unbilled, other))

/-- The answers with which a handle is opened. -/
inductive Opening.History (bucket : Value) (c : Configuration) (options : Option ClientOptions)
    (scheme : String)
    : List Answered → Except Error Handle → Prop
  | misnamed {error : BucketNameError} (refused : Bucket.checkName bucket = .error error)
    : History bucket c options scheme [] (.error (.bucketName error))
  | unbillable {name : String} {error : ConfigurationError}
    (named : Bucket.checkName bucket = .ok name) (refused : Billing.check c = .error error)
    : History bucket c options scheme [] (.error (.configuration error))
  | unbuilt {name : String} {cause : Fault} (named : Bucket.checkName bucket = .ok name)
    (billable : Billing.check c = .ok ())
    : History bucket c options scheme
        [.resolved ⟨c, options⟩ (.error cause)]
        (.error (.resolution ⟨.building, cause⟩))
  | unsettled {name : String} {adapter : Adapter} {rest : List Answered} {error : Error}
    (named : Bucket.checkName bucket = .ok name) (billable : Billing.check c = .ok ())
    (settles : Billing.History name c options adapter rest (.error error))
    : History bucket c options scheme
        (.resolved ⟨c, options⟩ (.ok adapter) :: rest)
        (.error error)
  | opened {name : String} {adapter last : Adapter} {rest : List Answered}
    {settled : Configuration} (named : Bucket.checkName bucket = .ok name)
    (billable : Billing.check c = .ok ())
    (settles : Billing.History name c options adapter rest (.ok (settled, last)))
    : History bucket c options scheme
        (.resolved ⟨c, options⟩ (.ok adapter) :: rest)
        (.ok ⟨⟨name, settled, scheme⟩, last⟩)

/-- Every history of billing that is settled is one of these. -/
theorem Billing.history {name : String} {c : Configuration} {options : Option ClientOptions}
    {adapter : Adapter} {history : List Answered} {outcome : Except Error (Configuration × Adapter)}
    (billable : check c = .ok ())
    (comes : (settle name c adapter options).run.Comes history outcome)
    : History name c options adapter history outcome := by
  unfold settle at comes
  split at comes
  · rename_i conditional
    rcases Call.comes_check comes with ⟨error, refused, _⟩ | ⟨_, _, checked⟩
    · rw [billable] at refused
      cases refused
    · obtain ⟨answer, rest, rfl, probed⟩ := Call.comes_probe checked
      split at probed
      · obtain ⟨rfl, rfl⟩ := Call.comes_throw probed
        exact .unanswered conditional
      · obtain ⟨rfl, rfl⟩ := Call.comes_pure probed
        exact .pays conditional
      · rename_i flag notTrue
        have notPays : flag = some false ∨ flag = none := by
          rcases flag with _ | _ | _ <;> simp at notTrue ⊢
        rcases Call.comes_bind (Call.comes_note probed) with
          ⟨error, resolved, rfl⟩ | ⟨before, after, other, rfl, resolved, ends⟩
        · rcases Call.comes_resolve resolved with ⟨cause, rfl, same⟩ | ⟨_, _, same⟩
          · cases same
            exact .unbuilt conditional notPays
          · cases same
        · obtain ⟨rfl, rfl⟩ := Call.comes_pure ends
          rcases Call.comes_resolve resolved with ⟨_, _, same⟩ | ⟨adapter, rfl, same⟩
          · cases same
          · cases same
            exact .strips conditional notPays
  · rename_i unconditional
    obtain ⟨rfl, rfl⟩ := Call.comes_pure comes
    exact .unconditional (by simpa using unconditional)

/-- Every history of an opening is one of these. -/
theorem Opening.history {bucket : Value} {c : Configuration} {options : Option ClientOptions}
    {scheme : String} {history : List Answered} {outcome : Except Error Handle}
    (comes : (openBucket bucket c options scheme).run.Comes history outcome)
    : History bucket c options scheme history outcome := by
  unfold openBucket at comes
  rcases Call.comes_check comes with ⟨error, failed, rfl, rfl⟩ | ⟨name, passed, checked⟩
  · obtain ⟨inner, refused, rfl⟩ := mapError_eq_error.mp failed
    exact .misnamed refused
  have named := mapError_eq_ok.mp passed
  rcases Call.comes_check checked with ⟨error, failed, rfl, rfl⟩ | ⟨_, passed, asked⟩
  · obtain ⟨inner, refused, rfl⟩ := mapError_eq_error.mp failed
    exact .unbillable named refused
  have billable := mapError_eq_ok.mp passed
  rcases Call.comes_bind asked with
    ⟨error, resolved, rfl⟩ | ⟨first, rest, adapter, rfl, resolved, goesOn⟩
  · rcases Call.comes_resolve resolved with ⟨cause, rfl, same⟩ | ⟨_, _, same⟩
    · cases same
      exact .unbuilt named billable
    · cases same
  rcases Call.comes_resolve resolved with ⟨_, _, same⟩ | ⟨_, rfl, same⟩
  · cases same
  cases same
  rcases Call.comes_bind goesOn with
    ⟨error, settled, rfl⟩ | ⟨before, after, ⟨settled, other⟩, rfl, settles, ends⟩
  · exact .unsettled named billable (Billing.history billable settled)
  · dsimp only at ends
    rw [Handle.make_of_nonempty (Bucket.checkName_ok_iff.mp named).2.1] at ends
    rcases Call.comes_check ends with ⟨_, same, _⟩ | ⟨handle, same, noted⟩
    · cases same
    cases same
    have last := Call.comes_note noted
    obtain ⟨rfl, rfl⟩ := Call.comes_pure last
    rw [List.append_nil]
    exact .opened named billable (Billing.history billable settles)

end CloudBuckets
