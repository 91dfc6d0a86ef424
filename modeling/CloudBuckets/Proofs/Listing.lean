import CloudBuckets.Proofs.Tracing

/-! How the buckets of a project are listed. An adapter is built for the listing and closed once,
and there are either all names or none.
-/

namespace CloudBuckets

-----------------------------------------------------------------------------------------
-- Answers to listings
-----------------------------------------------------------------------------------------

/-- The names of the buckets that begin with a text, in order; without a text, all names. -/
def Backend.starting (b : Backend) (start : Option String) : List String :=
  (b.buckets.map (·.1)).filter fun name => ∀ text ∈ start, text.toList <+: name.toList

/-- A name begins with a text just if the text is a prefix of it. -/
theorem Backend.begins_iff {start : Option String} {name : String}
    : begins start name = true ↔ ∀ text ∈ start, text.toList <+: name.toList := by
  cases start with
  | none => simp [begins]
  | some text => simp [begins]

/-- What comes of a listing: all names that begin with the text, unless it fails. A failure of the
service itself is made sense of by adapters for the service, and others are passed on.
-/
inductive Backend.Lists (b : Backend) (start : Option String) (provider : Provider)
    : Except Error (List String) → Prop
  | whole (sound : b.listFailure = none) : b.Lists start provider (.ok (b.starting start))
  | service {fault : Fault} (fails : b.listFailure = some fault) (cloud : provider = .cloud)
    (service : fault.kind.isService = true)
    : b.Lists start provider (.error (.resolution ⟨.listing, fault⟩))
  | passed {fault : Fault} (fails : b.listFailure = some fault)
    (other : provider = .memory ∨ fault.kind.isService = false)
    : b.Lists start provider (.error (.fault fault))

/-- Adapters answer for the backend. -/
theorem Provider.list_lists (provider : Provider) (b : Backend) (start : Option String)
    : b.Lists start provider
        ((provider.list (b.listing start)).mapError AdapterError.toError) := by
  cases fails : b.listFailure with
  | none =>
      have names : b.listing start = ⟨b.starting start, none⟩ := by
        simp only [Backend.listing, fails, Backend.starting, ← Backend.begins_iff,
          Bool.decide_eq_true]
      rw [names]
      exact .whole fails
  | some fault =>
      have partly : (b.listing start).collect = .error fault := by
        simp only [Backend.listing, fails, Listing.collect]
      rw [Provider.list, partly]
      cases provider with
      | memory => exact .passed fails (.inl rfl)
      | cloud =>
          cases service : fault.kind.isService with
          | true =>
              simp only [Except.mapError, service, if_pos]
              exact .service fails rfl service
          | false =>
              simp only [Except.mapError, service, Bool.false_eq_true, if_false]
              exact .passed fails (.inr service)

namespace Backend.Lists

variable {b : Backend} {start : Option String} {provider : Provider}
  {outcome : Except Error (List String)}

/-- There are names just if nothing fails, and then there are all of them. -/
theorem eq_ok_iff (lists : b.Lists start provider outcome) {names : List String}
    : outcome = .ok names ↔ b.listFailure = none ∧ names = b.starting start := by
  cases lists with
  | whole sound => simp [sound, eq_comm]
  | service fails | passed fails => simp [fails]

end Backend.Lists

-----------------------------------------------------------------------------------------
-- The course of a listing
-----------------------------------------------------------------------------------------

namespace Effect

/-- The builds that have been asked for, in order. -/
def requested (trace : List Effect) : List (String × Option ClientOptions) :=
  trace.filterMap fun
    | .build project options _ => some (project, options)
    | _ => none

/-- The adapters that have been closed, in order. -/
def closed (trace : List Effect) : List Adapter :=
  trace.filterMap fun
    | .close adapter => some adapter
    | _ => none

end Effect

/-- How the buckets of a project are listed, by what the factory answers and what the adapter then
answers, with the effects and the outcome. The adapter is closed at the end, however it answers.
-/
inductive Listing.Course (project start : Option String)
    (answer : Adapter → Except AdapterError (List String))
    : Except Fault Adapter → List Effect → Except Error (List String) → Prop
  | unbuilt (fault : Fault)
    : Course project start answer (.error fault)
        [.build "" (some { project }) (.error fault)] (.error (.fault fault))
  | built (adapter : Adapter)
    : Course project start answer (.ok adapter)
        [
          .build "" (some { project }) (.ok adapter),
          .list adapter start (answer adapter),
          .close adapter
        ]
        ((answer adapter).mapError AdapterError.toError)

namespace Listing.Course

variable {project start : Option String} {answer : Adapter → Except AdapterError (List String)}
  {built : Except Fault Adapter} {trace : List Effect} {outcome : Except Error (List String)}

/-- One adapter is asked for, that of the project, which bills nobody. -/
theorem requested_eq (course : Course project start answer built trace outcome)
    : Effect.requested trace = [("", some { project })] := by
  cases course <;> rfl

/-- The adapter that has been built is closed, once, and no other one is. -/
theorem closed_eq (course : Course project start answer built trace outcome)
    : Effect.closed trace = built.toOption.toList := by
  cases course <;> rfl

end Listing.Course

namespace Surroundings

variable {σ : Type} (s : Surroundings σ)

/-- A call for a new adapter ends as the factory does. -/
theorem call_build (project : String) (options : Option ClientOptions) (w : σ)
    : s.call (Call.build project options) w
      = ((s.build project options w).1.mapError Error.fault, (s.build project options w).2) := by
  simp only [call, Call.build, ExceptT.run_mk, carryOut]
  cases (s.build project options w).1 <;> rfl

/-- What a listing does to the state, and what comes of it. -/
theorem call_listBuckets (project start : Option String) (w : σ)
    : let built := s.build "" (some { project }) w
      s.call (listBuckets project start) w
      = match built.1 with
        | .error fault => (.error (.fault fault), built.2)
        | .ok adapter =>
            let listed := s.list adapter start built.2
            (listed.1.mapError AdapterError.toError, s.close adapter listed.2) := by
  have list (adapter : Adapter) (v : σ)
      : s.call (liftM (Call.list adapter start)) v
        = (.ok (s.list adapter start v).1, (s.list adapter start v).2) :=
    rfl
  have close (adapter : Adapter) (v : σ)
      : s.call (liftM (Call.close adapter)) v = (.ok (), s.close adapter v) :=
    rfl
  dsimp only
  rw [listBuckets, call_bind, call_build]
  cases (s.build "" (some { project }) w).1 with
  | error fault => rfl
  | ok adapter =>
      dsimp only [Except.mapError]
      rw [call_bind, list]
      dsimp only
      rw [call_bind, close]
      dsimp only
      cases (s.list adapter start (s.build "" (some { project }) w).2).1 <;> rfl

/-- The course of a listing, whatever the surroundings answer. -/
theorem listBuckets_course (project start : Option String) (w : σ)
    : let built := s.build "" (some { project }) w
      Listing.Course project start (fun adapter => (s.list adapter start built.2).1) built.1
        (s.trace (listBuckets project start) w) (s.call (listBuckets project start) w).1 := by
  have traced (answer : Except Fault Adapter) (v : σ)
      (built : s.build "" (some { project }) w = (answer, v))
      : s.traced.build "" (some { project }) (w, [])
        = (answer, v, [.build "" (some { project }) answer]) := by
    simp only [Surroundings.traced, built, List.nil_append]
  intro built
  rw [trace, call_listBuckets, call_listBuckets]
  cases answered : s.build "" (some { project }) w with
  | mk answer v =>
      rw [traced answer v answered, show built = (answer, v) from answered]
      cases answer with
      | error fault => exact .unbuilt fault
      | ok adapter => exact .built adapter

end Surroundings

end CloudBuckets
