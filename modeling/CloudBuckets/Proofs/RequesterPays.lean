import CloudBuckets.Proofs.Session.OpeningEffects

/-! How it is found out whether a bucket is requester-pays. A failure of the service is an answer
just where it asks for a project to bill, and it never says that nobody has to be billed.
-/

namespace CloudBuckets

/-- A text holds another one just if that is one of its parts. -/
theorem Text.holds_iff {text part : List Char} : Text.holds text part ↔ part <:+: text := by
  induction text with
  | nil => simp [Text.holds]
  | cons c rest ih => simp [Text.holds, ih, List.infix_cons_iff]

-----------------------------------------------------------------------------------------
-- What a reply says
-----------------------------------------------------------------------------------------

/-- A reply says that a bucket is not requester-pays, or leaves it open. -/
def Reply.Denies (reply : Reply) : Prop :=
  reply = .ok (some false) ∨ reply = .ok none

/-- A bad request that is refused because it names no project to bill: one of its details, an
object, gives that as the reason, or its message speaks of requester pays, letter case aside.
-/
structure Fault.RefusesUnbilled (f : Fault) : Prop where
  badRequest : f.kind = .call .badRequest
  asks
    : (∃ fields,
        .object fields ∈ f.details
        ∧ fields.lookup "reason" = some (.text "userProjectMissing"))
      ∨ ∃ message,
          f.message = some message
          ∧ "requester pays".toList <:+: message.toList.map Text.lower

/-- What a detail gives as the reason. Only objects give one. -/
theorem Value.field?_eq_some_iff {name : String} {detail value : Value}
    : detail.field? name = some value
      ↔ ∃ fields, detail = .object fields ∧ fields.lookup name = some value := by
  cases detail <;> simp [Value.field?]

/-- What is looked for in a refusal is what it says, detail by detail and in the message. -/
theorem Fault.asksForProject_iff {f : Fault}
    : f.asksForProject
      ↔ (∃ fields,
          .object fields ∈ f.details
          ∧ fields.lookup "reason" = some (.text "userProjectMissing"))
        ∨ ∃ message,
            f.message = some message
            ∧ "requester pays".toList <:+: message.toList.map Text.lower := by
  have message : ("requester pays".toList <:+: (f.message.getD "").toList.map Text.lower)
      ↔ ∃ message,
          f.message = some message
          ∧ "requester pays".toList <:+: message.toList.map Text.lower := by
    cases f.message with
    | none => simp
    | some message => simp
  unfold asksForProject
  rw [Bool.or_eq_true, List.any_eq_true, Text.holds_iff, message]
  refine or_congr_left ⟨?_, ?_⟩
  · rintro ⟨detail, member, given⟩
    split at given
    · rename_i reason found
      obtain ⟨fields, rfl, found⟩ := Value.field?_eq_some_iff.mp found
      obtain rfl : reason = missingProject := by simpa using given
      exact ⟨fields, member, found⟩
    · cases given
  · rintro ⟨fields, member, found⟩
    have named : (Value.object fields).field? "reason" = some (.text missingProject) := found
    exact ⟨_, member, by simp [named]⟩

theorem Fault.refusesUnbilled_iff {f : Fault}
    : f.RefusesUnbilled ↔ f.kind = .call .badRequest ∧ f.asksForProject := by
  rw [asksForProject_iff]
  exact ⟨fun refuses => ⟨refuses.badRequest, refuses.asks⟩, fun ⟨kind, asks⟩ => ⟨kind, asks⟩⟩

namespace Provider

-----------------------------------------------------------------------------------------
-- What is made of it
-----------------------------------------------------------------------------------------

/-- The answer that a reply of the service on a bucket should get. -/
structure Classifies (bucket : String) (reply : Reply) (answer : Except AdapterError Bool)
    : Prop where
  pays
    : answer = .ok true
      ↔ reply = .ok (some true) ∨ ∃ fault, reply = .error fault ∧ fault.RefusesUnbilled
  notPays : answer = .ok false ↔ reply.Denies
  /-- Any other failure of the service is what lies behind an error of resolution. -/
  service
    : ∀ fault,
        reply = .error fault
        → fault.kind.isService
        → ¬ fault.RefusesUnbilled
        → answer
          = .error
              (.resolution
                ⟨if fault.kind = .call .notFound then .missingBucket bucket else .probing bucket,
                  fault⟩)
  /-- All other failures are passed on. -/
  passed
    : ∀ fault,
        reply = .error fault
        → fault.kind.isService = false
        → answer = .error (.fault fault)

/-- A failure that is no answer gets an error for an answer. -/
theorem Classifies.of_error {bucket : String} {fault : Fault} {error : AdapterError}
    (notAsked : ¬ fault.RefusesUnbilled)
    (service
      : fault.kind.isService
        → error
          = .resolution
              ⟨if fault.kind = .call .notFound then .missingBucket bucket else .probing bucket,
                fault⟩)
    (passed : fault.kind.isService = false → error = .fault fault)
    : Classifies bucket (.error fault) (.error error) where
  pays := by simpa using notAsked
  notPays := by simp [Reply.Denies]
  service := by
    rintro _ ⟨⟩ isService _
    rw [service isService]
  passed := by
    rintro _ ⟨⟩ other
    rw [passed other]

/-- Every reply gets the answer that it should get, by cases on its kind. -/
theorem classify_classifies (bucket : String) (reply : Reply)
    : Classifies bucket reply (classify bucket reply) := by
  cases reply with
  | ok flag =>
      refine ⟨?_, ?_, nofun, nofun⟩
      · rcases flag with _ | _ | _ <;> simp [classify]
      · rcases flag with _ | _ | _ <;> simp [classify, Reply.Denies]
  | error fault =>
      unfold classify
      dsimp only
      split
      · rename_i kind
        split
        · rename_i asks
          have refuses := Fault.refusesUnbilled_iff.mpr ⟨kind, asks⟩
          refine ⟨⟨fun _ => .inr ⟨fault, rfl, refuses⟩, fun _ => rfl⟩, ?_, ?_, ?_⟩
          · simp [Reply.Denies]
          · rintro _ ⟨⟩ _ notAsked
            exact absurd refuses notAsked
          · rintro _ ⟨⟩ other
            simp [kind, Fault.Kind.isService] at other
        · rename_i asksNot
          refine .of_error (fun refuses => ?_) (fun _ => by simp [kind]) ?_
          · exact asksNot (Fault.refusesUnbilled_iff.mp refuses).2
          · simp [kind, Fault.Kind.isService]
      · rename_i kind
        refine .of_error (fun refuses => ?_) (fun _ => by simp [kind]) ?_
        · have badRequest := refuses.badRequest
          simp [kind] at badRequest
        · simp [kind, Fault.Kind.isService]
      · rename_i notBad notMissing
        have other : ¬ fault.RefusesUnbilled := fun refuses => notBad refuses.badRequest
        split
        · rename_i isService
          refine .of_error other (fun _ => by rw [if_neg notMissing]) ?_
          simp [isService]
        · rename_i passed
          exact .of_error other (fun isService => absurd isService passed) fun _ => rfl

/-- An adapter answers that a bucket is not requester-pays only if the reply says so or leaves it
open, be it in memory or in the cloud.
-/
theorem denies_of_probe {provider : Provider} {bucket : String} {reply : Reply}
    {answer : Option Bool} (probed : provider.probe bucket reply = .ok answer)
    (notPays : answer ≠ some true)
    : reply.Denies := by
  cases provider with
  | memory =>
      obtain rfl : reply = .ok answer := mapError_eq_ok.mp probed
      rcases answer with _ | _ | _
      · exact .inr rfl
      · exact .inl rfl
      · exact absurd rfl notPays
  | cloud =>
      simp only [probe] at probed
      cases answered : classify bucket reply with
      | error error =>
          rw [answered] at probed
          cases probed
      | ok pays =>
          rw [answered] at probed
          cases probed
          obtain rfl : pays = false := by simpa using notPays
          exact (classify_classifies bucket reply).notPays.mp answered

end Provider

-----------------------------------------------------------------------------------------
-- What is stripped
-----------------------------------------------------------------------------------------

namespace Surroundings

variable {σ : Type} {s : Surroundings σ}

/-- Where a configuration is not settled as it is given, the probe has answered that the bucket is
not requester-pays, or may not be.
-/
theorem ensures_settle_unchanged (bucket : String) (c : Configuration) (adapter : Adapter)
    (options : Option ClientOptions) (w : σ)
    : s.Ensures (fun v => v = w) (Billing.settle bucket c adapter options) fun outcome _ =>
        ∀ settled,
          outcome = .ok settled
          → settled.1 ≠ c
          → ∃ answer, (s.probe adapter bucket w).1 = .ok answer ∧ answer ≠ some true := by
  have keeps : ∀ {other : Adapter} {settled : Configuration × Adapter} {P : Prop},
      (.ok (c, other) : Except Error (Configuration × Adapter)) = .ok settled
      → settled.1 ≠ c
      → P := by
    rintro other _ P ⟨⟩ changed
    exact absurd rfl changed
  unfold Billing.settle
  split
  · refine .check (fun _ _ => .probe fun answer => ?_) fun _ _ _ _ _ => nofun
    have answers : ∀ v, (∃ u, u = w ∧ s.probe adapter bucket u = (answer, v))
        → (s.probe adapter bucket w).1 = answer := by
      rintro _ ⟨_, rfl, same⟩
      rw [same]
    refine .assume answers fun probed => ?_
    split
    · exact .throw fun _ _ _ => nofun
    · exact .pure fun _ _ _ => keeps
    · rename_i flag notTrue
      have resolves : ∀ before, s.Ensures before (Call.resolve ⟨c.unbilled, options⟩)
          fun _ _ => True :=
        fun _ _ _ => trivial
      refine .note (.bind (resolves _) (fun _ => ?_) fun _ _ _ _ => nofun)
      exact .pure fun _ _ _ _ _ => ⟨flag, probed, notTrue⟩
  · exact .pure fun _ _ _ => keeps

/-- The same for a handle, where the probe is made in the state in which its adapter has been
resolved.
-/
theorem ensures_openBucket_unchanged (bucket : Value) (c : Configuration)
    (options : Option ClientOptions) (scheme : String) (w : σ)
    : s.Ensures (fun v => v = w) (openBucket bucket c options scheme) fun outcome _ =>
        ∀ handle,
          outcome = .ok handle
          → handle.configuration ≠ c
          → ∃ adapter answer,
              (s.probe adapter handle.bucket (s.call (Call.resolve ⟨c, options⟩) w).2).1
                = .ok answer
              ∧ answer ≠ some true := by
  unfold openBucket
  refine .check (fun name named => .check (fun _ _ => ?_) fun _ _ _ _ _ => nofun)
    fun _ _ _ _ _ => nofun
  have names := Bucket.checkName_ok_iff.mp (mapError_eq_ok.mp named)
  have resolves : s.Ensures (fun v => v = w) (Call.resolve ⟨c, options⟩)
      fun _ v => v = (s.call (Call.resolve ⟨c, options⟩) w).2 := by
    rintro _ rfl
    rfl
  refine .bind resolves (fun adapter => ?_) fun _ _ _ _ => nofun
  refine .bind (ensures_settle_unchanged name c adapter options _) (fun ⟨settled, last⟩ => ?_)
    fun _ _ _ _ => nofun
  dsimp only
  rw [Handle.make_of_nonempty names.2.1]
  refine .note (.pure ?_)
  rintro _ ⟨v, settles, -⟩ _ ⟨⟩ changed
  exact ⟨adapter, settles _ rfl changed⟩

end Surroundings

namespace Session

/-- Whether a bucket is requester-pays is found out as it should be for every reply of the service.
Billing is settled under another configuration than the given one only if the backend has replied,
without a failure, that the bucket is not requester-pays or that this is open. So it is when a
handle is opened, by the reply of the backend at the moment at which the adapter has been resolved.
-/
theorem classify_settles (factory : Factory) (w : World)
    : (∀ bucket reply, Provider.Classifies bucket reply (Provider.classify bucket reply))
      ∧ (∀ provider cache bucket c adapter options settled,
          ((World.surroundings factory provider cache).call
            (Billing.settle bucket c adapter options) w).1 = .ok settled
          → settled.1 ≠ c
          → (w.backend.reply bucket).Denies)
      ∧ ∀ bucket given options cache scheme handle,
          ((Act.openHandle factory bucket given options cache scheme).run w).1 = .ok handle
          → handle.configuration ≠ given.getD w.defaultConfiguration
          → let key := ⟨given.getD w.defaultConfiguration, options⟩
            let resolved := (World.surroundings factory (w.providerOf cache) cache).call
              (Call.resolve key) (w.prepare cache bucket)
            (resolved.2.backend.reply handle.bucket).Denies := by
  refine ⟨Provider.classify_classifies, ?_, ?_⟩
  · intro provider cache bucket c adapter options settled settles changed
    obtain ⟨answer, probed, notPays⟩ := Surroundings.ensures_settle_unchanged
      (s := World.surroundings factory provider cache) bucket c adapter options w w rfl settled
      settles changed
    exact Provider.denies_of_probe probed notPays
  · intro bucket given options cache scheme handle opened changed
    rw [run_openHandle_prepared] at opened
    obtain ⟨adapter, answer, probed, notPays⟩ := Surroundings.ensures_openBucket_unchanged
      (s := World.surroundings factory (w.providerOf cache) cache) bucket
      (given.getD w.defaultConfiguration) options scheme (w.prepare cache bucket)
      (w.prepare cache bucket) rfl handle opened changed
    exact Provider.denies_of_probe probed notPays

/-- A detail that is an object asks for a project, and a failure that is none of the service's is
passed on. A bucket of which it is left open whether it is requester-pays is opened unbilled.
-/
theorem classify_settles_open
    : let factory := World.build (hookRunner 0)
      let refused : Fault :=
        ⟨.call .badRequest, none, [.null, .object [("reason", .text "userProjectMissing")]]⟩
      let late : Fault := ⟨.timeout, some "requester pays", []⟩
      let w : World := { provider := .cloud, logging := false, backend := { missing := .ok none } }
      let opens := (Act.openHandle factory (.text "data") (some conditional) none "mine" "gs").run
      let settles := (World.surroundings factory .cloud "mine").call
        (Billing.settle "data" conditional ⟨7, .cloud, "payer", none⟩ none)
      Provider.classify "paid" (.error refused) = .ok true
      ∧ Provider.classify "late" (.error late) = .error (.fault late)
      ∧ (settles w).1 = .ok (conditional.unbilled, ⟨0, .cloud, "", none⟩)
      ∧ (w.backend.reply "data").Denies
      ∧ (opens w).1 = .ok ⟨⟨"data", conditional.unbilled, "gs"⟩, ⟨1, .cloud, "", none⟩⟩
      ∧ (((World.surroundings factory (w.providerOf "mine") "mine").call
          (Call.resolve ⟨conditional, none⟩) (w.prepare "mine" (.text "data"))).2.backend.reply
          "data").Denies := by
  intro factory refused late w opens settles
  obtain ⟨classifies, settled, opened⟩ := classify_settles factory w
  have stripped : conditional.unbilled ≠ conditional := by decide
  have settledUnbilled : (settles w).1 = .ok (conditional.unbilled, ⟨0, .cloud, "", none⟩) :=
    ok_of_toOption (by decide +kernel)
  have openedUnbilled
      : (opens w).1 = .ok ⟨⟨"data", conditional.unbilled, "gs"⟩, ⟨1, .cloud, "", none⟩⟩ :=
    ok_of_toOption (by decide +kernel)
  have refuses : refused.RefusesUnbilled :=
    ⟨rfl, .inl ⟨_, List.mem_cons_of_mem _ (List.mem_singleton.mpr rfl), by simp⟩⟩
  refine ⟨(classifies "paid" _).pays.mpr (.inr ⟨_, rfl, refuses⟩),
    (classifies "late" _).passed _ rfl rfl, settledUnbilled,
    settled _ _ _ _ _ _ _ settledUnbilled stripped, openedUnbilled, ?_⟩
  exact opened (.text "data") (some conditional) none "mine" "gs" _ openedUnbilled stripped

end Session

end CloudBuckets
