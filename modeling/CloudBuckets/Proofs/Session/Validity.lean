import CloudBuckets.Proofs.Configuration.Recipes
import CloudBuckets.Proofs.Session.Opening

/-! Only valid configurations are found in a session. Each way to make one refuses just the settings
that are not valid, and to strip a configuration of its project never makes it invalid.
-/

namespace CloudBuckets

/-- All settings of the configuration pass the checks, and its project is not missing. -/
structure Configuration.Sound (c : Configuration) : Prop where
  valid : c.settings.Valid
  project : ∃ project, c.settings .userProject = some project

theorem Configuration.sound (c : Configuration) : c.Sound :=
  ⟨c.settings_valid, c.userProject, rfl⟩

-----------------------------------------------------------------------------------------
-- Stripping
-----------------------------------------------------------------------------------------

/-- What comes of a configuration that is stripped of its project, by what the cache answers to the
key with the configuration that bills nobody.
-/
inductive Billing.Stripped (c : Configuration)
    : Option (Except Fault Adapter) → Except Error (Configuration × Adapter) → Prop
  | settled (adapter : Adapter) : Stripped c (some (.ok adapter)) (.ok (c.unbilled, adapter))
  | failed (cause : Fault)
    : Stripped c (some (.error cause)) (.error (.resolution ⟨.building, cause⟩))
  | waiting : Stripped c none (.error .deadlock)

/-- A configuration whose bucket turns out not to be requester-pays is stripped of its project, and
only the cache can fail then.
-/
theorem Surroundings.settle_stripped {σ : Type} (s : Surroundings σ) (bucket : String)
    {c : Configuration} (adapter : Adapter) (options : Option ClientOptions) {w : σ}
    {answer : Option Bool} (conditional : c.billOnlyRequesterPays = true)
    (billable : ¬ c.Unbillable) (probed : (s.probe adapter bucket w).1 = .ok answer)
    (notPays : answer ≠ some true)
    : let noted := s.note (.notBilling bucket c.userProject) (s.probe adapter bucket w).2
      Billing.Stripped c (s.access.resolve ⟨c.unbilled, options⟩ noted).1
        (s.call (Billing.settle bucket c adapter options) w).1 := by
  intro noted
  have probe : s.call (liftM (Call.probe adapter bucket)) w
      = (.ok (.ok answer), (s.probe adapter bucket w).2) := by
    rw [← probed]
    rfl
  have resolved : s.call (Billing.settle bucket c adapter options) w
      = s.call (do return (c.unbilled, ← Call.resolve ⟨c.unbilled, options⟩)) noted := by
    unfold Billing.settle
    rw [if_pos conditional, Billing.check_ok_iff.mpr billable]
    change s.call (liftM (Call.probe adapter bucket) >>= _) w = _
    rw [Surroundings.call_bind, probe]
    dsimp only
    rcases answer with _ | _ | _
    · rfl
    · rfl
    · exact absurd rfl notPays
  rw [resolved, Surroundings.call_bind, Surroundings.call_resolve]
  rcases s.access.resolve ⟨c.unbilled, options⟩ noted with ⟨_ | cause | other, v⟩
  · exact .waiting
  · exact .failed cause
  · exact .settled other

namespace Session

open CloudBuckets.Configuration

/-- The configurations that are known by the names of handles. -/
def World.known (w : World) (name : String) : Except Error Configuration :=
  (w.handle name).map (·.configuration)

/-- Only valid configurations are found in a session, and what is refused is not valid. -/
structure ValidThroughout (w : World) : Prop where
  default : w.defaultConfiguration.Sound
  handles : ∀ name handle, w.handle name = .ok handle → handle.configuration.Sound
  made : ∀ recipe c, w.make recipe = .ok (some c) → c.Sound
  /-- The settings that a recipe yields decide whether it makes a configuration. -/
  decided
    : ∀ recipe s,
        Recipe.Yields w.known recipe s
        → ((∃ c, recipe.make w.known = .ok c) ↔ s.Valid)
          ∧ (∀ c, recipe.make w.known = .ok c → c.settings = s.normal)
          ∧ ∀ error,
              recipe.make w.known = .error error
              ↔ ∃ reason, s.Fails reason ∧ .configuration reason = error
  /-- An environment yields settings if its numbers can be read. -/
  environment
    : ∀ given : List (String × String),
        let env := fun name => given.lookup name
        ¬ Variable.blockSize.Illegible env
        → ¬ Variable.maxReopens.Illegible env
        → ∃ s, Recipe.Yields w.known (.environment given) s
  /-- Configurations are made in no other way. -/
  yields
    : ∀ recipe c,
        recipe.Callable
        → recipe.make w.known = .ok c
        → ∃ s, Recipe.Yields w.known recipe s ∧ s.Valid ∧ c.settings = s.normal

/-- Only valid configurations are made, set as the default or given to handles. A recipe whose keys
are known and whose numbers can be read makes one just if its settings are valid. To clear the
project is therefore never refused, and where billing is stripped of it only the cache can fail.
-/
theorem configurations_valid (w : World)
    : ValidThroughout w
      ∧ (∀ c given,
          (given .userProject).getD "" = ""
          → withOverrides c [("user_project", given)] = .ok c.unbilled)
      ∧ ∀ {σ : Type} (s : Surroundings σ) bucket c adapter options v answer,
          c.billOnlyRequesterPays = true
          → ¬ c.Unbillable
          → (s.probe adapter bucket v).1 = .ok answer
          → answer ≠ some true
          → let noted := s.note (.notBilling bucket c.userProject) (s.probe adapter bucket v).2
            Billing.Stripped c (s.access.resolve ⟨c.unbilled, options⟩ noted).1
              (s.call (Billing.settle bucket c adapter options) v).1 := by
  refine ⟨⟨sound _, fun _ _ _ => sound _, fun _ _ _ => sound _, ?_, ?_, ?_⟩, ?_, ?_⟩
  · intro recipe s yields
    refine ⟨?_, fun c made => (yields.make_eq_ok_iff.mp made).2, fun _ => yields.make_eq_error_iff⟩
    simp only [yields.make_eq, mapError_eq_ok, exists_ofSettings_iff]
  · intro given env size reopens
    obtain ⟨s, gathered⟩ := exists_gathered size reopens
    exact ⟨s, .environment gathered⟩
  · exact fun recipe c callable made => Recipe.exists_yields_of_make callable made
  · intro c given cleared
    rw [withOverrides_project, cleared]
    rfl
  · intro _ s bucket c adapter options v answer conditional billable probed notPays
    exact s.settle_stripped bucket adapter options conditional billable probed notPays

/-- Settings from an environment are replaced by name, and then once more by a mapping, which is
refused. The project of a configuration is cleared by a missing one. Where billing is stripped of
it, no adapter can be built, and this is why it fails.
-/
theorem configurations_valid_refused
    : let w : World :=
        {
          provider := .memory,
          logging := false,
          backend := { buildFailure := some ⟨.timeout, none, []⟩ }
        }
      let given := Recipe.environment [("BUCKETFS_BLOCK_SIZE", "4_096")]
      let recipe := Recipe.overrides [("max_channel_reopens", sizedSettings 1)] given
      let refused := Recipe.mappingOver [("blockSize", sizedSettings 0)] recipe
      let adapter : Adapter := ⟨7, .memory, "payer", none⟩
      let settles := (World.surroundings (World.build (hookRunner 0)) .memory "mine").call
        (Billing.settle "data" conditional adapter none)
      (∃ c, recipe.make w.known = .ok c)
      ∧ refused.make w.known = .error (.configuration (.blockSizeNotPositive 0))
      ∧ withOverrides conditional [("user_project", sizedSettings 1)] = .ok conditional.unbilled
      ∧ Billing.Stripped conditional (some (.error ⟨.timeout, none, []⟩)) (settles w).1 := by
  intro w given recipe refused adapter settles
  obtain ⟨valid, clears, strips⟩ := configurations_valid w
  have named : Entries.Named [("max_channel_reopens", sizedSettings 1)] :=
    Entries.named_iff.mpr (by decide)
  have spelled : Entries.Spelled [("blockSize", sizedSettings 0)] :=
    Entries.spelled_iff.mpr (by decide)
  let env := fun name => [("BUCKETFS_BLOCK_SIZE", "4_096")].lookup name
  have gathered : Gathered env (gather env 4096 0) :=
    gathered_gather (.set rfl (Text.Numeral.denotes_of_read rfl)) (.unset rfl)
  have yields : Recipe.Yields w.known recipe _ :=
    .overrides named (.environment gathered) ⟨by decide, by decide, by decide⟩
  have sound : Settings.Valid (Entries.override Field.ofName? (gather env 4096 0).normal
      [("max_channel_reopens", sizedSettings 1)]) :=
    ⟨by decide, by decide, by decide⟩
  refine ⟨(valid.decided _ _ yields).1.mpr sound, ?_, clears _ _ rfl, ?_⟩
  · refine ((valid.decided _ _ (.mappingOver spelled yields sound)).2.2 _).mpr ⟨_, ?_, rfl⟩
    exact .blockSize (by decide) (by decide)
  · exact strips (World.surroundings (World.build (hookRunner 0)) .memory "mine") "data"
      conditional adapter none w (some false) rfl (fun unbilled => absurd unbilled.2 (by decide)) rfl
      (by decide)

end Session

end CloudBuckets
