import CloudBuckets.Configuration.Recipe
import CloudBuckets.Proofs.Configuration.Environment
import CloudBuckets.Proofs.Configuration.Spellings
import CloudBuckets.Proofs.Opening

/-! All ways to make a configuration lead through the same checks. A recipe yields settings, and
these alone decide whether it makes a configuration.
-/

namespace CloudBuckets

/-- Every key of the entries is the name of a setting. -/
def Entries.Named (m : Entries) : Prop :=
  ∀ entry ∈ m, ∃ field : Field, entry.1 = field.name

theorem Entries.named_iff {m : Entries} : m.Named ↔ m.unknown Field.ofName? = [] := by
  simp only [Named, unknown_eq_nil_iff, Option.isSome_iff_exists, Field.ofName?_eq_some_iff]

namespace Configuration

/-- A mapping that is accepted spells nothing but settings. -/
theorem spelled_of_ofMapping {m : Entries} {base c : Configuration}
    (made : ofMapping m base = .ok c)
    : m.Spelled := by
  unfold ofMapping at made
  split at made
  · exact Entries.spelled_iff.mpr ‹_›
  · cases made

namespace Recipe

variable {known : String → Except Error Configuration} {recipe : Recipe} {s : Settings}
  {c : Configuration}

-----------------------------------------------------------------------------------------
-- The settings that a recipe yields
-----------------------------------------------------------------------------------------

/-- A recipe yields settings: all of its keys are known and its numbers can be read. What it is made
from has to be valid, but what it yields is still to be checked.
-/
inductive Yields (known : String → Except Error Configuration) : Recipe → Settings → Prop
  | settings {entries : Entries} (named : entries.Named)
    : Yields known (.settings entries) (entries.override Field.ofName? standard.settings)
  | mapping {entries : Entries} (spelled : entries.Spelled)
    : Yields known (.mapping entries) (entries.override Field.ofSpelling? standard.settings)
  | mappingOver {entries : Entries} {base : Recipe} {s : Settings} (spelled : entries.Spelled)
    (yields : Yields known base s) (valid : s.Valid)
    : Yields known (.mappingOver entries base) (entries.override Field.ofSpelling? s.normal)
  | environment {given : List (String × String)} {s : Settings}
    (gathered : Gathered (fun name => given.lookup name) s)
    : Yields known (.environment given) s
  | overrides {entries : Entries} {base : Recipe} {s : Settings} (named : entries.Named)
    (yields : Yields known base s) (valid : s.Valid)
    : Yields known (.overrides entries base) (entries.override Field.ofName? s.normal)
  | ofHandle {name : String} {c : Configuration} (found : known name = .ok c)
    : Yields known (.ofHandle name) c.settings

/-- Valid settings make a configuration that has them. -/
theorem exists_ofSettings_of_valid (valid : s.Valid)
    : ∃ c, ofSettings s = .ok c ∧ c.settings = s.normal := by
  obtain ⟨c, made⟩ := exists_ofSettings_iff.mpr valid
  exact ⟨c, made, (ofSettings_eq_ok_iff.mp made).2⟩

/-- The settings that a recipe yields decide what comes of it, by induction on the recipe. -/
theorem Yields.make_eq (yields : Yields known recipe s)
    : recipe.make known = (ofSettings s).mapError Error.configuration := by
  induction yields with
  | settings => rfl
  | mapping spelled => rw [make, ofMapping_of_spelled spelled]
  | mappingOver spelled _ valid ih =>
      -- The base is made of its settings, so the mapping is read over these.
      obtain ⟨base, made, settings⟩ := exists_ofSettings_of_valid valid
      rw [made] at ih
      rw [make, ih, ← settings, ← ofMapping_of_spelled spelled]
      rfl
  | environment gathered => rw [make, gathered.ofEnvironment_eq]
  | overrides named _ valid ih =>
      obtain ⟨base, made, settings⟩ := exists_ofSettings_of_valid valid
      rw [made] at ih
      rw [make, ih, ← settings, ← withOverrides_of_known base (Entries.named_iff.mp named)]
      rfl
  | ofHandle found =>
      rw [make, found, ofSettings_settings]
      rfl

/-- A recipe makes a configuration just if the settings that it yields are valid. It has them. -/
theorem Yields.make_eq_ok_iff (yields : Yields known recipe s)
    : recipe.make known = .ok c ↔ s.Valid ∧ c.settings = s.normal := by
  rw [yields.make_eq, mapError_eq_ok, ofSettings_eq_ok_iff]

/-- A recipe is refused just if the settings that it yields fail a check, for the first one. -/
theorem Yields.make_eq_error_iff (yields : Yields known recipe s) {error : Error}
    : recipe.make known = .error error
      ↔ ∃ reason, s.Fails reason ∧ .configuration reason = error := by
  simp only [yields.make_eq, mapError_eq_error, ofSettings_eq_error_iff]

/-- The constructor is called with names of settings only, wherever a recipe calls it. -/
def Callable : Recipe → Prop
  | .settings entries => entries.Named
  | .mappingOver _ base | .overrides _ base => base.Callable
  | .mapping _ | .environment _ | .ofHandle _ => True

/-- A recipe that goes through another one first makes a configuration of what that one makes. -/
theorem ok_of_bind {base : Except Error Configuration}
    {next : Configuration → Except Error Configuration} (made : base >>= next = .ok c)
    : ∃ b, base = .ok b ∧ next b = .ok c := by
  cases base with
  | error error => cases made
  | ok b => exact ⟨b, rfl, made⟩

/-- What is made by a recipe is made of settings that it yields, by induction on the recipe. -/
theorem exists_yields_of_make (callable : recipe.Callable) (made : recipe.make known = .ok c)
    : ∃ s, Yields known recipe s ∧ s.Valid ∧ c.settings = s.normal := by
  suffices yields : ∃ s, Yields known recipe s by
    obtain ⟨s, yields⟩ := yields
    exact ⟨s, yields, yields.make_eq_ok_iff.mp made⟩
  induction recipe generalizing c with
  | settings entries => exact ⟨_, .settings callable⟩
  | mapping entries => exact ⟨_, .mapping (spelled_of_ofMapping (mapError_eq_ok.mp made))⟩
  | environment given =>
      obtain ⟨s, gathered⟩ := exists_gathered_of_ok (mapError_eq_ok.mp made)
      exact ⟨s, .environment gathered⟩
  | ofHandle name => exact ⟨_, .ofHandle made⟩
  | mappingOver entries base ih =>
      obtain ⟨b, first, second⟩ := ok_of_bind made
      obtain ⟨s, yields⟩ := ih callable first
      have spelled := spelled_of_ofMapping (mapError_eq_ok.mp second)
      exact ⟨_, .mappingOver spelled yields (yields.make_eq_ok_iff.mp first).1⟩
  | overrides entries base ih =>
      obtain ⟨b, first, second⟩ := ok_of_bind made
      obtain ⟨s, yields⟩ := ih callable first
      have named := Entries.named_iff.mpr (known_of_withOverrides (mapError_eq_ok.mp second))
      exact ⟨_, .overrides named yields (yields.make_eq_ok_iff.mp first).1⟩

end Recipe

end Configuration

end CloudBuckets
