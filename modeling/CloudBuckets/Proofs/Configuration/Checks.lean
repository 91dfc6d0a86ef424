import CloudBuckets.Proofs.Configuration.Overrides

/-! What settings have to be like to make a configuration, and which check refuses them first where
they are not.
-/

namespace CloudBuckets

namespace Settings

/-- The settings pass all checks. -/
structure Valid (s : Settings) : Prop where
  absolute : (s .workingDirectory : String).toList.head? = some '/'
  blockSize_pos : 0 < (s .blockSize : Int)
  maxReopens_nonneg : 0 ≤ (s .maxReopens : Int)

/-- The first check that the settings fail, with what it has been given. -/
inductive Fails (s : Settings) : ConfigurationError → Prop
  | workingDirectory (relative : (s .workingDirectory : String).toList.head? ≠ some '/')
    : Fails s (.relativeWorkingDirectory (s .workingDirectory))
  | blockSize (absolute : (s .workingDirectory : String).toList.head? = some '/')
    (nothing : (s .blockSize : Int) ≤ 0)
    : Fails s (.blockSizeNotPositive (s .blockSize))
  | maxReopens (absolute : (s .workingDirectory : String).toList.head? = some '/')
    (blockSize_pos : 0 < (s .blockSize : Int)) (negative : (s .maxReopens : Int) < 0)
    : Fails s (.negativeReopens (s .maxReopens))

/-- To put the empty project in place of a missing one makes no difference to the checks. -/
theorem valid_normal_iff {s : Settings} : s.normal.Valid ↔ s.Valid :=
  ⟨fun valid => ⟨valid.absolute, valid.blockSize_pos, valid.maxReopens_nonneg⟩,
    fun valid => ⟨valid.absolute, valid.blockSize_pos, valid.maxReopens_nonneg⟩⟩

end Settings

namespace Configuration

/-- The settings of a configuration are valid, and none of them is missing. -/
theorem settings_valid (c : Configuration) : c.settings.Valid :=
  ⟨c.absolute, c.blockSize_pos, c.maxReopens_nonneg⟩

/-- Settings make a configuration just if they are valid. It has them, a missing project being the
empty one.
-/
theorem ofSettings_eq_ok_iff {s : Settings} {c : Configuration}
    : ofSettings s = .ok c ↔ s.Valid ∧ c.settings = s.normal := by
  constructor
  · intro made
    have settings := settings_of_ofSettings made
    exact ⟨Settings.valid_normal_iff.mp (settings ▸ c.settings_valid), settings⟩
  · rintro ⟨-, settings⟩
    rw [← ofSettings_normal, ← settings, ofSettings_settings]

/-- Valid settings make a configuration. -/
theorem exists_ofSettings_iff {s : Settings} : (∃ c, ofSettings s = .ok c) ↔ s.Valid := by
  constructor
  · rintro ⟨c, made⟩
    exact (ofSettings_eq_ok_iff.mp made).1
  · intro valid
    unfold ofSettings
    rw [dif_pos valid.absolute, dif_pos valid.blockSize_pos, dif_pos valid.maxReopens_nonneg]
    exact ⟨_, rfl⟩

/-- Settings are refused just if they fail a check, for the first one that they fail. -/
theorem ofSettings_eq_error_iff {s : Settings} {error : ConfigurationError}
    : ofSettings s = .error error ↔ s.Fails error := by
  constructor
  · intro refused
    unfold ofSettings at refused
    split at refused
    · rename_i absolute
      split at refused
      · rename_i blockSize_pos
        split at refused
        · cases refused
        · rename_i negative
          cases refused
          exact .maxReopens absolute blockSize_pos (Int.not_le.mp negative)
      · rename_i nothing
        cases refused
        exact .blockSize absolute (Int.not_lt.mp nothing)
    · rename_i relative
      cases refused
      exact .workingDirectory relative
  · intro fails
    unfold ofSettings
    cases fails with
    | workingDirectory relative => rw [dif_neg relative]
    | blockSize absolute nothing => rw [dif_pos absolute, dif_neg (Int.not_lt.mpr nothing)]
    | maxReopens absolute blockSize_pos negative =>
        rw [dif_pos absolute, dif_pos blockSize_pos, dif_neg (Int.not_le.mpr negative)]

end Configuration

end CloudBuckets
