import CloudBuckets.Configuration.Basic

/-! Overrides compose. To replace settings of a configuration and then others is to replace all of
them at once, where the later ones count, and it is refused in the same way.
-/

namespace CloudBuckets

/-- Only its own name stands for a setting. -/
theorem Field.ofName?_eq_some_iff {key : String} {field : Field}
    : ofName? key = some field ↔ key = field.name := by
  constructor
  · intro found
    have named := List.find?_some found
    exact (beq_iff_eq.mp named).symm
  · rintro rfl
    cases field <;> rfl

namespace Entries

variable {spells : String → Option Field} {a b : Entries} {field : Field}

-----------------------------------------------------------------------------------------
-- The values that entries give
-----------------------------------------------------------------------------------------

/-- Of two lists of entries, the later one counts. -/
theorem last?_append (spells : String → Option Field) (a b : Entries) (field : Field)
    : (a ++ b).last? spells field = (b.last? spells field).or (a.last? spells field) := by
  simp only [last?, List.reverse_append, List.find?_append, Option.map_or]

/-- There is no value for a setting just if no key stands for it. -/
theorem last?_eq_none_iff
    : a.last? spells field = none ↔ ∀ entry ∈ a, spells entry.1 ≠ some field := by
  simp [last?]

/-- The value for a setting is that of an entry whose key stands for it. -/
theorem exists_of_last?_eq_some {value : field.Value} (found : a.last? spells field = some value)
    : ∃ entry ∈ a, spells entry.1 = some field ∧ entry.2 field = value := by
  obtain ⟨entry, last, rfl⟩ := Option.map_eq_some_iff.mp found
  have member := List.mem_reverse.mp (List.mem_of_find?_eq_some last)
  exact ⟨entry, member, by simpa using List.find?_some last, rfl⟩

theorem unknown_append (spells : String → Option Field) (a b : Entries)
    : (a ++ b).unknown spells = a.unknown spells ++ b.unknown spells := by
  simp only [unknown, List.map_append, List.filter_append]

theorem unknown_eq_nil_iff : a.unknown spells = [] ↔ ∀ entry ∈ a, (spells entry.1).isSome := by
  simp [unknown, List.filter_eq_nil_iff, Option.isSome_iff_ne_none]

-----------------------------------------------------------------------------------------
-- Updates
-----------------------------------------------------------------------------------------

/-- The keys of entries, in order. -/
def keys (entries : Entries) : List String :=
  entries.map (·.1)

/-- The map `a` updated with the map `b`: a key that both have is given as by `b`. -/
def update (a b : Entries) : Entries :=
  a.filter (fun entry => entry.1 ∉ b.keys) ++ b

/-- A setting has the value that the later map gives, or else that of the earlier one. -/
theorem last?_update (a b : Entries) (field : Field)
    : (a.update b).last? Field.ofName? field
      = (b.last? Field.ofName? field).or (a.last? Field.ofName? field) := by
  rw [update, last?_append]
  cases given : b.last? Field.ofName? field with
  | some value => rfl
  | none =>
      -- No key of `b` names the setting, so no entry for it has been filtered out.
      have kept : field.name ∉ b.keys := by
        intro named
        obtain ⟨entry, member, same⟩ := List.mem_map.mp named
        exact last?_eq_none_iff.mp given entry member (Field.ofName?_eq_some_iff.mpr same)
      have passes : ∀ entry : String × Settings,
          decide (decide (entry.1 ∉ b.keys) = true ∧ (Field.ofName? entry.1 == some field) = true)
          = (Field.ofName? entry.1 == some field) := by
        intro entry
        by_cases named : Field.ofName? entry.1 = some field
        · have inside : entry.1 ∉ b.keys := Field.ofName?_eq_some_iff.mp named ▸ kept
          simp [inside, named]
        · simp [named]
      simp only [Option.none_or, last?, ← List.filter_reverse, List.find?_filter, passes]

/-- What the earlier map does not know is replaced or stays unknown. -/
theorem unknown_update (known : a.unknown Field.ofName? = []) (b : Entries)
    : (a.update b).unknown Field.ofName? = b.unknown Field.ofName? := by
  have rest : Entries.unknown Field.ofName? (a.filter fun entry => entry.1 ∉ b.keys) = [] :=
    unknown_eq_nil_iff.mpr fun entry member =>
      unknown_eq_nil_iff.mp known entry (List.mem_filter.mp member).1
  rw [update, unknown_append, rest, List.nil_append]

/-- To override settings twice is to override them once, by the updated map. -/
theorem override_update (s : Settings) (a b : Entries)
    : (a.update b).override Field.ofName? s
      = b.override Field.ofName? (a.override Field.ofName? s) := by
  funext field
  simp only [override, last?_update, Option.getD_or]

/-- Settings that are overridden by their own values stay as they are. -/
theorem override_self {s : Settings} (own : ∀ entry ∈ a, entry.2 = s)
    : a.override spells s = s := by
  funext field
  cases given : a.last? spells field with
  | none => simp [override, given]
  | some value =>
      obtain ⟨entry, member, -, rfl⟩ := exists_of_last?_eq_some given
      simp [override, given, own entry member]

/-- Maps without a common key may be taken in either order. -/
theorem override_update_comm (s : Settings) (apart : ∀ key ∈ a.keys, key ∉ b.keys)
    : (a.update b).override Field.ofName? s = (b.update a).override Field.ofName? s := by
  funext field
  simp only [override, last?_update]
  cases first : a.last? Field.ofName? field with
  | none => simp
  | some value =>
      cases second : b.last? Field.ofName? field with
      | none => simp
      | some other =>
          obtain ⟨entry, inA, names, -⟩ := exists_of_last?_eq_some first
          obtain ⟨entry', inB, names', -⟩ := exists_of_last?_eq_some second
          have same : entry.1 = entry'.1 :=
            (Field.ofName?_eq_some_iff.mp names).trans (Field.ofName?_eq_some_iff.mp names').symm
          have inBoth : entry.1 ∈ b.keys := same ▸ List.mem_map_of_mem inB
          exact absurd inBoth (apart entry.1 (List.mem_map_of_mem inA))

end Entries

-----------------------------------------------------------------------------------------
-- Settings as configurations keep them
-----------------------------------------------------------------------------------------

/-- The settings as a configuration keeps them: a missing project is the empty one. -/
def Settings.normal (s : Settings) : Settings
  | .userProject => some ((s .userProject).getD "")
  | .workingDirectory => s .workingDirectory
  | .permitEmptyComponents => s .permitEmptyComponents
  | .stripLeadingSlash => s .stripLeadingSlash
  | .usePseudoDirectories => s .usePseudoDirectories
  | .blockSize => s .blockSize
  | .maxReopens => s .maxReopens
  | .billOnlyRequesterPays => s .billOnlyRequesterPays
  | .retryableCodes => s .retryableCodes

/-- It makes no difference whether settings are normal when they are overridden. -/
theorem Settings.normal_override (spells : String → Option Field) (s : Settings) (b : Entries)
    : (b.override spells s.normal).normal = (b.override spells s).normal := by
  funext field
  cases field with
  | userProject =>
      simp only [normal, Entries.override]
      cases b.last? spells .userProject <;> rfl
  | _ => rfl

namespace Configuration

theorem ofSettings_normal (s : Settings) : ofSettings s.normal = ofSettings s :=
  rfl

/-- A configuration passes its own checks. -/
theorem ofSettings_settings (c : Configuration) : ofSettings c.settings = .ok c := by
  have absolute : (c.settings .workingDirectory : String).toList.head? = some '/' := c.absolute
  have blockSize_pos : 0 < (c.settings .blockSize : Int) := c.blockSize_pos
  have maxReopens_nonneg : 0 ≤ (c.settings .maxReopens : Int) := c.maxReopens_nonneg
  unfold ofSettings
  rw [dif_pos absolute, dif_pos blockSize_pos, dif_pos maxReopens_nonneg]
  rfl

/-- A configuration has the settings that it has been made of. -/
theorem settings_of_ofSettings {s : Settings} {c : Configuration} (made : ofSettings s = .ok c)
    : c.settings = s.normal := by
  unfold ofSettings at made
  split at made
  · split at made
    · split at made
      · cases made
        funext field
        cases field <;> rfl
      · cases made
    · cases made
  · cases made

-----------------------------------------------------------------------------------------
-- Overrides
-----------------------------------------------------------------------------------------

theorem withOverrides_of_known (c : Configuration) {a : Entries}
    (known : a.unknown Field.ofName? = [])
    : c.withOverrides a = ofSettings (a.override Field.ofName? c.settings) := by
  simp only [withOverrides, known]

/-- Overrides that are accepted name nothing but settings. -/
theorem known_of_withOverrides {c changed : Configuration} {a : Entries}
    (valid : c.withOverrides a = .ok changed)
    : a.unknown Field.ofName? = [] := by
  unfold withOverrides at valid
  split at valid
  · assumption
  · cases valid

/-- To override by one map and then by another is to override by the updated map. -/
theorem withOverrides_update {c changed : Configuration} {a : Entries}
    (valid : c.withOverrides a = .ok changed) (b : Entries)
    : changed.withOverrides b = c.withOverrides (a.update b) := by
  have known := known_of_withOverrides valid
  rw [withOverrides_of_known c known] at valid
  have settings := settings_of_ofSettings valid
  have made : ofSettings (b.override Field.ofName? changed.settings)
      = ofSettings ((a.update b).override Field.ofName? c.settings) := by
    rw [settings, Entries.override_update, ← ofSettings_normal, Settings.normal_override,
      ofSettings_normal]
  simp only [withOverrides, Entries.unknown_update known, made]

/-- The project to bill can always be replaced, and where there is none it is the empty one. -/
theorem withOverrides_project (c : Configuration) (given : Settings)
    : c.withOverrides [("user_project", given)]
      = .ok { c with userProject := (given .userProject).getD "" } := by
  have spelled : Field.ofName? "user_project" = some .userProject := by decide
  have known : Entries.unknown Field.ofName? [("user_project", given)] = [] := by
    simp [Entries.unknown, spelled]
  have settings : (Entries.override Field.ofName? c.settings [("user_project", given)]).normal
      = { c with userProject := (given .userProject).getD "" }.settings := by
    funext field
    by_cases billed : field = .userProject
    · subst billed
      simp [Settings.normal, Entries.override, Entries.last?, spelled, Configuration.settings]
    · cases field <;> first
        | exact absurd rfl billed
        | simp [Settings.normal, Entries.override, Entries.last?, spelled, Configuration.settings]
  rw [withOverrides_of_known c known, ← ofSettings_normal, settings]
  exact ofSettings_settings _

/-- The own values of a configuration, under the keys that have been overridden, restore it. -/
theorem withOverrides_restores {c changed : Configuration} {a : Entries}
    (valid : c.withOverrides a = .ok changed)
    : changed.withOverrides (a.map fun entry => (entry.1, c.settings)) = .ok c := by
  have known := known_of_withOverrides valid
  have sameKeys
      : Entries.unknown Field.ofName? (a.map fun entry => (entry.1, c.settings)) = [] := by
    rw [← known, Entries.unknown, List.map_map]
    rfl
  have stays : (a.update (a.map fun entry => (entry.1, c.settings))).override Field.ofName?
      c.settings = c.settings := by
    refine Entries.override_self fun entry member => ?_
    rcases List.mem_append.mp member with old | new
    · obtain ⟨inside, gone⟩ := List.mem_filter.mp old
      have replaced : entry.1 ∈ Entries.keys (a.map fun entry => (entry.1, c.settings)) := by
        rw [Entries.keys, List.map_map]
        exact List.mem_map_of_mem inside
      exact absurd replaced (of_decide_eq_true gone)
    · obtain ⟨_, -, rfl⟩ := List.mem_map.mp new
      rfl
  rw [withOverrides_update valid,
    withOverrides_of_known c ((Entries.unknown_update known _).trans sameKeys), stays]
  exact ofSettings_settings c

/-- Maps without a common key may be taken in either order, if each is accepted alone. -/
theorem withOverrides_comm {c changed other : Configuration} {a b : Entries}
    (valid : c.withOverrides a = .ok changed) (validOther : c.withOverrides b = .ok other)
    (apart : ∀ key ∈ a.keys, key ∉ b.keys)
    : changed.withOverrides b = other.withOverrides a := by
  have known := known_of_withOverrides valid
  have knownOther := known_of_withOverrides validOther
  rw [withOverrides_update valid, withOverrides_update validOther,
    withOverrides_of_known c ((Entries.unknown_update known b).trans knownOther),
    withOverrides_of_known c ((Entries.unknown_update knownOther a).trans known),
    Entries.override_update_comm _ apart]

/-- Overrides compose: by one map and then by another comes to the same as by the updated map, be it
a configuration or a refusal. So no overrides change nothing, the own values of a configuration
restore it, and maps without a common key may be taken in either order.
-/
theorem withOverrides_composes (c : Configuration)
    : c.withOverrides [] = .ok c
      ∧ ∀ a changed,
          c.withOverrides a = .ok changed
          → (∀ b, changed.withOverrides b = c.withOverrides (a.update b))
            ∧ changed.withOverrides (a.map fun entry => (entry.1, c.settings)) = .ok c
            ∧ ∀ b other,
                c.withOverrides b = .ok other
                → (∀ key ∈ a.keys, key ∉ b.keys)
                → changed.withOverrides b = other.withOverrides a := by
  refine ⟨ofSettings_settings c, fun a changed valid => ⟨?_, ?_, ?_⟩⟩
  · exact withOverrides_update valid
  · exact withOverrides_restores valid
  · exact fun b other validOther apart => withOverrides_comm valid validOther apart

/-- The built-in settings without a project, with blocks of a size and three reopens. -/
def sizedSettings (size : Int) : Settings
  | .userProject => none
  | .blockSize => size
  | .maxReopens => (3 : Int)
  | field => standard.settings field

/-- The project and the size of blocks are replaced, and then the number of reopens, in either
order. A size that is refused is refused also where it comes on top of one that is not.
-/
theorem withOverrides_composes_refused
    : let changes := [("user_project", sizedSettings 512), ("block_size", sizedSettings 512)]
      let reopens := [("max_channel_reopens", sizedSettings 0)]
      let empty := [("block_size", sizedSettings 0)]
      ∃ changed other,
        standard.withOverrides changes = .ok changed
        ∧ standard.withOverrides reopens = .ok other
        ∧ changed.withOverrides reopens = other.withOverrides changes
        ∧ changed.withOverrides empty = standard.withOverrides (Entries.update changes empty)
        ∧ changed.withOverrides empty = .error (.blockSizeNotPositive 0)
        ∧ changed.withOverrides (changes.map fun entry => (entry.1, standard.settings))
          = .ok standard := by
  have valid : standard.withOverrides
      [("user_project", sizedSettings 512), ("block_size", sizedSettings 512)]
      = .ok { standard with blockSize := 512, blockSize_pos := by decide } := rfl
  have validOther : standard.withOverrides [("max_channel_reopens", sizedSettings 0)]
      = .ok { standard with maxReopens := 3, maxReopens_nonneg := by decide } := rfl
  obtain ⟨-, composes⟩ := withOverrides_composes standard
  obtain ⟨updates, restores, commutes⟩ := composes _ _ valid
  refine ⟨_, _, valid, validOther, commutes _ _ validOther ?_, updates _, rfl, restores⟩
  decide

end Configuration

end CloudBuckets
