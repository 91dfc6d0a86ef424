import CloudBuckets.Configuration.Mapping
import CloudBuckets.Proofs.Configuration.Overrides
import Mathlib.Data.List.Nodup
import Mathlib.Logic.Relation

/-! Mappings are read by what their keys spell. Neither the spelling of a key nor the order of keys
for different settings counts, and a mapping that gives all settings of a configuration gives the
configuration, whatever it is based on.
-/

namespace CloudBuckets

namespace Field

/-- A key spells a setting by its name or in the second spelling. -/
def SpelledBy (field : Field) (key : String) : Prop :=
  key = field.name ∨ key = field.camelName

theorem ofSpelling?_eq_some_iff {key : String} {field : Field}
    : ofSpelling? key = some field ↔ field.SpelledBy key := by
  constructor
  · intro found
    have spelled := List.find?_some found
    rcases (Bool.or_eq_true _ _).mp spelled with same | same
    · exact .inl (beq_iff_eq.mp same).symm
    · exact .inr (beq_iff_eq.mp same).symm
  · rintro (rfl | rfl) <;> cases field <;> rfl

theorem ofSpelling?_isSome_iff {key : String}
    : (ofSpelling? key).isSome ↔ ∃ field : Field, field.SpelledBy key := by
  simp only [Option.isSome_iff_exists, ofSpelling?_eq_some_iff]

/-- No key spells two settings. -/
theorem SpelledBy.unique {key : String} {field other : Field} (spelled : field.SpelledBy key)
    (same : other.SpelledBy key)
    : field = other := by
  rw [← ofSpelling?_eq_some_iff] at spelled same
  exact Option.some.inj (spelled.symm.trans same)

/-- Every setting is listed. -/
theorem mem_all (field : Field) : field ∈ all := by
  cases field <;> decide

theorem name_injective {field other : Field} (same : field.name = other.name) : field = other := by
  have named := ofName?_eq_some_iff.mpr same
  rw [ofName?_eq_some_iff.mpr rfl] at named
  exact Option.some.inj named

end Field

namespace Entries

variable {spells : String → Option Field} {m : Entries} {field : Field}

-----------------------------------------------------------------------------------------
-- What a mapping spells
-----------------------------------------------------------------------------------------

/-- Every key of the mapping spells a setting. -/
def Spelled (m : Entries) : Prop :=
  ∀ entry ∈ m, ∃ field : Field, field.SpelledBy entry.1

/-- The first key of the mapping that spells no setting. -/
def FirstUnknown (m : Entries) (key : String) : Prop :=
  ∃ before value after,
    m = before ++ (key, value) :: after
    ∧ Spelled before
    ∧ ¬ ∃ field : Field, field.SpelledBy key

/-- What the last key that spells a setting gives for it. -/
def Gives (m : Entries) (field : Field) (given : Settings) : Prop :=
  ∃ before key after,
    m = before ++ (key, given) :: after
    ∧ field.SpelledBy key
    ∧ ∀ entry ∈ after, ¬ field.SpelledBy entry.1

/-- What the last key that spells a setting gives for it, if there is one. -/
def given? (m : Entries) (field : Field) : Option Settings :=
  (m.reverse.find? fun entry => Field.ofSpelling? entry.1 == some field).map (·.2)

/-- The map from the names of settings to what the last keys that spell them give. -/
def byName (m : Entries) : Entries :=
  Field.all.filterMap fun field => (m.given? field).map fun given => (field.name, given)

theorem spelled_iff : m.Spelled ↔ m.unknown Field.ofSpelling? = [] := by
  simp only [Spelled, unknown_eq_nil_iff, Field.ofSpelling?_isSome_iff]

/-- A mapping with a key that spells no setting has a first one, by induction on the mapping. -/
theorem exists_firstUnknown (unknown : ¬ m.Spelled) : ∃ key, m.FirstUnknown key := by
  induction m with
  | nil => exact absurd (fun _ member => absurd member List.not_mem_nil) unknown
  | cons entry rest ih =>
      by_cases known : ∃ field : Field, field.SpelledBy entry.1
      · have later : ¬ Spelled rest := fun spelled =>
          unknown (List.forall_mem_cons.mpr ⟨known, spelled⟩)
        obtain ⟨key, before, value, after, rfl, spelled, unspelled⟩ := ih later
        exact ⟨key, entry :: before, value, after, rfl,
          List.forall_mem_cons.mpr ⟨known, spelled⟩, unspelled⟩
      · exact ⟨entry.1, [], entry.2, rest, rfl, fun _ member => absurd member List.not_mem_nil,
          known⟩

/-- The first key that spells no setting heads the list of those. -/
theorem FirstUnknown.unknown_eq {key : String} (first : m.FirstUnknown key)
    : ∃ rest, m.unknown Field.ofSpelling? = key :: rest := by
  obtain ⟨before, value, after, rfl, spelled, unspelled⟩ := first
  have here : Entries.unknown Field.ofSpelling? [(key, value)] = [key] := by
    simpa [unknown, ← Option.not_isSome_iff_eq_none, Field.ofSpelling?_isSome_iff] using unspelled
  refine ⟨Entries.unknown Field.ofSpelling? after, ?_⟩
  rw [← List.singleton_append, unknown_append, unknown_append, spelled_iff.mp spelled, here]
  rfl

theorem given?_eq_some_iff {given : Settings}
    : m.given? field = some given ↔ m.Gives field given := by
  simp only [given?, Option.map_eq_some_iff, List.find?_eq_some_iff_append, beq_iff_eq,
    Field.ofSpelling?_eq_some_iff]
  constructor
  · rintro ⟨entry, ⟨spelled, after, before, split, rest⟩, rfl⟩
    refine ⟨before.reverse, entry.1, after.reverse, ?_, spelled, fun other member => ?_⟩
    · simpa using congrArg List.reverse split
    · simpa [← Field.ofSpelling?_eq_some_iff] using rest other (List.mem_reverse.mp member)
  · rintro ⟨before, key, after, rfl, spelled, rest⟩
    refine ⟨(key, given), ⟨spelled, after.reverse, before.reverse, by simp, ?_⟩, rfl⟩
    intro other member
    simpa [← Field.ofSpelling?_eq_some_iff] using rest other (List.mem_reverse.mp member)

theorem last?_eq_given? (m : Entries) (field : Field)
    : m.last? Field.ofSpelling? field = (m.given? field).map fun given => given field := by
  simp only [last?, given?, Option.map_map]
  rfl

/-- The map by names has what the last keys give, under the names and nothing else. -/
theorem mem_byName {key : String} {given : Settings}
    : (key, given) ∈ m.byName ↔ ∃ field : Field, key = field.name ∧ m.Gives field given := by
  simp only [byName, List.mem_filterMap, Option.map_eq_some_iff, Prod.mk.injEq,
    given?_eq_some_iff]
  constructor
  · rintro ⟨field, -, _, gives, rfl, rfl⟩
    exact ⟨field, rfl, gives⟩
  · rintro ⟨field, rfl, gives⟩
    exact ⟨field, field.mem_all, given, gives, rfl, rfl⟩

/-- The map by names has each setting once. -/
theorem byName_keys_nodup (m : Entries) : m.byName.keys.Nodup := by
  rw [keys, byName, List.map_filterMap]
  refine List.Nodup.filterMap ?_ (by decide : Field.all.Nodup)
  intro field other key named namedOther
  simp only [Option.map_map, Option.mem_def, Option.map_eq_some_iff] at named namedOther
  obtain ⟨_, -, rfl⟩ := named
  obtain ⟨_, -, same⟩ := namedOther
  exact Field.name_injective same.symm

/-- The map by names gives what the mapping gives. -/
theorem last?_byName (m : Entries) (field : Field)
    : m.byName.last? Field.ofName? field = m.last? Field.ofSpelling? field := by
  rw [last?_eq_given?]
  cases found : m.byName.last? Field.ofName? field with
  | none =>
      cases gives : m.given? field with
      | none => rfl
      | some given =>
          have member := mem_byName.mpr ⟨field, rfl, given?_eq_some_iff.mp gives⟩
          exact absurd (Field.ofName?_eq_some_iff.mpr rfl) (last?_eq_none_iff.mp found _ member)
  | some value =>
      obtain ⟨⟨key, given⟩, member, named, rfl⟩ := exists_of_last?_eq_some found
      obtain ⟨other, rfl, gives⟩ := mem_byName.mp member
      obtain rfl : other = field := Field.name_injective (Field.ofName?_eq_some_iff.mp named)
      rw [given?_eq_some_iff.mpr gives]
      rfl

theorem unknown_byName (m : Entries) : m.byName.unknown Field.ofName? = [] := by
  refine unknown_eq_nil_iff.mpr fun ⟨key, given⟩ member => ?_
  obtain ⟨field, rfl, -⟩ := mem_byName.mp member
  exact Option.isSome_iff_exists.mpr ⟨field, Field.ofName?_eq_some_iff.mpr rfl⟩

-----------------------------------------------------------------------------------------
-- Mappings that spell the same
-----------------------------------------------------------------------------------------

/-- A change of a mapping that keeps what it spells. A key is spelled in another way, or two
neighbours that spell different settings change places.
-/
inductive Respells : Entries → Entries → Prop
  | key {before after : Entries} {key other : String} {given : Settings} {field : Field}
    (spelled : field.SpelledBy key) (same : field.SpelledBy other)
    : Respells (before ++ (key, given) :: after) (before ++ (other, given) :: after)
  | swap {before after : Entries} {first second : String × Settings} {field other : Field}
    (spelled : field.SpelledBy first.1) (spelledOther : other.SpelledBy second.1)
    (apart : field ≠ other)
    : Respells (before ++ first :: second :: after) (before ++ second :: first :: after)

/-- The mapping gives all settings of a configuration, and nothing else. -/
structure Describes (m : Entries) (c : Configuration) : Prop where
  own : ∀ entry ∈ m, ∃ field : Field, field.SpelledBy entry.1 ∧ entry.2 field = c.settings field
  all : ∀ field : Field, ∃ entry ∈ m, field.SpelledBy entry.1

theorem last?_cons (spells : String → Option Field) (entry : String × Settings) (rest : Entries)
    (field : Field)
    : Entries.last? spells (entry :: rest) field
      = (rest.last? spells field).or
          (if spells entry.1 = some field then some (entry.2 field) else none) := by
  have alone : Entries.last? spells [entry] field
      = if spells entry.1 = some field then some (entry.2 field) else none := by
    by_cases spelled : spells entry.1 = some field <;> simp [last?, spelled]
  rw [← List.singleton_append, last?_append, alone]

theorem unknown_cons_of_spelled {entry : String × Settings} (spelled : field.SpelledBy entry.1)
    (rest : Entries)
    : Entries.unknown Field.ofSpelling? (entry :: rest) = rest.unknown Field.ofSpelling? := by
  simp [unknown, Field.ofSpelling?_eq_some_iff.mpr spelled]

/-- What is given for a setting stays the same. Where neighbours change places, at most one of the
two gives anything for it.
-/
theorem Respells.last?_eq {m' : Entries} (respells : Respells m m') (field : Field)
    : m.last? Field.ofSpelling? field = m'.last? Field.ofSpelling? field := by
  cases respells with
  | key spelled same =>
      rw [← Field.ofSpelling?_eq_some_iff] at spelled same
      simp only [last?_append, last?_cons, spelled, same]
  | @swap before after first second one other spelled spelledOther apart =>
      rw [← Field.ofSpelling?_eq_some_iff] at spelled spelledOther
      simp only [last?_append, last?_cons, spelled, spelledOther, Option.some.injEq]
      by_cases here : one = field
      · have elsewhere : other ≠ field := fun same => apart (here.trans same.symm)
        simp only [if_neg elsewhere, Option.or_none]
      · simp only [if_neg here, Option.or_none]

theorem Respells.unknown_eq {m' : Entries} (respells : Respells m m')
    : m.unknown Field.ofSpelling? = m'.unknown Field.ofSpelling? := by
  cases respells with
  | key spelled same =>
      rw [unknown_append, unknown_append, unknown_cons_of_spelled spelled,
        unknown_cons_of_spelled same]
  | swap spelled spelledOther =>
      rw [unknown_append, unknown_append, unknown_cons_of_spelled spelled,
        unknown_cons_of_spelled spelledOther, unknown_cons_of_spelled spelledOther,
        unknown_cons_of_spelled spelled]

/-- Where all settings of a configuration are given, nothing else counts. -/
theorem Describes.override {c : Configuration} (describes : m.Describes c) (s : Settings)
    : m.override Field.ofSpelling? s = c.settings := by
  funext field
  cases given : m.last? Field.ofSpelling? field with
  | none =>
      obtain ⟨entry, member, spelled⟩ := describes.all field
      exact absurd (Field.ofSpelling?_eq_some_iff.mpr spelled) (last?_eq_none_iff.mp given _ member)
  | some value =>
      obtain ⟨entry, member, spelled, rfl⟩ := exists_of_last?_eq_some given
      obtain ⟨other, spelledOther, own⟩ := describes.own entry member
      obtain rfl := spelledOther.unique (Field.ofSpelling?_eq_some_iff.mp spelled)
      simp only [Entries.override, given, Option.getD_some, own]

theorem Describes.spelled {c : Configuration} (describes : m.Describes c) : m.Spelled := by
  intro entry member
  obtain ⟨field, spelled, -⟩ := describes.own entry member
  exact ⟨field, spelled⟩

end Entries

-----------------------------------------------------------------------------------------
-- What comes of a mapping
-----------------------------------------------------------------------------------------

namespace Configuration

theorem ofMapping_of_spelled {m : Entries} (spelled : m.Spelled) (base : Configuration)
    : ofMapping m base = ofSettings (m.override Field.ofSpelling? base.settings) := by
  simp only [ofMapping, Entries.spelled_iff.mp spelled]

/-- A mapping where all keys spell settings replaces those settings, by name. -/
theorem ofMapping_eq_withOverrides {m : Entries} (spelled : m.Spelled) (base : Configuration)
    : ofMapping m base = base.withOverrides m.byName := by
  have same : m.byName.override Field.ofName? base.settings
      = m.override Field.ofSpelling? base.settings := by
    funext field
    simp only [Entries.override, Entries.last?_byName]
  rw [ofMapping_of_spelled spelled, withOverrides_of_known base m.unknown_byName, same]

/-- One change in how a mapping spells settings makes no difference. -/
theorem ofMapping_respelled {m m' : Entries} (respells : m.Respells m') (base : Configuration)
    : ofMapping m base = ofMapping m' base := by
  have same : m.override Field.ofSpelling? base.settings
      = m'.override Field.ofSpelling? base.settings := by
    funext field
    simp only [Entries.override, respells.last?_eq]
  simp only [ofMapping, respells.unknown_eq, same]

/-- Any number of such changes make no difference, by induction on the changes. -/
theorem ofMapping_rearranged {m m' : Entries}
    (rearranged : Relation.ReflTransGen Entries.Respells m m') (base : Configuration)
    : ofMapping m base = ofMapping m' base := by
  induction rearranged with
  | refl => rfl
  | tail _ respells ih => exact ih.trans (ofMapping_respelled respells base)

/-- What comes of a mapping over a base is decided by what its keys spell. -/
structure ReadBySpelling (m : Entries) (base : Configuration) : Prop where
  /-- The first key that spells nothing is reported, whatever the values and the base. -/
  unknown : ¬ m.Spelled → ∃ key, m.FirstUnknown key ∧ ofMapping m base = .error (.unknownKey key)
  /-- The map by names has each setting once, with what the last key that spells it gives. -/
  byName_nodup : m.byName.keys.Nodup
  mem_byName
    : ∀ key given,
        (key, given) ∈ m.byName ↔ ∃ field : Field, key = field.name ∧ m.Gives field given
  overrides : m.Spelled → ofMapping m base = base.withOverrides m.byName
  /-- Neither spelling nor order counts. -/
  rearranged
    : m.Spelled
      → ∀ other,
          Relation.ReflTransGen Entries.Respells m other → ofMapping other base = ofMapping m base
  /-- Of all its settings a configuration is made again, over any base. -/
  restores : ∀ c, m.Describes c → ofMapping m base = .ok c

/-- All mappings are read by what their keys spell, over any base and where none is given. -/
theorem ofMapping_spellings (m : Entries) (base : Option Configuration)
    : ReadBySpelling m (base.getD standard) where
  unknown unspelled := by
    obtain ⟨key, first⟩ := Entries.exists_firstUnknown unspelled
    obtain ⟨rest, unknown⟩ := first.unknown_eq
    exact ⟨key, first, by simp only [ofMapping, unknown]⟩
  byName_nodup := m.byName_keys_nodup
  mem_byName _ _ := Entries.mem_byName
  overrides spelled := ofMapping_eq_withOverrides spelled _
  rearranged _ _ changes := (ofMapping_rearranged changes _).symm
  restores c describes := by
    rw [ofMapping_of_spelled describes.spelled, describes.override, ofSettings_settings]

/-- The block size is given in both spellings, and the last one counts, also after a key has been
respelled and has changed places with its neighbour. A key that spells nothing is reported before a
block size that would be refused. A configuration is made again of its settings, over another one.
-/
theorem ofMapping_spellings_twice
    : let m : Entries := [("blockSize", sizedSettings 512), ("userProject", sizedSettings 1),
        ("block_size", sizedSettings 1024)]
      let other : Entries := [("user_project", sizedSettings 1), ("blockSize", sizedSettings 512),
        ("block_size", sizedSettings 1024)]
      let unread : Entries := [("blockSize", sizedSettings 0), ("bucket", sizedSettings 1),
        ("owner", sizedSettings 1)]
      ∃ sized : Configuration,
        ofMapping m standard = .ok sized
        ∧ sized.blockSize = 1024
        ∧ ofMapping other standard = .ok sized
        ∧ ofMapping unread sized = .error (.unknownKey "bucket")
        ∧ ofMapping (Field.all.map fun field => (field.camelName, standard.settings)) sized
          = .ok standard := by
  have made : ofMapping [("blockSize", sizedSettings 512), ("userProject", sizedSettings 1),
      ("block_size", sizedSettings 1024)] standard
      = .ok { standard with blockSize := 1024, blockSize_pos := by decide } := rfl
  intro m other unread
  have spelled : m.Spelled := Entries.spelled_iff.mpr (by decide)
  have respelled : Entries.Respells m (_ :: ("user_project", sizedSettings 1) :: _) :=
    @Entries.Respells.key [("blockSize", sizedSettings 512)] _ _ _ _ .userProject (.inr rfl)
      (.inl rfl)
  have swapped : Entries.Respells (_ :: ("user_project", sizedSettings 1) :: _) other :=
    @Entries.Respells.swap [] [("block_size", sizedSettings 1024)] _ _ .blockSize .userProject
      (.inr rfl) (.inl rfl) (by decide)
  have describes
      : Entries.Describes (Field.all.map fun field => (field.camelName, standard.settings))
          standard := by
    refine ⟨fun entry member => ?_, fun field => ?_⟩
    · obtain ⟨field, -, rfl⟩ := List.mem_map.mp member
      exact ⟨field, .inr rfl, rfl⟩
    · exact ⟨_, List.mem_map_of_mem field.mem_all, .inr rfl⟩
  have rearranged := (Relation.ReflTransGen.single respelled).tail swapped
  refine ⟨_, made, rfl, ?_, ?_, ?_⟩
  · exact ((ofMapping_spellings m none).rearranged spelled other rearranged).trans made
  · have unspelled : ¬ unread.Spelled := fun all => absurd (Entries.spelled_iff.mp all) (by decide)
    obtain ⟨key, -, refused⟩ := (ofMapping_spellings unread (some _)).unknown unspelled
    obtain rfl : key = "bucket" := by
      cases refused
      rfl
    exact refused
  · exact (ofMapping_spellings _ (some _)).restores standard describes

end Configuration

end CloudBuckets
