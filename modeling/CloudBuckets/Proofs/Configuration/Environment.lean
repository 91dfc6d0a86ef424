import CloudBuckets.Configuration.Environment
import CloudBuckets.Error
import CloudBuckets.Proofs.Configuration.Checks
import CloudBuckets.Proofs.Text.Numeral

/-! Configurations are read from five environment variables. Numbers that cannot be read are
reported before any check, and a configuration that is written to the variables is read back.
-/

namespace CloudBuckets.Configuration

open Text

namespace Variable

variable {env : String → Option String} {v : Variable} {default : Int}

-----------------------------------------------------------------------------------------
-- Numbers
-----------------------------------------------------------------------------------------

/-- The variable is set to a text that is no numeral. -/
def Illegible (env : String → Option String) (v : Variable) : Prop :=
  ∃ text, env v.name = some text ∧ ¬ ∃ n, Numeral.Denotes text.toList n

/-- What the variable is set to is refused by the reader of numerals. -/
def Refused (env : String → Option String) (v : Variable) (refusal : Numeral.Refusal) : Prop :=
  ∃ text, env v.name = some text ∧ Numeral.read text.toList = .error refusal

/-- The number that the variable is set to, and the default where it is not set. -/
inductive Tells (env : String → Option String) (v : Variable) (default : Int) : Int → Prop
  | unset (unset : env v.name = none) : Tells env v default default
  | set {text : String} {n : Int} (set : env v.name = some text)
    (denotes : Numeral.Denotes text.toList n)
    : Tells env v default n

theorem illegible_iff : v.Illegible env ↔ ∃ refusal, v.Refused env refusal := by
  simp only [Illegible, Refused, ← Numeral.exists_refusal_iff]
  exact ⟨fun ⟨text, set, refusal, refused⟩ => ⟨refusal, text, set, refused⟩,
    fun ⟨refusal, text, set, refused⟩ => ⟨text, set, refusal, refused⟩⟩

/-- What is read of a variable that is set. -/
theorem readNumber_of_set {text : String} (set : env v.name = some text)
    : readNumber (env v.name) default
      = (Numeral.read text.toList).mapError ConfigurationError.unreadableNumber := by
  rw [set, readNumber]

/-- A number is read just if the variable tells it. -/
theorem readNumber_eq_ok_iff {n : Int}
    : readNumber (env v.name) default = .ok n ↔ v.Tells env default n := by
  constructor
  · intro accepted
    cases value : env v.name with
    | none =>
        rw [value, readNumber] at accepted
        cases accepted
        exact .unset value
    | some text =>
        rw [readNumber_of_set value] at accepted
        cases read : Numeral.read text.toList with
        | error refusal =>
            rw [read] at accepted
            cases accepted
        | ok m =>
            rw [read] at accepted
            cases accepted
            exact .set value (Numeral.denotes_of_read read)
  · intro tells
    cases tells with
    | unset unset => rw [unset, readNumber]
    | set set denotes =>
        rw [readNumber_of_set set, denotes.read_eq]
        rfl

/-- Where a variable is refused, this is reported. -/
theorem Refused.readNumber_eq {refusal : Numeral.Refusal} (refused : v.Refused env refusal)
    : readNumber (env v.name) default = .error (.unreadableNumber refusal) := by
  obtain ⟨text, set, read⟩ := refused
  rw [readNumber_of_set set, read]
  rfl

/-- A variable that is not illegible tells a number. -/
theorem exists_tells (legible : ¬ v.Illegible env) (default : Int)
    : ∃ n, v.Tells env default n := by
  cases set : env v.name with
  | none => exact ⟨default, .unset set⟩
  | some text =>
      obtain ⟨n, denotes⟩ : ∃ n, Numeral.Denotes text.toList n :=
        Classical.byContradiction fun none => legible ⟨text, set, none⟩
      exact ⟨n, .set set denotes⟩

end Variable

-----------------------------------------------------------------------------------------
-- Settings
-----------------------------------------------------------------------------------------

/-- The settings that variables may change. -/
def variableFields : List Field :=
  [.userProject, .billOnlyRequesterPays, .workingDirectory, .blockSize, .maxReopens]

/-- The settings are those of an environment. A variable that is not set leaves the built-in value,
as do the settings that have no variable.
-/
structure Gathered (env : String → Option String) (s : Settings) : Prop where
  userProject
    : s .userProject = some ((env Variable.userProject.name).getD standard.userProject)
  billOnlyRequesterPays
    : s .billOnlyRequesterPays = (env Variable.requesterPaysOnly.name).any isAffirmative
  workingDirectory
    : s .workingDirectory
      = (env Variable.workingDirectory.name).getD standard.workingDirectory
  blockSize : Variable.blockSize.Tells env standard.blockSize (s .blockSize)
  maxReopens : Variable.maxReopens.Tells env standard.maxReopens (s .maxReopens)
  builtIn : ∀ field, field ∉ variableFields → s field = standard.settings field

/-- The settings with numbers that have been read. -/
def gather (env : String → Option String) (blockSize maxReopens : Int) : Settings
  | .userProject => some ((env Variable.userProject.name).getD standard.userProject)
  | .billOnlyRequesterPays =>
      ((env Variable.requesterPaysOnly.name).map isAffirmative).getD false
  | .workingDirectory => (env Variable.workingDirectory.name).getD standard.workingDirectory
  | .blockSize => blockSize
  | .maxReopens => maxReopens
  | .permitEmptyComponents => standard.permitEmptyComponents
  | .stripLeadingSlash => standard.stripLeadingSlash
  | .usePseudoDirectories => standard.usePseudoDirectories
  | .retryableCodes => standard.retryableCodes

theorem ofEnvironment_eq (env : String → Option String)
    : ofEnvironment env
      = (do
          let blockSize ← readNumber (env Variable.blockSize.name) standard.blockSize
          let maxReopens ← readNumber (env Variable.maxReopens.name) standard.maxReopens
          ofSettings (gather env blockSize maxReopens)) :=
  rfl

/-- The gathered settings are those of the environment. -/
theorem gathered_gather {env : String → Option String} {blockSize maxReopens : Int}
    (size : Variable.blockSize.Tells env standard.blockSize blockSize)
    (reopens : Variable.maxReopens.Tells env standard.maxReopens maxReopens)
    : Gathered env (gather env blockSize maxReopens) where
  userProject := rfl
  billOnlyRequesterPays := by
    simp only [gather]
    cases env Variable.requesterPaysOnly.name <;> rfl
  workingDirectory := rfl
  blockSize := size
  maxReopens := reopens
  builtIn field other := by
    cases field <;> first | rfl | exact absurd (by decide) other

/-- The settings of an environment decide what comes of it. -/
theorem Gathered.ofEnvironment_eq {env : String → Option String} {s : Settings}
    (gathered : Gathered env s)
    : ofEnvironment env = ofSettings s := by
  have same : gather env (s .blockSize) (s .maxReopens) = s := by
    have built := gathered_gather gathered.blockSize gathered.maxReopens
    funext field
    by_cases listed : field ∈ variableFields
    · cases field with
      | userProject => exact gathered.userProject.symm
      | billOnlyRequesterPays =>
          exact built.billOnlyRequesterPays.trans gathered.billOnlyRequesterPays.symm
      | workingDirectory => exact gathered.workingDirectory.symm
      | blockSize | maxReopens => rfl
      | _ => exact absurd listed (by decide)
    · exact (built.builtIn field listed).trans (gathered.builtIn field listed).symm
  rw [Configuration.ofEnvironment_eq, Variable.readNumber_eq_ok_iff.mpr gathered.blockSize,
    Variable.readNumber_eq_ok_iff.mpr gathered.maxReopens]
  exact congrArg ofSettings same

/-- Where both numbers are legible, the environment has settings. -/
theorem exists_gathered {env : String → Option String}
    (size : ¬ Variable.blockSize.Illegible env) (reopens : ¬ Variable.maxReopens.Illegible env)
    : ∃ s, Gathered env s := by
  obtain ⟨blockSize, size⟩ := Variable.exists_tells size standard.blockSize
  obtain ⟨maxReopens, reopens⟩ := Variable.exists_tells reopens standard.maxReopens
  exact ⟨_, gathered_gather size reopens⟩

-----------------------------------------------------------------------------------------
-- What comes of an environment
-----------------------------------------------------------------------------------------

/-- A block size that cannot be read is reported, whatever else is set. -/
theorem exists_refusal_of_blockSize {env : String → Option String}
    (illegible : Variable.blockSize.Illegible env)
    : ∃ refusal,
        Variable.blockSize.Refused env refusal
        ∧ ofEnvironment env = .error (.unreadableNumber refusal) := by
  obtain ⟨refusal, refused⟩ := Variable.illegible_iff.mp illegible
  refine ⟨refusal, refused, ?_⟩
  rw [ofEnvironment_eq, refused.readNumber_eq]
  rfl

/-- A number of reopens that cannot be read is reported, unless the block size is. -/
theorem exists_refusal_of_maxReopens {env : String → Option String}
    (legible : ¬ Variable.blockSize.Illegible env)
    (illegible : Variable.maxReopens.Illegible env)
    : ∃ refusal,
        Variable.maxReopens.Refused env refusal
        ∧ ofEnvironment env = .error (.unreadableNumber refusal) := by
  obtain ⟨blockSize, tells⟩ := Variable.exists_tells legible standard.blockSize
  obtain ⟨refusal, refused⟩ := Variable.illegible_iff.mp illegible
  refine ⟨refusal, refused, ?_⟩
  rw [ofEnvironment_eq, Variable.readNumber_eq_ok_iff.mpr tells, refused.readNumber_eq]
  rfl

/-- An environment of which a configuration is made has settings. -/
theorem exists_gathered_of_ok {env : String → Option String} {c : Configuration}
    (made : ofEnvironment env = .ok c)
    : ∃ s, Gathered env s := by
  have size : ¬ Variable.blockSize.Illegible env := by
    intro illegible
    obtain ⟨refusal, -, refused⟩ := exists_refusal_of_blockSize illegible
    rw [refused] at made
    cases made
  refine exists_gathered size fun illegible => ?_
  obtain ⟨refusal, -, refused⟩ := exists_refusal_of_maxReopens size illegible
  rw [refused] at made
  cases made

/-- No check of settings reports a number that cannot be read. -/
theorem cause?_of_fails {s : Settings} {error : ConfigurationError} (fails : s.Fails error)
    : (Error.configuration error).cause? = none := by
  cases fails <;> rfl

/-- A numeral is reported as the cause just if one of the two numbers is illegible. -/
theorem exists_cause_iff {env : String → Option String}
    : (∃ error refusal,
        ofEnvironment env = .error error
        ∧ (Error.configuration error).cause? = some (.numeral refusal))
      ↔ Variable.blockSize.Illegible env ∨ Variable.maxReopens.Illegible env := by
  constructor
  · rintro ⟨error, refusal, refused, cause⟩
    refine Classical.byContradiction fun legible => ?_
    rw [not_or] at legible
    obtain ⟨s, gathered⟩ := exists_gathered legible.1 legible.2
    rw [gathered.ofEnvironment_eq] at refused
    rw [cause?_of_fails (ofSettings_eq_error_iff.mp refused)] at cause
    cases cause
  · intro illegible
    by_cases size : Variable.blockSize.Illegible env
    · obtain ⟨refusal, -, refused⟩ := exists_refusal_of_blockSize size
      exact ⟨_, refusal, refused, rfl⟩
    · have reopens := illegible.resolve_left size
      obtain ⟨refusal, -, refused⟩ := exists_refusal_of_maxReopens size reopens
      exact ⟨_, refusal, refused, rfl⟩

-----------------------------------------------------------------------------------------
-- Configurations as variables
-----------------------------------------------------------------------------------------

/-- The text of a variable that a configuration is written to. -/
def written (c : Configuration) : Variable → String
  | .userProject => c.userProject
  | .requesterPaysOnly => if c.billOnlyRequesterPays then "true" else "false"
  | .workingDirectory => c.workingDirectory
  | .blockSize => toString c.blockSize
  | .maxReopens => toString c.maxReopens

/-- A configuration can be written to variables: all other settings are the built-in ones, and its
numbers are short enough to be read again.
-/
structure Writable (c : Configuration) : Prop where
  builtIn : ∀ field, field ∉ variableFields → c.settings field = standard.settings field
  blockSize_short : (toString c.blockSize).length ≤ Numeral.digitLimit
  maxReopens_short : (toString c.maxReopens).length ≤ Numeral.digitLimit

/-- A configuration is written to the variables of an environment. -/
def WrittenTo (c : Configuration) (env : String → Option String) : Prop :=
  ∀ v : Variable, env v.name = some (c.written v)

/-- The settings of an environment are those of the configuration that is written to it. -/
theorem WrittenTo.gathered {c : Configuration} {env : String → Option String}
    (writable : c.Writable) (written : c.WrittenTo env)
    : Gathered env c.settings where
  userProject := by
    rw [written .userProject]
    rfl
  billOnlyRequesterPays := by
    have yes : isAffirmative "true" = true := by decide
    have no : isAffirmative "false" = false := by decide
    rw [written .requesterPaysOnly, Option.any_some]
    simp only [Configuration.written, settings]
    cases c.billOnlyRequesterPays
    · exact no.symm
    · exact yes.symm
  workingDirectory := by
    rw [written .workingDirectory]
    rfl
  blockSize :=
    .set (written .blockSize) (Numeral.denotes_toString c.blockSize writable.blockSize_short)
  maxReopens :=
    .set (written .maxReopens) (Numeral.denotes_toString c.maxReopens writable.maxReopens_short)
  builtIn := writable.builtIn

/-- What is read from an environment. -/
structure ReadFromEnvironment (env : String → Option String) : Prop where
  /-- No other variable counts. -/
  elsewhere
    : ∀ other : String → Option String,
        (∀ v : Variable, other v.name = env v.name)
        → ofEnvironment other = ofEnvironment env
  /-- A number that cannot be read is reported, and nothing else has a numeral as its cause. -/
  cause
    : (∃ error refusal,
        ofEnvironment env = .error error
        ∧ (Error.configuration error).cause? = some (.numeral refusal))
      ↔ Variable.blockSize.Illegible env ∨ Variable.maxReopens.Illegible env
  /-- The block size is read first. -/
  blockSize
    : Variable.blockSize.Illegible env
      → ∃ refusal,
          Variable.blockSize.Refused env refusal
          ∧ ofEnvironment env = .error (.unreadableNumber refusal)
  /-- The number of reopens is read before any value is checked. -/
  maxReopens
    : ¬ Variable.blockSize.Illegible env
      → Variable.maxReopens.Illegible env
      → ∃ refusal,
          Variable.maxReopens.Refused env refusal
          ∧ ofEnvironment env = .error (.unreadableNumber refusal)
  /-- Numbers that can be read are checked together with the other settings. -/
  checked
    : ¬ Variable.blockSize.Illegible env
      → ¬ Variable.maxReopens.Illegible env
      → ∃ s,
          Gathered env s
          ∧ (∀ c, ofEnvironment env = .ok c ↔ s.Valid ∧ c.settings = s.normal)
          ∧ ∀ error, ofEnvironment env = .error error ↔ s.Fails error
  /-- A configuration that is written to the variables is read back. -/
  restores : ∀ c : Configuration, c.Writable → c.WrittenTo env → ofEnvironment env = .ok c

/-- Five variables decide what is read from an environment: a number that is no numeral is
reported, the block size before the number of reopens and both before any value that fails a
check, and a configuration that has been written to the variables is read back.
-/
theorem ofEnvironment_reads (env : String → Option String) : ReadFromEnvironment env where
  elsewhere other agree := by
    have same : gather other = gather env := by
      funext blockSize maxReopens field
      cases field <;> simp only [gather, agree]
    rw [ofEnvironment_eq, ofEnvironment_eq, agree, agree, same]
  cause := exists_cause_iff
  blockSize := exists_refusal_of_blockSize
  maxReopens := exists_refusal_of_maxReopens
  checked size reopens := by
    obtain ⟨s, gathered⟩ := exists_gathered size reopens
    refine ⟨s, gathered, fun c => ?_, fun error => ?_⟩
    · rw [gathered.ofEnvironment_eq, ofSettings_eq_ok_iff]
    · rw [gathered.ofEnvironment_eq, ofSettings_eq_error_iff]
  restores c writable written := by
    rw [(written.gathered writable).ofEnvironment_eq, ofSettings_settings]

/-- Where neither number can be read and the working directory is not absolute, the block size is
reported. A configuration is read back from the variables that it has been written to, although
others are set as well.
-/
theorem ofEnvironment_reads_back
    : let unread : String → Option String := fun
        | "BUCKETFS_BLOCK_SIZE" => some "2_"
        | "BUCKETFS_MAX_CHANNEL_REOPENS" => some "many"
        | "BUCKETFS_WORKING_DIRECTORY" => some "here"
        | _ => none
      let c : Configuration := { standard with
        workingDirectory := "/data", blockSize := 4096, maxReopens := 2, userProject := "payer"
        billOnlyRequesterPays := true, absolute := by decide, blockSize_pos := by decide
        maxReopens_nonneg := by decide }
      let env : String → Option String := fun
        | "BUCKETFS_USER_PROJECT" => some "payer"
        | "BUCKETFS_REQUESTER_PAYS_ONLY" => some "true"
        | "BUCKETFS_WORKING_DIRECTORY" => some "/data"
        | "BUCKETFS_BLOCK_SIZE" => some "4096"
        | "BUCKETFS_MAX_CHANNEL_REOPENS" => some "2"
        | _ => some "unrelated"
      (∃ refusal, Variable.blockSize.Refused unread refusal
        ∧ ofEnvironment unread = .error (.unreadableNumber refusal))
      ∧ ofEnvironment env = .ok c := by
  intro unread c env
  have illegible : Variable.blockSize.Illegible unread :=
    Variable.illegible_iff.mpr ⟨_, "2_", rfl, rfl⟩
  have writable : c.Writable :=
    ⟨fun field other => by cases field <;> first | rfl | exact absurd (by decide) other,
      by decide, by decide⟩
  have written : c.WrittenTo env := fun v => by cases v <;> rfl
  exact ⟨(ofEnvironment_reads unread).blockSize illegible,
    (ofEnvironment_reads env).restores c writable written⟩

end CloudBuckets.Configuration
