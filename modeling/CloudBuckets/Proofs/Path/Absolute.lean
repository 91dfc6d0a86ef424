import CloudBuckets.Path.Basic
import CloudBuckets.Proofs.Path.Components

/-! Paths seen from the working directory, and the objects that they stand for. Since the working
directory is absolute, the text of such a path begins with a slash, and an object name is that text
with at most this slash left out. So paths of one view share an object name just if they are the
same seen from there.
-/

namespace CloudBuckets

/-- A view whose configuration is the built-in one but for the working directory. -/
def View.within (directory : String) (absolute : directory.toList.head? = some '/') : View :=
  ⟨"data", { Configuration.standard with workingDirectory := directory, absolute }, "gs"⟩

theorem View.same_iff {v w : View}
    : v.same w = true ↔ v.bucket = w.bucket ∧ v.configuration = w.configuration := by
  simp [same]

theorem Path.same_iff {p q : Path}
    : p.same q = true ↔ p.view.same q.view = true ∧ p.raw = q.raw := by
  simp [same]

-----------------------------------------------------------------------------------------
-- The working directory
-----------------------------------------------------------------------------------------

namespace Configuration

/-- The working directory with a slash at its end, after which relative paths are put. -/
def base (c : Configuration) : List Char :=
  if c.workingDirectory.toList.getLast? == some '/' then c.workingDirectory.toList
  else c.workingDirectory.toList ++ ['/']

variable (c : Configuration)

@[simp]
theorem head?_base : c.base.head? = some '/' := by
  obtain ⟨rest, directory⟩ := List.head?_eq_some_iff.mp c.absolute
  unfold base
  split <;> simp [directory]

theorem base_cases
    : (∃ before, c.workingDirectory.toList = before ++ ['/'] ∧ c.base = before ++ ['/'])
      ∨ c.workingDirectory.toList.getLast? ≠ some '/'
        ∧ c.base = c.workingDirectory.toList ++ ['/'] := by
  unfold base
  split
  · rename_i ends
    obtain ⟨before, directory⟩ := List.getLast?_eq_some_iff.mp (beq_iff_eq.mp ends)
    exact .inl ⟨before, directory, directory⟩
  · rename_i ends
    exact .inr ⟨mt beq_iff_eq.mpr ends, rfl⟩

/-- What is put after it has its components after those of the working directory. -/
theorem components_base_append (text : List Char)
    : Path.components (c.base ++ text)
      = Path.components c.workingDirectory.toList ++ Path.components text := by
  rcases c.base_cases with ⟨before, directory, base⟩ | ⟨_, base⟩
  · rw [base, directory, List.append_assoc, List.singleton_append, Path.components_append_slash,
      Path.components_append_slash, Path.components_nil, List.append_nil]
  · rw [base, List.append_assoc, List.singleton_append, Path.components_append_slash]

/-- The slash at the end does not follow another one that ends the working directory. -/
theorem slashes_base
    : ['/', '/'] <:+: c.base ↔ ['/', '/'] <:+: c.workingDirectory.toList := by
  rcases c.base_cases with ⟨before, directory, base⟩ | ⟨ends, base⟩
  · rw [base, directory]
  · have single : ¬ ['/', '/'] <:+: ['/'] := by decide
    rw [base, Path.slashes_append]
    simp [single, ends]

end Configuration

-----------------------------------------------------------------------------------------
-- Absolute paths and object names
-----------------------------------------------------------------------------------------

namespace Path

variable {p q : Path}

theorem isAbsolute_iff : p.isAbsolute = true ↔ p.raw.head? = some '/' :=
  beq_iff_eq

theorem isAbsolute_eq_false_iff : p.isAbsolute = false ↔ p.raw.head? ≠ some '/' :=
  beq_eq_false_iff_ne

theorem toAbsolute_of_absolute (absolute : p.isAbsolute = true) : p.toAbsolute = p :=
  if_pos absolute

theorem toAbsolute_of_relative (relative : p.isAbsolute = false)
    : p.toAbsolute = ⟨p.view, p.view.configuration.base ++ p.raw⟩ := by
  simp [toAbsolute, relative, Configuration.base]

@[simp]
theorem view_toAbsolute (p : Path) : p.toAbsolute.view = p.view := by
  unfold toAbsolute
  split <;> rfl

theorem head?_toAbsolute (p : Path) : p.toAbsolute.raw.head? = some '/' := by
  cases absolute : p.isAbsolute with
  | true =>
      rw [toAbsolute_of_absolute absolute]
      exact isAbsolute_iff.mp absolute
  | false => simp [toAbsolute_of_relative absolute, List.head?_append]

theorem isAbsolute_toAbsolute (p : Path) : p.toAbsolute.isAbsolute = true :=
  isAbsolute_iff.mpr p.head?_toAbsolute

/-- The slash at the start is all that an object name may lack. -/
theorem toAbsolute_eq_cons (strips : p.view.configuration.stripLeadingSlash = true)
    : p.toAbsolute.raw = '/' :: p.objectName := by
  obtain ⟨rest, begins⟩ := List.head?_eq_some_iff.mp p.head?_toAbsolute
  simp [objectName, strips, begins]

theorem objectName_eq_toAbsolute (keeps : p.view.configuration.stripLeadingSlash = false)
    : p.objectName = p.toAbsolute.raw := by
  simp [objectName, keeps]

/-- So an object name tells absolute texts apart. -/
theorem objectName_eq_iff (sameView : p.view.same q.view = true)
    : p.objectName = q.objectName ↔ p.toAbsolute.raw = q.toAbsolute.raw := by
  have sameConfiguration := (View.same_iff.mp sameView).2
  cases strips : p.view.configuration.stripLeadingSlash with
  | true =>
      rw [toAbsolute_eq_cons strips, toAbsolute_eq_cons (sameConfiguration ▸ strips),
        List.cons_inj_right]
  | false =>
      rw [objectName_eq_toAbsolute strips, objectName_eq_toAbsolute (sameConfiguration ▸ strips)]

/-- How a path with any text is mapped to an object of its bucket. -/
structure Mapping (p : Path) : Prop where
  absolute : p.toAbsolute.isAbsolute = true
  fixed : p.isAbsolute = true → p.toAbsolute = p
  idempotent : p.toAbsolute.toAbsolute = p.toAbsolute
  parts
    : p.isAbsolute = false
      → p.toAbsolute.parts = components p.view.configuration.workingDirectory.toList ++ p.parts
  /-- One slash is left out just if the configuration asks for it, and nothing else ever. -/
  stripped
    : p.toAbsolute.raw = '/' :: p.objectName ↔ p.view.configuration.stripLeadingSlash = true
  whole : p.toAbsolute.raw = p.objectName ↔ p.view.configuration.stripLeadingSlash = false
  sameName
    : ∀ q : Path,
        p.view.same q.view = true
        → (p.objectName = q.objectName ↔ p.toAbsolute.raw = q.toAbsolute.raw)
  sameRelative
    : ∀ q : Path,
        p.view.same q.view = true
        → p.isAbsolute = false
        → q.isAbsolute = false
        → (p.objectName = q.objectName ↔ p.raw = q.raw)
  /-- No two absolute paths that differ stand for one object. -/
  distinct
    : ∀ q : Path,
        p.view.same q.view = true
        → p.isAbsolute = true
        → q.isAbsolute = true
        → p.same q = false
        → p.objectName ≠ q.objectName

/-- Every path is mapped to an object so that paths of a view are told apart. -/
theorem toAbsolute_mapping (p : Path) : p.Mapping where
  absolute := p.isAbsolute_toAbsolute
  fixed := toAbsolute_of_absolute
  idempotent := toAbsolute_of_absolute p.isAbsolute_toAbsolute
  parts relative := by
    rw [toAbsolute_of_relative relative]
    exact p.view.configuration.components_base_append p.raw
  stripped := by
    refine ⟨fun shorter => ?_, toAbsolute_eq_cons⟩
    by_contra keeps
    rw [objectName_eq_toAbsolute (by simpa using keeps)] at shorter
    exact List.cons_ne_self '/' _ shorter.symm
  whole := by
    refine ⟨fun whole => ?_, fun keeps => (objectName_eq_toAbsolute keeps).symm⟩
    by_contra strips
    rw [toAbsolute_eq_cons (by simpa using strips)] at whole
    exact List.cons_ne_self '/' _ whole
  sameName _ := objectName_eq_iff
  sameRelative q sameView relative relativeOther := by
    have sameConfiguration := (View.same_iff.mp sameView).2
    rw [objectName_eq_iff sameView, toAbsolute_of_relative relative,
      toAbsolute_of_relative relativeOther, sameConfiguration, List.append_right_inj]
  distinct q sameView absolute absoluteOther different sameObject := by
    rw [objectName_eq_iff sameView, toAbsolute_of_absolute absolute,
      toAbsolute_of_absolute absoluteOther] at sameObject
    rw [same_iff.mpr ⟨sameView, sameObject⟩] at different
    cases different

/-- A relative text full of slashes is put after the working directory as it is. -/
example
    : let p : Path := ⟨.within "/home/me" rfl, "a//b/".toList⟩
      p.toAbsolute.raw = "/home/me/a//b/".toList ∧ p.objectName = "home/me/a//b/".toList := by
  exact ⟨rfl, rfl⟩

end Path

end CloudBuckets
