import CloudBuckets.Proofs.Path.Absolute
import CloudBuckets.Proofs.Path.Canonical

/-! Empty components in the names of objects. Where they are not permitted, paths have none, but the
working directory is put in front of relative ones as it is given. So what a path stands for has
none just if the path is absolute or the working directory has none either.
-/

namespace CloudBuckets.Path

/-- No component is empty in what a path stands for: no two slashes follow each other, and nothing
begins with a slash that should have been left out.
-/
structure Clean (p : Path) : Prop where
  absolute : ¬ ['/', '/'] <:+: p.toAbsolute.raw
  objectName : ¬ ['/', '/'] <:+: p.objectName
  start : p.view.configuration.stripLeadingSlash = true → p.objectName.head? ≠ some '/'

/-- It is enough to look at the absolute text, of which the object name is what follows a slash. -/
theorem clean_iff_toAbsolute (p : Path) : p.Clean ↔ ¬ ['/', '/'] <:+: p.toAbsolute.raw := by
  refine ⟨Clean.absolute, fun absolute => ?_⟩
  cases strips : p.view.configuration.stripLeadingSlash with
  | true =>
      have parted := absolute
      rw [toAbsolute_eq_cons strips, slashes_cons, not_or, not_and] at parted
      exact ⟨absolute, parted.2, fun _ => parted.1 rfl⟩
  | false =>
      refine ⟨absolute, ?_, fun stripsToo => absurd (strips.symm.trans stripsToo) (by decide)⟩
      rwa [objectName_eq_toAbsolute strips]

/-- Where the text of a path has no two slashes in a row, only the working directory brings them. -/
theorem slashes_toAbsolute_iff {p : Path} (single : ¬ ['/', '/'] <:+: p.raw)
    : ['/', '/'] <:+: p.toAbsolute.raw
      ↔ p.isAbsolute = false
        ∧ ['/', '/'] <:+: p.view.configuration.workingDirectory.toList := by
  cases absolute : p.isAbsolute with
  | true => simp [toAbsolute_of_absolute absolute, single]
  | false =>
      have apart := isAbsolute_eq_false_iff.mp absolute
      rw [toAbsolute_of_relative absolute, slashes_append, Configuration.slashes_base]
      simp [single, apart]

/-- Where no component may be empty, what a path of a view stands for is clean just if the path is
absolute or the working directory has no two slashes in a row.
-/
theorem clean_iff {v : View} {p : Path} (strict : v.configuration.permitEmptyComponents = false)
    (made : v.Makes p)
    : p.Clean
      ↔ p.isAbsolute = true ∨ ¬ ['/', '/'] <:+: v.configuration.workingDirectory.toList := by
  obtain ⟨segments, amounts⟩ := made.pathOf
  obtain rfl := View.pathOf_ok amounts
  rw [clean_iff_toAbsolute, slashes_toAbsolute_iff (View.no_slashes_written strict segments)]
  simp only [not_and_or, Bool.not_eq_false]

/-- Segments joined to a path with empty components amount to a clean one below `/home/me`. -/
theorem home_clean
    : let v : View := .within "/home/me" rfl
      let p : Path := ⟨v, "raw/2024/05".toList⟩
      v.configuration.permitEmptyComponents = false
      ∧ (⟨v, "raw//".toList⟩ : Path).join? ["2024//05".toList] = .ok p
      ∧ p.objectName = "home/me/raw/2024/05".toList
      ∧ p.Clean := by
  have made : (⟨.within "/home/me" rfl, "raw//".toList⟩ : Path).join? ["2024//05".toList]
      = .ok ⟨.within "/home/me" rfl, "raw/2024/05".toList⟩ :=
    rfl
  have single : ¬ ['/', '/'] <:+: "/home/me".toList := by decide +kernel
  exact ⟨rfl, made, rfl, (clean_iff rfl (.join made)).mpr (.inr single)⟩

/-- Below `//home//me`, which is accepted as a working directory, a path of one component stands for
an object whose name begins with a slash and has an empty component.
-/
theorem doubled_not_clean
    : let v : View := .within "//home//me" rfl
      let p : Path := ⟨v, "x".toList⟩
      v.configuration.permitEmptyComponents = false
      ∧ v.configuration.stripLeadingSlash = true
      ∧ v.pathOf ["x".toList] = .ok p
      ∧ ['/', '/'] <:+: p.toAbsolute.raw
      ∧ ['/', '/'] <:+: p.objectName
      ∧ p.objectName.head? = some '/' := by
  exact ⟨rfl, rfl, rfl, by decide +kernel, by decide +kernel, rfl⟩

end CloudBuckets.Path
