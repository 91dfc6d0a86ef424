import CloudBuckets.Proofs.Path.Absolute
import CloudBuckets.Proofs.Path.Joining

/-! Paths are put after the working directory before or after segments are joined to them. The two
come to the same path, since neither separators nor collapsing reach over the slash at the end of
the working directory, as long as this one is a text that collapsing leaves alone.
-/

namespace CloudBuckets

/-- Collapsing, if there is any, leaves the working directory alone. -/
def Configuration.KeepsDirectory (c : Configuration) : Prop :=
  c.permitEmptyComponents = true ∨ ¬ ['/', '/'] <:+: c.workingDirectory.toList

namespace View

variable {v : View}

/-- The text of segments, of which the first is relative, is put after the working directory, or this
is put in front of the first segment.
-/
theorem base_append_written (keeps : v.configuration.KeepsDirectory) {first : List Char}
    (filled : first ≠ []) (relative : first.head? ≠ some '/') (more : List (List Char))
    : v.configuration.base ++ v.written (first :: more)
      = v.written ((v.configuration.base ++ first) :: more) := by
  unfold written
  rw [Path.join_cons, Path.join_cons, Path.foldl_append_append filled]
  cases permits : v.configuration.permitEmptyComponents with
  | true => rfl
  | false =>
      have single : ¬ ['/', '/'] <:+: v.configuration.base := by
        rw [Configuration.slashes_base]
        exact keeps.resolve_left (by simp [permits])
      have apart : (more.foldl Path.append first).head? ≠ some '/' := by
        rw [← Path.join_cons, Path.head?_join]
        simpa [Path.opening, filled] using relative
      simp only [Bool.false_eq_true, if_false]
      rw [Path.collapse_append_apart apart, Path.collapse_eq_self single]

end View

namespace Path

/-- To join segments to a path fails for the first one with the scheme, if the path has none. -/
theorem join?_of_unmarked {p : Path} (standard : p.view.scheme = Bucket.scheme)
    (unmarked : Bucket.hasScheme Bucket.scheme p.raw = false) (segments : List (List Char))
    : p.join? segments
      = match segments.find? (Bucket.hasScheme Bucket.scheme) with
        | some segment => .error (.schemeInSegment segment)
        | none => .ok ⟨p.view, p.view.written (p.raw :: segments)⟩ := by
  simp only [join?, View.path, View.resolve, standard, unmarked, List.find?_cons]
  cases segments.find? (Bucket.hasScheme Bucket.scheme) <;> rfl

/-- An absolute path has no scheme. -/
theorem unmarked_of_absolute {p : Path} (absolute : p.isAbsolute = true)
    : Bucket.hasScheme Bucket.scheme p.raw = false := by
  obtain ⟨rest, begins⟩ := List.head?_eq_some_iff.mp (isAbsolute_iff.mp absolute)
  rw [begins]
  rfl

/-- The path of segments is absolute just if the first one is, so that it stays or is put after the
working directory as the first segment does.
-/
theorem toAbsolute_written {p : Path} (keeps : p.view.configuration.KeepsDirectory)
    (filled : p.raw ≠ []) (segments : List (List Char))
    : (⟨p.view, p.view.written (p.raw :: segments)⟩ : Path).toAbsolute
      = ⟨p.view, p.view.written (p.toAbsolute.raw :: segments)⟩ := by
  have sameStart : (⟨p.view, p.view.written (p.raw :: segments)⟩ : Path).isAbsolute
      = p.isAbsolute := by
    simp [isAbsolute, View.head?_written, opening, filled]
  cases absolute : p.isAbsolute with
  | true => rw [toAbsolute_of_absolute absolute, toAbsolute_of_absolute (sameStart.trans absolute)]
  | false =>
      have relative := isAbsolute_eq_false_iff.mp absolute
      rw [toAbsolute_of_relative absolute, toAbsolute_of_relative (sameStart.trans absolute),
        View.base_append_written keeps filled relative]

/-- Segments are joined to a path that is not empty before or after it is seen from the working
directory: both fail alike, or come to the same path.
-/
theorem toAbsolute_join_comm {v : View} {p : Path} (standard : v.scheme = Bucket.scheme)
    (keeps : v.configuration.KeepsDirectory) (made : v.Makes p) (filled : p.raw ≠ [])
    (segments : List (List Char))
    : (p.join? segments).map toAbsolute = p.toAbsolute.join? segments := by
  obtain ⟨before, amounts⟩ := made.pathOf
  have unmarked : Bucket.hasScheme Bucket.scheme p.raw = false := by
    rw [View.pathOf_ok amounts]
    exact View.unmarked_written (View.unmarked_of_ok standard amounts)
  have sameView : p.view = v := by rw [View.pathOf_ok amounts]
  subst sameView
  rw [join?_of_unmarked standard unmarked,
    join?_of_unmarked (p.view_toAbsolute ▸ standard) (unmarked_of_absolute p.isAbsolute_toAbsolute)]
  cases segments.find? (Bucket.hasScheme Bucket.scheme) with
  | some segment => rfl
  | none =>
      rw [view_toAbsolute, ← toAbsolute_written keeps filled]
      rfl

/-- So it is below `/home/me`, from a path that ends with a slash and segments that begin with some
or are empty.
-/
theorem home_join_comm
    : let v : View := .within "/home/me" rfl
      let p : Path := ⟨v, "raw/".toList⟩
      let segments : List (List Char) := [[], "//2024".toList, "05//".toList]
      v.pathOf ["raw//".toList, []] = .ok p
      ∧ p.toAbsolute.join? segments = .ok ⟨v, "/home/me/raw/2024/05/".toList⟩
      ∧ (p.join? segments).map toAbsolute = p.toAbsolute.join? segments := by
  have made : (View.within "/home/me" rfl).pathOf ["raw//".toList, []]
      = .ok ⟨.within "/home/me" rfl, "raw/".toList⟩ :=
    rfl
  have single : ¬ ['/', '/'] <:+: "/home/me".toList := by decide +kernel
  have filled : "raw/".toList ≠ [] := by decide
  exact ⟨made, rfl, toAbsolute_join_comm rfl (.inr single) (.path made) filled _⟩

end Path

end CloudBuckets
