import CloudBuckets.Proofs.Path.Joining
import Mathlib.Data.List.DropRight

/-! The name of a path is its last component. Slashes at the end of a text change neither its name nor
its components, and after any other character both end with what follows the last slash. A segment
that is joined to a path puts its components after those of the path, so that it names the path
unless it has none.
-/

namespace CloudBuckets.Path

-----------------------------------------------------------------------------------------
-- Names of texts
-----------------------------------------------------------------------------------------

/-- The last text between slashes is what follows the last slash. -/
theorem getLast?_split (text : List Char)
    : (split text).getLast? = some (text.rtakeWhile (· != '/')) := by
  have whole : text.rdropWhile (· != '/') ++ text.rtakeWhile (· != '/') = text :=
    List.rdropWhile_append_rtakeWhile
  have alone : split (text.rtakeWhile (· != '/')) = [text.rtakeWhile (· != '/')] := by
    rw [split_eq_splitOn]
    refine List.splitOn_eq_singleton fun member => ?_
    simpa using List.mem_rtakeWhile_imp member
  -- what stands before it is nothing, or ends with a slash
  rcases List.eq_nil_or_concat (text.rdropWhile (· != '/')) with nothing | ⟨before, last, front⟩
  · rw [nothing, List.nil_append] at whole
    rw [whole] at alone ⊢
    rw [alone]
    rfl
  · have ends := List.rdropWhile_last_not (· != '/') text (by simp [front])
    obtain rfl : last = '/' := by simpa [front] using ends
    rw [front, List.concat_append] at whole
    have parted : split text = split before ++ [text.rtakeWhile (· != '/')] := by
      rw [← alone, ← split_append, whole]
    rw [parted, List.getLast?_concat]

/-- After a character that is no slash it is not empty, and so it is the last component. -/
theorem getLast?_components_concat {c : Char} (letter : c ≠ '/') (text : List Char)
    : (components (text ++ [c])).getLast? = some ((text ++ [c]).rtakeWhile (· != '/')) := by
  obtain ⟨before, parted⟩ := List.getLast?_eq_some_iff.mp (getLast?_split (text ++ [c]))
  have filled : ((text ++ [c]).rtakeWhile (· != '/')).isEmpty = false := by
    simp [letter]
  rw [components, parted, List.filter_append, List.filter_singleton, filled]
  exact List.getLast?_concat

theorem lastName_concat_slash (text : List Char) : lastName (text ++ ['/']) = lastName text := by
  simp [lastName]

theorem lastName_concat_letter {c : Char} (letter : c ≠ '/') (text : List Char)
    : lastName (text ++ [c]) = (text ++ [c]).rtakeWhile (· != '/') := by
  simp [lastName, List.rtakeWhile, letter]

/-- The name of a text is its last component, or empty if it has none, by induction from its end. -/
theorem lastName_eq_getLastD (text : List Char) : lastName text = (components text).getLastD [] := by
  induction text using List.reverseRecOn with
  | nil => rfl
  | append_singleton text c ih =>
      by_cases letter : c = '/'
      · subst letter
        rw [lastName_concat_slash, components_append_slash, components_nil, List.append_nil, ih]
      · rw [lastName_concat_letter letter, List.getLastD_eq_getLast?,
          getLast?_components_concat letter, Option.getD_some]

-----------------------------------------------------------------------------------------
-- Names of paths
-----------------------------------------------------------------------------------------

variable {p q : Path}

theorem name_eq_getLastD (p : Path) : p.name = p.parts.getLastD [] :=
  lastName_eq_getLastD p.raw

/-- The components of segments come after those of the path that they are joined to. -/
theorem parts_join? {segments : List (List Char)} (made : p.join? segments = .ok q)
    : q.parts = p.parts ++ segments.flatMap components := by
  obtain rfl := View.pathOf_ok (pathOf_of_join? made)
  exact View.components_written

/-- So the last of them names the path, which keeps its name if there is none. -/
theorem name_join? {segments : List (List Char)} (made : p.join? segments = .ok q)
    : q.name = (segments.flatMap components).getLastD p.name := by
  rw [name_eq_getLastD, parts_join? made, name_eq_getLastD]
  simp only [List.getLastD_eq_getLast?, List.getLast?_append, Option.getD_or]

/-- What the path `q` is called and made of that a segment joined to `p` leads to. -/
structure Extended (p : Path) (segment : List Char) (q : Path) : Prop where
  begins : p.parts <+: q.parts
  /-- After the components of `p` there are those of the segment. -/
  parts
    : q.parts = p.parts ++ (segment.splitOn '/').filter fun component => component ≠ []
  /-- The last of these is the name, if the segment is not made of slashes. -/
  name
    : (∃ c ∈ segment, c ≠ '/')
      → ((segment.splitOn '/').filter fun component => component ≠ []).getLast? = some q.name
  kept : (∀ c ∈ segment, c = '/') → q.name = p.name

theorem extended_of_join? {segment : List Char} (made : p.join? [segment] = .ok q)
    : p.Extended segment q := by
  have parts : q.parts = p.parts ++ components segment := by simpa using parts_join? made
  have name : q.name = (components segment).getLastD p.name := by simpa using name_join? made
  refine {
    begins := ⟨_, parts.symm⟩
    parts := by rw [← components_eq_splitOn, parts]
    name := ?name
    kept := ?kept
  }
  case name =>
    rintro ⟨c, member, letter⟩
    have filled : components segment ≠ [] := fun none =>
      letter (components_eq_nil_iff.mp none c member)
    rw [← components_eq_splitOn, name, List.getLastD_eq_getLast?,
      List.getLast?_eq_some_getLast filled]
    rfl
  case kept =>
    intro slashes
    rw [name, components_eq_nil_iff.mpr slashes]
    rfl

/-- Only the scheme keeps a segment from being joined to a path that segments amount to. -/
theorem join?_accepted_iff (standard : p.view.scheme = Bucket.scheme) (made : p.view.Makes p)
    (segment : List Char)
    : (∃ q, p.join? [segment] = .ok q) ↔ ¬"gs:".toList <+: segment := by
  obtain ⟨segments, amounts⟩ := made.pathOf
  have refused := View.join?_refused_iff standard amounts [segment]
  simp only [List.mem_singleton, exists_eq_left] at refused
  rw [← refused]
  cases p.join? [segment] <;> simp

/-- How a path with any text is named, and how it is with a segment joined to it. -/
structure Naming (p : Path) : Prop where
  /-- Its name is its last component, or empty if it has none. -/
  name : p.name = p.parts.getLastD []
  /-- Under the scheme of buckets, a path that segments amount to takes every segment without it. -/
  accepted
    : p.view.scheme = Bucket.scheme
      → p.view.Makes p
      → ∀ segment : List Char,
          (∃ q, p.join? [segment] = .ok q) ↔ ¬"gs:".toList <+: segment
  joined
    : ∀ (segment : List Char) (q : Path), p.join? [segment] = .ok q → p.Extended segment q

/-- Every path is named by its last component, whatever its text and whatever is joined to it. -/
theorem lastName_naming (p : Path) : p.Naming where
  name := p.name_eq_getLastD
  accepted := join?_accepted_iff
  joined _ _ := extended_of_join?

/-- A path that ends with a slash is named by what is joined to it, less the slashes. A location is
not joined to it.
-/
theorem lastName_naming_dated
    : let v : View := ⟨"data", .standard, "gs"⟩
      let p : Path := ⟨v, "/raw/".toList⟩
      let q : Path := ⟨v, "/raw/2024/05/".toList⟩
      v.pathOf ["/raw//".toList] = .ok p
      ∧ p.name = "raw".toList
      ∧ p.join? ["//2024//05//".toList] = .ok q
      ∧ q.name = "05".toList
      ∧ p.Extended "//2024//05//".toList q
      ∧ ¬∃ r, p.join? ["gs://data/05".toList] = .ok r := by
  have made : View.pathOf ⟨"data", .standard, "gs"⟩ ["/raw//".toList]
      = .ok ⟨⟨"data", .standard, "gs"⟩, "/raw/".toList⟩ :=
    rfl
  have naming := lastName_naming ⟨⟨"data", .standard, "gs"⟩, "/raw/".toList⟩
  have marked : "gs:".toList <+: "gs://data/05".toList := by decide +kernel
  have refused := (naming.accepted rfl (.path made) "gs://data/05".toList).not_left.mpr marked
  exact ⟨made, rfl, rfl, rfl, naming.joined _ _ rfl, refused⟩

end CloudBuckets.Path
