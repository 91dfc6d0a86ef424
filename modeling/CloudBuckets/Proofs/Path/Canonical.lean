import CloudBuckets.Path.Walk
import CloudBuckets.Proofs.Path.Components

/-! The canonical form of paths. The components of a path are those of its segments. Where it may
have no empty ones, its text is made of these, of whether it is absolute, and of whether it ends
with a slash.
-/

namespace CloudBuckets

namespace Path

-----------------------------------------------------------------------------------------
-- Canonical texts
-----------------------------------------------------------------------------------------

/-- The canonical text of components: a slash in front of absolute ones, single slashes in between,
and a slash at the end if asked for, but only after a component.
-/
def canonical (absolute : Bool) (components : List (List Char)) (trailing : Bool) : List Char :=
  (if absolute then ['/'] else [])
  ++ List.intercalate ['/'] components
  ++ if trailing && !components.isEmpty then ['/'] else []

theorem canonical_absolute (components : List (List Char)) (trailing : Bool)
    : canonical true components trailing = '/' :: canonical false components trailing := by
  simp [canonical]

/-- The first component may be extended before or after all are written. -/
theorem canonical_extend (c : Char) (first : List Char) (more : List (List Char)) (trailing : Bool)
    : canonical false ((c :: first) :: more) trailing
      = c :: canonical false (first :: more) trailing := by
  cases more <;> simp [canonical]

theorem canonical_cons_cons (first second : List Char) (more : List (List Char)) (trailing : Bool)
    : canonical false (first :: second :: more) trailing
      = first ++ '/' :: canonical false (second :: more) trailing := by
  simp [canonical]

/-- A text collapses to the canonical text of its components, by induction on the text. -/
theorem collapse_eq_canonical (text : List Char)
    : collapse text
      = canonical (text.head? == some '/') (components text) (text.getLast? == some '/') := by
  have relative : ∀ {c : Char} (rest : List Char),
      c ≠ '/' → ((c :: rest).head? == some '/') = false := by
    intro c rest letter
    simpa using letter
  induction text with
  | nil => rfl
  | cons c rest ih =>
      rcases collapse_cases c rest with ⟨rfl, more, rfl⟩ | kept
      · rw [collapse_slashes, ih, components_slash, List.getLast?_cons_cons]
        rfl
      · rw [collapse_cons kept, ih]
        cases rest with
        | nil =>
            by_cases letter : c = '/'
            · subst letter
              rfl
            · simp [canonical, components_single letter, letter]
        | cons d more =>
            rw [List.getLast?_cons_cons]
            by_cases letter : c = '/'
            · subst letter
              have next : d ≠ '/' := by simpa using kept
              rw [relative more next, components_slash]
              exact (canonical_absolute _ _).symm
            · rw [relative (d :: more) letter]
              by_cases next : d = '/'
              · subst next
                rw [components_before_slash letter, components_slash]
                simp only [List.head?_cons, beq_self_eq_true, canonical_absolute]
                cases parts : components more with
                | nil =>
                    -- nothing but slashes follows, so that the text ends with one
                    have ends := getLast?_of_no_components (List.cons_ne_nil '/' more)
                      (by simpa using parts)
                    simp [canonical, ends]
                | cons first others => rw [canonical_cons_cons, List.singleton_append]
              · obtain ⟨first, others, before, extended⟩ := components_extend letter next more
                rw [relative more next, before, extended, canonical_extend]

-----------------------------------------------------------------------------------------
-- Paths
-----------------------------------------------------------------------------------------

/-- What the first segment begins with that is not empty. -/
def opening (segments : List (List Char)) : Option Char :=
  (segments.find? (!·.isEmpty)).bind List.head?

/-- What the last segment ends with that is not empty. -/
def closing (segments : List (List Char)) : Option Char :=
  (segments.reverse.find? (!·.isEmpty)).bind List.getLast?

/-- Joined segments begin as the first of them that is not empty. -/
theorem head?_join (segments : List (List Char)) : (join segments).head? = opening segments := by
  induction segments using List.reverseRecOn with
  | nil => rfl
  | append_singleton segments last ih =>
      rw [join_concat, head?_append, ih]
      unfold opening
      rw [List.find?_append]
      cases found : segments.find? (!·.isEmpty) with
      | none => cases last <;> simp
      | some first =>
          have filled := List.find?_some found
          cases first <;> simp_all

theorem getLast?_join (segments : List (List Char))
    : (join segments).getLast? = closing segments := by
  induction segments using List.reverseRecOn with
  | nil => rfl
  | append_singleton segments last ih =>
      rw [join_concat, getLast?_append, ih]
      cases last <;> simp [closing, List.getLast?_cons]

end Path

/-- The text of the path that segments amount to. -/
def View.written (v : View) (segments : List (List Char)) : List Char :=
  if v.configuration.permitEmptyComponents then Path.join segments
  else Path.collapse (Path.join segments)

/-- Segments that are accepted amount to the path with their text. -/
theorem View.pathOf_ok {v : View} {segments : List (List Char)} {p : Path}
    (made : v.pathOf segments = .ok p)
    : p = ⟨v, v.written segments⟩ := by
  cases segments with
  | nil => cases made
  | cons first more =>
      simp only [pathOf, path, resolve] at made
      split at made
      · cases made
      · split at made <;> cases made
        rfl

/-- To join segments to a path is to make one whose first segment is its text. -/
theorem Path.pathOf_of_join? {p q : Path} {segments : List (List Char)}
    (made : p.join? segments = .ok q)
    : p.view.pathOf (p.raw :: segments) = .ok q :=
  congrArg (Except.mapError Error.bucketName) made

/-- The paths that segments amount to in a view, by themselves or joined to any path of it. -/
inductive View.Makes (v : View) : Path → Prop
  | path {segments : List (List Char)} {p : Path} (made : v.pathOf segments = .ok p) : v.Makes p
  | join {raw : List Char} {segments : List (List Char)} {p : Path}
    (made : (⟨v, raw⟩ : Path).join? segments = .ok p) : v.Makes p

/-- A path made in either way is one that segments amount to. -/
theorem View.Makes.pathOf {v : View} {p : Path} (made : v.Makes p)
    : ∃ segments, v.pathOf segments = .ok p := by
  cases made with
  | path made => exact ⟨_, made⟩
  | join made => exact ⟨_, Path.pathOf_of_join? made⟩

namespace View

variable {v : View} {segments : List (List Char)}

theorem components_written
    : Path.components (v.written segments) = segments.flatMap Path.components := by
  unfold written
  split <;> simp [Path.components_join]

theorem head?_written : (v.written segments).head? = Path.opening segments := by
  unfold written
  split <;> simp [Path.head?_join]

theorem getLast?_written : (v.written segments).getLast? = Path.closing segments := by
  unfold written
  split <;> simp [Path.getLast?_join]

/-- Where no component may be empty, no two slashes follow each other in the text of a path. -/
theorem no_slashes_written (strict : v.configuration.permitEmptyComponents = false)
    (segments : List (List Char))
    : ¬ ['/', '/'] <:+: v.written segments := by
  simp only [written, strict]
  exact Path.no_slashes_collapse _

/-- Where no component may be empty, the text of a path is canonical. -/
theorem written_eq_canonical (strict : v.configuration.permitEmptyComponents = false)
    : v.written segments
      = Path.canonical ((v.written segments).head? == some '/')
          (Path.components (v.written segments))
          ((v.written segments).getLast? == some '/') := by
  have collapsed : Path.collapse (v.written segments) = v.written segments := by
    simp [written, strict, Path.collapse_collapse]
  rw [← Path.collapse_eq_canonical, collapsed]

end View

namespace Path

/-- The components of a text are the texts between slashes that are not empty. -/
theorem components_eq_splitOn (text : List Char)
    : components text = (text.splitOn '/').filter fun component => component ≠ [] := by
  rw [← split_eq_splitOn]
  exact List.filter_congr fun component _ => by cases component <;> rfl

/-- What the path that segments amount to is made of. -/
structure Canonical (segments : List (List Char)) (p : Path) : Prop where
  /-- Its components are those of the segments, in order. -/
  parts
    : p.parts
      = segments.flatMap fun segment => (segment.splitOn '/').filter fun component => component ≠ []
  absolute : p.isAbsolute = true ↔ opening segments = some '/'
  /-- Where no component may be empty, its text is canonical. -/
  raw
    : p.view.configuration.permitEmptyComponents = false
      → p.raw = canonical p.isAbsolute p.parts (closing segments == some '/')
  noSlashes
    : p.view.configuration.permitEmptyComponents = false → ¬ ['/', '/'] <:+: p.raw
  /-- Then it is told from other paths that segments amount to by what it is made of. -/
  same_iff
    : p.view.configuration.permitEmptyComponents = false
      → ∀ (w : View) (others : List (List Char)) (q : Path),
          p.view.same w = true
          → w.pathOf others = .ok q
          → (p.same q = true
            ↔ p.isAbsolute = q.isAbsolute
              ∧ p.parts = q.parts
              ∧ (p.raw.getLast? = some '/' ↔ q.raw.getLast? = some '/'))

/-- Canonical texts are the same just if they agree in what they are made of. -/
theorem written_eq_iff {v w : View} (strict : v.configuration.permitEmptyComponents = false)
    (strictOther : w.configuration.permitEmptyComponents = false)
    (segments others : List (List Char))
    : v.written segments = w.written others
      ↔ ((v.written segments).head? == some '/') = ((w.written others).head? == some '/')
        ∧ components (v.written segments) = components (w.written others)
        ∧ ((v.written segments).getLast? = some '/' ↔ (w.written others).getLast? = some '/') := by
  constructor
  · intro equal
    simp only [equal, true_and]
  · rintro ⟨sameStart, sameParts, sameEnd⟩
    have sameTrailing : ((v.written segments).getLast? == some '/')
        = ((w.written others).getLast? == some '/') := by
      rw [Bool.eq_iff_iff]
      simpa using sameEnd
    rw [View.written_eq_canonical strict, View.written_eq_canonical strictOther, sameTrailing]
    exact congrArg₂ (canonical · · _) sameStart sameParts

/-- Every path that segments amount to has canonical form. -/
theorem pathOf_canonical {v : View} {segments : List (List Char)} {p : Path}
    (made : v.pathOf segments = .ok p)
    : Canonical segments p where
  parts := by
    obtain rfl := View.pathOf_ok made
    have sameParts : components (v.written segments) = segments.flatMap components :=
      View.components_written
    simpa only [parts, funext components_eq_splitOn] using sameParts
  absolute := by
    obtain rfl := View.pathOf_ok made
    simp [isAbsolute, View.head?_written]
  raw strict := by
    obtain rfl := View.pathOf_ok made
    rw [← View.getLast?_written (v := v)]
    exact View.written_eq_canonical strict
  noSlashes strict := by
    obtain rfl := View.pathOf_ok made
    have collapsed : v.written segments = collapse (join segments) := by
      simp_all [View.written]
    exact collapsed ▸ no_slashes_collapse (join segments)
  same_iff strict w others q sameView madeOther := by
    obtain rfl := View.pathOf_ok made
    obtain rfl := View.pathOf_ok madeOther
    have sameConfiguration : v.configuration = w.configuration := by
      simp_all [View.same]
    have sameRaw : same ⟨v, v.written segments⟩ ⟨w, w.written others⟩ = true
        ↔ v.written segments = w.written others := by
      simp_all [same]
    rw [sameRaw]
    exact written_eq_iff strict (sameConfiguration ▸ strict) segments others

/-- Segments with empty components, one empty segment among them, and one that is all slashes. -/
def scattered : List (List Char) :=
  ["/raw//".toList, [], "/2024//05".toList, "//".toList]

/-- They amount to an absolute path of three components with a slash at its end. -/
theorem scattered_canonical
    : let v : View := ⟨"data", .standard, "gs"⟩
      let p : Path := ⟨v, "/raw/2024/05/".toList⟩
      v.pathOf scattered = .ok p
      ∧ p.parts = ["raw".toList, "2024".toList, "05".toList]
      ∧ Canonical scattered p := by
  have made : View.pathOf ⟨"data", .standard, "gs"⟩ scattered
      = .ok ⟨⟨"data", .standard, "gs"⟩, "/raw/2024/05/".toList⟩ :=
    rfl
  exact ⟨made, rfl, pathOf_canonical made⟩

end Path

end CloudBuckets
