import CloudBuckets.Proofs.Path.Canonical

/-! Paths are joined in any grouping. A path that segments amount to can be read back from its text,
since no scheme comes up where segments meet, and since what has been collapsed may be collapsed
once more with what is appended to it.
-/

namespace CloudBuckets

-----------------------------------------------------------------------------------------
-- What joined texts begin with
-----------------------------------------------------------------------------------------

namespace Path

/-- What holds no slash begins a text before its first slash. -/
theorem prefix_before_slash {mark before after : List Char} (clean : '/' ∉ mark)
    (begins : mark <+: before ++ '/' :: after)
    : mark <+: before := by
  rcases List.prefix_or_prefix_of_prefix begins (List.prefix_append before _) with here | longer
  · exact here
  · obtain ⟨rest, rfl⟩ := longer
    cases rest with
    | nil => exact (List.append_nil before).symm ▸ List.prefix_rfl
    | cons c more =>
        obtain ⟨tail, same⟩ := begins
        rw [List.append_assoc, List.append_cancel_left_eq] at same
        obtain ⟨rfl, _⟩ := List.cons.inj same
        simp at clean

/-- It begins a text with a segment appended only if it begins one of the two. -/
theorem prefix_append {mark joined segment : List Char} (clean : '/' ∉ mark)
    (begins : mark <+: append joined segment)
    : mark <+: joined ∨ mark <+: segment := by
  unfold append at begins
  split at begins
  · exact .inl begins
  · split at begins
    · rename_i start
      rcases Bool.or_eq_true_iff.mp start with empty | ends
      · exact .inr (by simpa [List.isEmpty_iff.mp empty] using begins)
      · obtain ⟨before, rfl⟩ := List.getLast?_eq_some_iff.mp (by simpa using ends)
        rw [List.append_assoc] at begins
        exact .inl ((prefix_before_slash clean begins).trans (List.prefix_append before _))
    · exact .inl (prefix_before_slash clean begins)

/-- It begins joined segments only if it begins one of them, by induction from the last one. -/
theorem prefix_join {mark : List Char} (marked : mark ≠ []) (clean : '/' ∉ mark)
    {segments : List (List Char)} (begins : mark <+: join segments)
    : ∃ segment ∈ segments, mark <+: segment := by
  induction segments using List.reverseRecOn with
  | nil => exact absurd (List.prefix_nil.mp begins) marked
  | append_singleton segments last ih =>
      rw [join_concat] at begins
      rcases prefix_append clean begins with earlier | here
      · obtain ⟨segment, member, found⟩ := ih earlier
        exact ⟨segment, List.mem_append_left _ member, found⟩
      · exact ⟨last, by simp, here⟩

/-- It begins a collapsed text only if it begins the text, by induction on it. -/
theorem prefix_of_collapse {mark text : List Char} (clean : '/' ∉ mark)
    (begins : mark <+: collapse text)
    : mark <+: text := by
  induction mark generalizing text with
  | nil => exact List.nil_prefix
  | cons m more ih =>
      obtain ⟨letter, cleanMore⟩ := not_or.mp (mt List.mem_cons.mpr clean)
      cases text with
      | nil => exact begins
      | cons c rest =>
          have sameHead : m = c := by
            obtain ⟨tail, same⟩ := begins
            have begun := head?_collapse (c :: rest)
            simpa [← same] using begun
          subst sameHead
          rw [collapse_cons fun slash => absurd slash.symm letter, List.cons_prefix_cons] at begins
          exact List.cons_prefix_cons.mpr ⟨rfl, ih cleanMore begins.2⟩

end Path

theorem Bucket.hasScheme_iff {scheme : String} {text : List Char}
    : hasScheme scheme text = true ↔ schemeMark scheme <+: text :=
  List.isPrefixOf_iff_prefix

-----------------------------------------------------------------------------------------
-- Paths of segments
-----------------------------------------------------------------------------------------

namespace View

variable {v : View}

/-- The text of a path, with segments joined to it, is that of all segments. -/
theorem written_append (v : View) (xs ys : List (List Char))
    : v.written (v.written xs :: ys) = v.written (xs ++ ys) := by
  unfold written
  split
  · rw [Path.join_cons, Path.join_append]
  · rw [Path.join_cons, Path.join_append]
    exact Path.collapse_foldl_append (Path.collapse_collapse _) ys

/-- A text with the scheme of buckets comes from a segment with it. -/
theorem unmarked_written {segments : List (List Char)}
    (unmarked : ∀ segment ∈ segments, Bucket.hasScheme Bucket.scheme segment = false)
    : Bucket.hasScheme Bucket.scheme (v.written segments) = false := by
  by_contra marked
  have begins : Bucket.schemeMark Bucket.scheme <+: v.written segments :=
    Bucket.hasScheme_iff.mp (by simpa using marked)
  have clean : '/' ∉ Bucket.schemeMark Bucket.scheme := by decide
  have joined : Bucket.schemeMark Bucket.scheme <+: Path.join segments := by
    unfold written at begins
    split at begins
    · exact begins
    · exact Path.prefix_of_collapse clean begins
  obtain ⟨segment, member, found⟩ := Path.prefix_join (by decide) clean joined
  have free := unmarked segment member
  rw [Bucket.hasScheme_iff.mpr found] at free
  cases free

/-- After segments that are accepted, a path depends on whether a further one is refused. -/
theorem pathOf_append (standard : v.scheme = Bucket.scheme) {xs : List (List Char)}
    (filled : xs ≠ [])
    (unmarked : ∀ segment ∈ xs, Bucket.hasScheme Bucket.scheme segment = false)
    (ys : List (List Char))
    : v.pathOf (xs ++ ys)
      = match ys.find? (Bucket.hasScheme Bucket.scheme) with
        | some segment => .error (.bucketName (.schemeInSegment segment))
        | none => .ok ⟨v, v.written (xs ++ ys)⟩ := by
  have passed : (xs ++ ys).find? (Bucket.hasScheme Bucket.scheme)
      = ys.find? (Bucket.hasScheme Bucket.scheme) := by
    rw [List.find?_append, List.find?_eq_none.mpr (by simpa using unmarked), Option.none_or]
  cases xs with
  | nil => exact absurd rfl filled
  | cons first more =>
      have unmarkedFirst := unmarked first List.mem_cons_self
      rw [List.cons_append] at passed ⊢
      simp only [pathOf, path, resolve, standard, unmarkedFirst, passed]
      cases ys.find? (Bucket.hasScheme Bucket.scheme) <;> rfl

/-- None of the segments of a path has the scheme of buckets. -/
theorem unmarked_of_ok (standard : v.scheme = Bucket.scheme) {xs : List (List Char)} {p : Path}
    (made : v.pathOf xs = .ok p)
    : ∀ segment ∈ xs, Bucket.hasScheme Bucket.scheme segment = false := by
  cases xs with
  | nil => cases made
  | cons first more =>
      simp only [pathOf, path, resolve, standard] at made
      split at made
      · cases made
      · split at made
        · cases made
        · rename_i passed
          intro segment member
          simpa using List.find?_eq_none.mp passed segment member

theorem ne_nil_of_ok {xs : List (List Char)} {p : Path} (made : v.pathOf xs = .ok p) : xs ≠ [] := by
  rintro rfl
  cases made

/-- A refusal of segments is one of more segments. -/
theorem pathOf_append_error {xs : List (List Char)} (filled : xs ≠ []) {error : Error}
    (refused : v.pathOf xs = .error error) (ys : List (List Char))
    : v.pathOf (xs ++ ys) = .error error := by
  cases xs with
  | nil => exact absurd rfl filled
  | cons first more =>
      simp only [List.cons_append, pathOf, path, resolve] at refused ⊢
      split at refused
      · rwa [if_pos ‹_›]
      · rw [if_neg ‹_›]
        split at refused
        · rename_i segment found
          rw [← List.cons_append, List.find?_append, found]
          exact refused
        · cases refused

/-- To join segments to a path is to make one of all segments. -/
theorem join?_eq (standard : v.scheme = Bucket.scheme) {xs : List (List Char)} {p : Path}
    (made : v.pathOf xs = .ok p) (ys : List (List Char))
    : (p.join? ys).mapError Error.bucketName = v.pathOf (xs ++ ys) := by
  have unmarked := unmarked_of_ok standard made
  obtain rfl := pathOf_ok made
  have reread : ((⟨v, v.written xs⟩ : Path).join? ys).mapError Error.bucketName
      = v.pathOf ([v.written xs] ++ ys) :=
    rfl
  rw [reread, pathOf_append standard (ne_nil_of_ok made) unmarked,
    pathOf_append standard (List.cons_ne_nil _ _) (by simpa using unmarked_written unmarked),
    List.singleton_append, written_append]

/-- The same for segments in any grouping, by induction on the groups. -/
theorem foldlM_join?_eq (standard : v.scheme = Bucket.scheme) {xs : List (List Char)} {p : Path}
    (made : v.pathOf xs = .ok p) (groups : List (List (List Char)))
    : (groups.foldlM Path.join? p).mapError Error.bucketName = v.pathOf (xs ++ groups.flatten) := by
  induction groups generalizing xs p with
  | nil =>
      rw [List.flatten_nil, List.append_nil]
      exact made.symm
  | cons group rest ih =>
      have joined := join?_eq standard made group
      rw [List.foldlM_cons, List.flatten_cons, ← List.append_assoc]
      cases next : p.join? group with
      | ok q =>
          rw [next] at joined
          exact ih joined.symm
      | error error =>
          rw [next] at joined
          have refused := pathOf_append_error (by simp [ne_nil_of_ok made]) joined.symm rest.flatten
          exact refused.symm

/-- How paths are joined in a view, from segments `xs` on. -/
structure Joining (v : View) (xs : List (List Char)) : Prop where
  /-- Segments amount to a path unless one of them has the scheme of buckets. -/
  refused
    : (∃ error, v.pathOf xs = .error error) ↔ ∃ segment ∈ xs, "gs:".toList <+: segment
  refusal : ∀ error, v.pathOf xs = .error error → error.kind = .bucketName
  unmarked : ∀ p, v.pathOf xs = .ok p → ¬"gs:".toList <+: p.raw
  joinRefused
    : ∀ (p : Path) (ys : List (List Char)),
        v.pathOf xs = .ok p
        → ((∃ error, p.join? ys = .error error) ↔ ∃ segment ∈ ys, "gs:".toList <+: segment)
  /-- To join further segments comes to the path of all segments, or fails as that does. -/
  join
    : ∀ (p : Path) (ys : List (List Char)),
        v.pathOf xs = .ok p
        → (p.join? ys).mapError Error.bucketName = v.pathOf (xs ++ ys)
  /-- So it does if they are joined in groups, one after the other. -/
  grouped
    : ∀ (p : Path) (groups : List (List (List Char))),
        v.pathOf xs = .ok p
        → (groups.foldlM Path.join? p).mapError Error.bucketName = v.pathOf (xs ++ groups.flatten)
  /-- A path can be read back from its text. -/
  reread : ∀ p, v.pathOf xs = .ok p → v.pathOf [p.raw] = .ok p

theorem marked_iff {segment : List Char}
    : Bucket.hasScheme Bucket.scheme segment = true ↔ "gs:".toList <+: segment :=
  Bucket.hasScheme_iff

/-- Segments are refused if one of them has the scheme, and else accepted. -/
theorem refused_iff (standard : v.scheme = Bucket.scheme) {xs : List (List Char)} (filled : xs ≠ [])
    : (∃ error, v.pathOf xs = .error error) ↔ ∃ segment ∈ xs, "gs:".toList <+: segment := by
  constructor
  · rintro ⟨error, refused⟩
    by_contra none
    have unmarked : ∀ segment ∈ xs, Bucket.hasScheme Bucket.scheme segment = false := by
      intro segment member
      by_contra marked
      exact none ⟨segment, member, marked_iff.mp (by simpa using marked)⟩
    have made := pathOf_append standard filled unmarked []
    rw [List.append_nil, refused] at made
    cases made
  · rintro ⟨segment, member, marked⟩
    cases made : v.pathOf xs with
    | error error => exact ⟨error, rfl⟩
    | ok p =>
        have free := unmarked_of_ok standard made segment member
        rw [marked_iff.mpr marked] at free
        cases free

theorem kind_of_refused {xs : List (List Char)} (filled : xs ≠ []) {error : Error}
    (refused : v.pathOf xs = .error error)
    : error.kind = .bucketName := by
  cases xs with
  | nil => exact absurd rfl filled
  | cons first more =>
      simp only [pathOf] at refused
      cases made : v.path first more with
      | error refusal =>
          rw [made] at refused
          cases refused
          rfl
      | ok p =>
          rw [made] at refused
          cases refused

/-- A path does not begin with the scheme. -/
theorem unmarked_raw (standard : v.scheme = Bucket.scheme) {xs : List (List Char)} {p : Path}
    (made : v.pathOf xs = .ok p)
    : ¬"gs:".toList <+: p.raw := by
  intro marked
  have unmarked := unmarked_written (v := v) (unmarked_of_ok standard made)
  obtain rfl := pathOf_ok made
  rw [marked_iff.mpr marked] at unmarked
  cases unmarked

/-- So to join segments to it fails only if one of them has the scheme. -/
theorem join?_refused_iff (standard : v.scheme = Bucket.scheme) {xs : List (List Char)} {p : Path}
    (made : v.pathOf xs = .ok p) (ys : List (List Char))
    : (∃ error, p.join? ys = .error error) ↔ ∃ segment ∈ ys, "gs:".toList <+: segment := by
  have unmarked := unmarked_raw standard made
  obtain rfl := pathOf_ok made
  have reread : ((⟨v, v.written xs⟩ : Path).join? ys).mapError Error.bucketName
      = v.pathOf (v.written xs :: ys) :=
    rfl
  have all := refused_iff standard (List.cons_ne_nil (v.written xs) ys)
  constructor
  · rintro ⟨error, refused⟩
    rw [refused] at reread
    obtain ⟨segment, member, marked⟩ := all.mp ⟨_, reread.symm⟩
    rcases List.mem_cons.mp member with rfl | later
    · exact absurd marked unmarked
    · exact ⟨segment, later, marked⟩
  · rintro ⟨segment, member, marked⟩
    obtain ⟨error, refused⟩ := all.mpr ⟨segment, List.mem_cons_of_mem _ member, marked⟩
    cases joined : (⟨v, v.written xs⟩ : Path).join? ys with
    | error error => exact ⟨error, rfl⟩
    | ok q =>
        rw [joined, refused] at reread
        cases reread

/-- In a view with the scheme of buckets, joining is closed and does not depend on the grouping. -/
theorem pathOf_joining (standard : v.scheme = Bucket.scheme) {xs : List (List Char)}
    (filled : xs ≠ [])
    : v.Joining xs where
  refused := refused_iff standard filled
  refusal _ := kind_of_refused filled
  unmarked _ := unmarked_raw standard
  joinRefused _ ys made := join?_refused_iff standard made ys
  join _ ys made := join?_eq standard made ys
  grouped _ groups made := foldlM_join?_eq standard made groups
  reread p made := by
    have joined := join?_eq standard made []
    rw [List.append_nil, made] at joined
    obtain rfl := pathOf_ok made
    exact joined

/-- A path of `/raw//` is joined with slashes, with an empty segment, and then with a location. -/
theorem slashes_joining
    : let v : View := ⟨"data", .standard, "gs"⟩
      let p : Path := ⟨v, "/raw/".toList⟩
      v.pathOf ["/raw//".toList] = .ok p
      ∧ (p.join? ["//2024".toList, []]).toOption = some ⟨v, "/raw/2024".toList⟩
      ∧ (p.join? ["gs://data".toList]).toOption = none
      ∧ v.Joining ["/raw//".toList] := by
  exact ⟨rfl, rfl, rfl, pathOf_joining rfl (List.cons_ne_nil _ _)⟩

end View

end CloudBuckets
