import CloudBuckets.Path.Components
import Mathlib.Data.List.Induction

/-! Components of texts that are put together. Neither the slashes between segments nor those that
collapsing drops change the components, the first character or the last one.
-/

namespace CloudBuckets.Path

-----------------------------------------------------------------------------------------
-- Components
-----------------------------------------------------------------------------------------

theorem split_slash (rest : List Char) : split ('/' :: rest) = [] :: split rest := rfl

/-- There is at least one text between slashes. -/
theorem split_ne_nil (text : List Char) : split text ≠ [] := by
  cases text with
  | nil => exact List.cons_ne_nil _ _
  | cons c rest =>
      unfold split
      split
      · simp
      · split <;> simp

/-- A character that is no slash belongs to the first of the texts. -/
theorem split_letter {c : Char} (letter : c ≠ '/') (rest : List Char)
    : split (c :: rest) = (split rest).modifyHead (c :: ·) := by
  cases parted : split rest with
  | nil => exact absurd parted (split_ne_nil rest)
  | cons first more => simp [split, letter, parted]

/-- The texts between slashes are those of the library's splitting of lists. -/
theorem split_eq_splitOn (text : List Char) : split text = text.splitOn '/' := by
  unfold List.splitOn
  induction text with
  | nil => exact List.splitOnP_nil.symm
  | cons c rest ih =>
      rw [List.splitOnP_cons_eq_if_modifyHead, ← ih]
      by_cases slash : c = '/'
      · simp [slash, split_slash]
      · simp [slash, split_letter]

/-- A slash parts the texts on its two sides, by induction on the first. -/
theorem split_append (before after : List Char)
    : split (before ++ '/' :: after) = split before ++ split after := by
  induction before with
  | nil => exact split_slash after
  | cons c rest ih =>
      rw [List.cons_append]
      by_cases slash : c = '/'
      · rw [slash, split_slash, split_slash, ih, List.cons_append]
      · rw [split_letter slash, split_letter slash, ih]
        cases parted : split rest with
        | nil => exact absurd parted (split_ne_nil rest)
        | cons first more => rfl

@[simp]
theorem components_nil : components [] = [] := rfl

theorem components_append_slash (before after : List Char)
    : components (before ++ '/' :: after) = components before ++ components after := by
  simp [components, split_append]

/-- A slash in front adds no component. -/
@[simp]
theorem components_slash (text : List Char) : components ('/' :: text) = components text :=
  components_append_slash [] text

/-- A character before a slash, or at the end, is a component of its own. -/
theorem components_single {c : Char} (letter : c ≠ '/') : components [c] = [[c]] := by
  rw [components, split_letter letter]
  rfl

theorem components_before_slash {c : Char} (letter : c ≠ '/') (rest : List Char)
    : components (c :: '/' :: rest) = [c] :: components rest := by
  have parted := components_append_slash [c] rest
  rwa [components_single letter] at parted

/-- Any other character belongs to the first component of what follows. -/
theorem components_extend {c d : Char} (letter : c ≠ '/') (next : d ≠ '/') (rest : List Char)
    : ∃ first more,
        components (d :: rest) = first :: more
        ∧ components (c :: d :: rest) = (c :: first) :: more := by
  cases parted : split rest with
  | nil => exact absurd parted (split_ne_nil rest)
  | cons first more =>
      refine ⟨d :: first, more.filter fun component => !component.isEmpty, ?_, ?_⟩ <;>
        simp [components, split_letter letter, split_letter next, parted]

/-- The components of a text depend on what follows its first character only by the components of
that, and by what it begins with.
-/
theorem components_cons_congr {c : Char} {rest other : List Char}
    (sameHead : rest.head? = other.head?) (same : components rest = components other)
    : components (c :: rest) = components (c :: other) := by
  by_cases letter : c = '/'
  · subst letter
    simpa using same
  · cases rest with
    | nil => rw [List.head?_eq_none_iff.mp sameHead.symm]
    | cons d more =>
        obtain ⟨more', rfl⟩ := List.head?_eq_some_iff.mp sameHead.symm
        by_cases next : d = '/'
        · subst next
          simpa [components_before_slash letter] using same
        · obtain ⟨_, _, first, extended⟩ := components_extend letter next more
          obtain ⟨_, _, first', extended'⟩ := components_extend letter next more'
          obtain ⟨rfl, rfl⟩ := List.cons.inj (first.symm.trans (same.trans first'))
          rw [extended, extended']

/-- A text has no components just if it is made of slashes. -/
theorem components_eq_nil_iff {text : List Char}
    : components text = [] ↔ ∀ c ∈ text, c = '/' := by
  induction text with
  | nil => simp
  | cons c rest ih =>
      by_cases letter : c = '/'
      · subst letter
        simp [ih]
      · have filled : components (c :: rest) ≠ [] := by
          cases rest with
          | nil => simp [components_single letter]
          | cons d more =>
              by_cases next : d = '/'
              · simp [next, components_before_slash letter]
              · obtain ⟨_, _, _, extended⟩ := components_extend letter next more
                simp [extended]
        simp [filled, letter]

/-- So it ends with one, unless it is empty. -/
theorem getLast?_of_no_components {text : List Char} (filled : text ≠ [])
    (none : components text = [])
    : text.getLast? = some '/' := by
  rw [List.getLast?_eq_some_getLast filled,
    components_eq_nil_iff.mp none _ (List.getLast_mem filled)]

-----------------------------------------------------------------------------------------
-- Segments put together
-----------------------------------------------------------------------------------------

@[simp]
theorem append_nil (joined : List Char) : append joined [] = joined := rfl

@[simp]
theorem nil_append (segment : List Char) : append [] segment = segment := by
  unfold append
  split <;> simp_all

theorem components_append (joined segment : List Char)
    : components (append joined segment) = components joined ++ components segment := by
  unfold append
  split
  · simp_all
  · split
    · rename_i begins
      rcases Bool.or_eq_true_iff.mp begins with empty | ends
      · simp [List.isEmpty_iff.mp empty]
      · obtain ⟨before, rfl⟩ := List.getLast?_eq_some_iff.mp (by simpa using ends)
        simp [components_append_slash]
    · exact components_append_slash joined segment

/-- The first character is that of the first text that has one. -/
theorem head?_append (joined segment : List Char)
    : (append joined segment).head? = joined.head?.or segment.head? := by
  unfold append
  split
  · simp_all
  · split
    · simp
    · cases joined <;> simp_all

theorem getLast?_append (joined segment : List Char)
    : (append joined segment).getLast? = segment.getLast?.or joined.getLast? := by
  unfold append
  split
  · simp_all
  · rename_i filled
    obtain ⟨c, rest, rfl⟩ := List.exists_cons_of_ne_nil (by simpa using filled)
    split <;> simp [List.getLast?_cons]

theorem join_concat (segments : List (List Char)) (last : List Char)
    : join (segments ++ [last]) = append (join segments) last := by
  simp [join]

/-- Segments are joined to those before them. -/
theorem join_append (before after : List (List Char))
    : join (before ++ after) = after.foldl append (join before) :=
  List.foldl_append

theorem join_cons (first : List Char) (more : List (List Char))
    : join (first :: more) = more.foldl append first := by
  simp [join]

/-- What stands before a text that is not empty stays in front of it when a segment is appended. -/
theorem append_append {joined : List Char} (filled : joined ≠ []) (before segment : List Char)
    : append (before ++ joined) segment = before ++ append joined segment := by
  have sameEnd : (before ++ joined).getLast? = joined.getLast? := by
    rw [List.getLast?_append, List.getLast?_eq_some_getLast filled, Option.some_or]
  have sameFilled : (before ++ joined).isEmpty = joined.isEmpty := by
    rw [List.isEmpty_eq_false_iff.mpr filled, List.isEmpty_eq_false_iff]
    exact List.append_ne_nil_of_right_ne_nil before filled
  unfold append
  rw [sameEnd, sameFilled]
  split
  · rfl
  · split <;> exact List.append_assoc before joined _

theorem append_ne_nil {joined : List Char} (filled : joined ≠ []) (segment : List Char)
    : append joined segment ≠ [] := by
  rw [ne_eq, ← List.head?_eq_none_iff, head?_append]
  simp [filled]

/-- It stays in front of several segments that are appended, by induction on them. -/
theorem foldl_append_append {joined : List Char} (filled : joined ≠ []) (before : List Char)
    (segments : List (List Char))
    : segments.foldl append (before ++ joined) = before ++ segments.foldl append joined := by
  induction segments generalizing joined with
  | nil => rfl
  | cons segment rest ih =>
      rw [List.foldl_cons, append_append filled, List.foldl_cons]
      exact ih (append_ne_nil filled segment)

/-- Joined segments have the components of all of them, by induction from the last segment. -/
theorem components_join (segments : List (List Char))
    : components (join segments) = segments.flatMap components := by
  induction segments using List.reverseRecOn with
  | nil => rfl
  | append_singleton segments last ih =>
      simp [join_concat, components_append, ih]

-----------------------------------------------------------------------------------------
-- Slashes that follow each other, and collapsed texts
-----------------------------------------------------------------------------------------

/-- Two slashes follow each other at the start of a text or later. -/
theorem slashes_cons {c : Char} {rest : List Char}
    : ['/', '/'] <:+: c :: rest
      ↔ c = '/' ∧ rest.head? = some '/' ∨ ['/', '/'] <:+: rest := by
  have start : ['/'] <+: rest ↔ rest.head? = some '/' := by
    rw [List.head?_eq_some_iff]
    exact exists_congr fun after => eq_comm
  rw [List.infix_cons_iff, List.cons_prefix_cons, start, eq_comm]

/-- In two texts put together they follow each other in one of these, or where these meet. -/
theorem slashes_append {before after : List Char}
    : ['/', '/'] <:+: before ++ after
      ↔ ['/', '/'] <:+: before
        ∨ ['/', '/'] <:+: after
        ∨ before.getLast? = some '/' ∧ after.head? = some '/' := by
  induction before with
  | nil => simp
  | cons c rest ih =>
      rw [List.cons_append, slashes_cons, ih, slashes_cons]
      cases rest with
      | nil => simp; tauto
      | cons d more => simp only [List.cons_append, List.head?_cons, List.getLast?_cons_cons]; tauto

@[simp]
theorem collapse_nil : collapse [] = [] := rfl

theorem collapse_eq_ite (c : Char) (rest : List Char)
    : collapse (c :: rest)
      = if c = '/' && rest.head? == some '/' then collapse rest else c :: collapse rest := rfl

/-- A slash before another one is dropped. -/
theorem collapse_slashes (rest : List Char)
    : collapse ('/' :: '/' :: rest) = collapse ('/' :: rest) := rfl

/-- Any other character is kept. -/
theorem collapse_cons {c : Char} {rest : List Char} (kept : c = '/' → rest.head? ≠ some '/')
    : collapse (c :: rest) = c :: collapse rest := by
  rw [collapse_eq_ite, if_neg]
  simpa using kept

/-- A character begins two slashes or is kept. -/
theorem collapse_cases (c : Char) (rest : List Char)
    : (c = '/' ∧ ∃ more, rest = '/' :: more) ∨ (c = '/' → rest.head? ≠ some '/') := by
  by_cases slash : c = '/'
  · cases rest with
    | nil => simp
    | cons d more => by_cases next : d = '/' <;> simp [slash, next]
  · exact .inr fun same => absurd same slash

@[simp]
theorem head?_collapse (text : List Char) : (collapse text).head? = text.head? := by
  induction text with
  | nil => rfl
  | cons c rest ih =>
      rcases collapse_cases c rest with ⟨rfl, more, rfl⟩ | kept
      · rw [collapse_slashes, ih]
        rfl
      · simp [collapse_cons kept]

@[simp]
theorem collapse_eq_nil_iff {text : List Char} : collapse text = [] ↔ text = [] := by
  rw [← List.head?_eq_none_iff, head?_collapse, List.head?_eq_none_iff]

@[simp]
theorem getLast?_collapse (text : List Char) : (collapse text).getLast? = text.getLast? := by
  induction text with
  | nil => rfl
  | cons c rest ih =>
      rcases collapse_cases c rest with ⟨rfl, more, rfl⟩ | kept
      · rw [collapse_slashes, ih, List.getLast?_cons_cons]
      · rw [collapse_cons kept, List.getLast?_cons, List.getLast?_cons, ih]

@[simp]
theorem components_collapse (text : List Char) : components (collapse text) = components text := by
  induction text with
  | nil => rfl
  | cons c rest ih =>
      rcases collapse_cases c rest with ⟨rfl, more, rfl⟩ | kept
      · rw [collapse_slashes, ih]
        exact (components_slash _).symm
      · rw [collapse_cons kept]
        exact components_cons_congr (head?_collapse rest) ih

/-- No two slashes follow each other in a collapsed text. -/
theorem no_slashes_collapse (text : List Char) : ¬ ['/', '/'] <:+: collapse text := by
  induction text with
  | nil => simp
  | cons c rest ih =>
      rcases collapse_cases c rest with ⟨rfl, more, rfl⟩ | kept
      · rwa [collapse_slashes]
      · rw [collapse_cons kept, slashes_cons, head?_collapse]
        rintro (⟨slash, next⟩ | later)
        · exact kept slash next
        · exact ih later

/-- A text in which no two slashes follow each other stays as it is. -/
theorem collapse_eq_self {text : List Char} (single : ¬ ['/', '/'] <:+: text)
    : collapse text = text := by
  induction text with
  | nil => rfl
  | cons c rest ih =>
      rw [slashes_cons, not_or, not_and] at single
      rw [collapse_cons single.1, ih single.2]

/-- Texts between which no slash is dropped are collapsed one by one. -/
theorem collapse_append_apart {before after : List Char}
    (apart : after.head? ≠ some '/')
    : collapse (before ++ after) = collapse before ++ collapse after := by
  induction before with
  | nil => rfl
  | cons c rest ih =>
      rcases collapse_cases c rest with ⟨rfl, more, rfl⟩ | kept
      · rw [collapse_slashes, ← ih]
        exact collapse_slashes (more ++ after)
      · have keptAlso : c = '/' → (rest ++ after).head? ≠ some '/' := by
          intro slash
          cases rest with
          | nil => exact apart
          | cons d more => exact kept slash
        rw [List.cons_append, collapse_cons keptAlso, ih, collapse_cons kept, List.cons_append]

/-- What has been collapsed already may be collapsed again with what follows it. -/
theorem collapse_collapse_append (before after : List Char)
    : collapse (collapse before ++ after) = collapse (before ++ after) := by
  induction before with
  | nil => rfl
  | cons c rest ih =>
      rcases collapse_cases c rest with ⟨rfl, more, rfl⟩ | kept
      · rw [collapse_slashes, ih]
        exact (collapse_slashes (more ++ after)).symm
      · have sameHead : (collapse rest ++ after).head? = (rest ++ after).head? := by
          rw [List.head?_append, head?_collapse, List.head?_append]
        rw [collapse_cons kept, List.cons_append, List.cons_append, collapse_eq_ite,
          collapse_eq_ite, sameHead, ih]

theorem collapse_collapse (text : List Char) : collapse (collapse text) = collapse text := by
  simpa using collapse_collapse_append text []

/-- A segment may be appended before or after collapsing. -/
theorem collapse_append (joined segment : List Char)
    : collapse (append (collapse joined) segment) = collapse (append joined segment) := by
  have sameEmpty : (collapse joined).isEmpty = joined.isEmpty :=
    Bool.eq_iff_iff.mpr (by simp)
  unfold append
  rw [sameEmpty, getLast?_collapse]
  split
  · exact collapse_collapse joined
  · split <;> exact collapse_collapse_append joined _

/-- Texts that collapse alike do so with further segments, by induction on these. -/
theorem collapse_foldl_append {joined other : List Char} (same : collapse joined = collapse other)
    (segments : List (List Char))
    : collapse (segments.foldl append joined) = collapse (segments.foldl append other) := by
  induction segments generalizing joined other with
  | nil => exact same
  | cons segment rest ih =>
      refine ih ?_
      rw [← collapse_append joined, same, collapse_append]

end CloudBuckets.Path
