import CloudBuckets.Path.Walk
import CloudBuckets.Proofs.Path.Absolute

/-! Locations of paths. A location is the name of a bucket followed by the absolute text of a path.
Since this text begins with a slash, a location names one object as long as no name of a bucket has
a slash; a name with one may take in what begins a path of another bucket.
-/

namespace CloudBuckets.Path

/-- Two paths stand for the same object, in buckets of one name. -/
def SameObject (p q : Path) : Prop :=
  p.view.bucket = q.view.bucket ∧ p.toAbsolute.raw = q.toAbsolute.raw

theorem SameObject.symm {p q : Path} (same : p.SameObject q) : q.SameObject p :=
  ⟨Eq.symm same.1, Eq.symm same.2⟩

/-- The first path begins with what the bucket name of the second one has more than its own, from a
slash on, and goes on as the second path.
-/
def Overlaps (p q : Path) : Prop :=
  ∃ rest,
    q.view.bucket.toList = p.view.bucket.toList ++ '/' :: rest
    ∧ p.toAbsolute.raw = '/' :: rest ++ q.toAbsolute.raw

variable {p q : Path}

/-- The scheme in front of all locations does not matter. -/
theorem uri_eq_iff_append
    : p.uri = q.uri
      ↔ p.view.bucket.toList ++ p.toAbsolute.raw = q.view.bucket.toList ++ q.toAbsolute.raw := by
  simp [uri, View.location]

/-- A name that is longer goes on with the slash at which the other path begins. -/
theorem sameObject_or_overlaps {more : List Char}
    (longer : q.view.bucket.toList = p.view.bucket.toList ++ more)
    (begins : p.toAbsolute.raw = more ++ q.toAbsolute.raw)
    : p.SameObject q ∨ p.Overlaps q := by
  cases more with
  | nil =>
      rw [List.append_nil] at longer
      exact .inl ⟨String.toList_inj.mp longer.symm, begins⟩
  | cons c rest =>
      have slash := p.head?_toAbsolute
      rw [begins, List.cons_append, List.head?_cons, Option.some_inj] at slash
      subst slash
      exact .inr ⟨rest, longer, begins⟩

theorem Overlaps.uri_eq (overlap : p.Overlaps q) : p.uri = q.uri := by
  obtain ⟨rest, longer, begins⟩ := overlap
  rw [uri_eq_iff_append, longer, begins, List.append_assoc]

/-- Locations are the same if the objects are, or if one path overlaps the other. -/
theorem uri_eq_iff : p.uri = q.uri ↔ p.SameObject q ∨ p.Overlaps q ∨ q.Overlaps p := by
  constructor
  · intro same
    rcases List.append_eq_append_iff.mp (uri_eq_iff_append.mp same) with
      ⟨more, longer, begins⟩ | ⟨more, longer, begins⟩
    · rcases sameObject_or_overlaps longer begins with object | overlap
      · exact .inl object
      · exact .inr (.inl overlap)
    · rcases sameObject_or_overlaps longer begins with object | overlap
      · exact .inl object.symm
      · exact .inr (.inr overlap)
  · rintro (⟨sameBucket, sameText⟩ | overlap | overlap)
    · rw [uri_eq_iff_append, sameBucket, sameText]
    · exact overlap.uri_eq
    · exact overlap.uri_eq.symm

end CloudBuckets.Path

namespace CloudBuckets.View

/-- The name of the second bucket is that of the first one, a slash and maybe more. -/
def Encloses (v w : View) : Prop :=
  ∃ rest, w.bucket.toList = v.bucket.toList ++ '/' :: rest

theorem Encloses.slash_mem {v w : View} (encloses : v.Encloses w) : '/' ∈ w.bucket.toList := by
  obtain ⟨rest, longer⟩ := encloses
  simp [longer]

/-- Just these are the buckets whose paths another path may overlap. -/
theorem encloses_iff_overlaps {v w : View}
    : v.Encloses w ↔ ∃ p q : Path, p.view = v ∧ q.view = w ∧ p.Overlaps q := by
  constructor
  · rintro ⟨rest, longer⟩
    exact ⟨⟨v, '/' :: rest ++ ['/']⟩, ⟨w, ['/']⟩, rfl, rfl, rest, longer, rfl⟩
  · rintro ⟨p, q, rfl, rfl, rest, longer, _⟩
    exact ⟨rest, longer⟩

/-- What the locations of paths tell in two views of any buckets. -/
structure Located (v w : View) : Prop where
  /-- They name one object each just if neither bucket encloses the other one. -/
  identifies_iff
    : (∀ p q : Path, p.view = v → q.view = w → (p.uri = q.uri ↔ p.SameObject q))
      ↔ ¬ v.Encloses w ∧ ¬ w.Encloses v
  /-- So they do in buckets whose names have no slash. -/
  slashless
    : '/' ∉ v.bucket.toList
      → '/' ∉ w.bucket.toList
      → ∀ p q : Path, p.view = v → q.view = w → (p.uri = q.uri ↔ p.SameObject q)

theorem identifies_of_apart {v w : View} (apart : ¬ v.Encloses w) (apartToo : ¬ w.Encloses v)
    (p q : Path) (inFirst : p.view = v) (inSecond : q.view = w)
    : p.uri = q.uri ↔ p.SameObject q := by
  have here : ¬ p.Overlaps q := fun overlap =>
    apart (encloses_iff_overlaps.mpr ⟨p, q, inFirst, inSecond, overlap⟩)
  have there : ¬ q.Overlaps p := fun overlap =>
    apartToo (encloses_iff_overlaps.mpr ⟨q, p, inSecond, inFirst, overlap⟩)
  simp only [Path.uri_eq_iff, here, there, or_false]

/-- Where two paths overlap, their buckets differ although their locations do not. -/
theorem apart_of_identifies {v w : View}
    (identifies : ∀ p q : Path, p.view = v → q.view = w → (p.uri = q.uri → p.SameObject q))
    : ¬ v.Encloses w := by
  intro encloses
  obtain ⟨p, q, inFirst, inSecond, overlap⟩ := encloses_iff_overlaps.mp encloses
  have sameBucket := (identifies p q inFirst inSecond overlap.uri_eq).1
  obtain ⟨rest, longer, _⟩ := overlap
  simp [sameBucket] at longer

/-- In any two views, locations name one object each just if neither bucket encloses the other. -/
theorem located (v w : View) : v.Located w where
  identifies_iff := by
    constructor
    · intro identifies
      exact ⟨apart_of_identifies fun p q here there => (identifies p q here there).mp,
        apart_of_identifies fun q p there here sameUri =>
          ((identifies p q here there).mp sameUri.symm).symm⟩
    · rintro ⟨apart, apartToo⟩
      exact identifies_of_apart apart apartToo
  slashless clean cleanToo :=
    identifies_of_apart (fun encloses => cleanToo encloses.slash_mem)
      (fun encloses => clean encloses.slash_mem)

/-- A bucket may be named `data/raw`, and then `/x` in it has the location of `/raw/x` in `data`. -/
theorem data_encloses
    : let p : Path := ⟨⟨"data/raw", .standard, "gs"⟩, "/x".toList⟩
      let q : Path := ⟨⟨"data", .standard, "gs"⟩, "/raw/x".toList⟩
      Bucket.checkName (.text p.view.bucket) = .ok "data/raw"
      ∧ Bucket.checkName (.text q.view.bucket) = .ok "data"
      ∧ p.view.pathOf ["/x".toList] = .ok p
      ∧ q.view.pathOf ["/raw/x".toList] = .ok q
      ∧ p.uri = q.uri
      ∧ p.view.bucket ≠ q.view.bucket
      ∧ p.toAbsolute.raw ≠ q.toAbsolute.raw := by
  exact ⟨rfl, rfl, rfl, rfl, rfl, by decide, by decide⟩

end CloudBuckets.View
