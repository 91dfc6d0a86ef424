import CloudBuckets.Error
import CloudBuckets.Proofs.Glob.Matching

/-! Which patterns without classes are accepted: all but those that end on a lone backslash or
inside a group. The translation of a pattern that the scanner accepts is always a regular
expression.
-/

namespace CloudBuckets.Glob

-----------------------------------------------------------------------------------------
-- Where a pattern ends
-----------------------------------------------------------------------------------------

/-- A text ends on a backslash with nothing behind it. A backslash takes up the next character. -/
def dangles : List Char → Bool
  | [] => false
  | ['\\'] => true
  | '\\' :: _ :: rest => dangles rest
  | _ :: rest => dangles rest

/-- A text ends inside a group: there has been no closing brace since the opening one, or since
the beginning if that lies in a group.
-/
def endsInGroup (grouped : Bool) : List Char → Bool
  | [] | ['\\'] => grouped
  | '\\' :: _ :: rest => endsInGroup grouped rest
  | '\x7b' :: rest => endsInGroup true rest
  | '\x7d' :: rest => endsInGroup false rest
  | _ :: rest => endsInGroup grouped rest

/-- No opening bracket, but those that a backslash takes up, has a closing one anywhere behind
it.
-/
def classless : List Char → Bool
  | [] | ['\\'] => true
  | '\\' :: _ :: rest => classless rest
  | '[' :: rest => !rest.contains ']'
  | _ :: rest => classless rest

variable {grouped : Bool} {text rest : List Char} {atom : Atom}

theorem dangles_cons {c : Char} (ordinary : c ≠ '\\') : dangles (c :: rest) = dangles rest := by
  rw [dangles] <;> simp [ordinary]

theorem endsInGroup_cons {c : Char} (backslash : c ≠ '\\') (opening : c ≠ '\x7b')
    (closing : c ≠ '\x7d')
    : endsInGroup grouped (c :: rest) = endsInGroup grouped rest := by
  rw [endsInGroup] <;> simp [backslash, opening, closing]

theorem classless_cons {c : Char} (backslash : c ≠ '\\') (bracket : c ≠ '[')
    : classless (c :: rest) = classless rest := by
  rw [classless] <;> simp [backslash, bracket]

theorem classless_bracket : classless ('[' :: rest) = !rest.contains ']' := rfl

theorem classless_of_unclosed (unclosed : ']' ∉ text) : classless text = true := by
  induction text using classless.induct with
  | case1 | case2 => rfl
  | case3 c rest ih => exact ih (by simp_all)
  | case4 rest => simp_all [classless_bracket]
  | case5 c rest lone escape bracket ih =>
      rw [classless]
      · exact ih (List.not_mem_of_not_mem_cons unclosed)
      · exact lone
      · exact escape
      · exact bracket

/-- Behind its first atom, a text without classes ends as it did with that atom. -/
theorem Atom.Reads.ends (read : atom.Reads grouped text rest) (plain : classless text = true)
    : dangles text = dangles rest
      ∧ endsInGroup grouped text = endsInGroup grouped rest
      ∧ classless rest = true
      ∧ atom.Spelled := by
  cases read with
  | escaped c | anything | anyPart single | anyCharacter => exact ⟨rfl, rfl, plain, trivial⟩
  | charClass rest first => simp [classless_bracket] at plain
  | bracket unclosed => exact ⟨rfl, rfl, classless_of_unclosed unclosed, trivial⟩
  | brace rest place | closing rest place | comma rest place =>
      subst place
      exact ⟨rfl, rfl, plain, trivial⟩
  | letter rest ordinary =>
      simp only [List.mem_cons, List.not_mem_nil, or_false, not_or] at ordinary
      obtain ⟨backslash, -, -, bracket, opening, closing, -⟩ := ordinary
      rw [classless_cons backslash bracket] at plain
      exact ⟨dangles_cons backslash, endsInGroup_cons backslash opening closing, plain, trivial⟩

-----------------------------------------------------------------------------------------
-- Scanning up to the end
-----------------------------------------------------------------------------------------

/-- What the scanner says at the end of a text. -/
def verdict (grouped : Bool) (text : List Char) : Except Refusal Unit :=
  if dangles text then .error .trailingEscape
  else if endsInGroup grouped text then .error .unclosedGroup
  else .ok ()

theorem map_unit {ε α β : Type} (f : α → β) (outcome : Except ε α)
    : (outcome.map f).map (fun _ => ()) = outcome.map (fun _ => ()) := by
  cases outcome <;> rfl

theorem scan_verdict {limit : Nat} (enough : text.length ≤ limit) (plain : classless text = true)
    : (scan grouped limit text).map (fun _ => ()) = verdict grouped text := by
  induction limit generalizing grouped text with
  | zero =>
      obtain rfl := List.length_eq_zero_iff.mp (Nat.le_zero.mp enough)
      cases grouped <;> rfl
  | succ limit ih =>
      cases text with
      | nil => cases grouped <;> rfl
      | cons c rest =>
          rw [List.length_cons, Nat.add_le_add_iff_right] at enough
          -- a sign for groups changes whether the rest is read inside one
          have sign (inside : Bool) (token : Token) (later : classless rest = true)
              (scanned : scan grouped (limit + 1) (c :: rest)
                = (scan inside limit rest).map (token :: ·))
              (same : verdict grouped (c :: rest) = verdict inside rest)
              : (scan grouped (limit + 1) (c :: rest)).map (fun _ => ())
                = verdict grouped (c :: rest) := by
            rw [scanned, map_unit, ih enough later, same]
          rcases atom_or_sign grouped c rest with
            ⟨atom, after, first⟩ | ⟨rfl, rfl⟩ | ⟨rfl, rfl⟩ | ⟨rfl, rfl | rfl⟩
          · have shorter := first.length_lt
            rw [List.length_cons] at shorter
            obtain ⟨dangling, inGroup, later, -⟩ := first.ends plain
            rw [first.scan, map_unit, ih (by omega) later, verdict, verdict, dangling, inGroup]
          · rfl
          · exact sign true .openGroup plain rfl rfl
          · exact sign false .closeGroup plain rfl rfl
          · exact sign true .alternative plain rfl rfl

theorem BranchesRead.ends {branches : List (List Atom)}
    (read : BranchesRead text branches rest) (plain : classless text = true)
    : classless rest = true ∧ ∀ branch ∈ branches, ∀ atom ∈ branch, atom.Spelled := by
  induction read with
  | close rest => exact ⟨plain, by simp⟩
  | comma more ih =>
      obtain ⟨later, spelled⟩ := ih plain
      exact ⟨later, by simpa using spelled⟩
  | atom first more ih =>
      obtain ⟨-, -, behind, firstSpelled⟩ := first.ends plain
      obtain ⟨later, spelled⟩ := ih behind
      simp only [List.forall_mem_cons] at spelled ⊢
      exact ⟨later, ⟨firstSpelled, spelled.1⟩, spelled.2⟩

theorem Reads.spelled {items : List Item} (read : Reads text items)
    (plain : classless text = true)
    : ∀ item ∈ items, item.Spelled := by
  induction read with
  | nil => simp
  | atom first more ih =>
      obtain ⟨-, -, behind, spelled⟩ := first.ends plain
      exact List.forall_mem_cons.mpr ⟨spelled, ih behind⟩
  | choice group more ih =>
      obtain ⟨behind, spelled⟩ := group.ends plain
      exact List.forall_mem_cons.mpr ⟨spelled, ih behind⟩

end CloudBuckets.Glob

namespace CloudBuckets.PathMatcher

open Glob (classless dangles endsInGroup verdict)

variable {pattern : List Char}

theorem tokens_verdict (plain : classless pattern = true)
    : (Glob.tokens pattern).map (fun _ => ()) = verdict false pattern :=
  Glob.scan_verdict (Nat.le_refl _) plain

theorem ofText_of_refused {refusal : Glob.Refusal} (plain : classless pattern = true)
    (refused : verdict false pattern = .error refusal)
    : ofText (Form.glob.name ++ ':' :: pattern) = .error (.glob pattern refusal) := by
  rw [← tokens_verdict plain] at refused
  cases scanned : Glob.tokens pattern with
  | ok tokens => simp [scanned, Except.map] at refused
  | error cause =>
      obtain rfl : cause = refusal := by simpa [scanned, Except.map] using refused
      have translated : expression .glob pattern = .error (.glob pattern cause) := by
        rw [expression, Glob.expression, scanned]
        rfl
      rw [ofText_glob_eq, translated]
      rfl

theorem ofText_of_accepted (plain : classless pattern = true)
    (accepted : verdict false pattern = .ok ())
    : ∃ m, ofText (Form.glob.name ++ ':' :: pattern) = .ok m := by
  rw [← tokens_verdict plain] at accepted
  cases scanned : Glob.tokens pattern with
  | error cause => simp [scanned, Except.map] at accepted
  | ok tokens =>
      obtain ⟨items, read⟩ := Glob.tokens_readable scanned
      obtain ⟨m, given, -⟩ := ofText_glob read (read.spelled plain)
      exact ⟨m, given⟩

/-- A pattern without classes is refused just if it ends on a lone backslash, which is what is
reported then, or else inside a group. No other pattern without classes is refused.
-/
theorem ofText_glob_outcome (plain : classless pattern = true)
    : (ofText (Form.glob.name ++ ':' :: pattern) = .error (.glob pattern .trailingEscape)
          ↔ dangles pattern = true)
      ∧ (ofText (Form.glob.name ++ ':' :: pattern) = .error (.glob pattern .unclosedGroup)
          ↔ dangles pattern = false ∧ endsInGroup false pattern = true)
      ∧ ((∃ m, ofText (Form.glob.name ++ ':' :: pattern) = .ok m)
          ↔ dangles pattern = false ∧ endsInGroup false pattern = false)
      ∧ ∀ error,
          ofText (Form.glob.name ++ ':' :: pattern) = .error error
          → Error.kindOfMatcher error = .value := by
  cases dangling : dangles pattern with
  | true =>
      have refused : verdict false pattern = .error .trailingEscape := by
        simp [verdict, dangling]
      simp [ofText_of_refused plain refused, Error.kindOfMatcher]
  | false =>
      cases inGroup : endsInGroup false pattern with
      | true =>
          have refused : verdict false pattern = .error .unclosedGroup := by
            simp [verdict, dangling, inGroup]
          simp [ofText_of_refused plain refused, Error.kindOfMatcher]
      | false =>
          have accepted : verdict false pattern = .ok () := by
            simp [verdict, dangling, inGroup]
          obtain ⟨m, given⟩ := ofText_of_accepted plain accepted
          simp [given]

/-- An escaped bracket opens no class. A pattern that ends on a backslash inside a group is refused
for the backslash; without both, and with a bracket that nothing closes, it is accepted.
-/
theorem ofText_glob_outcome_escaped
    : classless ['\\', '[', ']', '\x7b', ',', '\\', '\x7d', '\\'] = true
      ∧ ofText (Form.glob.name ++ ':' :: ['\\', '[', ']', '\x7b', ',', '\\', '\x7d', '\\'])
        = .error (.glob ['\\', '[', ']', '\x7b', ',', '\\', '\x7d', '\\'] .trailingEscape)
      ∧ ∃ m,
          ofText (Form.glob.name ++ ':' :: ['\\', '[', ']', '\x7b', ',', '*', '\x7d', '['])
          = .ok m :=
  ⟨rfl, (ofText_glob_outcome rfl).1.mpr rfl, (ofText_glob_outcome rfl).2.2.1.mpr ⟨rfl, rfl⟩⟩

end CloudBuckets.PathMatcher
