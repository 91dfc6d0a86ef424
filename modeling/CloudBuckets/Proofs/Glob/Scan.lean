import CloudBuckets.Glob.Token
import CloudBuckets.Proofs.Glob.Language

/-! The scanner finds the items of a pattern: it accepts a pattern just if this reads as a sequence
of items, and its tokens are then those of the items.
-/

namespace CloudBuckets.Glob

-----------------------------------------------------------------------------------------
-- The tokens of items
-----------------------------------------------------------------------------------------

def Atom.token : Atom → Token
  | letter c => .literal c
  | anyCharacter => .anyCharacter
  | anyPart => .anyPart
  | anything => .anything
  | charClass body => .charClass body

/-- The tokens of a group behind its opening brace. -/
def branchTokens : List (List Atom) → List Token
  | [] => [.closeGroup]
  | [branch] => branch.map (·.token) ++ [.closeGroup]
  | branch :: rest => branch.map (·.token) ++ .alternative :: branchTokens rest

def Item.tokens : Item → List Token
  | atom given => [given.token]
  | choice branches => .openGroup :: branchTokens branches

theorem branchTokens_nil_cons {branches : List (List Atom)} (nonempty : branches ≠ [])
    : branchTokens ([] :: branches) = .alternative :: branchTokens branches := by
  cases branches with
  | nil => exact absurd rfl nonempty
  | cons branch rest => rfl

theorem branchTokens_cons_cons (atom : Atom) (branch : List Atom)
    (branches : List (List Atom))
    : branchTokens ((atom :: branch) :: branches)
        = atom.token :: branchTokens (branch :: branches) := by
  cases branches <;> rfl

theorem BranchesRead.nonempty {text rest : List Char} {branches : List (List Atom)}
    (read : BranchesRead text branches rest)
    : branches ≠ [] := by
  cases read <;> exact List.cons_ne_nil _ _

-----------------------------------------------------------------------------------------
-- Classes
-----------------------------------------------------------------------------------------

theorem splitClass_cons {c : Char} (other : c ≠ ']') (rest : List Char)
    : splitClass (c :: rest) = (splitClass rest).map fun (body, after) => (c :: body, after) := by
  simp [splitClass]

theorem splitClass_append {body : List Char} (rest : List Char) (first : ']' ∉ body)
    : splitClass (body ++ ']' :: rest) = some (body, rest) := by
  induction body with
  | nil => rfl
  | cons c body ih =>
      rw [List.mem_cons, not_or] at first
      have other : c ≠ ']' := fun same => first.1 same.symm
      rw [List.cons_append, splitClass_cons other, ih first.2]
      rfl

theorem splitClass_unclosed {text : List Char} (unclosed : ']' ∉ text)
    : splitClass text = none := by
  induction text with
  | nil => rfl
  | cons c text ih =>
      rw [List.mem_cons, not_or] at unclosed
      have other : c ≠ ']' := fun same => unclosed.1 same.symm
      rw [splitClass_cons other, ih unclosed.2]
      rfl

-----------------------------------------------------------------------------------------
-- One step
-----------------------------------------------------------------------------------------

/-- An opening brace outside a group gives one token and opens a group. -/
theorem scan_enter (limit : Nat) (rest : List Char)
    : scan false (limit + 1) ('\x7b' :: rest)
      = (scan true limit rest).map (Token.openGroup :: ·) := rfl

/-- A comma inside a group begins its next branch. -/
theorem scan_next (limit : Nat) (rest : List Char)
    : scan true (limit + 1) (',' :: rest)
      = (scan true limit rest).map (Token.alternative :: ·) := rfl

/-- A closing brace inside a group ends it. -/
theorem scan_leave (limit : Nat) (rest : List Char)
    : scan true (limit + 1) ('\x7d' :: rest)
      = (scan false limit rest).map (Token.closeGroup :: ·) := rfl

namespace Atom.Reads

variable {grouped : Bool} {text rest : List Char} {atom : Atom}

theorem length_lt (read : atom.Reads grouped text rest) : rest.length < text.length := by
  cases read
  all_goals
    simp only [List.length_cons, List.length_append]
    omega

/-- An atom that is read gives one token. -/
theorem scan (read : atom.Reads grouped text rest) (limit : Nat)
    : Glob.scan grouped (limit + 1) text
        = (Glob.scan grouped limit rest).map (atom.token :: ·) := by
  cases read with
  | escaped c | anything | anyCharacter => rfl
  | anyPart single =>
      cases rest with
      | nil => rfl
      | cons c after =>
          have other : c ≠ '*' := fun same => single (congrArg some same)
          simp [Glob.scan, other, token]
          rfl
  | charClass rest first =>
      simp only [Glob.scan, splitClass_append rest first]
      rfl
  | bracket unclosed =>
      simp only [Glob.scan, splitClass_unclosed unclosed]
      rfl
  | brace rest inside =>
      subst inside
      rfl
  | closing rest outside | comma rest outside =>
      subst outside
      rfl
  | letter rest ordinary =>
      simp only [List.mem_cons, List.not_mem_nil, or_false, not_or] at ordinary
      simp [Glob.scan, ordinary, token]
      rfl

end Atom.Reads

/-- A text begins with an atom or a sign for groups, or it is a backslash with nothing behind it. -/
theorem atom_or_sign (grouped : Bool) (c : Char) (rest : List Char)
    : (∃ atom after, Atom.Reads grouped (c :: rest) atom after)
      ∨ (c = '\\' ∧ rest = [])
      ∨ (grouped = false ∧ c = '\x7b')
      ∨ (grouped = true ∧ (c = '\x7d' ∨ c = ',')) := by
  by_cases special : c ∈ ['\\', '*', '?', '[', '\x7b', '\x7d', ',']
  · simp only [List.mem_cons, List.not_mem_nil, or_false] at special
    rcases special with rfl | rfl | rfl | rfl | rfl | rfl | rfl
    · cases rest with
      | nil => simp
      | cons escaped after => exact Or.inl ⟨_, _, .escaped escaped after⟩
    · by_cases double : rest.head? = some '*'
      · obtain ⟨after, rfl⟩ := List.head?_eq_some_iff.mp double
        exact Or.inl ⟨_, _, .anything after⟩
      · exact Or.inl ⟨_, _, .anyPart double⟩
    · exact Or.inl ⟨_, _, .anyCharacter rest⟩
    · by_cases closed : ']' ∈ rest
      · obtain ⟨body, after, rfl, first⟩ := List.eq_append_cons_of_mem closed
        exact Or.inl ⟨_, _, .charClass after first⟩
      · exact Or.inl ⟨_, _, .bracket closed⟩
    · cases grouped with
      | false => simp
      | true => exact Or.inl ⟨_, _, .brace rest rfl⟩
    · cases grouped with
      | false => exact Or.inl ⟨_, _, .closing rest rfl⟩
      | true => simp
    · cases grouped with
      | false => exact Or.inl ⟨_, _, .comma rest rfl⟩
      | true => simp
  · exact Or.inl ⟨_, _, .letter rest special⟩

-----------------------------------------------------------------------------------------
-- Whole patterns
-----------------------------------------------------------------------------------------

/-- The tokens of a group come before those of what is left behind it. -/
theorem BranchesRead.scan {text rest : List Char} {branches : List (List Atom)}
    (read : BranchesRead text branches rest) {more : List Token}
    (finished : ∀ limit, rest.length ≤ limit → Glob.scan false limit rest = .ok more)
    (limit : Nat) (enough : text.length ≤ limit)
    : Glob.scan true limit text = .ok (branchTokens branches ++ more) := by
  induction read generalizing limit with
  | close rest =>
      obtain ⟨limit, rfl⟩ := Nat.exists_eq_add_of_lt enough
      rw [scan_leave, finished _ (Nat.le_add_right _ _)]
      rfl
  | comma read ih =>
      obtain ⟨limit, rfl⟩ := Nat.exists_eq_add_of_lt enough
      rw [scan_next, ih finished _ (Nat.le_add_right _ _), branchTokens_nil_cons read.nonempty]
      rfl
  | atom first read ih =>
      have shorter := first.length_lt
      obtain ⟨limit, rfl⟩ : ∃ fewer, limit = fewer + 1 := ⟨limit - 1, by omega⟩
      rw [first.scan, ih finished _ (by omega), branchTokens_cons_cons]
      rfl

theorem Reads.scan {pattern : List Char} {items : List Item} (read : Reads pattern items)
    (limit : Nat) (enough : pattern.length ≤ limit)
    : Glob.scan false limit pattern = .ok (items.flatMap (·.tokens)) := by
  induction read generalizing limit with
  | nil => cases limit <;> rfl
  | atom first more ih =>
      have shorter := first.length_lt
      obtain ⟨limit, rfl⟩ : ∃ fewer, limit = fewer + 1 := ⟨limit - 1, by omega⟩
      rw [first.scan, ih _ (by omega)]
      rfl
  | choice group more ih =>
      obtain ⟨limit, rfl⟩ := Nat.exists_eq_add_of_lt enough
      rw [scan_enter, group.scan ih _ (Nat.le_add_right _ _)]
      rfl

/-- The reading that a successful scan follows. Inside a group, it begins with the branches. -/
def Readable (grouped : Bool) (text : List Char) : Prop :=
  if grouped then ∃ branches rest items, BranchesRead text branches rest ∧ Reads rest items
  else ∃ items, Reads text items

theorem Atom.Reads.readable {grouped : Bool} {text rest : List Char} {atom : Atom}
    (first : atom.Reads grouped text rest) (more : Readable grouped rest)
    : Readable grouped text := by
  cases grouped with
  | false =>
      obtain ⟨items, read⟩ := more
      exact ⟨_, .atom first read⟩
  | true =>
      obtain ⟨branches, after, items, group, read⟩ := more
      obtain ⟨branch, others, rfl⟩ := List.exists_cons_of_ne_nil group.nonempty
      exact ⟨_, _, _, .atom first group, read⟩

theorem ok_of_map {ε α β : Type} {f : α → β} {outcome : Except ε α} {result : β}
    (mapped : outcome.map f = .ok result)
    : ∃ value, outcome = .ok value ∧ f value = result := by
  cases outcome with
  | error cause => cases mapped
  | ok value => exact ⟨value, rfl, Except.ok.inj mapped⟩

theorem scan_readable {grouped : Bool} {text : List Char} {limit : Nat} {found : List Token}
    (enough : text.length ≤ limit) (scanned : scan grouped limit text = .ok found)
    : Readable grouped text := by
  induction limit generalizing grouped text found with
  | zero =>
      obtain rfl := List.length_eq_zero_iff.mp (Nat.le_zero.mp enough)
      cases grouped with
      | false => exact ⟨_, .nil⟩
      | true => cases scanned
  | succ limit ih =>
      cases text with
      | nil =>
          cases grouped with
          | false => exact ⟨_, .nil⟩
          | true => cases scanned
      | cons c rest =>
          rw [List.length_cons, Nat.add_le_add_iff_right] at enough
          rcases atom_or_sign grouped c rest with
            ⟨atom, after, first⟩ | ⟨rfl, rfl⟩ | ⟨rfl, rfl⟩ | ⟨rfl, rfl | rfl⟩
          · rw [first.scan] at scanned
            obtain ⟨later, scanned, -⟩ := ok_of_map scanned
            have shorter := first.length_lt
            rw [List.length_cons] at shorter
            exact first.readable (ih (by omega) scanned)
          · cases scanned
          · rw [scan_enter] at scanned
            obtain ⟨later, scanned, -⟩ := ok_of_map scanned
            obtain ⟨branches, after, items, group, read⟩ := ih enough scanned
            exact ⟨_, .choice group read⟩
          · rw [scan_leave] at scanned
            obtain ⟨later, scanned, -⟩ := ok_of_map scanned
            obtain ⟨items, read⟩ := ih enough scanned
            exact ⟨_, _, _, .close rest, read⟩
          · rw [scan_next] at scanned
            obtain ⟨later, scanned, -⟩ := ok_of_map scanned
            obtain ⟨branches, after, items, group, read⟩ := ih enough scanned
            exact ⟨_, _, _, .comma group, read⟩

/-- A pattern is accepted just if it reads as some items, and has their tokens. -/
theorem Reads.tokens {pattern : List Char} {items : List Item} (read : Reads pattern items)
    : Glob.tokens pattern = .ok (items.flatMap (·.tokens)) :=
  read.scan pattern.length (Nat.le_refl _)

theorem tokens_readable {pattern : List Char} {found : List Token}
    (scanned : tokens pattern = .ok found)
    : ∃ items, Reads pattern items :=
  scan_readable (Nat.le_refl _) scanned

end CloudBuckets.Glob
