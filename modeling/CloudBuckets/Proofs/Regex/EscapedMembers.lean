import CloudBuckets.Proofs.Regex.CharClass

/-! Classes whose members are all escaped. Only signs stand for themselves behind a backslash:
letters and digits name classes or control characters there, or are refused.
-/

namespace CloudBuckets.Regex

variable {tokens rest : List Token} {c : Char} {member : Member} {position : Nat}

/-- No character comes next that an escape would take up. -/
def Bare (tokens : List Token) : Prop :=
  ∀ c, tokens.head? = some (.plain c) → c = ']'

theorem Cursor.take_bare (bare : Bare tokens) (accepts : Char → Bool)
    (other : accepts ']' = false) (limit : Nat)
    : take ⟨position, tokens⟩ accepts limit = .ok ([], ⟨position, tokens⟩) := by
  cases limit with
  | zero => rfl
  | succ limit =>
      cases tokens with
      | nil => rfl
      | cons token rest =>
          cases token with
          | plain c =>
              obtain rfl := bare c rfl
              simp [take, other]
          | escaped c | dangling => rfl

/-- What an escape stands for in a class: a sign for itself, a digit or a letter for a character
that is none, or a letter for a named class.
-/
inductive Escape.Means (c : Char) : Member → Prop
  | sign (sign : c.isAlphanum = false) : Means c (.code c.toNat)
  | control {code : Nat} (control : code < '0'.toNat) (other : c ≠ 'x') : Means c (.code code)
  | category {kind : Category} {negated : Bool}
    (named : category? c = some (.category kind negated))
    : Means c (.category kind negated)

namespace Escape

theorem isDigit_of_octal (octal : isOctalDigit c = true) : c.isDigit = true := by
  simp only [isOctalDigit, Bool.and_eq_true, decide_eq_true_eq] at octal
  simp only [Char.isDigit, Bool.and_eq_true, decide_eq_true_eq]
  exact ⟨octal.1, Nat.le_trans octal.2 (by decide)⟩

theorem octal_eq_false (digit : c.isDigit = false) : isOctalDigit c = false := by
  rw [← Bool.not_eq_true] at digit ⊢
  exact fun octal => digit (isDigit_of_octal octal)

/-- Named classes go by letters. -/
theorem category_named (named : category? c = some member)
    : (∃ kind negated, member = .category kind negated)
      ∧ c.isAlpha = true
      ∧ c.isDigit = false := by
  unfold category? at named
  split at named
  all_goals cases named
  all_goals exact ⟨⟨_, _, rfl⟩, rfl, rfl⟩

theorem category_of_digit (digit : c.isDigit = true) : category? c = none := by
  cases named : category? c with
  | none => rfl
  | some member => simp [(category_named named).2.2] at digit

/-- Where it has no meaning of its own in a class, an escape is read as outside of classes. -/
theorem inClass_single (category : category? c = none) (backspace : c ≠ 'b')
    (digit : c.isDigit = false) (after : Cursor)
    : inClass c after = single c after >>= fun read => .ok (.code read.1, read.2) := by
  simp only [inClass, category, backspace, octal_eq_false digit, digit, if_false]
  rfl

theorem inClass_sign (sign : c.isAlphanum = false) (after : Cursor)
    : inClass c after = .ok (.code c.toNat, after) := by
  obtain ⟨category, -, control⟩ := meaningless_of_sign sign
  have backspace : c ≠ 'b' := by
    intro same
    subst same
    cases sign
  rw [Char.isAlphanum, Bool.or_eq_false_iff] at sign
  rw [inClass_single category backspace sign.2, single_eq_self control sign.1]
  rfl

theorem numberIn_octal (octal : isOctalDigit c = true) : numberIn 8 [c] < 8 := by
  have digit := isDigit_of_octal octal
  simp only [isOctalDigit, Bool.and_eq_true, decide_eq_true_eq] at octal
  have last : c.toNat ≤ '7'.toNat := octal.2
  have eight : '7'.toNat = '0'.toNat + 7 := rfl
  simp only [numberIn, List.foldl_cons, List.foldl_nil, digitValue, digit, if_true]
  omega

theorem hexadecimal_bare (bare : Bare tokens) (letter : Char) {count : Nat}
    (positive : 0 < count)
    : ∃ refusal, hexadecimal letter count ⟨position, tokens⟩ = .error refusal := by
  simp only [hexadecimal, Cursor.take_bare bare isHexDigit rfl, Parse.ok_bind, List.length_nil,
    positive, if_true]
  exact ⟨_, rfl⟩

theorem named_bare (bare : Bare tokens)
    : ∃ refusal, named ⟨position, tokens⟩ = .error refusal := by
  have brace : tokens.head? ≠ some (.plain '\x7b') :=
    fun head => absurd (bare _ head) (by decide)
  simp only [named, Cursor.skip_other brace, Parse.ok_bind]
  exact ⟨_, rfl⟩

theorem control_lt {code : Nat} (control : control? c = some code)
    : code < '0'.toNat ∧ c ≠ 'x' := by
  unfold control? at control
  split at control
  all_goals simp_all
  all_goals subst control; decide

theorem single_bare (bare : Bare tokens) (digit : c.isDigit = false)
    : (∃ refusal, single c ⟨position, tokens⟩ = .error refusal)
      ∨ ∃ code, single c ⟨position, tokens⟩ = .ok (code, ⟨position, tokens⟩)
          ∧ Means c (.code code) := by
  unfold single
  split
  · exact Or.inl (hexadecimal_bare bare 'x' (by decide))
  · exact Or.inl (hexadecimal_bare bare 'u' (by decide))
  · exact Or.inl (hexadecimal_bare bare 'U' (by decide))
  · exact Or.inl (named_bare bare)
  · cases control : control? c with
    | some code =>
        obtain ⟨small, other⟩ := control_lt control
        exact Or.inr ⟨code, rfl, .control small other⟩
    | none =>
        cases letter : c.isAlpha with
        | true => exact Or.inl ⟨_, rfl⟩
        | false =>
            have sign : c.isAlphanum = false := by simp [Char.isAlphanum, letter, digit]
            exact Or.inr ⟨_, rfl, .sign sign⟩

theorem inClass_octal (bare : Bare tokens) (octal : isOctalDigit c = true)
    : inClass c ⟨position, tokens⟩ = .ok (.code (numberIn 8 [c]), ⟨position, tokens⟩)
      ∧ Means c (.code (numberIn 8 [c])) := by
  have digit := isDigit_of_octal octal
  have small := numberIn_octal octal
  have other {letter : Char} (noDigit : letter.isDigit = false) : c ≠ letter := by
    intro same
    rw [← same, digit] at noDigit
    cases noDigit
  have backspace : c ≠ 'b' := other rfl
  have fits : ¬ octalLimit < numberIn 8 [c] := by
    rw [octalLimit]
    omega
  constructor
  · simp only [inClass, category_of_digit digit, backspace, octal,
      Cursor.take_bare bare isOctalDigit rfl, Parse.ok_bind, fits, if_true, if_false]
    rfl
  · exact .control (Nat.lt_trans small (by decide)) (other rfl)

/-- Before nothing that it would take up, an escape is refused or read as what it means. -/
theorem inClass_bare (bare : Bare tokens) (c : Char) (position : Nat)
    : (∃ refusal, inClass c ⟨position, tokens⟩ = .error refusal)
      ∨ ∃ member,
          inClass c ⟨position, tokens⟩ = .ok (member, ⟨position, tokens⟩) ∧ Means c member := by
  cases named : category? c with
  | some member =>
      obtain ⟨⟨kind, negated, rfl⟩, -⟩ := category_named named
      refine Or.inr ⟨_, ?_, .category named⟩
      simp only [inClass, named]
      rfl
  | none =>
      by_cases backspace : c = 'b'
      · subst backspace
        exact Or.inr ⟨_, rfl, .control (by decide) (by decide)⟩
      · cases octal : isOctalDigit c with
        | true => exact Or.inr ⟨_, inClass_octal bare octal⟩
        | false =>
            cases digit : c.isDigit with
            | true =>
                left
                simp only [inClass, named, backspace, octal, digit, if_true, if_false]
                exact ⟨_, rfl⟩
            | false =>
                rw [inClass_single named backspace digit]
                rcases single_bare bare digit with ⟨refusal, refused⟩ | ⟨code, found, means⟩
                · rw [refused]
                  exact Or.inl ⟨refusal, rfl⟩
                · rw [found]
                  exact Or.inr ⟨_, rfl, means⟩

end Escape

-----------------------------------------------------------------------------------------
-- Reading escaped members
-----------------------------------------------------------------------------------------

namespace CharClass

variable {start limit : Nat} {found read : List Member} {after : Cursor} {cs : List Char}

/-- The tokens of an escaped text and the bracket behind it. -/
def escapedTokens (cs : List Char) (more : List Token) : List Token :=
  cs.map .escaped ++ .plain ']' :: more

theorem escapedTokens_bare (cs : List Char) (more : List Token) : Bare (escapedTokens cs more) := by
  cases cs with
  | nil => simp [Bare, escapedTokens, eq_comm]
  | cons c cs => simp [Bare, escapedTokens]

theorem escapedTokens_head (cs : List Char) (more : List Token) {sign : Char}
    (other : sign ≠ ']')
    : (escapedTokens cs more).head? ≠ some (.plain sign) :=
  fun head => other (escapedTokens_bare cs more sign head)

theorem escapedTokens_sound (cs : List Char) {more : List Token} (clean : .dangling ∉ more)
    : .dangling ∉ escapedTokens cs more := by
  simp [escapedTokens, clean]

/-- An escape that is read by itself is the next member. -/
theorem members_escape (dash : rest.head? ≠ some (.plain '-')) (clean : .dangling ∉ rest)
    (escape : Escape.inClass c ⟨position + 2, rest⟩ = .ok (member, ⟨position + 2, rest⟩))
    (limit : Nat)
    : members start found ⟨position, .escaped c :: rest⟩ (limit + 1)
        = members start (member :: found) ⟨position + 2, rest⟩ limit := by
  have bracket : Token.escaped c ≠ .plain ']' := nofun
  exact members_item bracket dash clean escape limit

theorem members_refused {refusal : Refusal} (clean : .dangling ∉ rest)
    (refused : Escape.inClass c ⟨position + 2, rest⟩ = .error refusal) (limit : Nat)
    : members start found ⟨position, .escaped c :: rest⟩ (limit + 1) = .error refusal := by
  simp [members, Cursor.next_cons _ clean, item, Token.text, refused]
  rfl

/-- Escapes that are read as members are read one by one. -/
theorem members_escaped {more : List Token} (clean : .dangling ∉ more)
    (nonempty : cs ≠ [] ∨ found ≠ [])
    (done : members start found ⟨position, escapedTokens cs more⟩ limit = .ok (read, after))
    : ∃ pairs : List (Char × Member),
        cs = pairs.map (·.1)
        ∧ read = found.reverse ++ pairs.map (·.2)
        ∧ ∀ pair ∈ pairs, Escape.Means pair.1 pair.2 := by
  induction cs generalizing found position limit with
  | nil =>
      cases limit with
      | zero => cases done
      | succ limit =>
          rw [escapedTokens, List.map_nil, List.nil_append,
            members_close (nonempty.resolve_left fun given => given rfl) clean] at done
          cases done
          exact ⟨[], rfl, (List.append_nil _).symm, by simp⟩
  | cons c cs ih =>
      cases limit with
      | zero => cases done
      | succ limit =>
          have sound := escapedTokens_sound cs clean
          have bare := escapedTokens_bare cs more
          rw [escapedTokens, List.map_cons, List.cons_append, ← escapedTokens] at done
          rcases Escape.inClass_bare bare c (position + 2) with
            ⟨refusal, refused⟩ | ⟨member, escape, means⟩
          · rw [members_refused sound refused] at done
            cases done
          · have dash := escapedTokens_head cs more (by decide : '-' ≠ ']')
            rw [members_escape dash sound escape] at done
            obtain ⟨pairs, rfl, rfl, others⟩ := ih (Or.inr (List.cons_ne_nil _ _)) done
            refine ⟨(c, member) :: pairs, rfl, by simp, ?_⟩
            exact List.forall_mem_cons.mpr ⟨means, others⟩

/-- Signs are read as themselves. -/
theorem members_signs {more : List Token} (clean : .dangling ∉ more)
    (signs : ∀ c ∈ cs, c.isAlphanum = false) (start : Nat) (found : List Member)
    (nonempty : cs ≠ [] ∨ found ≠ []) (enough : cs.length < limit) (position : Nat)
    : ∃ last,
        members start found ⟨position, escapedTokens cs more⟩ limit
          = .ok (found.reverse ++ cs.map fun c => .code c.toNat, ⟨last, more⟩) := by
  induction cs generalizing found position limit with
  | nil =>
      obtain ⟨limit, rfl⟩ := Nat.exists_eq_add_of_lt enough
      refine ⟨position + 1, ?_⟩
      rw [List.map_nil, List.append_nil]
      exact members_close (nonempty.resolve_left fun given => given rfl) clean _
  | cons c cs ih =>
      obtain ⟨limit, rfl⟩ : ∃ fewer, limit = fewer + 1 := ⟨limit - 1, by omega⟩
      rw [List.length_cons, Nat.add_lt_add_iff_right] at enough
      obtain ⟨sign, others⟩ := List.forall_mem_cons.mp signs
      have dash := escapedTokens_head cs more (by decide : '-' ≠ ']')
      have escape := Escape.inClass_sign sign ⟨position + 2, escapedTokens cs more⟩
      obtain ⟨last, read⟩ :=
        ih others (.code c.toNat :: found) (Or.inr (List.cons_ne_nil _ _)) enough (position + 2)
      refine ⟨last, ?_⟩
      rw [escapedTokens, List.map_cons, List.cons_append, ← escapedTokens,
        members_escape dash (escapedTokens_sound cs clean) escape, read]
      simp

/-- The members of a class of escapes are what these mean. -/
theorem Reads.escaped {test : CharTest} (reads : Reads (cs.map .escaped) test) (nonempty : cs ≠ [])
    : ∃ pairs : List (Char × Member),
        cs = pairs.map (·.1)
        ∧ test = CharClass.test (Flags.lettering []) (pairs.map (·.2)) false
        ∧ ∀ pair ∈ pairs, Escape.Means pair.1 pair.2 := by
  obtain ⟨last, done⟩ := reads.reads 0 0 [] List.not_mem_nil
  have unmarked : Cursor.skip ⟨0, escapedTokens cs []⟩ '^' = _ :=
    Cursor.skip_other (escapedTokens_head cs [] (by decide))
  rw [CharClass.read, ← escapedTokens, unmarked, Parse.ok_bind] at done
  obtain ⟨⟨found, after⟩, membersDone, same⟩ := Parse.ok_of_bind done
  obtain ⟨pairs, rfl, rfl, means⟩ := members_escaped List.not_mem_nil (Or.inl nonempty) membersDone
  cases same
  exact ⟨pairs, rfl, rfl, means⟩

theorem reads_signs (signs : ∀ c ∈ cs, c.isAlphanum = false) (nonempty : cs ≠ [])
    : Reads (cs.map .escaped)
        (CharClass.test (Flags.lettering []) (cs.map fun c => .code c.toNat) false) := by
  refine ⟨by simp, ?_⟩
  intro start position more clean
  have unmarked : Cursor.skip ⟨position, escapedTokens cs more⟩ '^' = _ :=
    Cursor.skip_other (escapedTokens_head cs more (by decide))
  have enough : cs.length < (escapedTokens cs more).length + 1 := by
    simp only [escapedTokens, List.length_append, List.length_map]
    omega
  obtain ⟨last, read⟩ := members_signs clean signs start [] (Or.inl nonempty) enough position
  refine ⟨last, ?_⟩
  rw [CharClass.read, ← escapedTokens, unmarked]
  simp only [Parse.ok_bind, read]
  rfl

end CharClass

-----------------------------------------------------------------------------------------
-- What escaped members hold
-----------------------------------------------------------------------------------------

/-- The letters of ASCII lie in two ranges. -/
theorem range_of_letter (letter : c.isAlpha = true)
    : 'A'.toNat ≤ c.toNat ∧ c.toNat ≤ 'Z'.toNat ∨ 'a'.toNat ≤ c.toNat ∧ c.toNat ≤ 'z'.toNat := by
  have either : c.isUpper = true ∨ c.isLower = true := Bool.or_eq_true_iff.mp letter
  rcases either with upper | lower
  · have both : 'A'.val ≤ c.val ∧ c.val ≤ 'Z'.val := of_decide_eq_true upper
    exact Or.inl both
  · have both : decide ('a'.val ≤ c.val) = true ∧ decide (c.val ≤ 'z'.val) = true :=
      Bool.and_eq_true_iff.mp lower
    exact Or.inr ⟨of_decide_eq_true both.1, of_decide_eq_true both.2⟩

/-- The letters of ASCII are alike to all named classes. -/
theorem Category.contains_letter (letter : c.isAlpha = true) (kind : Category)
    : kind.contains false c = kind.contains false 'x' := by
  have all
      : ∀ code < 128,
          (Char.ofNat code).isAlpha = true
          → ∀ kind ∈ [Category.digit, .blank, .word],
              kind.contains false (Char.ofNat code) = kind.contains false 'x' := by
    decide +kernel
  have ascii : c.toNat < 128 := by
    rcases range_of_letter letter with ⟨-, last⟩ | ⟨-, last⟩
    · exact Nat.lt_of_le_of_lt last (by decide)
    · exact Nat.lt_of_le_of_lt last (by decide)
  have alike := all c.toNat ascii
  rw [Char.ofNat_toNat] at alike
  exact alike letter kind (by cases kind <;> simp)

theorem Member.holds_code (code : Nat) (c : Char)
    : holds (Flags.lettering []) c.toNat (.code code) ↔ c.toNat = code := by
  simp [holds, Flags.lettering]

theorem Member.holds_category (kind : Category) (negated : Bool) (c : Char)
    : holds (Flags.lettering []) c.toNat (.category kind negated)
        = (kind.contains false c != negated) := by
  rw [holds, Char.ofNat_toNat]
  rfl

theorem zero_le_of_alphanumeric (alphanumeric : c.isAlphanum = true) : '0'.toNat ≤ c.toNat := by
  rw [Char.isAlphanum, Bool.or_eq_true] at alphanumeric
  rcases alphanumeric with letter | digit
  · rcases range_of_letter letter with ⟨first, -⟩ | ⟨first, -⟩
    · exact Nat.le_trans (by decide) first
    · exact Nat.le_trans (by decide) first
  · rw [Char.isDigit, Bool.and_eq_true] at digit
    exact of_decide_eq_true digit.1

/-- A member that an escape means holds a letter or a digit only if it is a named class. -/
theorem Escape.Means.named {d : Char} (means : Means d member) (alphanumeric : c.isAlphanum = true)
    (holds : member.holds (Flags.lettering []) c.toNat)
    : ∃ kind negated, member = .category kind negated ∧ category? d = some member := by
  cases means with
  | sign sign =>
      have same : c.toNat = d.toNat := (Member.holds_code _ c).mp holds
      rw [Char.toNat_inj.mp same, sign] at alphanumeric
      cases alphanumeric
  | @control code control =>
      have same : c.toNat = code := (Member.holds_code _ c).mp holds
      have least := zero_le_of_alphanumeric alphanumeric
      omega
  | category named => exact ⟨_, _, rfl, named⟩

theorem Escape.Means.ne_x {d : Char} (means : Means d member) : d ≠ 'x' := by
  rintro rfl
  cases means with
  | sign sign => cases sign
  | control control other => exact other rfl
  | category named => cases named

/-- Where a class of escapes holds just the escaped characters, these are signs. For what holds a
letter is a named class; it holds all of them, and no escape of an `x` is read.
-/
theorem signs_of_exact {pairs : List (Char × Member)}
    (means : ∀ pair ∈ pairs, Escape.Means pair.1 pair.2)
    (same : ∀ c : Char,
      (∃ member ∈ pairs.map (·.2), member.holds (Flags.lettering []) c.toNat)
        ↔ c ∈ pairs.map (·.1))
    : ∀ c ∈ pairs.map (·.1), c.isAlphanum = false := by
  have named {c : Char} (given : c ∈ pairs.map (·.1)) (alphanumeric : c.isAlphanum = true)
      : ∃ d kind negated,
          d ∈ pairs.map (·.1)
          ∧ d.isAlpha = true
          ∧ .category kind negated ∈ pairs.map (·.2)
          ∧ Member.holds (Flags.lettering []) c.toNat (.category kind negated) := by
    obtain ⟨member, inMembers, holds⟩ := (same c).mpr given
    obtain ⟨⟨d, found⟩, inPairs, rfl⟩ := List.mem_map.mp inMembers
    obtain ⟨kind, negated, shape, category⟩ := (means _ inPairs).named alphanumeric holds
    dsimp only at shape
    subst shape
    have letter := (Escape.category_named category).2.1
    exact ⟨d, kind, negated, List.mem_map_of_mem inPairs, letter, inMembers, holds⟩
  have letterless : ∀ c ∈ pairs.map (·.1), c.isAlpha = false := by
    intro c given
    by_contra letter
    rw [Bool.not_eq_false] at letter
    obtain ⟨d, kind, negated, -, -, inMembers, holds⟩ :=
      named given (by simp [Char.isAlphanum, letter])
    have holdsX : Member.holds (Flags.lettering []) 'x'.toNat (.category kind negated) := by
      rwa [Member.holds_category, ← Category.contains_letter letter, ← Member.holds_category]
    have inClass := (same 'x').mp ⟨_, inMembers, holdsX⟩
    obtain ⟨pair, inPairs, is⟩ := List.mem_map.mp inClass
    exact (means pair inPairs).ne_x is
  intro c given
  by_contra alphanumeric
  rw [Bool.not_eq_false] at alphanumeric
  obtain ⟨d, kind, negated, inClass, letter, -⟩ := named given alphanumeric
  rw [letterless d inClass] at letter
  cases letter

end CloudBuckets.Regex
