import CloudBuckets.Proofs.Regex.Reading

/-! Bracketed classes without flags: how their members are read, and which characters they hold. -/

namespace CloudBuckets.Regex

-----------------------------------------------------------------------------------------
-- Reading members
-----------------------------------------------------------------------------------------

namespace CharClass

variable {start position : Nat} {found : List Member} {rest : List Token}

/-- Where no dash follows, what a token other than the closing bracket is read as is a member. -/
theorem members_item {token : Token} {first : Member} {after : Nat}
    (bracket : token ≠ .plain ']') (dash : rest.head? ≠ some (.plain '-'))
    (clean : .dangling ∉ rest)
    (read : item token ⟨position + token.text.length, rest⟩ = .ok (first, ⟨after, rest⟩))
    (limit : Nat)
    : members start found ⟨position, token :: rest⟩ (limit + 1)
        = members start (first :: found) ⟨after, rest⟩ limit := by
  simp [members, Cursor.next_cons _ clean, Cursor.skip_other dash, bracket, read]

theorem members_close (nonempty : found ≠ []) (clean : .dangling ∉ rest) (limit : Nat)
    : members start found ⟨position, .plain ']' :: rest⟩ (limit + 1)
        = .ok (found.reverse, ⟨position + 1, rest⟩) := by
  obtain ⟨last, before, rfl⟩ := List.exists_cons_of_ne_nil nonempty
  change Cursor.next _ >>= _ = _
  rw [Cursor.next_cons _ clean]
  rfl

theorem members_code {c : Char} (bracket : c ≠ ']') (dash : rest.head? ≠ some (.plain '-'))
    (clean : .dangling ∉ rest) (limit : Nat)
    : members start found ⟨position, .plain c :: rest⟩ (limit + 1)
        = members start (.code c.toNat :: found) ⟨position + 1, rest⟩ limit :=
  members_item (by simpa using bracket) dash clean rfl limit

theorem members_range {first last : Char} (bracket : first ≠ ']') (last_bracket : last ≠ ']')
    (ordered : first ≤ last) (clean : .dangling ∉ rest) (limit : Nat)
    : members start found
          ⟨position, .plain first :: .plain '-' :: .plain last :: rest⟩ (limit + 1)
        = members start (.range first.toNat last.toNat :: found) ⟨position + 3, rest⟩ limit := by
  have ascending : ¬ last.toNat < first.toNat := Nat.not_lt.mpr ordered
  have from_dash : .dangling ∉ .plain '-' :: .plain last :: rest := by simp [clean]
  have from_last : .dangling ∉ .plain last :: rest := by simp [clean]
  simp [members, Cursor.next_cons _ from_dash, Cursor.skip_cons _ from_last,
    Cursor.next_cons _ clean, bracket, last_bracket, item, range, ascending, Token.text]

end CharClass

-----------------------------------------------------------------------------------------
-- Membership
-----------------------------------------------------------------------------------------

theorem CharTest.single_accepts (code : Nat) (negated : Bool) (c : Char)
    : (single (Flags.lettering []) code negated).accepts c
      ↔ (c.toNat = code ↔ negated = false) := by
  have same : sameLetter (Flags.lettering []) code c.toNat = (c.toNat == code) := BEq.comm
  cases negated <;> simp [accepts, same]

theorem CharTest.oneOf_accepts (members : List Member) (negated : Bool) (c : Char)
    : (oneOf (Flags.lettering []) members negated).accepts c
      ↔ ((∃ member ∈ members, member.holds (Flags.lettering []) c.toNat) ↔ negated = false) := by
  have unfolded : (Flags.lettering []).fold c.toNat = c.toNat := rfl
  cases negated <;> simp [accepts, unfolded]

/-- A class holds what one of its members holds, or if it is negated, everything else. -/
theorem CharClass.test_accepts (members : List Member) (negated : Bool) (c : Char)
    : (test (Flags.lettering []) members negated).accepts c
      ↔ ((∃ member ∈ members, member.holds (Flags.lettering []) c.toNat) ↔ negated = false) := by
  have distinct
      : (∃ member ∈ members, member.holds (Flags.lettering []) c.toNat)
        ↔ ∃ member ∈ members.eraseDups, member.holds (Flags.lettering []) c.toNat := by
    simp only [List.mem_eraseDups]
  rw [distinct, test]
  split
  · rename_i code same
    rw [same, CharTest.single_accepts]
    simp [Member.holds, Flags.lettering]
  · exact CharTest.oneOf_accepts _ _ _

theorem CharTest.letter_language (c : Char)
    : (CharTest.single (Flags.lettering []) c.toNat false).language = {[c]} := by
  ext text
  constructor
  · intro ⟨given, same, accepted⟩
    rw [single_accepts] at accepted
    obtain rfl := Char.toNat_inj.mp (accepted.mpr rfl)
    exact same
  · intro same
    exact ⟨c, same, (single_accepts _ _ _).mpr (by simp)⟩

theorem CharTest.anyInLine_accepts (c : Char) : anyInLine.accepts c ↔ c ≠ '\n' :=
  bne_iff_ne

end CloudBuckets.Regex
