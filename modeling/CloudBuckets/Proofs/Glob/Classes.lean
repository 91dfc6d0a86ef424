import CloudBuckets.Glob.Expression
import CloudBuckets.Proofs.Glob.Language
import CloudBuckets.Proofs.Regex.CharClass

/-! The class of a glob pattern, taken over into a regular expression, is read as the members that
it spells.
-/

namespace CloudBuckets.Glob

open Regex

-----------------------------------------------------------------------------------------
-- Members
-----------------------------------------------------------------------------------------

namespace ClassMember

def member : ClassMember → Regex.Member
  | one c => .code c.toNat
  | range first last => .range first.toNat last.toNat

theorem member_holds (given : ClassMember) (c : Char)
    : given.member.holds (Flags.lettering []) c.toNat ↔ given.Holds c := by
  cases given with
  | one other => simp [member, Holds, Regex.Member.holds, Flags.lettering, Char.toNat_inj]
  | range first last =>
      simp [member, Holds, Regex.Member.holds, Regex.Member.rangeHolds, Flags.lettering]
      rfl

theorem Ordinary.ne {c sign : Char} (ordinary : Ordinary c)
    (special : sign ∈ ['\\', '[', ']', '^', '!', '-'])
    : c ≠ sign := by
  intro same
  subst same
  exact ordinary special

end ClassMember

open ClassMember

variable {members : List ClassMember} {body : List Char} {negated : Bool}

/-- The text of some members begins with a character that stands for itself. -/
theorem members_head (nonempty : members ≠ []) (valid : ∀ member ∈ members, member.Valid)
    : ∃ c rest, members.flatMap (·.text) = c :: rest ∧ Ordinary c := by
  cases members with
  | nil => exact absurd rfl nonempty
  | cons first others =>
      have firstValid := valid first List.mem_cons_self
      cases first with
      | one c => exact ⟨c, _, rfl, firstValid⟩
      | range first last => exact ⟨first, _, rfl, firstValid.1⟩

theorem members_unescaped (valid : ∀ member ∈ members, member.Valid)
    : '\\' ∉ members.flatMap (·.text) := by
  intro found
  obtain ⟨member, inMembers, inText⟩ := List.mem_flatMap.mp found
  have memberValid := valid member inMembers
  cases member with
  | one c =>
      simp only [text, List.mem_singleton] at inText
      exact memberValid.ne (by simp) inText.symm
  | range first last =>
      simp only [text, List.mem_cons, List.not_mem_nil, or_false] at inText
      rcases inText with same | same | same
      · exact memberValid.1.ne (by simp) same.symm
      · cases same
      · exact memberValid.2.1.ne (by simp) same.symm

theorem members_ne_dash (valid : ∀ member ∈ members, member.Valid) (rest : List Char)
    : members.flatMap (·.text) ≠ '-' :: rest := by
  intro same
  by_cases empty : members = []
  · subst empty
    cases same
  · obtain ⟨c, after, text, ordinary⟩ := members_head empty valid
    rw [text] at same
    obtain ⟨rfl, -⟩ := List.cons.inj same
    exact ordinary.ne (by simp) rfl

/-- A text spells members in one way at most: a dash behind a character makes it a range. -/
theorem members_unique {others : List ClassMember}
    (valid : ∀ member ∈ members, member.Valid) (othersValid : ∀ member ∈ others, member.Valid)
    (same : members.flatMap (·.text) = others.flatMap (·.text))
    : members = others := by
  induction members generalizing others with
  | nil =>
      cases others with
      | nil => rfl
      | cons other others => cases other <;> cases same
  | cons member members ih =>
      cases others with
      | nil => cases member <;> cases same
      | cons other others =>
          have rest := (List.forall_mem_cons.mp valid).2
          have othersRest := (List.forall_mem_cons.mp othersValid).2
          have tails := ih rest othersRest
          cases member with
          | one c =>
              cases other with
              | one d =>
                  obtain ⟨first, after⟩ := List.cons.inj same
                  rw [first, tails after]
              | range low high =>
                  exact absurd (List.cons.inj same).2 (members_ne_dash rest _)
          | range first last =>
              cases other with
              | one d =>
                  exact absurd (List.cons.inj same).2.symm (members_ne_dash othersRest _)
              | range low high =>
                  simp only [List.flatMap_cons, text, List.cons_append, List.nil_append,
                    List.cons.injEq, true_and] at same
                  obtain ⟨firstSame, lastSame, after⟩ := same
                  rw [firstSame, lastSame, tails after]

/-- A class spells its members in one way at most. -/
theorem Spells.unique {also : Bool} {others : List ClassMember}
    (spells : Spells body negated members) (again : Spells body also others)
    : also = negated ∧ others = members := by
  have marked {members : List ClassMember} {body : List Char}
      (spells : Spells ('!' :: body) false members)
      : False := by
    obtain ⟨c, rest, text, ordinary⟩ := members_head spells.nonempty spells.valid
    have same := spells.text
    rw [text] at same
    obtain ⟨rfl, -⟩ := List.cons.inj same
    exact ordinary.ne (by simp) rfl
  have same := spells.text.symm.trans again.text
  cases negated with
  | false =>
      cases also with
      | false => exact ⟨rfl, members_unique again.valid spells.valid same.symm⟩
      | true =>
          rw [again.text] at spells
          exact (marked spells).elim
  | true =>
      cases also with
      | false =>
          rw [spells.text] at again
          exact (marked again).elim
      | true =>
          exact ⟨rfl, members_unique again.valid spells.valid (List.cons.inj same).2.symm⟩

/-- The tokens of some members and the bracket behind them. -/
def memberTokens (members : List ClassMember) (more : List Regex.Token) : List Regex.Token :=
  (members.flatMap (·.text)).map .plain ++ .plain ']' :: more

theorem memberTokens_head {more : List Regex.Token} {sign : Char}
    (valid : ∀ member ∈ members, member.Valid)
    (special : sign ∈ ['\\', '[', '^', '!', '-'])
    : (memberTokens members more).head? ≠ some (.plain sign) := by
  intro same
  by_cases empty : members = []
  · subst empty
    cases same
    simp at special
  · obtain ⟨c, rest, text, ordinary⟩ := members_head empty valid
    simp only [memberTokens, text, List.map_cons, List.cons_append, List.head?_cons,
      Option.some.injEq, Regex.Token.plain.injEq] at same
    apply ordinary.ne _ same
    simp only [List.mem_cons, List.not_mem_nil, or_false] at special ⊢
    tauto

theorem memberTokens_sound {more : List Regex.Token} (clean : .dangling ∉ more)
    : .dangling ∉ memberTokens members more := by
  simp [memberTokens, clean]

theorem length_lt_memberTokens (members : List ClassMember) (more : List Regex.Token)
    : members.length < (memberTokens members more).length := by
  induction members with
  | nil => simp [memberTokens]
  | cons member members ih =>
      have positive : 0 < member.text.length := by cases member <;> simp [text]
      simp only [memberTokens, List.flatMap_cons, List.map_append, List.append_assoc,
        List.length_append, List.length_map, List.length_cons] at ih ⊢
      omega

/-- The members of a class are read one after the other, up to its closing bracket. -/
theorem members_read (valid : ∀ member ∈ members, member.Valid) {more : List Regex.Token}
    (clean : .dangling ∉ more) (start position : Nat) (found : List Regex.Member) {limit : Nat}
    (nonempty : members ≠ [] ∨ found ≠ []) (enough : members.length < limit)
    : ∃ last,
        CharClass.members start found ⟨position, memberTokens members more⟩ limit
          = .ok (found.reverse ++ members.map (·.member), ⟨last, more⟩) := by
  induction members generalizing position found limit with
  | nil =>
      have nonempty := nonempty.resolve_left (fun given => given rfl)
      obtain ⟨limit, rfl⟩ := Nat.exists_eq_add_of_lt enough
      refine ⟨position + 1, ?_⟩
      rw [List.map_nil, List.append_nil]
      exact CharClass.members_close nonempty clean _
  | cons member members ih =>
      obtain ⟨limit, rfl⟩ : ∃ fewer, limit = fewer + 1 := ⟨limit - 1, by omega⟩
      rw [List.length_cons, Nat.add_lt_add_iff_right] at enough
      obtain ⟨memberValid, others⟩ := List.forall_mem_cons.mp valid
      have later (position : Nat) :=
        ih others position (member.member :: found) (Or.inr (List.cons_ne_nil _ _)) enough
      have sound : .dangling ∉ memberTokens members more := memberTokens_sound clean
      cases member with
      | one c =>
          obtain ⟨last, read⟩ := later (position + 1)
          have bracket : c ≠ ']' := memberValid.ne (by simp)
          have dash : (memberTokens members more).head? ≠ some (.plain '-') :=
            memberTokens_head others (by simp)
          refine ⟨last, (CharClass.members_code bracket dash sound limit).trans ?_⟩
          simpa [member] using read
      | range first finish =>
          obtain ⟨last, read⟩ := later (position + 3)
          have bracket : first ≠ ']' := memberValid.1.ne (by simp)
          have finishBracket : finish ≠ ']' := memberValid.2.1.ne (by simp)
          refine ⟨last, (CharClass.members_range bracket finishBracket memberValid.2.2 sound
            limit).trans ?_⟩
          simpa [member] using read

-----------------------------------------------------------------------------------------
-- Classes
-----------------------------------------------------------------------------------------

/-- The class that stands in the expression for a class, without its brackets. -/
def classText (negated : Bool) (members : List ClassMember) : List Char :=
  (if negated then ['^'] else []) ++ members.flatMap (·.text)

theorem Spells.expression (spells : Spells body negated members)
    : (Token.charClass body).expression = '[' :: (classText negated members ++ [']']) := by
  obtain ⟨rfl, nonempty, valid⟩ := spells
  cases negated with
  | true => rfl
  | false =>
      obtain ⟨c, rest, text, ordinary⟩ := members_head nonempty valid
      have mark : c ≠ '!' := ordinary.ne (by simp)
      simp [text, classText, Token.expression, mark]

theorem Spells.tokens (spells : Spells body negated members)
    : Regex.Token.ofText (Token.charClass body).expression
        = .plain '[' :: ((classText negated members).map .plain ++ [.plain ']']) := by
  have unescaped : '\\' ∉ '[' :: (classText negated members ++ [']']) := by
    cases negated <;> simp [classText, members_unescaped spells.valid]
  rw [spells.expression, Regex.Token.ofText_plain unescaped]
  simp

/-- A class is read as the members that it spells. -/
theorem Spells.reads (spells : Spells body negated members)
    : CharClass.Reads ((classText negated members).map .plain)
        (CharClass.test (Flags.lettering []) (members.map (·.member)) negated) := by
  refine ⟨by simp, ?_⟩
  intro start position more clean
  have skipped
      : ∃ after,
          Cursor.skip
              ⟨position, (classText negated members).map .plain ++ .plain ']' :: more⟩ '^'
            = .ok (negated, ⟨after, memberTokens members more⟩) := by
    cases negated with
    | true => exact ⟨position + 1, Cursor.skip_cons '^' (memberTokens_sound clean)⟩
    | false => exact ⟨position, Cursor.skip_other (memberTokens_head spells.valid (by simp))⟩
  obtain ⟨after, skipped⟩ := skipped
  have enough := Nat.lt_succ_of_lt (length_lt_memberTokens members more)
  obtain ⟨last, read⟩ :=
    members_read spells.valid clean start after [] (Or.inl spells.nonempty) enough
  refine ⟨last, ?_⟩
  simp only [CharClass.read, skipped, Parse.ok_bind, read]
  rfl

theorem Spells.single (spells : Spells body negated members)
    : Single (Regex.Token.ofText (Token.charClass body).expression)
        (CharClass.test (Flags.lettering []) (members.map (·.member)) negated) := by
  rw [spells.tokens]
  exact Single.charClass spells.reads

theorem classTest_accepts (members : List ClassMember) (negated : Bool) (c : Char)
    : (CharClass.test (Flags.lettering []) (members.map (·.member)) negated).accepts c
      ↔ ((∃ member ∈ members, member.Holds c) ↔ negated = false) := by
  rw [CharClass.test_accepts]
  simp only [List.mem_map, exists_exists_and_eq_and, member_holds]

end CloudBuckets.Glob
