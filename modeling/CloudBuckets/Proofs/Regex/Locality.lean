import CloudBuckets.Proofs.Regex.CharClass

/-! Reading a class is local: what is read depends on nothing but what is taken, so that a class
is read alike at every place, whatever stands behind it.
-/

namespace CloudBuckets.Regex

-----------------------------------------------------------------------------------------
-- Local operations
-----------------------------------------------------------------------------------------

/-- What an operation reads depends neither on the place nor on what follows, except for the token
that comes next.
-/
def Local {α : Type} (op : Cursor → Parse (α × Cursor)) : Prop :=
  ∀ ⦃position : Nat⦄ ⦃tokens : List Token⦄ ⦃value : α⦄ ⦃after : Cursor⦄,
    .dangling ∉ tokens
    → op ⟨position, tokens⟩ = .ok (value, after)
    → ∃ taken,
        tokens = taken ++ after.tokens
        ∧ ∀ (place : Nat) (more : List Token),
            .dangling ∉ more
            → more.head? = after.tokens.head?
            → ∃ last, op ⟨place, taken ++ more⟩ = .ok (value, ⟨last, more⟩)

namespace Local

variable {α β : Type}

theorem done (value : α) : Local fun c => .ok (value, c) := by
  intro position tokens result after clean done
  cases done
  exact ⟨[], rfl, fun place more _ _ => ⟨place, rfl⟩⟩

theorem refused (f : Cursor → Refusal)
    : Local (fun c => .error (f c) : Cursor → Parse (α × Cursor)) := by
  intro position tokens result after clean done
  cases done

theorem bind {f : Cursor → Parse (α × Cursor)} {g : α × Cursor → Parse (β × Cursor)}
    (first : Local f) (second : ∀ value, Local fun c => g (value, c))
    : Local fun c => f c >>= g := by
  intro position tokens result after clean done
  obtain ⟨⟨value, ⟨middle, left⟩⟩, firstDone, secondDone⟩ := Parse.ok_of_bind done
  obtain ⟨taken, rfl, again⟩ := first clean firstDone
  have leftClean : .dangling ∉ left := fun member => clean (List.mem_append_right _ member)
  obtain ⟨later, rfl, laterAgain⟩ := second value leftClean secondDone
  refine ⟨taken ++ later, (List.append_assoc ..).symm, ?_⟩
  intro place more moreClean same
  have laterClean : .dangling ∉ later := fun member => leftClean (List.mem_append_left _ member)
  have head : (later ++ more).head? = (later ++ after.tokens).head? := by
    rw [List.head?_append, List.head?_append, same]
  obtain ⟨behind, firstAgain⟩ :=
    again place (later ++ more) (by simp [laterClean, moreClean]) head
  obtain ⟨last, secondAgain⟩ := laterAgain behind more moreClean same
  refine ⟨last, ?_⟩
  simp only [List.append_assoc, firstAgain, Parse.ok_bind, secondAgain]

theorem map {f : Cursor → Parse (α × Cursor)} (g : α → β) (first : Local f)
    : Local fun c => f c >>= fun read => .ok (g read.1, read.2) :=
  first.bind fun value => done (g value)

theorem ite {f g : Cursor → Parse (α × Cursor)} {p : Prop} [Decidable p] (first : Local f)
    (second : Local g)
    : Local fun c => if p then f c else g c := by
  split
  · exact first
  · exact second

/-- An operation may look at the next token before it goes on. -/
theorem glance {f : Cursor → Parse (α × Cursor)}
    (each : ∀ head, ∃ g, Local g ∧ ∀ c, c.tokens.head? = head → f c = g c)
    : Local f := by
  intro position tokens value after clean done
  obtain ⟨g, reads, agrees⟩ := each tokens.head?
  rw [agrees _ rfl] at done
  obtain ⟨taken, rfl, again⟩ := reads clean done
  refine ⟨taken, rfl, ?_⟩
  intro place more moreClean same
  have head : (taken ++ more).head? = (taken ++ after.tokens).head? := by
    rw [List.head?_append, List.head?_append, same]
  rw [agrees _ head]
  exact again place more moreClean same

theorem next : Local Cursor.next := by
  intro position tokens result after clean done
  cases tokens with
  | nil =>
      cases done
      refine ⟨[], rfl, ?_⟩
      intro place more _ same
      obtain rfl := List.head?_eq_none_iff.mp same
      exact ⟨place, rfl⟩
  | cons token rest =>
      have restClean : .dangling ∉ rest := fun member => clean (List.mem_cons_of_mem _ member)
      rw [Cursor.next_cons token restClean] at done
      cases done
      exact ⟨[token], rfl, fun place more moreClean _ => ⟨_, Cursor.next_cons token moreClean⟩⟩

theorem skip (expected : Char) : Local fun c => c.skip expected := by
  apply glance
  intro head
  refine ⟨_, (next.map fun _ => true).ite (p := head == some (.plain expected)) (done false), ?_⟩
  rintro c rfl
  rfl

theorem take (accepts : Char → Bool) (limit : Nat) : Local fun c => c.take accepts limit := by
  induction limit with
  | zero => exact done []
  | succ limit ih =>
      have taken (first : Char)
          : Local fun c =>
              c.next >>= fun read =>
                read.2.take accepts limit >>= fun more => .ok (first :: more.1, more.2) :=
        next.bind fun _ => ih.map (first :: ·)
      apply glance
      intro head
      cases head with
      | none =>
          refine ⟨_, done [], ?_⟩
          intro c same
          simp only [Cursor.take, List.head?_eq_none_iff.mp same]
      | some token =>
          have begins {c : Cursor} (same : c.tokens.head? = some token)
              : ∃ rest, c.tokens = token :: rest :=
            List.head?_eq_some_iff.mp same
          cases token with
          | plain first =>
              refine ⟨_, (taken first).ite (p := accepts first) (done []), ?_⟩
              intro c same
              obtain ⟨rest, tokens⟩ := begins same
              simp only [Cursor.take, tokens]
              rfl
          | escaped | dangling =>
              refine ⟨_, done [], ?_⟩
              intro c same
              obtain ⟨rest, tokens⟩ := begins same
              simp only [Cursor.take, tokens]

/-- A name ends with its terminator, before which there must be something. -/
theorem nameWithin_end {terminator : Char} {what : String} {size position limit : Nat}
    {rest : List Token} (clean : .dangling ∉ rest)
    : Cursor.nameWithin terminator what size ⟨position, .plain terminator :: rest⟩ (limit + 1)
        = if size = 0 then fail (.missing what) position
          else .ok ([], ⟨position + 1, rest⟩) := by
  simp [Cursor.nameWithin, Cursor.next_cons _ clean, Token.text]
  rfl

theorem nameWithin_text {terminator : Char} {what : String} {size position limit : Nat}
    {token : Token} {rest : List Token} (other : token ≠ .plain terminator)
    (clean : .dangling ∉ rest)
    : Cursor.nameWithin terminator what size ⟨position, token :: rest⟩ (limit + 1)
        = Cursor.nameWithin terminator what (size + token.text.length)
              ⟨position + token.text.length, rest⟩ limit >>= fun read =>
            .ok (token.text ++ read.1, read.2) := by
  simp [Cursor.nameWithin, Cursor.next_cons _ clean, other]
  rfl

/-- A text up to a terminator is read alike with any limit that lets it be read. -/
theorem nameWithin {terminator : Char} {what : String} {size position limit : Nat}
    {tokens : List Token} {text : List Char} {after : Cursor} (clean : .dangling ∉ tokens)
    (done : Cursor.nameWithin terminator what size ⟨position, tokens⟩ limit = .ok (text, after))
    : ∃ taken,
        tokens = taken ++ after.tokens
        ∧ ∀ (place : Nat) (more : List Token) (limit : Nat),
            .dangling ∉ more
            → taken.length ≤ limit
            → ∃ last,
                Cursor.nameWithin terminator what size ⟨place, taken ++ more⟩ limit
                  = .ok (text, ⟨last, more⟩) := by
  induction limit generalizing size position tokens text with
  | zero => cases done
  | succ limit ih =>
      cases tokens with
      | nil => cases done
      | cons first others =>
          have othersClean : .dangling ∉ others := List.not_mem_of_not_mem_cons clean
          by_cases ended : first = .plain terminator
          · subst ended
            rw [nameWithin_end othersClean] at done
            by_cases empty : size = 0
            · rw [if_pos empty] at done
              cases done
            · rw [if_neg empty] at done
              cases done
              refine ⟨[.plain terminator], rfl, ?_⟩
              intro place more limit moreClean enough
              obtain ⟨limit, rfl⟩ := Nat.exists_eq_add_of_lt enough
              exact ⟨_, (nameWithin_end moreClean).trans (if_neg empty)⟩
          · rw [nameWithin_text ended othersClean] at done
            obtain ⟨⟨later, last⟩, laterDone, same⟩ := Parse.ok_of_bind done
            cases same
            obtain ⟨taken, rfl, again⟩ := ih othersClean laterDone
            refine ⟨first :: taken, rfl, ?_⟩
            intro place more limit moreClean enough
            obtain ⟨limit, rfl⟩ : ∃ fewer, limit = fewer + 1 :=
              ⟨limit - 1, by rw [List.length_cons] at enough; omega⟩
            rw [List.length_cons, Nat.add_le_add_iff_right] at enough
            have takenClean : .dangling ∉ taken ++ more := by
              simp only [List.mem_append, not_or] at othersClean ⊢
              exact ⟨othersClean.1, moreClean⟩
            obtain ⟨behind, laterAgain⟩ :=
              again (place + first.text.length) more limit moreClean enough
            refine ⟨behind, ?_⟩
            rw [List.cons_append, nameWithin_text ended takenClean, laterAgain]
            rfl

theorem name (terminator : Char) (what : String) : Local fun c => c.name terminator what := by
  intro position tokens text after clean done
  obtain ⟨taken, rfl, again⟩ := nameWithin clean done
  refine ⟨taken, rfl, ?_⟩
  intro place more moreClean _
  apply again place more _ moreClean
  simp only [List.length_append]
  omega

end Local

-----------------------------------------------------------------------------------------
-- Escapes in classes
-----------------------------------------------------------------------------------------

namespace Escape

theorem hexadecimal_local (letter : Char) (count : Nat)
    : Local fun c => hexadecimal letter count c := by
  apply (Local.take isHexDigit count).bind
  intro digits
  apply Local.ite (Local.refused _)
  apply Local.ite (Local.refused _)
  exact Local.ite (Local.refused _) (Local.done _)

theorem named_local : Local named := by
  apply (Local.skip '\x7b').bind
  intro opened
  apply Local.ite (Local.refused _)
  apply (Local.name '\x7d' "character name").bind
  intro name
  dsimp only
  split
  · exact Local.done _
  · exact Local.refused _

theorem single_local (letter : Char) : Local fun c => single letter c := by
  unfold single
  split
  · exact hexadecimal_local _ _
  · exact hexadecimal_local _ _
  · exact hexadecimal_local _ _
  · exact named_local
  · split
    · exact Local.done _
    · exact Local.ite (Local.refused _) (Local.done _)

theorem inClass_local (letter : Char) : Local fun c => inClass letter c := by
  unfold inClass
  split
  · exact Local.done _
  · apply Local.ite (Local.done _)
    apply Local.ite
    · apply (Local.take isOctalDigit 2).bind
      exact fun more => Local.ite (Local.refused _) (Local.done _)
    · apply Local.ite (Local.refused _)
      exact (single_local letter).map Member.code

end Escape

-----------------------------------------------------------------------------------------
-- Classes
-----------------------------------------------------------------------------------------

namespace CharClass

variable {start position limit : Nat} {found read : List Member} {token : Token}
variable {tokens rest : List Token} {after : Cursor}

theorem item_local (token : Token) : Local (item token) := by
  unfold item
  split
  · exact Local.done _
  · exact Escape.inClass_local _
  · exact Local.refused _

theorem range_local (first second : Member) (text lastText : List Char)
    : Local fun c =>
        range first second text lastText c.position >>= fun member => .ok ([member], c) := by
  cases first <;> cases second
  case code.code low high =>
    by_cases ordered : high < low
    · simp only [range, ordered, if_true]
      exact Local.refused _
    · simp only [range, ordered, if_false]
      exact Local.done _
  all_goals exact Local.refused _

/-- The range from a member to the one that a token begins. -/
def rangeTo (first : Member) (token : Token) : Option Token → Cursor → Parse (List Member × Cursor)
  | none, c => fail .unterminatedClass c.position
  | some last, c =>
      item last c >>= fun second =>
        range first second.1 token.text last.text second.2.position >>= fun member =>
          .ok ([member], second.2)

/-- What is read behind a dash, which is a member itself if the closing bracket comes next. -/
def dash (first : Member) (token : Token) (c : Cursor) : Parse (List Member × Cursor) :=
  if c.tokens.head? = some (.plain ']') then .ok ([.code '-'.toNat, first], c)
  else c.next >>= fun last => rangeTo first token last.1 last.2

/-- The members that begin with a token, the last one first. -/
def round (token : Token) (c : Cursor) : Parse (List Member × Cursor) :=
  item token c >>= fun first =>
    first.2.skip '-' >>= fun dashed =>
      if dashed.1 then dash first.1 token dashed.2 else .ok ([first.1], dashed.2)

theorem rangeTo_local (first : Member) (token : Token) (last : Option Token)
    : Local (rangeTo first token last) := by
  cases last with
  | none => exact Local.refused _
  | some last =>
      apply (item_local last).bind
      exact fun second => range_local first second token.text last.text

theorem dash_local (first : Member) (token : Token) : Local (dash first token) := by
  apply Local.glance
  intro head
  have behind : Local fun c => c.next >>= fun last => rangeTo first token last.1 last.2 :=
    Local.next.bind (rangeTo_local first token)
  have ended := Local.done [.code '-'.toNat, first]
  refine ⟨_, ended.ite (p := head = some (.plain ']')) behind, ?_⟩
  rintro c rfl
  rfl

theorem round_local (token : Token) : Local (round token) := by
  apply (item_local token).bind
  intro first
  dsimp only
  apply (Local.skip '-').bind
  intro dashed
  cases dashed with
  | true => exact dash_local first token
  | false => exact Local.done [first]

/-- Behind a dash, the class may end, and else a range is read. -/
theorem members_dash {first : Member} {left : List Token} (clean : .dangling ∉ left)
    : ((Cursor.next ⟨position, left⟩ >>= fun
          | (none, _) => fail .unterminatedClass start
          | (some last, c) =>
              if last = .plain ']' then
                .ok ((.code '-'.toNat :: first :: found).reverse, c)
              else
                item last c >>= fun second =>
                  range first second.1 token.text last.text second.2.position >>= fun member =>
                    members start (member :: found) second.2 (limit + 1))
        = .ok (read, after))
      ↔ ∃ more c,
          dash first token ⟨position, left⟩ = .ok (more, c)
          ∧ members start (more ++ found) c (limit + 1) = .ok (read, after) := by
  cases left with
  | nil => simp [dash, Cursor.next, rangeTo, fail]
  | cons last left =>
      have leftClean : .dangling ∉ left := List.not_mem_of_not_mem_cons clean
      by_cases closing : last = .plain ']'
      · subst closing
        have closed
            : members start (.code '-'.toNat :: first :: found) ⟨position, .plain ']' :: left⟩
                (limit + 1)
              = .ok ((.code '-'.toNat :: first :: found).reverse, ⟨position + 1, left⟩) :=
          members_close (List.cons_ne_nil _ _) leftClean limit
        simp only [dash, Cursor.next_cons _ leftClean, Parse.ok_bind, List.head?_cons, if_true]
        constructor
        · exact fun ended => ⟨_, _, rfl, closed.trans ended⟩
        · rintro ⟨more, c, same, ended⟩
          cases same
          exact closed.symm.trans ended
      · simp only [Cursor.next_cons _ leftClean, Parse.ok_bind, closing, if_false, dash,
          List.head?_cons, Option.some.injEq, rangeTo]
        cases item last ⟨position + last.text.length, left⟩ with
        | error refusal => simp [bind, Except.bind]
        | ok second =>
            simp only [Parse.ok_bind]
            cases range first second.1 token.text last.text second.2.position with
            | error refusal => simp [bind, Except.bind]
            | ok member => simp

/-- Where a token does not close the class, its members are read first and then the others. -/
theorem members_round (opens : ¬ (token = .plain ']' ∧ found ≠ [])) (clean : .dangling ∉ rest)
    (limit : Nat)
    : members start found ⟨position, token :: rest⟩ (limit + 2) = .ok (read, after)
      ↔ ∃ more c,
          round token ⟨position + token.text.length, rest⟩ = .ok (more, c)
          ∧ members start (more ++ found) c (limit + 1) = .ok (read, after) := by
  have condition : (decide (token = .plain ']') && !found.isEmpty) = false := by
    simpa using opens
  rw [members, Cursor.next_cons token clean, Parse.ok_bind, round]
  simp only [condition]
  cases firstRead : item token ⟨position + token.text.length, rest⟩ with
  | error refusal => simp [bind, Except.bind]
  | ok first =>
      obtain ⟨taken, rfl, -⟩ := item_local token clean firstRead
      have firstClean : .dangling ∉ first.2.tokens := by simp_all
      cases dashRead : first.2.skip '-' with
      | error refusal => simp [bind, Except.bind, dashRead]
      | ok dashed =>
          obtain ⟨skipped, same, -⟩ := Local.skip '-' firstClean dashRead
          obtain ⟨dashed, ⟨middle, left⟩⟩ := dashed
          have leftClean : .dangling ∉ left := by simp_all
          cases dashed with
          | false => simp [dashRead]
          | true =>
              simp only [Parse.ok_bind, dashRead]
              exact members_dash leftClean

theorem head?_closing (body left more : List Token)
    : (body ++ .plain ']' :: left).head? = (body ++ .plain ']' :: more).head? := by
  cases body <;> rfl

/-- What is read as the members of a class ends with a closing bracket, and is read alike at every
place, whatever follows.
-/
theorem members_delimited (clean : .dangling ∉ tokens) (enough : tokens.length < limit)
    (done : members start found ⟨position, tokens⟩ limit = .ok (read, after))
    : ∃ body,
        tokens = body ++ .plain ']' :: after.tokens
        ∧ ∀ (start place : Nat) (more : List Token) (limit : Nat),
            .dangling ∉ more
            → body.length < limit
            → ∃ last,
                members start found ⟨place, body ++ .plain ']' :: more⟩ limit
                  = .ok (read, ⟨last, more⟩) := by
  induction limit generalizing found position tokens with
  | zero => cases done
  | succ limit ih =>
      cases tokens with
      | nil => cases done
      | cons token rest =>
          rw [List.length_cons, Nat.add_lt_add_iff_right] at enough
          have restClean : .dangling ∉ rest := List.not_mem_of_not_mem_cons clean
          by_cases closes : token = .plain ']' ∧ found ≠ []
          · obtain ⟨rfl, nonempty⟩ := closes
            rw [members_close nonempty restClean] at done
            cases done
            refine ⟨[], rfl, ?_⟩
            intro start place more limit moreClean enough
            obtain ⟨limit, rfl⟩ := Nat.exists_eq_add_of_lt enough
            exact ⟨_, members_close nonempty moreClean _⟩
          · obtain ⟨limit, rfl⟩ : ∃ fewer, limit = fewer + 1 := ⟨limit - 1, by omega⟩
            obtain ⟨added, ⟨middle, left⟩, roundDone, later⟩ :=
              (members_round closes restClean limit).mp done
            obtain ⟨taken, rfl, roundAgain⟩ := round_local token restClean roundDone
            simp only [List.mem_append, not_or, List.length_append] at restClean enough
            obtain ⟨body, rfl, again⟩ := ih restClean.2 (by omega) later
            refine ⟨token :: (taken ++ body), by simp, ?_⟩
            intro start place more limit moreClean enough
            rw [List.length_cons, List.length_append] at enough
            obtain ⟨limit, rfl⟩ : ∃ fewer, limit = fewer + 2 := ⟨limit - 2, by omega⟩
            have bodyClean : .dangling ∉ body ++ .plain ']' :: more := by simp_all
            obtain ⟨behind, roundDone⟩ :=
              roundAgain (place + token.text.length) _ bodyClean (head?_closing ..)
            obtain ⟨last, later⟩ := again start behind more (limit + 1) moreClean (by omega)
            refine ⟨last, ?_⟩
            rw [List.cons_append, List.append_assoc]
            exact (members_round closes (by simp_all) limit).mpr ⟨_, _, roundDone, later⟩

/-- A class that is read once is read alike everywhere. -/
theorem reads_of_read {test : CharTest} (clean : .dangling ∉ tokens)
    (done : CharClass.read (Flags.lettering []) start ⟨position, tokens⟩ = .ok (test, after))
    : ∃ body, tokens = body ++ .plain ']' :: after.tokens ∧ Reads body test := by
  rw [CharClass.read] at done
  obtain ⟨⟨negated, ⟨middle, left⟩⟩, skipped, done⟩ := Parse.ok_of_bind done
  obtain ⟨⟨found, last⟩, membersDone, same⟩ := Parse.ok_of_bind done
  cases same
  obtain ⟨mark, rfl, skipAgain⟩ := Local.skip '^' clean skipped
  simp only [List.mem_append, not_or] at clean
  obtain ⟨body, rfl, again⟩ := members_delimited clean.2 (Nat.lt_succ_self _) membersDone
  refine ⟨mark ++ body, by simp, by simp_all, ?_⟩
  intro start place more moreClean
  obtain ⟨behind, skipped⟩ :=
    skipAgain place (body ++ .plain ']' :: more) (by simp_all) (head?_closing ..)
  have enough : body.length < (body ++ .plain ']' :: more).length + 1 := by
    rw [List.length_append]
    omega
  obtain ⟨last, membersDone⟩ :=
    again start behind more ((body ++ .plain ']' :: more).length + 1) moreClean enough
  refine ⟨last, ?_⟩
  simp only [List.append_assoc, CharClass.read, skipped, Parse.ok_bind, membersDone]
  rfl

end CharClass

end CloudBuckets.Regex
