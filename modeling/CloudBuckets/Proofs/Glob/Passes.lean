import CloudBuckets.Proofs.Glob.Scan

/-! The scanner in the middle of a pattern: which tokens it has passed, and what is left then. The
tokens passed tell what the pattern contains.
-/

namespace CloudBuckets.Glob

/-- The scanner passes over some tokens, from a text to what is left of it. The two flags tell
whether a group is open before and behind them.
-/
inductive Passes : Bool → List Char → List Token → Bool → List Char → Prop
  | done (grouped : Bool) (rest : List Char) : Passes grouped rest [] grouped rest
  | atom {grouped inGroup : Bool} {text after rest : List Char} {atom : Atom}
    {tokens : List Token} (first : atom.Reads grouped text after)
    (more : Passes grouped after tokens inGroup rest)
    : Passes grouped text (atom.token :: tokens) inGroup rest
  | enter {inGroup : Bool} {text rest : List Char} {tokens : List Token}
    (more : Passes true text tokens inGroup rest)
    : Passes false ('\x7b' :: text) (.openGroup :: tokens) inGroup rest
  | next {inGroup : Bool} {text rest : List Char} {tokens : List Token}
    (more : Passes true text tokens inGroup rest)
    : Passes true (',' :: text) (.alternative :: tokens) inGroup rest
  | leave {inGroup : Bool} {text rest : List Char} {tokens : List Token}
    (more : Passes false text tokens inGroup rest)
    : Passes true ('\x7d' :: text) (.closeGroup :: tokens) inGroup rest

variable {grouped inGroup after : Bool} {text middle rest : List Char}
variable {tokens others : List Token} {limit : Nat}

-----------------------------------------------------------------------------------------
-- The scanner passes what it finds
-----------------------------------------------------------------------------------------

theorem Passes.append (first : Passes grouped text tokens inGroup middle)
    (second : Passes inGroup middle others after rest)
    : Passes grouped text (tokens ++ others) after rest := by
  induction first with
  | done => exact second
  | atom read _ ih => exact .atom read (ih second)
  | enter _ ih => exact .enter (ih second)
  | next _ ih => exact .next (ih second)
  | leave _ ih => exact .leave (ih second)

/-- The scanner goes on behind the tokens that it has passed. -/
theorem Passes.scan (passes : Passes grouped text tokens inGroup rest)
    (enough : text.length ≤ limit)
    : ∃ left,
        rest.length ≤ left
        ∧ Glob.scan grouped limit text = (Glob.scan inGroup left rest).map (tokens ++ ·) := by
  induction passes generalizing limit with
  | done grouped rest =>
      refine ⟨limit, enough, ?_⟩
      cases Glob.scan grouped limit rest <;> rfl
  | atom first _ ih =>
      have shorter := first.length_lt
      obtain ⟨limit, rfl⟩ : ∃ fewer, limit = fewer + 1 := ⟨limit - 1, by omega⟩
      obtain ⟨left, room, scanned⟩ := @ih limit (by omega)
      refine ⟨left, room, ?_⟩
      rw [first.scan, scanned]
      cases Glob.scan _ left _ <;> rfl
  | enter _ ih | next _ ih | leave _ ih =>
      obtain ⟨limit, rfl⟩ : ∃ fewer, limit = fewer + 1 :=
        ⟨limit - 1, by rw [List.length_cons] at enough; omega⟩
      rw [List.length_cons, Nat.add_le_add_iff_right] at enough
      obtain ⟨left, room, scanned⟩ := ih enough
      refine ⟨left, room, ?_⟩
      simp only [scan_enter, scan_next, scan_leave, scanned]
      cases Glob.scan _ left _ <;> rfl

theorem passes_of_scan (enough : text.length ≤ limit)
    (scanned : scan grouped limit text = .ok tokens)
    : Passes grouped text tokens false [] := by
  induction limit generalizing grouped text tokens with
  | zero =>
      obtain rfl := List.length_eq_zero_iff.mp (Nat.le_zero.mp enough)
      cases grouped with
      | false =>
          cases scanned
          exact .done false []
      | true => cases scanned
  | succ limit ih =>
      cases text with
      | nil =>
          cases grouped with
          | false =>
              cases scanned
              exact .done false []
          | true => cases scanned
      | cons c rest =>
          rw [List.length_cons, Nat.add_le_add_iff_right] at enough
          rcases atom_or_sign grouped c rest with
            ⟨atom, after, first⟩ | ⟨rfl, rfl⟩ | ⟨rfl, rfl⟩ | ⟨rfl, rfl | rfl⟩
          · rw [first.scan] at scanned
            obtain ⟨later, laterScanned, rfl⟩ := ok_of_map scanned
            have shorter := first.length_lt
            rw [List.length_cons] at shorter
            exact .atom first (ih (by omega) laterScanned)
          · cases scanned
          · rw [scan_enter] at scanned
            obtain ⟨later, laterScanned, rfl⟩ := ok_of_map scanned
            exact .enter (ih enough laterScanned)
          · rw [scan_leave] at scanned
            obtain ⟨later, laterScanned, rfl⟩ := ok_of_map scanned
            exact .leave (ih enough laterScanned)
          · rw [scan_next] at scanned
            obtain ⟨later, laterScanned, rfl⟩ := ok_of_map scanned
            exact .next (ih enough laterScanned)

/-- A text is scanned to some tokens just if the scanner passes them up to the end, outside a
group.
-/
theorem scan_eq_ok_iff (enough : text.length ≤ limit)
    : scan grouped limit text = .ok tokens ↔ Passes grouped text tokens false [] := by
  constructor
  · exact passes_of_scan enough
  · intro passes
    obtain ⟨left, -, scanned⟩ := passes.scan enough
    rw [scanned]
    cases left <;> simp [scan, Except.map]

theorem tokens_eq_ok_iff : Glob.tokens text = .ok tokens ↔ Passes false text tokens false [] :=
  scan_eq_ok_iff (Nat.le_refl _)

/-- Where the scanner passes some tokens and goes on, it goes on to the end from there. -/
theorem Passes.split (first : Passes grouped text tokens inGroup middle)
    (all : Passes grouped text others false [])
    : ∃ more, others = tokens ++ more ∧ Passes inGroup middle more false [] := by
  obtain ⟨left, room, scanned⟩ := first.scan (Nat.le_refl _)
  rw [(scan_eq_ok_iff (Nat.le_refl _)).mpr all] at scanned
  obtain ⟨more, rest, rfl⟩ := ok_of_map scanned.symm
  exact ⟨more, rfl, passes_of_scan room rest⟩

-----------------------------------------------------------------------------------------
-- What has been passed
-----------------------------------------------------------------------------------------

/-- What comes next decides how the text before it is read only by a closing bracket in it, or by a
star in front. One text asks no more than another if it has these only where the other has.
-/
def AsksNoMore (other rest : List Char) : Prop :=
  (']' ∈ other → ']' ∈ rest) ∧ (other.head? = some '*' → rest.head? = some '*')

theorem AsksNoMore.append {other : List Char} (asks : AsksNoMore other rest)
    (passed : List Char)
    : AsksNoMore (passed ++ other) (passed ++ rest) := by
  constructor
  · intro member
    rw [List.mem_append] at member ⊢
    exact member.imp_right asks.1
  · intro head
    cases passed with
    | nil => exact asks.2 head
    | cons c passed => exact head

/-- What an atom takes up makes the same atom before other texts. -/
theorem Atom.Reads.piece {atom : Atom} (read : atom.Reads grouped text rest)
    : ∃ taken,
        text = taken ++ rest
        ∧ ∀ other, AsksNoMore other rest → atom.Reads grouped (taken ++ other) other := by
  cases read with
  | escaped c => exact ⟨['\\', c], rfl, fun other _ => .escaped c other⟩
  | anything => exact ⟨['*', '*'], rfl, fun other _ => .anything other⟩
  | anyPart single =>
      exact ⟨['*'], rfl, fun other asks => .anyPart fun star => single (asks.2 star)⟩
  | anyCharacter => exact ⟨['?'], rfl, fun other _ => .anyCharacter other⟩
  | @charClass body _ first =>
      refine ⟨'[' :: (body ++ [']']), by simp, ?_⟩
      intro other _
      rw [List.cons_append, List.append_assoc]
      exact .charClass other first
  | bracket unclosed =>
      exact ⟨['['], rfl, fun other asks => .bracket fun member => unclosed (asks.1 member)⟩
  | brace _ inside => exact ⟨['\x7b'], rfl, fun other _ => .brace other inside⟩
  | closing _ outside => exact ⟨['\x7d'], rfl, fun other _ => .closing other outside⟩
  | comma _ outside => exact ⟨[','], rfl, fun other _ => .comma other outside⟩
  | @letter c _ ordinary => exact ⟨[c], rfl, fun other _ => .letter other ordinary⟩

/-- What the scanner has passed makes the same tokens before other texts. -/
theorem Passes.piece (passes : Passes grouped text tokens inGroup rest)
    : ∃ passed,
        text = passed ++ rest
        ∧ ∀ other, AsksNoMore other rest
            → Passes grouped (passed ++ other) tokens inGroup other := by
  induction passes with
  | done => exact ⟨[], rfl, fun other _ => .done _ other⟩
  | atom first _ ih =>
      obtain ⟨taken, rfl, alike⟩ := first.piece
      obtain ⟨passed, rfl, later⟩ := ih
      refine ⟨taken ++ passed, (List.append_assoc ..).symm, ?_⟩
      intro other asks
      rw [List.append_assoc]
      exact .atom (alike _ (asks.append passed)) (later other asks)
  | enter _ ih =>
      obtain ⟨passed, rfl, later⟩ := ih
      exact ⟨'\x7b' :: passed, rfl, fun other asks => .enter (later other asks)⟩
  | next _ ih =>
      obtain ⟨passed, rfl, later⟩ := ih
      exact ⟨',' :: passed, rfl, fun other asks => .next (later other asks)⟩
  | leave _ ih =>
      obtain ⟨passed, rfl, later⟩ := ih
      exact ⟨'\x7d' :: passed, rfl, fun other asks => .leave (later other asks)⟩

-----------------------------------------------------------------------------------------
-- What the tokens tell of the pattern
-----------------------------------------------------------------------------------------

/-- What a pattern contains if it has a token. -/
def Token.WrittenIn (pattern : List Char) : Token → Prop
  | literal c => c ∈ pattern
  | anything => ['*', '*'] <:+: pattern
  | charClass body => ']' ∉ body
  | _ => True

theorem Token.WrittenIn.mono {token : Token} (written : token.WrittenIn rest)
    (suffix : rest <:+ text)
    : token.WrittenIn text := by
  cases token with
  | literal c => exact suffix.subset written
  | anything => exact List.IsInfix.trans written suffix.isInfix
  | charClass body => exact written
  | _ => trivial

theorem Atom.Reads.written {atom : Atom} (read : atom.Reads grouped text rest)
    : atom.token.WrittenIn text := by
  cases read with
  | escaped => exact List.mem_cons_of_mem _ List.mem_cons_self
  | anything rest => exact ⟨[], rest, rfl⟩
  | charClass _ first => exact first
  | anyPart | anyCharacter => trivial
  | bracket | brace | closing | comma | letter => exact List.mem_cons_self

theorem Passes.written (passes : Passes grouped text tokens inGroup rest)
    : ∀ token ∈ tokens, token.WrittenIn text := by
  induction passes with
  | done => simp
  | atom first _ ih =>
      obtain ⟨taken, rfl, -⟩ := first.piece
      rw [List.forall_mem_cons]
      exact ⟨first.written, fun token member => (ih token member).mono (List.suffix_append _ _)⟩
  | enter _ ih | next _ ih | leave _ ih =>
      rw [List.forall_mem_cons]
      exact ⟨trivial, fun token member => (ih token member).mono (List.suffix_cons _ _)⟩

-----------------------------------------------------------------------------------------
-- Escaped texts
-----------------------------------------------------------------------------------------

/-- A text with a backslash before each character. -/
def escaped (text : List Char) : List Char :=
  text.flatMap fun c => ['\\', c]

/-- An escaped text is passed as literals. -/
theorem Passes.escaped (more : Passes grouped rest tokens inGroup middle) (text : List Char)
    : Passes grouped (escaped text ++ rest) (text.map .literal ++ tokens) inGroup middle := by
  induction text with
  | nil => exact more
  | cons c text ih => exact .atom (.escaped c _) ih

/-- A text as items of a pattern. -/
def letters (text : List Char) : List Item :=
  text.map fun c => .atom (.letter c)

theorem Reads.escaped {items : List Item} (more : Reads rest items) (text : List Char)
    : Reads (escaped text ++ rest) (letters text ++ items) := by
  induction text with
  | nil => exact more
  | cons c text ih => exact .atom (.escaped c _) ih

theorem letters_spelled (text : List Char) : ∀ item ∈ letters text, item.Spelled := by
  rw [letters, List.forall_mem_map]
  exact fun _ _ => trivial

theorem language_letters (text : List Char) : language (letters text) = {text} := by
  induction text with
  | nil => rfl
  | cons c text ih =>
      have split : language (letters (c :: text)) = {[c]} * language (letters text) :=
        List.prod_cons
      ext other
      rw [split, ih]
      constructor
      · rintro ⟨_, rfl, _, rfl, rfl⟩
        rfl
      · rintro rfl
        exact ⟨[c], rfl, text, rfl, rfl⟩

theorem language_append (items others : List Item)
    : language (items ++ others) = language items * language others := by
  rw [language, List.map_append, List.prod_append]
  rfl

end CloudBuckets.Glob
