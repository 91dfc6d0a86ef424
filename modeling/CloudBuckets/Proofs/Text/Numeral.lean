import CloudBuckets.Text.Numeral
import Mathlib.Data.Nat.Digits.Defs

/-! Which texts denote integers. The reader accepts just the numerals, with the number that they
denote, and integers are read back from their decimal form.
-/

namespace CloudBuckets.Text

/-- A code point in some ranges is in one of them, by induction on the ranges. -/
theorem Ranges.exists_of_contains {ranges : Ranges} {code : Nat}
    (inside : ranges.contains code = true)
    : ∃ range ∈ ranges, range.1 ≤ code ∧ code ≤ range.2 := by
  induction ranges with
  | nil => cases inside
  | cons range rest ih =>
      simp only [contains] at inside
      split at inside
      · cases inside
      · rename_i begun
        rcases (Bool.or_eq_true _ _).mp inside with here | later
        · exact ⟨range, List.mem_cons_self, Nat.not_lt.mp begun, of_decide_eq_true here⟩
        · obtain ⟨other, member, bounds⟩ := ih later
          exact ⟨other, List.mem_cons_of_mem _ member, bounds⟩

/-- A decimal digit is one of ten in a row. -/
theorem exists_of_digitValue? {c : Char} {value : Nat} (digit : digitValue? c = some value)
    : ∃ base ∈ digitZeros, base ≤ c.toNat ∧ c.toNat < base + 10 := by
  obtain ⟨base, found, rfl⟩ := Option.map_eq_some_iff.mp digit
  have inside := List.find?_some found
  simp only [Bool.and_eq_true, decide_eq_true_eq] at inside
  exact ⟨base, List.mem_of_find?_eq_some found, inside⟩

namespace Numeral

-----------------------------------------------------------------------------------------
-- Numerals
-----------------------------------------------------------------------------------------

/-- A row of digits with their values. Between two digits there may be one underscore. -/
inductive Row : List Char → List Nat → Prop
  | last {c : Char} {value : Nat} (digit : digitValue? c = some value) : Row [c] [value]
  | next {c : Char} {value : Nat} {row : List Char} {values : List Nat}
    (digit : digitValue? c = some value) (rest : Row row values)
    : Row (c :: row) (value :: values)
  | spaced {c : Char} {value : Nat} {row : List Char} {values : List Nat}
    (digit : digitValue? c = some value) (rest : Row row values)
    : Row (c :: '_' :: row) (value :: values)

/-- A sign, and whether it makes a number negative. -/
inductive Sign : List Char → Bool → Prop
  | absent : Sign [] false
  | plus : Sign ['+'] false
  | minus : Sign ['-'] true

/-- The number with a sign. -/
def signed (negative : Bool) (size : Nat) : Int :=
  if negative then -(size : Int) else size

/-- A text denotes a number: between margins, a sign and a row of not too many digits. -/
inductive Denotes : List Char → Int → Prop
  | intro {before sign row after : List Char} {negative : Bool} {values : List Nat}
    (marginBefore : ∀ c ∈ before, isMargin c = true) (signs : Sign sign negative)
    (digits : Row row values) (short : values.length ≤ digitLimit)
    (marginAfter : ∀ c ∈ after, isMargin c = true)
    : Denotes (before ++ (sign ++ (row ++ after)))
        (signed negative (Nat.ofDigits 10 values.reverse))

/-- The value of a row of digits is that of its digits in base ten. -/
theorem ofDigits_eq (values : List Nat) : ofDigits values = Nat.ofDigits 10 values.reverse := by
  rw [ofDigits, Nat.ofDigits_eq_foldr, List.foldl_eq_foldr_reverse]
  congr 1
  funext value digit
  simp only [Nat.cast_id]
  omega

-----------------------------------------------------------------------------------------
-- Characters of numerals
-----------------------------------------------------------------------------------------

/-- The characters that belong to a row of digits. -/
def inRow (c : Char) : Bool :=
  c == '_' || isDigit c

/-- A margin is blank. -/
theorem blank_of_isMargin {c : Char} (margin : isMargin c = true)
    : ∃ range ∈ blankRanges, range.1 ≤ c.toNat ∧ c.toNat ≤ range.2 := by
  unfold isMargin at margin
  split at margin
  · unfold isPlainBlank at margin
    simp only [Bool.or_eq_true, beq_iff_eq, Bool.and_eq_true, decide_eq_true_eq] at margin
    rcases margin with rfl | control
    · exact ⟨(0x1C, 0x20), by decide, by decide, by decide⟩
    · exact ⟨(0x9, 0xD), by decide, control⟩
  · exact Ranges.exists_of_contains margin

/-- Digits of every script lie apart from the blanks. -/
theorem isMargin_of_digit {c : Char} {value : Nat} (digit : digitValue? c = some value)
    : isMargin c = false := by
  have apart : ∀ range ∈ blankRanges, ∀ base ∈ digitZeros,
      range.2 < base ∨ base + 10 ≤ range.1 := by
    decide
  refine Bool.eq_false_iff.mpr fun margin => ?_
  obtain ⟨base, listed, first, last⟩ := exists_of_digitValue? digit
  obtain ⟨range, blank, above, below⟩ := blank_of_isMargin margin
  rcases apart range blank base listed with before | behind <;> omega

theorem inRow_of_digit {c : Char} {value : Nat} (digit : digitValue? c = some value)
    : inRow c = true := by
  simp [inRow, isDigit, digit]

/-- No margin belongs to a row of digits. -/
theorem inRow_of_isMargin {c : Char} (margin : isMargin c = true) : inRow c = false := by
  refine Bool.eq_false_iff.mpr fun inside => ?_
  rcases (Bool.or_eq_true _ _).mp inside with underscore | digit
  · rw [beq_iff_eq.mp underscore] at margin
    exact absurd margin (by decide)
  · obtain ⟨value, digit⟩ := Option.isSome_iff_exists.mp digit
    rw [isMargin_of_digit digit] at margin
    cases margin

theorem digit_ne {c d : Char} {value : Nat} (digit : digitValue? c = some value)
    (other : digitValue? d = none)
    : c ≠ d := by
  rintro rfl
  rw [digit] at other
  cases other

-----------------------------------------------------------------------------------------
-- Rows of digits
-----------------------------------------------------------------------------------------

/-- In front of a row that is well spaced, an underscore after a digit has a digit behind it. -/
theorem spacedAfterDigit_underscore {row : List Char} (nonempty : row ≠ [])
    : spacedAfterDigit ('_' :: row) = wellSpaced row := by
  cases row with
  | nil => exact absurd rfl nonempty
  | cons first rest => rfl

theorem spacedAfterDigit_cons {c : Char} (other : c ≠ '_') (row : List Char)
    : spacedAfterDigit (c :: row) = spacedAfterDigit row := by
  rw [spacedAfterDigit.eq_def]
  split <;> simp_all

theorem wellSpaced_cons {c : Char} (other : c ≠ '_') (row : List Char)
    : wellSpaced (c :: row) = spacedAfterDigit row := by
  simp [wellSpaced, other]

/-- A character of a row is an underscore or a digit. -/
theorem exists_digit_of_inRow {c : Char} (inside : inRow c = true) (other : c ≠ '_')
    : ∃ value, digitValue? c = some value := by
  rcases (Bool.or_eq_true _ _).mp inside with underscore | digit
  · exact absurd (beq_iff_eq.mp underscore) other
  · exact Option.isSome_iff_exists.mp digit

/-- What the reader sees of a row of digits. -/
structure Reads (row : List Char) (values : List Nat) : Prop where
  inRow : ∀ c ∈ row, inRow c = true
  spaced : wellSpaced row = true
  spacedBehind : spacedAfterDigit row = true
  values_eq : row.filterMap digitValue? = values

/-- The reader sees what the row is made of, by induction on the row. -/
theorem Row.reads {row : List Char} {values : List Nat} (digits : Row row values)
    : row ≠ [] ∧ Reads row values := by
  have underscore : digitValue? '_' = none := by decide
  induction digits with
  | @last c value digit =>
      have other := digit_ne digit underscore
      refine ⟨List.cons_ne_nil _ _, ?_, ?_, ?_, ?_⟩
      · simpa using inRow_of_digit digit
      · rw [wellSpaced_cons other, spacedAfterDigit]
      · rw [spacedAfterDigit_cons other, spacedAfterDigit]
      · simp [digit]
  | @next c value row values digit _ ih =>
      have other := digit_ne digit underscore
      obtain ⟨-, inRow, spaced, behind, same⟩ := ih
      refine ⟨List.cons_ne_nil _ _, ?_, ?_, ?_, ?_⟩
      · exact List.forall_mem_cons.mpr ⟨inRow_of_digit digit, inRow⟩
      · rw [wellSpaced_cons other, behind]
      · rw [spacedAfterDigit_cons other, behind]
      · simp [digit, same]
  | @spaced c value row values digit _ ih =>
      have other := digit_ne digit underscore
      obtain ⟨nonempty, inRow, spaced, behind, same⟩ := ih
      refine ⟨List.cons_ne_nil _ _, ?_, ?_, ?_, ?_⟩
      · exact List.forall_mem_cons.mpr ⟨inRow_of_digit digit,
          List.forall_mem_cons.mpr ⟨by decide, inRow⟩⟩
      · rw [wellSpaced_cons other, spacedAfterDigit_underscore nonempty, spaced]
      · rw [spacedAfterDigit_cons other, spacedAfterDigit_underscore nonempty, spaced]
      · simp [digit, underscore, same]

/-- After a digit, what is well spaced goes on as a row of digits, by induction as the spacing is
checked.
-/
theorem row_of_spacedAfterDigit {row : List Char} (inside : ∀ c ∈ row, inRow c = true)
    (spaced : spacedAfterDigit row = true) {c : Char} {value : Nat}
    (digit : digitValue? c = some value)
    : Row (c :: row) (value :: row.filterMap digitValue?) := by
  have underscore : digitValue? '_' = none := by decide
  fun_induction spacedAfterDigit row generalizing c value with
  | case1 => exact .last digit
  | case2 => cases spaced
  | case3 next rest ih =>
      -- Behind the underscore there is another digit, which goes on in the same way.
      obtain ⟨other, behind⟩ := (Bool.and_eq_true _ _).mp spaced
      obtain ⟨-, here, later⟩ := List.forall_mem_cons.mp inside |>.imp_right List.forall_mem_cons.mp
      obtain ⟨nextValue, nextDigit⟩ := exists_digit_of_inRow here (bne_iff_ne.mp other)
      simpa [underscore, nextDigit] using Row.spaced digit (ih later behind nextDigit)
  | case4 next rest alone followed ih =>
      obtain ⟨here, later⟩ := List.forall_mem_cons.mp inside
      have other : next ≠ '_' := by
        rintro rfl
        cases rest with
        | nil => exact alone rfl rfl
        | cons third more => exact followed third more rfl rfl
      obtain ⟨nextValue, nextDigit⟩ := exists_digit_of_inRow here other
      simpa [nextDigit] using Row.next digit (ih later spaced nextDigit)

/-- What is well spaced is a row of digits, unless it is empty. -/
theorem row_of_wellSpaced {row : List Char} (inside : ∀ c ∈ row, inRow c = true)
    (spaced : wellSpaced row = true) (nonempty : row ≠ [])
    : Row row (row.filterMap digitValue?) := by
  cases row with
  | nil => exact absurd rfl nonempty
  | cons c row =>
      obtain ⟨other, behind⟩ := (Bool.and_eq_true _ _).mp spaced
      obtain ⟨here, later⟩ := List.forall_mem_cons.mp inside
      obtain ⟨value, digit⟩ := exists_digit_of_inRow here (bne_iff_ne.mp other)
      simpa [digit] using row_of_spacedAfterDigit later behind digit

-----------------------------------------------------------------------------------------
-- Reading
-----------------------------------------------------------------------------------------

/-- What the reader takes for a sign is one. -/
theorem splitSign_eq (text : List Char)
    : ∃ sign, text = sign ++ (splitSign text).2 ∧ Sign sign (splitSign text).1 := by
  unfold splitSign
  split
  · exact ⟨['+'], rfl, .plus⟩
  · exact ⟨['-'], rfl, .minus⟩
  · exact ⟨[], rfl, .absent⟩

/-- A sign in front of a digit is taken for what it is, and none in front of it is a margin. -/
theorem Sign.split {sign : List Char} {negative : Bool} (signs : Sign sign negative) {c : Char}
    {value : Nat} (digit : digitValue? c = some value) (rest : List Char)
    : splitSign (sign ++ c :: rest) = (negative, c :: rest)
      ∧ (sign ++ c :: rest).dropWhile isMargin = sign ++ c :: rest := by
  cases signs with
  | plus | minus => exact ⟨rfl, rfl⟩
  | absent =>
      have plus := digit_ne digit (by decide : digitValue? '+' = none)
      have minus := digit_ne digit (by decide : digitValue? '-' = none)
      refine ⟨?_, by simp [isMargin_of_digit digit]⟩
      rw [List.nil_append, splitSign.eq_def]
      split <;> simp_all

theorem Row.head {row : List Char} {values : List Nat} (digits : Row row values)
    : ∃ c value rest, row = c :: rest ∧ digitValue? c = some value := by
  cases digits with
  | last digit | next digit | spaced digit => exact ⟨_, _, _, rfl, digit⟩

/-- What is read, by its parts. -/
theorem read_eq (text : List Char)
    : read text
      = let body := (splitSign (text.dropWhile isMargin)).2
        let digits := (body.takeWhile inRow).filterMap digitValue?
        if !wellSpaced (body.takeWhile inRow) then .error (.malformed text)
        else if digitLimit < digits.length then .error (.tooLong digits.length)
        else if digits.isEmpty || !(body.dropWhile inRow).all isMargin then .error (.malformed text)
        else .ok (signed (splitSign (text.dropWhile isMargin)).1 (ofDigits digits)) :=
  rfl

/-- A numeral is read as the number that it denotes. -/
theorem Denotes.read_eq {text : List Char} {n : Int} (denotes : Denotes text n)
    : read text = .ok n := by
  obtain @⟨before, sign, row, after, negative, values, marginBefore, signs, digits, short,
    marginAfter⟩ := denotes
  obtain ⟨c, value, rest, rfl, digit⟩ := digits.head
  obtain ⟨-, inside, spaced, -, same⟩ := digits.reads
  obtain ⟨split, unmargined⟩ := signs.split digit (rest ++ after)
  -- The row is read up to the margin, as no margin can go on with it.
  have stops : after.takeWhile inRow = [] ∧ after.dropWhile inRow = after := by
    cases after with
    | nil => exact ⟨rfl, rfl⟩
    | cons d more =>
        have apart := inRow_of_isMargin (marginAfter d List.mem_cons_self)
        exact ⟨by simp [apart], by simp [apart]⟩
  have trimmed : (before ++ (sign ++ (c :: rest ++ after))).dropWhile isMargin
      = sign ++ (c :: (rest ++ after)) := by
    rw [List.dropWhile_append_of_pos marginBefore]
    exact unmargined
  have nonempty : values.isEmpty = false := by
    cases digits <;> rfl
  rw [Numeral.read_eq, trimmed, split]
  dsimp only
  rw [← List.cons_append, List.takeWhile_append_of_pos inside, List.dropWhile_append_of_pos inside,
    stops.1, stops.2, List.append_nil, same, ofDigits_eq]
  simp [spaced, Nat.not_lt.mpr short, nonempty, List.all_eq_true.mpr marginAfter]

/-- What is read is a numeral for the number. -/
theorem denotes_of_read {text : List Char} {n : Int} (accepted : read text = .ok n)
    : Denotes text n := by
  rw [read_eq] at accepted
  dsimp only at accepted
  obtain ⟨sign, split, signs⟩ := splitSign_eq (text.dropWhile isMargin)
  generalize (splitSign (text.dropWhile isMargin)).1 = negative at accepted signs
  generalize (splitSign (text.dropWhile isMargin)).2 = body at accepted split
  have inside : ∀ c ∈ body.takeWhile inRow, inRow c = true :=
    List.all_eq_true.mp List.all_takeWhile
  split at accepted
  · cases accepted
  · rename_i spaced
    split at accepted
    · cases accepted
    · rename_i short
      split at accepted
      · cases accepted
      · rename_i rest
        rw [Bool.or_eq_true, not_or] at rest
        have nonempty : body.takeWhile inRow ≠ [] := by
          intro empty
          rw [empty] at rest
          exact rest.1 rfl
        have row := row_of_wellSpaced inside (by simpa using spaced) nonempty
        have marginAfter : ∀ c ∈ body.dropWhile inRow, isMargin c = true := by
          simpa using rest.2
        have parts : text
            = text.takeWhile isMargin
              ++ (sign ++ (body.takeWhile inRow ++ body.dropWhile inRow)) := by
          rw [List.takeWhile_append_dropWhile, ← split, List.takeWhile_append_dropWhile]
        cases accepted
        rw [parts, ofDigits_eq]
        exact .intro (List.all_eq_true.mp List.all_takeWhile) signs row (Nat.not_lt.mp short)
          marginAfter

/-- A text is read as a number just if it is a numeral for it. -/
theorem read_eq_ok_iff {text : List Char} {n : Int} : read text = .ok n ↔ Denotes text n :=
  ⟨denotes_of_read, Denotes.read_eq⟩

/-- A text is refused just if it is no numeral. -/
theorem exists_refusal_iff {text : List Char}
    : (∃ refusal, read text = .error refusal) ↔ ¬ ∃ n, Denotes text n := by
  simp only [← read_eq_ok_iff]
  cases read text <;> simp

-----------------------------------------------------------------------------------------
-- Decimal form
-----------------------------------------------------------------------------------------

/-- A digit of the plain script has the value that its place among them says. -/
theorem digitValue?_of_isDigit {c : Char} (digit : c.isDigit = true)
    : digitValue? c = some (c.toNat - '0'.toNat) := by
  have bounds : 0x30 ≤ c.toNat ∧ c.toNat < 0x30 + 10 := by
    simp only [Char.isDigit, Bool.and_eq_true, decide_eq_true_eq] at digit
    exact ⟨digit.1, Nat.lt_succ_of_le digit.2⟩
  have first : digitZeros.find? (fun base => base ≤ c.toNat && c.toNat < base + 10) = some 0x30 :=
    List.find?_cons_of_pos (by simpa using bounds)
  simp [digitValue?, first]

/-- Plain digits are a row of digits, by induction on the digits. -/
theorem row_of_digits {digits : List Char} (plain : ∀ c ∈ digits, c.isDigit = true)
    (nonempty : digits ≠ [])
    : Row digits (digits.map fun c => c.toNat - '0'.toNat) := by
  induction digits with
  | nil => exact absurd rfl nonempty
  | cons c rest ih =>
      obtain ⟨here, later⟩ := List.forall_mem_cons.mp plain
      have digit := digitValue?_of_isDigit here
      cases rest with
      | nil => exact .last digit
      | cons next more => exact .next digit (ih later (List.cons_ne_nil _ _))

/-- The decimal digits of a number are a numeral for it, if there are not too many. -/
theorem denotes_digits (negative : Bool) (n : Nat) {sign : List Char} (signs : Sign sign negative)
    (short : (Nat.toDigits 10 n).length ≤ digitLimit)
    : Denotes (sign ++ Nat.toDigits 10 n) (signed negative n) := by
  have plain : ∀ c ∈ Nat.toDigits 10 n, c.isDigit = true :=
    fun c member => Nat.isDigit_of_mem_toDigits (by decide) (by decide) member
  have row := row_of_digits plain Nat.toDigits_ne_nil
  have value : ofDigits ((Nat.toDigits 10 n).map fun c => c.toNat - '0'.toNat) = n := by
    rw [ofDigits, List.foldl_map]
    simp only [Nat.mul_comm _ 10]
    exact Nat.ofDigitChars_ten_toDigits
  rw [ofDigits_eq] at value
  have denotes := @Denotes.intro [] sign _ [] negative _ nofun signs row (by simpa using short)
    nofun
  rwa [value, List.nil_append, List.append_nil] at denotes

/-- An integer is denoted by its decimal form, if that is not too long. -/
theorem denotes_toString (n : Int) (short : (toString n).length ≤ digitLimit)
    : Denotes (toString n).toList n := by
  rw [← String.length_toList] at short
  cases n with
  | ofNat n =>
      have digits : (toString (Int.ofNat n)).toList = Nat.toDigits 10 n := by
        rw [show toString (Int.ofNat n) = n.repr from rfl, Nat.repr_eq_ofList_toDigits,
          String.toList_ofList]
      rw [digits] at short ⊢
      exact denotes_digits false n .absent short
  | negSucc n =>
      have digits : (toString (Int.negSucc n)).toList = '-' :: Nat.toDigits 10 (n + 1) := by
        rw [show toString (Int.negSucc n) = "-" ++ (n + 1).repr from rfl,
          Nat.repr_eq_ofList_toDigits, String.toList_append, String.toList_ofList,
          String.toList_ofList]
        rfl
      rw [digits] at short ⊢
      exact denotes_digits true (n + 1) .minus (Nat.le_of_succ_le short)

end Numeral
end CloudBuckets.Text
