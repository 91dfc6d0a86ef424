/-! The shortest decimal that reads back as a given binary64 number, and among the decimals of
that length the nearest one. -/

namespace CloudBuckets.Decimal

/-- A finite positive number `significand * 2 ^ exponent`. The gap below the least number of a
binade, other than the very first, is half the gap above it. -/
structure Binary where
  significand : Nat
  exponent : Int
  halfGapBelow : Bool
deriving Repr

/-- A decimal `digits * 10 ^ exponent`. -/
structure Scaled where
  digits : Nat
  exponent : Int
deriving DecidableEq, Repr

/-- What a binary64 bit pattern denotes. -/
inductive Number
  /-- A zero with its sign. -/
  | zero (negative : Bool)
  /-- A finite number with its sign and magnitude. -/
  | finite (negative : Bool) (size : Binary)
  /-- An infinity with its sign. -/
  | infinite (negative : Bool)
  /-- No number. -/
  | undefined
deriving Repr

/-- Splits a bit pattern into sign, biased exponent and fraction. -/
def Number.ofBits (bits : UInt64) : Number :=
  let code := bits.toNat
  let negative := code >>> 63 == 1
  let biased := (code >>> 52) % (1 <<< 11)
  let fraction := code % (1 <<< 52)
  if biased == 2047 then
    if fraction == 0 then .infinite negative else .undefined
  else if biased == 0 then
    if fraction == 0 then .zero negative else .finite negative ⟨fraction, -1074, false⟩
  else
    .finite negative
      ⟨(1 <<< 52) + fraction, Int.ofNat biased - 1075, fraction == 0 && biased > 1⟩

/-- A fraction of natural numbers that equals `n * 2 ^ exponent / 4`. -/
def quarterScaled (n : Nat) (exponent : Int) : Nat × Nat :=
  match exponent with
  | .ofNat e => (n <<< e, 4)
  | .negSucc e => (n, 4 <<< (e + 1))

/-- The greatest `k` with `10 ^ k ≤ numerator / denominator`, for a positive fraction. -/
def magnitude (numerator denominator : Nat) : Int :=
  if denominator ≤ numerator then
    Int.ofNat ((Nat.toDigits 10 (numerator / denominator)).length - 1)
  else -(Int.ofNat (Nat.toDigits 10 ((denominator - 1) / numerator)).length)

/-- The decimal on the grid `10 ^ exponent` that is nearest to the number among those that read
back as it. Of two at the same distance the even one is taken. -/
def Binary.onGrid (b : Binary) (exponent : Int) : Option Scaled :=
  let (middle, unit) := quarterScaled (4 * b.significand) b.exponent
  let (low, _) := quarterScaled (4 * b.significand - (if b.halfGapBelow then 1 else 2)) b.exponent
  let (high, _) := quarterScaled (4 * b.significand + 2) b.exponent
  let (up, down) : Nat × Nat :=
    match exponent with
    | .ofNat e => (1, Nat.pow 10 e)
    | .negSucc e => (Nat.pow 10 (e + 1), 1)
  let cell := unit * down
  let readsBack (digits : Nat) : Bool :=
    let point := digits * cell
    if b.significand % 2 == 0 then low * up ≤ point && point ≤ high * up
    else low * up < point && point < high * up
  let floor := middle * up / cell
  let rest := middle * up % cell
  match readsBack floor, readsBack (floor + 1) with
  | false, false => none
  | true, false => some ⟨floor, exponent⟩
  | false, true => some ⟨floor + 1, exponent⟩
  | true, true =>
      if 2 * rest < cell || (2 * rest == cell && floor % 2 == 0) then some ⟨floor, exponent⟩
      else some ⟨floor + 1, exponent⟩

/-- The first hit when the grid is refined from one digit to seventeen. -/
def Binary.shortest (b : Binary) : Scaled :=
  let (numerator, denominator) := quarterScaled (4 * b.significand) b.exponent
  let top := magnitude numerator denominator
  let grids := (List.range 17).map fun places => top - Int.ofNat places
  (grids.findSome? b.onGrid).getD ⟨b.significand, 0⟩

end CloudBuckets.Decimal
