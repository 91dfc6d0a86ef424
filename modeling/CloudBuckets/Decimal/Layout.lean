import CloudBuckets.Decimal.Shortest

/-! The written form of a binary64 number. -/

namespace CloudBuckets.Decimal

/-- Where positional notation ends and how an exponent is written. -/
structure Layout where
  /-- The least power of ten of the leading digit that is written positionally. -/
  least : Int
  /-- The first power of ten of the leading digit that is no longer written positionally. -/
  bound : Int
  /-- The least number of digits in an exponent. -/
  exponentWidth : Nat
deriving Repr

/-- Positional from a ten-thousandth to below ten to the sixteenth; exponents have two digits. -/
def Layout.standard : Layout := ⟨-4, 16, 2⟩

/-- A whole number always shows one place, and an exponent always shows its sign. -/
def Layout.write (layout : Layout) (d : Scaled) : String :=
  let digits := (Nat.toDigits 10 d.digits).reverse.dropWhile (· == '0') |>.reverse
  let leading := d.exponent + Int.ofNat ((Nat.toDigits 10 d.digits).length - 1)
  if layout.least ≤ leading && leading < layout.bound then
    if leading < 0 then
      "0." ++ String.ofList (List.replicate (leading.natAbs - 1) '0' ++ digits)
    else
      let width := leading.toNat + 1
      let whole := digits.take width ++ List.replicate (width - digits.length) '0'
      let places := digits.drop width
      String.ofList whole ++ "." ++ (if places.isEmpty then "0" else String.ofList places)
  else
    let places := digits.drop 1
    let power := Nat.toDigits 10 leading.natAbs
    String.ofList (digits.take 1) ++ (if places.isEmpty then "" else "." ++ String.ofList places)
      ++ (if leading < 0 then "e-" else "e+")
      ++ String.ofList (List.replicate (layout.exponentWidth - power.length) '0' ++ power)

/-- The written form of the number with the given bits. -/
def write (bits : UInt64) : String :=
  let signed (negative : Bool) (text : String) : String := if negative then "-" ++ text else text
  match Number.ofBits bits with
  | .zero negative => signed negative "0.0"
  | .finite negative size => signed negative (Layout.standard.write size.shortest)
  | .infinite negative => signed negative "inf"
  | .undefined => "nan"

end CloudBuckets.Decimal
