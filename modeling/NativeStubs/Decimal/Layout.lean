import NativeStubs.Decimal.Shortest

/-! # Writing decimals

A layout fixes how the digits of a decimal are set out. Between `positionalFrom` and
`positionalTo`, the exponents of the leading digit, a number is written with a point and at least
one digit on each side of it; outside, with one digit before the point and a signed exponent.
-/

namespace NativeStubs

namespace Decimal

/-- The exponents of the leading digit that are written without an exponent. -/
structure Layout where
  positionalFrom : Int
  positionalTo : Int

/-- The digits of a positive decimal, set out by a layout. -/
def Layout.digits (layout : Layout) (d : Decimal) : String :=
  let digits := Nat.toDigits 10 d.coefficient
  let leading := d.exponent + digits.length - 1
  if layout.positionalFrom ≤ leading ∧ leading ≤ layout.positionalTo then
    if 0 ≤ d.exponent then
      String.ofList (digits ++ List.replicate d.exponent.toNat '0') ++ ".0"
    else if 0 ≤ leading then
      let (whole, fraction) := digits.splitAt (leading.toNat + 1)
      String.ofList whole ++ "." ++ String.ofList fraction
    else
      "0." ++ String.ofList (List.replicate (-leading - 1).toNat '0' ++ digits)
  else
    let (whole, fraction) := digits.splitAt 1
    let point := if fraction.isEmpty then "" else "."
    let sign := if leading < 0 then "-" else "+"
    String.ofList whole ++ point ++ String.ofList fraction ++ "e" ++ sign ++
      toString leading.natAbs

def Layout.text (layout : Layout) (x : Float) : String :=
  let bits := x.toBits
  let sign := if bits.toNat < twoTo 63 then "" else "-"
  let magnitude := Binary.ofBits bits
  if magnitude.mantissa = 0 then sign ++ "0.0"
  else sign ++ layout.digits (shortest magnitude)

end Decimal

end NativeStubs
