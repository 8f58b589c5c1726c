import NativeStubs.Decimal.Power

/-! # The shortest decimal of a binary number

A finite binary number stands for every real that rounds to it. Its shortest decimal is the one
with the fewest digits among the decimals in that interval and, of those, the nearest to the
number itself. The two neighbours of the number on the grid of `n`-digit decimals are tested for
`n = 1, 2, …`: if any point of a grid lies in the interval then one of these two does.
-/

namespace NativeStubs

/-- The number `coefficient * 10 ^ exponent`. -/
structure Decimal where
  coefficient : Nat
  exponent : Int
  deriving DecidableEq, Repr

/-- The number `mantissa * 2 ^ exponent`. The numbers just below it lie half as far apart as those
above it when `narrowBelow` is set, as they do below a power of two. -/
structure Binary where
  mantissa : Nat
  exponent : Int
  narrowBelow : Bool
  deriving DecidableEq, Repr

namespace Binary

/-- The magnitude of a finite double, from its bits. -/
def ofBits (bits : UInt64) : Binary :=
  let field := (bits >>> 52).toNat % 2048
  let fraction := bits.toNat % twoTo 52
  if field = 0 then ⟨fraction, -1074, false⟩
  else ⟨fraction + twoTo 52, field - 1075, fraction = 0 && 1 < field⟩

end Binary

namespace Decimal

/-- A comparison of `a * 10 ^ k` with `n * 2 ^ j`, on natural numbers. -/
def compareScaled (a : Nat) (k : Int) (n : Nat) (j : Int) : Ordering :=
  compare (a * tenTo k.toNat * twoTo (-j).toNat) (n * twoTo j.toNat * tenTo (-k).toNat)

/-- The integral part of `n * 2 ^ j / 10 ^ k`. -/
def floorScaled (n : Nat) (j k : Int) : Nat :=
  n * twoTo j.toNat * tenTo (-k).toNat / (tenTo k.toNat * twoTo (-j).toNat)

/-- The decimal exponent of the leading digit of a positive binary number. -/
def leadingExponent (b : Binary) : Int :=
  let shift := if b.exponent < 0 then 400 else 0
  ((Nat.toDigits 10 (floorScaled b.mantissa b.exponent (-shift))).length : Int) - 1 - shift

/-- `a * 10 ^ k` rounds to `b`. The ends of the interval do so when the mantissa is even. -/
def readsBack (b : Binary) (a : Nat) (k : Int) : Bool :=
  let low := 4 * b.mantissa - (if b.narrowBelow then 1 else 2)
  let high := 4 * b.mantissa + 2
  let atLow := compareScaled a k low (b.exponent - 2)
  let atHigh := compareScaled a k high (b.exponent - 2)
  if b.mantissa % 2 = 0 then atLow != .lt && atHigh != .gt else atLow == .gt && atHigh == .lt

/-- The neighbour of `b` on the grid of decimals with `digits` digits that reads back, the nearer
one if both do, and the even one of two that are equally near. -/
def onGrid? (b : Binary) (digits : Nat) : Option Decimal :=
  let k := leadingExponent b - (digits - 1 : Nat)
  let below := floorScaled b.mantissa b.exponent k
  match readsBack b below k, readsBack b (below + 1) k with
  | false, false => none
  | true, false => some ⟨below, k⟩
  | false, true => some ⟨below + 1, k⟩
  | true, true =>
    match compareScaled (2 * below + 1) k (2 * b.mantissa) b.exponent with
    | .gt => some ⟨below, k⟩
    | .lt => some ⟨below + 1, k⟩
    | .eq => some ⟨below + below % 2, k⟩

/-- The same number without trailing zeros in its coefficient, as far as `fuel` reaches. -/
def trimZeros : Nat → Decimal → Decimal
  | 0, d => d
  | fuel + 1, d =>
    if d.coefficient % 10 = 0 then trimZeros fuel ⟨d.coefficient / 10, d.exponent + 1⟩ else d

/-- The shortest decimal of a positive binary number. Seventeen digits always suffice for a
double. -/
def shortest (b : Binary) : Decimal :=
  match (List.range 17).findSome? fun n => onGrid? b (n + 1) with
  | some d => trimZeros 17 d
  | none => ⟨0, 0⟩

end Decimal

end NativeStubs
