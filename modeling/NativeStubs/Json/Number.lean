import NativeStubs.Decimal.Power
import NativeStubs.Json.Value

/-! # Reading JSON numbers

A number is an optional minus sign, an integral part without superfluous zeros, an optional
fraction and an optional exponent. An integer that fits 64 bits is exact. Every other number
keeps the digits of its coefficient that fit 64 bits and is scaled once by a power of ten; a
number too large for a double is refused, one too small becomes zero.
-/

namespace NativeStubs

namespace Json

structure Numeral where
  negative : Bool
  whole : List Char
  fraction : Option (List Char)
  exponent : Option Int

def digitsValue (digits : List Char) : Nat :=
  digits.foldl (fun n c => 10 * n + (c.toNat - '0'.toNat)) 0

/-- The exponent written after `e`: an optional sign and at least one digit. -/
def exponent? (s : List Char) : Option Int :=
  let (sign, digits) : Int × List Char := match s with
    | '+' :: rest => (1, rest)
    | '-' :: rest => (-1, rest)
    | _ => (1, s)
  if digits.isEmpty || !digits.all Char.isDigit then none else some (sign * digitsValue digits)

/-- What follows the integral part and the fraction: nothing or an exponent. -/
def exponentPart? : List Char → Option (Option Int)
  | [] => some none
  | c :: rest => if c = 'e' ∨ c = 'E' then (exponent? rest).map some else none

namespace Numeral

def ofChars? (s : List Char) : Option Numeral :=
  let (negative, body) : Bool × List Char := match s with
    | '-' :: rest => (true, rest)
    | _ => (false, s)
  let whole := body.takeWhile Char.isDigit
  if whole.isEmpty || (whole.head? == some '0' && 1 < whole.length) then none
  else match body.dropWhile Char.isDigit with
    | '.' :: rest =>
      let fraction := rest.takeWhile Char.isDigit
      if fraction.isEmpty then none
      else (exponentPart? (rest.dropWhile Char.isDigit)).map (⟨negative, whole, some fraction, ·⟩)
    | rest => (exponentPart? rest).map (⟨negative, whole, none, ·⟩)

/-- A coefficient of at most 64 bits and the power of ten it is to be scaled by. -/
structure Coefficient where
  digits : Nat
  scale : Int
  full : Bool

/-- Takes up a digit of the integral part. The first digit that does not fit and all later ones
only raise the scale. -/
def Coefficient.pushWhole (c : Coefficient) (digit : Char) : Coefficient :=
  let next := 10 * c.digits + (digit.toNat - '0'.toNat)
  if c.full || twoTo 64 ≤ next then { c with scale := c.scale + 1, full := true }
  else { c with digits := next }

/-- Takes up a digit of the fraction. The first digit that does not fit and all later ones are
dropped. -/
def Coefficient.pushFraction (c : Coefficient) (digit : Char) : Coefficient :=
  let next := 10 * c.digits + (digit.toNat - '0'.toNat)
  if c.full || twoTo 64 ≤ next then { c with full := true }
  else { c with digits := next, scale := c.scale - 1 }

/-- The coefficient of a number, with the scale that its point and its exponent give it. -/
def coefficient (n : Numeral) : Coefficient :=
  let whole := n.whole.foldl Coefficient.pushWhole ⟨0, 0, false⟩
  let all := (n.fraction.getD []).foldl Coefficient.pushFraction { whole with full := false }
  { all with scale := all.scale + n.exponent.getD 0 }

/-- `x * 10 ^ scale`, rounded once for each power of ten that a double can hold; `none` if it is
too large. -/
def scaled? (x : Float) (scale : Int) : Option Float :=
  let power (n : Nat) : Float := Float.ofScientific 1 false n
  if x == 0 then some x
  else if scale > 308 then none
  else if 0 ≤ scale then
    let y := x * power scale.toNat
    if y.isInf then none else some y
  else if -308 ≤ scale then some (x / power (-scale).toNat)
  else if -616 ≤ scale then some (x / power 308 / power (-scale - 308).toNat)
  else some 0

def value? (n : Numeral) : Option Number :=
  let whole := digitsValue n.whole
  if n.fraction.isNone && n.exponent.isNone && !n.negative && whole < twoTo 64 then
    some (.integer whole)
  else if n.fraction.isNone && n.exponent.isNone && n.negative && 0 < whole && whole ≤ twoTo 63 then
    some (.integer (-whole))
  else
    let c := n.coefficient
    (scaled? (Float.ofNat c.digits) c.scale).map fun x => .double (if n.negative then -x else x)

end Numeral

end Json

end NativeStubs
