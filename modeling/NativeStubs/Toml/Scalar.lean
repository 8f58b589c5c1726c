import NativeStubs.Decimal.Power
import NativeStubs.Text.Hex
import NativeStubs.Toml.Value

/-! # TOML scalars

The scalars without quotes are booleans, integers, floats, dates and times. A scalar is read from
all characters it may consist of. Integers must fit 128 bits, signed or unsigned, and floats must
not be too large for a double.
-/

namespace NativeStubs

namespace Toml

/-- The digits of a group of digits, in which single underscores may stand between two digits. -/
def ungroup? (isDigit : Char → Bool) : (afterDigit : Bool) → List Char → Option (List Char)
  | afterDigit, [] => if afterDigit then some [] else none
  | afterDigit, c :: s =>
    if isDigit c then (ungroup? isDigit true s).map (c :: ·)
    else if c = '_' ∧ afterDigit then ungroup? isDigit false s
    else none

def decimals? (s : List Char) : Option (List Char) := ungroup? Char.isDigit false s

/-- The digits of a group of decimal digits without superfluous zeros in front. -/
def wholeDigits? (s : List Char) : Option (List Char) :=
  if s.head? = some '0' ∧ 1 < s.length then none else decimals? s

def digitsValue (base : Nat) (digits : List Char) : Nat :=
  digits.foldl (fun n c => base * n + (Text.hexDigit? c).getD 0) 0

def splitSign : List Char → Bool × List Char
  | '+' :: s => (false, s)
  | '-' :: s => (true, s)
  | s => (false, s)

/-- An integer, if it fits 128 bits. -/
def inRange? (n : Int) : Option Value :=
  if -(twoTo 127 : Int) ≤ n ∧ n < (twoTo 128 : Int) then some (.integer n) else none

def radixInteger? (base : Nat) (s : List Char) : Option Value :=
  let isDigit (c : Char) : Bool := (Text.hexDigit? c).any (· < base)
  (ungroup? isDigit false s).bind fun digits => inRange? (digitsValue base digits)

def integer? (s : List Char) : Option Value :=
  match s with
  | '0' :: 'x' :: rest => radixInteger? 16 rest
  | '0' :: 'o' :: rest => radixInteger? 8 rest
  | '0' :: 'b' :: rest => radixInteger? 2 rest
  | _ =>
    let (negative, body) := splitSign s
    (wholeDigits? body).bind fun digits =>
      let n : Int := digitsValue 10 digits
      inRange? (if negative then -n else n)

/-- Whether `digits * 10 ^ exponent` rounds to a finite double. -/
def isFinite (digits : List Char) (exponent : Int) : Bool :=
  let n := digitsValue 10 digits
  let size : Int := (Nat.toDigits 10 n).length + exponent
  if n = 0 || size < 300 then true
  else if 310 < size then false
  else n * tenTo exponent.toNat < (twoTo 1024 - twoTo 970) * tenTo (-exponent).toNat

/-- The exponent after its `e`. -/
def exponent? (s : List Char) : Option Int :=
  let (negative, body) := splitSign s
  (decimals? body).map fun digits =>
    let n : Int := digitsValue 10 digits
    if negative then -n else n

/-- A float: a fraction, an exponent or both after its integral part. -/
def float? (s : List Char) : Option Value :=
  let isGroup (c : Char) : Bool := c.isDigit || c == '_'
  let (_, body) := splitSign s
  if body = ['i', 'n', 'f'] ∨ body = ['n', 'a', 'n'] then some .float
  else do
    let whole ← wholeDigits? (body.takeWhile isGroup)
    let (fraction, rest) ← match body.dropWhile isGroup with
      | '.' :: rest => do
        let fraction ← decimals? (rest.takeWhile isGroup)
        pure (fraction, rest.dropWhile isGroup)
      | rest => if rest.isEmpty then none else pure ([], rest)
    let exponent ← match rest with
      | [] => pure 0
      | c :: rest => if c = 'e' ∨ c = 'E' then exponent? rest else none
    if isFinite (whole ++ fraction) (exponent - fraction.length) then some .float else none

def boolean? (s : List Char) : Option Value :=
  if s = ['t', 'r', 'u', 'e'] then some (.boolean true)
  else if s = ['f', 'a', 'l', 's', 'e'] then some (.boolean false)
  else none

/-- Takes `n` digits off a text. -/
def fixedDigits? (n : Nat) (s : List Char) : Option (Nat × List Char) :=
  let digits := s.take n
  if digits.length = n ∧ digits.all Char.isDigit then some (digitsValue 10 digits, s.drop n)
  else none

def daysOfMonth (year month : Nat) : Nat :=
  if month = 2 then
    if year % 4 = 0 ∧ (year % 100 ≠ 0 ∨ year % 400 = 0) then 29 else 28
  else if month ∈ [4, 6, 9, 11] then 30
  else 31

def date? (s : List Char) : Option (List Char) :=
  match fixedDigits? 4 s with
  | some (year, '-' :: s) =>
    match fixedDigits? 2 s with
    | some (month, '-' :: s) =>
      match fixedDigits? 2 s with
      | some (day, s) =>
        if 1 ≤ month ∧ month ≤ 12 ∧ 1 ≤ day ∧ day ≤ daysOfMonth year month then some s else none
      | none => none
    | _ => none
  | _ => none

/-- Takes a fraction of a second off a text, if it starts with a point. -/
def secondFraction? : List Char → Option (List Char)
  | '.' :: s =>
    if (s.takeWhile Char.isDigit).isEmpty then none else some (s.dropWhile Char.isDigit)
  | s => some s

/-- Takes a time of day off a text. The seconds may be left out. -/
def time? (s : List Char) : Option (List Char) :=
  match fixedDigits? 2 s with
  | some (hour, ':' :: s) =>
    match fixedDigits? 2 s with
    | some (minute, s) =>
      if 23 < hour ∨ 59 < minute then none
      else match s with
        | ':' :: s =>
          match fixedDigits? 2 s with
          | some (second, s) => if 60 < second then none else secondFraction? s
          | none => none
        | s => some s
    | none => none
  | _ => none

/-- Whether a text is an offset from universal time, or nothing. -/
def isOffset : List Char → Bool
  | [] => true
  | [c] => c == 'Z' || c == 'z'
  | c :: s =>
    (c == '+' || c == '-') &&
      match fixedDigits? 2 s with
      | some (hour, ':' :: s) =>
        match fixedDigits? 2 s with
        | some (minute, []) => hour ≤ 23 && minute ≤ 59
        | _ => false
      | _ => false

/-- A date, a time of day, or both with or without an offset. -/
def moment? (s : List Char) : Option Value :=
  match date? s with
  | some [] => some .moment
  | some (c :: s) =>
    if c = 'T' ∨ c = 't' ∨ c = ' ' then
      match time? s with
      | some rest => if isOffset rest then some .moment else none
      | none => none
    else none
  | none => if time? s = some [] then some .moment else none

/-- A character of a scalar without quotes. -/
def isScalarChar (c : Char) : Bool :=
  c.isAlphanum || c == '+' || c == '-' || c == '_' || c == '.' || c == ':'

/-- The value of a scalar without quotes. -/
def scalarValue? (s : List Char) : Option Value :=
  (boolean? s).or ((integer? s).or ((float? s).or (moment? s)))

/-- Reads a scalar without quotes. One space may stand between a date and a time. -/
def scalar? (s : List Char) : Option (Value × List Char) :=
  let word := s.takeWhile isScalarChar
  let rest := s.dropWhile isScalarChar
  match date? word, rest with
  | some [], ' ' :: c :: after =>
    if c.isDigit then
      let time := (c :: after).takeWhile isScalarChar
      (moment? (word ++ ' ' :: time)).map (·, (c :: after).dropWhile isScalarChar)
    else some (.moment, rest)
  | _, _ => (scalarValue? word).map (·, rest)

end Toml

end NativeStubs
