import LayoutGuard.Json.Value

/-!
# JSON numbers

A number is an optional minus, an integer without superfluous zeros, an optional fraction and an
optional exponent. It is usable if its size fits into binary64. The size is judged by its first
digits, as many as fit into 64 bits, times a power of ten, both rounded to binary64: the number is
out of range if this product rounds to infinity.

- `Literal.ofLetters?`: the parts of a number.
- `Literal.isOutOfRange`: whether it is too large for binary64.
-/

namespace LayoutGuard.Json

/-- The parts of a written number. -/
structure Literal where
  /-- Whether it starts with a minus. -/
  negative : Bool
  /-- The digits in front of the point. -/
  whole : List Nat
  /-- The digits behind the point; none if there is no point. -/
  fraction : List Nat
  /-- The power of ten by which it is to be multiplied. -/
  exponent : Int
  /-- Whether there is neither a point nor an exponent. -/
  isInteger : Bool
  deriving DecidableEq, Repr

/-- The value of a decimal digit. -/
def digitValue (c : Char) : Nat := c.toNat - '0'.toNat

/-- The number that a list of digits stands for. -/
def ofDigits (digits : List Nat) : Nat := digits.foldl (fun n d => 10 * n + d) 0

/-- The digits at the start of a list, and what follows them. -/
def takeDigits (letters : List Char) : List Nat × List Char :=
  ((letters.takeWhile Char.isDigit).map digitValue, letters.dropWhile Char.isDigit)

/-- The fraction at the start of a list, if there is a point, and what follows it. A point has to
be followed by a digit. -/
def takeFraction? : List Char → Option (Option (List Nat) × List Char)
  | '.' :: rest =>
    match takeDigits rest with
    | ([], _) => none
    | (digits, rest) => some (some digits, rest)
  | letters => some (none, letters)

/-- The exponent that a list consists of, if it is not empty. -/
def takeExponent? : List Char → Option (Option Int)
  | [] => some none
  | e :: rest =>
    if e = 'e' ∨ e = 'E' then
      let (negative, rest) := match rest with
        | '-' :: rest => (true, rest)
        | '+' :: rest => (false, rest)
        | _ => (false, rest)
      match takeDigits rest with
      | ([], _) => none
      | (digits, []) => some (some (if negative then -(ofDigits digits : Int) else ofDigits digits))
      | (_, _ :: _) => none
    else none

namespace Literal

/-- The number that a word is, if it is one. -/
def ofLetters? (letters : List Char) : Option Literal := do
  let (negative, letters) := match letters with
    | '-' :: rest => (true, rest)
    | _ => (false, letters)
  let (whole, letters) := takeDigits letters
  match whole with
  | [] => none
  -- A zero in front of other digits is superfluous.
  | 0 :: _ :: _ => none
  | _ =>
    let (fraction, letters) ← takeFraction? letters
    let exponent ← takeExponent? letters
    return {
      negative := negative
      whole := whole
      fraction := fraction.getD []
      exponent := exponent.getD 0
      isInteger := fraction.isNone && exponent.isNone }

/-- Append digits to a number as long as it fits into 64 bits, and give back the others. -/
def absorb (n : Nat) : List Nat → Nat × List Nat
  | [] => (n, [])
  | d :: rest => if 10 * n + d < UInt64.size then absorb (10 * n + d) rest else (n, d :: rest)

/-- The leading digits that fit into 64 bits, and the power of ten that belongs to them. -/
def significand (l : Literal) : Nat × Int :=
  let (n, dropped) := absorb 0 l.whole
  let (n, unused) := absorb n l.fraction
  (n, l.exponent + dropped.length - (l.fraction.length - unused.length : Nat))

/-- The integer nearest to `n` that has at most 53 significant binary digits; a tie goes to the
even one. -/
def roundBinary64 (n : Nat) : Nat :=
  if n < Nat.pow 2 53 then n
  else
    let unit := Nat.pow 2 (Nat.log2 n - 52)
    let quotient := n / unit
    let rest := n % unit
    if 2 * rest < unit ∨ 2 * rest = unit ∧ quotient % 2 = 0 then quotient * unit
    else (quotient + 1) * unit

/-- The least number that rounds to infinity in binary64. -/
def infinityBound : Nat := Nat.pow 2 1024 - Nat.pow 2 970

/-- Whether the number is too large for binary64. -/
def isOutOfRange (l : Literal) : Bool :=
  let (n, exponent) := l.significand
  if n = 0 ∨ exponent < 0 then false
  else 308 < exponent ||
    decide (infinityBound ≤ roundBinary64 n * roundBinary64 (Nat.pow 10 exponent.toNat))

end Literal

/-- The value that a bare word stands for, if it is a number or one of the three names. -/
def ofWord? (letters : List Char) : Option Json :=
  if letters = ['n', 'u', 'l', 'l'] then some null
  else if letters = ['t', 'r', 'u', 'e'] then some (bool true)
  else if letters = ['f', 'a', 'l', 's', 'e'] then some (bool false)
  else
    (Literal.ofLetters? letters).map fun l =>
      let n := ofDigits l.whole
      if l.isOutOfRange then unusable
      else if l.isInteger ∧ ¬(l.negative ∧ n = 0) then
        integer (if l.negative then -(n : Int) else n)
      else decimal (String.ofList letters)

end LayoutGuard.Json
