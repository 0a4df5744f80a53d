import Mustache.Decimal.Binary

/-!
# The fewest digits that read back

A decimal number reads back as a binary one when it lies closer to it than to any other number of
the format; of two equally close numbers the one with an even mantissa is read. So the numbers that
read back form an interval, and the digits wanted are those of the coarsest power of ten that has a
multiple in it. Only the two multiples around the number itself have to be tried: if any multiple
lies in the interval, one of them does.

Everything is counted in quarters of the last binary place, which makes the bounds whole numbers.
-/

namespace Mustache.Decimal

structure Interval where
  low : Nat
  mid : Nat
  high : Nat
  denominator : Nat
  -- Whether the bounds themselves read back.
  closed : Bool
  deriving DecidableEq, Repr

def Magnitude.interval (x : Magnitude) : Interval :=
  let scale := Nat.pow 2 x.exponent.toNat
  { low := (4 * x.mantissa - if x.atPower then 1 else 2) * scale
    mid := 4 * x.mantissa * scale
    high := (4 * x.mantissa + 2) * scale
    denominator := 4 * Nat.pow 2 (-x.exponent).toNat
    closed := x.mantissa % 2 == 0 }

structure Power where
  numerator : Nat
  denominator : Nat

def Power.ofExponent (q : Int) : Power := ⟨Nat.pow 10 q.toNat, Nat.pow 10 (-q).toNat⟩

def Interval.contains (i : Interval) (power : Power) (n : Nat) : Bool :=
  let point := n * power.numerator * i.denominator
  let low := i.low * power.denominator
  let high := i.high * power.denominator
  if i.closed then low ≤ point && point ≤ high else low < point && point < high

def Interval.multiple? (i : Interval) (power : Power) : Option Nat :=
  let n := i.mid * power.denominator / (i.denominator * power.numerator)
  match i.contains power n, i.contains power (n + 1) with
  | true, true =>
    let twice := 2 * i.mid * power.denominator
    some (if twice < (2 * n + 1) * power.numerator * i.denominator then n else n + 1)
  | true, false => some n
  | false, true => some (n + 1)
  | false, false => none

def digitCount (n : Nat) : Nat := if n = 0 then 0 else (Nat.toDigits 10 n).length

def Interval.ceiling (i : Interval) : Int :=
  if i.denominator ≤ i.mid then digitCount (i.mid / i.denominator)
  else 1 - (digitCount ((i.denominator + i.mid - 1) / i.mid - 1) : Int)

structure Digits where
  digits : List Char
  point : Int
  deriving DecidableEq, Repr

def Digits.ofMultiple (n : Nat) (q : Int) : Digits :=
  let digits := Nat.toDigits 10 n
  ⟨(digits.reverse.dropWhile (· == '0')).reverse, q + digits.length⟩

def Interval.search (i : Interval) (q : Int) : Nat → Digits
  | 0 => ⟨[], 0⟩
  | tries + 1 =>
    match i.multiple? (.ofExponent q) with
    | some n => .ofMultiple n q
    | none => search i (q - 1) tries

def Magnitude.shortest (x : Magnitude) : Digits :=
  let interval := x.interval
  interval.search (interval.ceiling - 1) 17

end Mustache.Decimal
