namespace Mustache.Decimal

structure Format where
  exponentBits : Nat
  fractionBits : Nat
  deriving DecidableEq, Repr

def Format.double : Format := ⟨11, 52⟩

def Format.single : Format := ⟨8, 23⟩

structure Magnitude where
  mantissa : Nat
  exponent : Int
  -- Whether the next smaller number of the format is only half as far away as the next larger.
  atPower : Bool
  deriving DecidableEq, Repr

inductive Number where
  | nan
  | infinite (negative : Bool)
  | zero (negative : Bool)
  | finite (negative : Bool) (magnitude : Magnitude)
  deriving DecidableEq, Repr

def Format.decode (format : Format) (bits : Nat) : Number :=
  let fractions := Nat.pow 2 format.fractionBits
  let exponents := Nat.pow 2 format.exponentBits
  let fraction := bits % fractions
  let biased := bits / fractions % exponents
  let negative := bits / (fractions * exponents) % 2 == 1
  -- the exponent of the smallest numbers, which both 0 and 1 stand for
  let least : Int := 2 - (exponents / 2 : Nat) - format.fractionBits
  if biased = exponents - 1 then
    if fraction = 0 then .infinite negative else .nan
  else if biased = 0 then
    if fraction = 0 then .zero negative else .finite negative ⟨fraction, least, false⟩
  else
    .finite negative
      ⟨fractions + fraction, least + (biased - 1 : Nat), fraction = 0 && 1 < biased⟩

end Mustache.Decimal
