/-!
The numbers of the IEEE 754 format binary64. A finite number is a sign, a significand and a power of
two, kept in the form that the format itself has: either the significand has 53 bits, or the power is
the least one, -1074. Decimal numbers come in through `ofDecimal`, which rounds to the nearest number
and lets a tie go to the even significand; the rounding is exact arithmetic on natural numbers.
-/

namespace SolidityGateway

-- A power of a natural number or an integer is the built-in one, in every module.
attribute [instance (1100), default_instance 20000] instPowNat

/-- A number of the format binary64. -/
inductive Binary64
  /-- The significand times two to the power; zero has the significand 0 and the power -1074. -/
  | finite (negative : Bool) (significand : Nat) (power : Int)
  | infinite (negative : Bool)
  | nan
deriving DecidableEq

namespace Binary64

def leastPower : Int := -1074

def greatestPower : Int := 971

/-- The quotient rounded to the nearest natural number, a tie to the even one. -/
def roundDiv (num den : Nat) : Nat :=
  let q := num / den
  let r := 2 * (num % den)
  if r < den then q else if r = den then q + q % 2 else q + 1

/-- The fraction `num / den` times two to the minus `power`, as a fraction. -/
def scale (num den : Nat) (power : Int) : Nat × Nat :=
  if power < 0 then (num * 2 ^ power.natAbs, den) else (num, den * 2 ^ power.natAbs)

/-- The power at which the whole part of a positive fraction has 53 bits, or the least power. -/
def powerFor (num den : Nat) : Int :=
  let power : Int := (Nat.log2 num : Int) - (Nat.log2 den : Int) - 53
  let (n, d) := scale num den power
  max leastPower (if n / d < 2 ^ 53 then power else power + 1)

/-- The number nearest to the fraction `num / den`. -/
def ofFraction (negative : Bool) (num den : Nat) : Binary64 :=
  if num = 0 then .finite negative 0 leastPower
  else
    let power := powerFor num den
    let (n, d) := scale num den power
    let significand := roundDiv n d
    let (significand, power) :=
      if significand < 2 ^ 53 then (significand, power) else (2 ^ 52, power + 1)
    if power > greatestPower then .infinite negative else .finite negative significand power

/-- The number of decimal digits of a natural number; 0 has one. -/
def digitCount (n : Nat) : Nat := (Nat.toDigits 10 n).length

/-- The number nearest to `digits` times ten to the power `exponent`. Beyond 10^310 that is infinity
and below 10^-330 it is zero, whatever the digits are. -/
def ofDecimal (negative : Bool) (digits : Nat) (exponent : Int) : Binary64 :=
  if digits = 0 then .finite negative 0 leastPower
  else
    let magnitude := (digitCount digits : Int) + exponent
    if magnitude > 310 then .infinite negative
    else if magnitude < -330 then .finite negative 0 leastPower
    else if exponent < 0 then ofFraction negative digits (10 ^ exponent.natAbs)
    else ofFraction negative (digits * 10 ^ exponent.natAbs) 1

def isFinite : Binary64 → Bool
  | finite .. => true
  | _ => false

def isZero : Binary64 → Bool
  | finite _ significand _ => significand == 0
  | _ => false

/-- The integer that the number is, if it is one. -/
def toInt? : Binary64 → Option Int
  | finite negative significand power =>
    let magnitude : Option Nat :=
      if 0 ≤ power then some (significand * 2 ^ power.natAbs)
      else if significand % 2 ^ power.natAbs = 0 then some (significand / 2 ^ power.natAbs)
      else none
    magnitude.map fun n => if negative then -(n : Int) else n
  | _ => none

end Binary64

end SolidityGateway
