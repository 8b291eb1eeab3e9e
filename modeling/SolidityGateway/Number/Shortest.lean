import SolidityGateway.Number.Binary64

/-!
The shortest decimal of a binary64 number. The reals that round to a number form an interval, whose
ends belong to it just if the significand is even. For 1, 2, ... 17 digits the two neighbours of the
number on the grid of decimals with so many digits are tested against that interval; the first grid
with a hit gives the digits. Of two hits the nearer is taken, and of two equally near ones the even.
-/

namespace SolidityGateway.Binary64

/-- `digits` times ten to the power `exponent`. -/
structure Decimal where
  digits : Nat
  exponent : Int
deriving DecidableEq

/-- A positive number with the interval that rounds to it: each bound is a multiple of a quarter of
two to the power of the number, written over a common denominator. -/
structure Interval where
  low : Nat
  value : Nat
  high : Nat
  den : Nat
  closed : Bool

/-- The interval of the number `significand` times two to the power `power`. Below a power of two the
neighbours lie closer. -/
def Interval.of (significand : Nat) (power : Int) : Interval :=
  let below := if significand = 2 ^ 52 ∧ power > leastPower then 1 else 2
  let up := if power < 2 then 1 else 2 ^ (power - 2).natAbs
  let den := if power < 2 then 2 ^ (power - 2).natAbs else 1
  ⟨(4 * significand - below) * up, 4 * significand * up, (4 * significand + 2) * up, den,
    significand % 2 == 0⟩

def Interval.holds (i : Interval) (num den : Nat) : Bool :=
  let low := i.low * den
  let high := i.high * den
  let x := num * i.den
  if i.closed then low ≤ x && x ≤ high else low < x && x < high

/-- The exponent of the first decimal digit of the value. -/
def Interval.magnitude (i : Interval) : Int :=
  let guess : Int := (digitCount i.value : Int) - (digitCount i.den : Int)
  let reached :=
    if guess < 0 then i.den ≤ i.value * 10 ^ guess.natAbs else i.den * 10 ^ guess.natAbs ≤ i.value
  if reached then guess else guess - 1

/-- The hit on the grid of step ten to the power `exponent`, if there is one. -/
def Interval.hit? (i : Interval) (exponent : Int) : Option Decimal :=
  let up := if exponent < 0 then 1 else 10 ^ exponent.natAbs
  let den := if exponent < 0 then 10 ^ exponent.natAbs else 1
  let below := (i.value * den) / (i.den * up)
  let above := below + 1
  let fits (n : Nat) : Bool := i.holds (n * up) den
  let toBelow := i.value * den - below * up * i.den
  let toAbove := above * up * i.den - i.value * den
  let nearer := if toBelow < toAbove ∨ (toBelow = toAbove ∧ below % 2 = 0) then below else above
  if fits below && fits above then some ⟨nearer, exponent⟩
  else if fits below then some ⟨below, exponent⟩
  else if fits above then some ⟨above, exponent⟩
  else none

/-- The hit with the fewest digits, where `count` digits were tried and `fuel` counts are left. -/
def Interval.search (i : Interval) : (fuel : Nat) → (count : Nat) → Option Decimal
  | 0, _ => none
  | fuel + 1, count =>
    match i.hit? (i.magnitude - count) with
    | some d => some d
    | none => i.search fuel (count + 1)

/-- The decimal without zeros at its end; `fuel` bounds their number. -/
def Decimal.trim : (fuel : Nat) → Decimal → Decimal
  | 0, d => d
  | fuel + 1, d =>
    if d.digits ≠ 0 ∧ d.digits % 10 = 0 then trim fuel ⟨d.digits / 10, d.exponent + 1⟩ else d

/-- The decimal with the fewest digits that rounds to the positive number `significand` times two to
the power `power`. Seventeen digits are enough for any number. -/
def shortest (significand : Nat) (power : Int) : Decimal :=
  match (Interval.of significand power).search 17 0 with
  | some d => d.trim 18
  | none => ⟨0, 0⟩

end SolidityGateway.Binary64
