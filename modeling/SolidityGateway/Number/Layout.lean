import SolidityGateway.Number.Shortest
import SolidityGateway.Text.Decimal

/-!
How a binary64 number is written. The digits are the shortest that read back; a `Layout` says where
positional notation begins and ends, how wide an exponent is at least and what stands for the numbers
that are not finite. `Layout.plain` is the layout of documents, messages and error bodies,
`Layout.compact` that of the artifacts sent to a client.
-/

namespace SolidityGateway

/-- The choices that the digits of a number leave open. -/
structure Layout where
  /-- The least decimal exponent that is written positionally. -/
  leastPositional : Int
  /-- The least decimal exponent above that is written with an exponent again. -/
  endPositional : Int
  /-- The least number of digits of an exponent. -/
  exponentWidth : Nat
  nan : Text
  infinity : Text
  negativeInfinity : Text

namespace Layout

/-- Positional from 0.0001 to below 10^16, exponents of two digits or more. -/
def plain : Layout := ⟨-4, 16, 2, "NaN", "Infinity", "-Infinity"⟩

/-- Positional from 0.00001 to below 10^16, exponents without padding; what is not finite is null. -/
def compact : Layout := ⟨-5, 16, 1, "null", "null", "null"⟩

def zeros (count : Nat) : Text := List.replicate count (CodePoint.ofChar '0')

def padded (width : Nat) (t : Text) : Text := zeros (width - t.length) ++ t

/-- Digits with a point after the first `whole` of them, and a zero where one side would be empty. -/
def withPoint (digits : Text) (whole : Int) : Text :=
  if whole ≤ 0 then ("0." : Text) ++ zeros whole.natAbs ++ digits
  else if digits.length ≤ whole.natAbs then digits ++ zeros (whole.natAbs - digits.length) ++ ".0"
  else digits.take whole.natAbs ++ ("." : Text) ++ digits.drop whole.natAbs

/-- Digits with a point after the first, if there are more, and an exponent. -/
def withExponent (width : Nat) (digits : Text) (exponent : Int) : Text :=
  let fraction : Text := if digits.length ≤ 1 then [] else '.' :: digits.drop 1
  let mark : Text := if exponent < 0 then "e-" else "e+"
  digits.take 1 ++ fraction ++ mark ++ padded width (Text.ofNat exponent.natAbs)

def writeDecimal (layout : Layout) (d : Binary64.Decimal) : Text :=
  let digits := Text.ofNat d.digits
  let exponent := d.exponent + digits.length - 1
  if layout.leastPositional ≤ exponent ∧ exponent < layout.endPositional then
    withPoint digits (exponent + 1)
  else withExponent layout.exponentWidth digits exponent

def write (layout : Layout) : Binary64 → Text
  | .nan => layout.nan
  | .infinite false => layout.infinity
  | .infinite true => layout.negativeInfinity
  | .finite negative significand power =>
    let sign : Text := if negative then "-" else ""
    if significand = 0 then sign ++ "0.0"
    else sign ++ layout.writeDecimal (Binary64.shortest significand power)

end Layout

end SolidityGateway
