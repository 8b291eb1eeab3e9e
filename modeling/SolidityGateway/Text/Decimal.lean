import SolidityGateway.Text.CodePoint

/-!
Numbers as digits. `Text.ofNat` and `Text.ofInt` write a number in base ten without leading zeros,
`Text.toNat` reads a run of digits, and `Text.hex` writes a number in base sixteen at a fixed width. A
run of more than `Text.digitLimit` digits is refused wherever it comes from.
-/

namespace SolidityGateway.Text

def digit (n : Nat) : CodePoint := CodePoint.ofNat (if n < 10 then 0x30 + n else 0x57 + n)

/-- The digits of `n` in front of those already written; `fuel` is more than their number. -/
def decimalFrom : (fuel : Nat) → (n : Nat) → Text → Text
  | 0, _, written => written
  | fuel + 1, n, written =>
    if n < 10 then digit n :: written else decimalFrom fuel (n / 10) (digit (n % 10) :: written)

def ofNat (n : Nat) : Text := decimalFrom (n + 1) n []

/-- The number in base ten, with a minus sign if it is negative. -/
def ofInt : Int → Text
  | .ofNat n => ofNat n
  | .negSucc n => '-' :: ofNat (n + 1)

def toNat (t : Text) : Nat := t.foldl (fun n c => n * 10 + (c.val - 0x30)) 0

/-- The most digits that a number is read from. -/
def digitLimit : Nat := 4300

def tooManyDigits (count : Nat) : Text :=
  ("Exceeds the limit (" : Text) ++ ofNat digitLimit ++
    " digits) for integer string conversion: value has " ++ ofNat count ++
    " digits; use sys.set_int_max_str_digits() to increase the limit"

/-- The last `width` digits of the number in base sixteen, small letters. -/
def hex : (width : Nat) → Nat → Text
  | 0, _ => []
  | width + 1, n => hex width (n / 16) ++ [digit (n % 16)]

def hexValue? (c : CodePoint) : Option Nat :=
  if c.isAsciiDigit then some (c.val - 0x30)
  else if 0x41 ≤ c.val && c.val ≤ 0x46 then some (c.val - 0x37)
  else if 0x61 ≤ c.val && c.val ≤ 0x66 then some (c.val - 0x57)
  else none

end SolidityGateway.Text
