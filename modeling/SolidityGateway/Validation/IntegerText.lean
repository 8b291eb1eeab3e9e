import SolidityGateway.Validation.Complaint
import SolidityGateway.Text.Blank
import SolidityGateway.Text.Decimal

/-!
Integers written as texts. `IntegerText.read` takes the plain notation: a minus sign or none, and
digits of which the first is 0 only if it stands alone; it tells a number that is too long from any
other fault. A text that is not plain gets a second chance: `IntegerText.tidied?` takes off what may
stand around and between the digits, and the result has to be plain. So the fault of being too long is
one of the text as it stands only.

Whether a minus sign counts for the length of a number depends on the release of the validation that a
gateway is run with, so it is left open here (`IntegerText.Length`).
-/

namespace SolidityGateway.IntegerText

/-! ## The plain notation -/

/-- The number that a text without a sign is, if it has at most `limit` digits. -/
def readNatural (limit : Nat) (t : Text) : Except Complaint Nat :=
  let digits := t.takeWhile CodePoint.isAsciiDigit
  let rest := t.dropWhile CodePoint.isAsciiDigit
  match digits with
  | [] => .error .notIntegerText
  | first :: others =>
    if first = '0' then
      if others = [] ∧ rest = [] then .ok 0 else .error .notIntegerText
    else if digits.length > limit then .error .integerTooLarge
    else if rest = [] then .ok (Text.toNat digits)
    else .error .notIntegerText

/-- What counts for the length of a number. Some releases of the validation count the digits alone, and
others count a minus sign with them. -/
inductive Length
  | digits
  | signAndDigits
deriving DecidableEq

/-- The most digits that a number is read from. -/
def Length.limit : Length → (negative : Bool) → Nat
  | signAndDigits, true => Text.digitLimit - 1
  | _, _ => Text.digitLimit

/-- The number that a text is. -/
def read (length : Length) (t : Text) : Except Complaint Int :=
  match t with
  | c :: rest =>
    if c = '-' then (readNatural (length.limit true) rest).map fun n => -(n : Int)
    else (readNatural (length.limit false) t).map fun n => (n : Int)
  | [] => .error .notIntegerText

/-! ## Tidying -/

/-- Whether there is a minus sign, and the text after the sign; a plus sign does not count, and no
minus sign may follow it. -/
def splitSign? (t : Text) : Option (Bool × Text) :=
  match t with
  | c :: rest =>
    if c = '-' then some (true, rest)
    else if c = '+' then if Text.startsWith rest "-" then none else some (false, rest)
    else some (false, t)
  | [] => none

/-- What follows zeros and underscores, behind the last of them: a digit or a minus sign begins what
is left, a point keeps the one before it, and where nothing follows the last one is left. -/
def afterZeros? (last : CodePoint) : Text → Option Text
  | [] => some [last]
  | c :: rest =>
    if c = '0' ∨ c = '_' then afterZeros? c rest
    else if c = '.' then some (last :: c :: rest)
    else if c.isAsciiDigit ∨ c = '-' then some (c :: rest)
    else none

/-- The text without zeros at its beginning; it has to begin with a digit or a minus sign. -/
def withoutZeros? : Text → Option Text
  | [] => none
  | c :: rest =>
    if c = '0' then afterZeros? c rest
    else if c.isAsciiDigit ∨ c = '-' then some (c :: rest)
    else none

/-- The text before a point with one or more zeros after it; a text without a point is kept. -/
def withoutFraction? (t : Text) : Option Text :=
  let whole := t.takeWhile (· ≠ CodePoint.ofChar '.')
  match t.dropWhile (· ≠ CodePoint.ofChar '.') with
  | [] => some whole
  | _ :: zeros => if zeros ≠ [] ∧ zeros.all (· = CodePoint.ofChar '0') then some whole else none

/-- The text without underscores, each of which has to stand alone between two other code points. -/
def withoutUnderscores? (t : Text) : Option Text :=
  let groups := Text.splitOn "_" t
  if groups.all (· ≠ []) then some groups.flatten else none

/-- The text without white space around it, plus sign, leading zeros, zero fraction and underscores. -/
def tidied? (t : Text) : Option Text := do
  let (negative, digits) ← splitSign? (t.trim CodePoint.isSpacing)
  let digits ← withoutZeros? digits
  let digits ← withoutFraction? digits
  let digits ← withoutUnderscores? digits
  return if negative then '-' :: digits else digits

/-! ## Both -/

/-- The integer that a text of characters is, as it stands or tidied. -/
def integer (length : Length) (t : Text) : Except Complaint Int :=
  match read length t with
  | .ok n => .ok n
  | .error .integerTooLarge => .error .integerTooLarge
  | .error _ =>
    match (tidied? t).map (read length) with
    | some (.ok n) => .ok n
    | _ => .error .notIntegerText

end SolidityGateway.IntegerText
