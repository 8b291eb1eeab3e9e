import SolidityGateway.Json.Basic
import SolidityGateway.Json.ReadError

/-!
Reading JSON. Every function takes the text that is left and returns a value with what is left after
it, or a `Stop`, which holds the text from the place of the fault on; `Json.parse` turns that into a
line and a column. Arrays and objects are loops over a reader for values, so nesting is the only
recursion of `value`, and `depthLimit` is where it ends. A text has its escapes resolved one by one
first (`textUnits`); then two escaped halves of a pair that follow each other become one code point
(`joinPairs`), while a half that stands in the text itself is kept.
-/

namespace SolidityGateway.Json

/-- Why reading stopped, with the text from the place of the fault on. -/
inductive Stop
  | fault (fault : Fault) (left : Text)
  | tooManyDigits (count : Nat)
  | tooDeep (container : Container)

/-- The white space between tokens. -/
def isSpace (c : CodePoint) : Bool := c.val == 0x20 || c.val == 0x9 || c.val == 0xA || c.val == 0xD

def skipSpace (t : Text) : Text := t.dropWhile isSpace

/-! ## Texts -/

/-- A code point of a text, and whether it was written as a numeric escape. -/
structure TextUnit where
  point : CodePoint
  escaped : Bool
deriving DecidableEq

def ofEscapeLetter? (c : CodePoint) : Option CodePoint :=
  if c = '"' ∨ c = '\\' ∨ c = '/' then some c
  else if c = 'b' then some (CodePoint.ofNat 0x8)
  else if c = 'f' then some (CodePoint.ofNat 0xC)
  else if c = 'n' then some (CodePoint.ofNat 0xA)
  else if c = 'r' then some (CodePoint.ofNat 0xD)
  else if c = 't' then some (CodePoint.ofNat 0x9)
  else none

/-- The number that four digits of base sixteen stand for. -/
def ofHex? (a b c d : CodePoint) : Option Nat := do
  let a ← Text.hexValue? a
  let b ← Text.hexValue? b
  let c ← Text.hexValue? c
  let d ← Text.hexValue? d
  return ((a * 16 + b) * 16 + c) * 16 + d

/-- The units of a text up to its closing quote, behind those already read. `opening` is the text
from the opening quote on. A numeric escape has to be followed by something. -/
def textUnits (opening : Text) (read : List TextUnit) : Text → Except Stop (List TextUnit × Text)
  | [] => .error (.fault .unterminatedText opening)
  | c :: rest =>
    if c = '"' then .ok (read.reverse, rest)
    else if c = '\\' then
      match rest with
      | [] => .error (.fault .unterminatedText opening)
      | e :: more =>
        if e = 'u' then
          match more with
          | h₁ :: h₂ :: h₃ :: h₄ :: next :: after =>
            match ofHex? h₁ h₂ h₃ h₄ with
            | some n => textUnits opening (⟨CodePoint.ofNat n, true⟩ :: read) (next :: after)
            | none => .error (.fault .unfinishedEscape rest)
          | _ => .error (.fault .unfinishedEscape rest)
        else
          match ofEscapeLetter? e with
          | some p => textUnits opening (⟨p, false⟩ :: read) more
          | none => .error (.fault .unknownEscape (c :: rest))
    else if c.val < 0x20 then .error (.fault .controlCharacter (c :: rest))
    else textUnits opening (⟨c, false⟩ :: read) rest

theorem textUnits_quote (opening : Text) (read : List TextUnit) (rest : Text) :
    textUnits opening read (CodePoint.ofChar '"' :: rest) = .ok (read.reverse, rest) := by
  rw [textUnits.eq_def]; simp

/-- A code point that stands for itself. -/
theorem textUnits_plain {c : CodePoint} (hq : c ≠ '"') (hb : c ≠ '\\') (hc : 0x20 ≤ c.val)
    (opening : Text) (read : List TextUnit) (rest : Text) :
    textUnits opening read (c :: rest) = textUnits opening (⟨c, false⟩ :: read) rest := by
  rw [textUnits.eq_def]; simp [hq, hb, Nat.not_lt.2 hc]

theorem textUnits_letter {e p : CodePoint} (hu : e ≠ 'u') (h : ofEscapeLetter? e = some p)
    (opening : Text) (read : List TextUnit) (rest : Text) :
    textUnits opening read (CodePoint.ofChar '\\' :: e :: rest) =
      textUnits opening (⟨p, false⟩ :: read) rest := by
  have hb : (CodePoint.ofChar '\\' : CodePoint) ≠ '"' := by decide
  rw [textUnits.eq_def]; simp [hu, h, hb]

/-- A numeric escape, with something after it. -/
theorem textUnits_number {h₁ h₂ h₃ h₄ : CodePoint} {n : Nat} (h : ofHex? h₁ h₂ h₃ h₄ = some n)
    (opening : Text) (read : List TextUnit) (next : CodePoint) (rest : Text) :
    textUnits opening read
        (CodePoint.ofChar '\\' :: CodePoint.ofChar 'u' :: h₁ :: h₂ :: h₃ :: h₄ :: next :: rest) =
      textUnits opening (⟨CodePoint.ofNat n, true⟩ :: read) (next :: rest) := by
  have hb : (CodePoint.ofChar '\\' : CodePoint) ≠ '"' := by decide
  rw [textUnits.eq_def]; simp [h, hb]

/-- The code points of the units, where two escaped halves that follow each other are joined. -/
def joinPairs : List TextUnit → Text
  | [] => []
  | [u] => [u.point]
  | u :: v :: rest =>
    if u.escaped ∧ v.escaped ∧ u.point.isHighSurrogate ∧ v.point.isLowSurrogate then
      u.point.join v.point :: joinPairs rest
    else u.point :: joinPairs (v :: rest)

/-- A text, from after its opening quote. -/
def readText (opening : Text) (t : Text) : Except Stop (Text × Text) := do
  let (units, rest) ← textUnits opening [] t
  return (joinPairs units, rest)

/-! ## Numbers -/

def digitsOf (t : Text) : Text := t.takeWhile CodePoint.isAsciiDigit

/-- The digits after a point at the beginning of a text, if there are any. -/
def fraction? (t : Text) : Option (Text × Text) :=
  match t with
  | c :: rest =>
    let digits := digitsOf rest
    if c = '.' ∧ digits ≠ [] then some (digits, rest.drop digits.length) else none
  | [] => none

def signOf (t : Text) : Bool × Text :=
  match t with
  | c :: rest => if c = '-' then (true, rest) else if c = '+' then (false, rest) else (false, t)
  | [] => (false, [])

/-- The exponent at the beginning of a text, if there is one. -/
def exponent? (t : Text) : Option (Int × Text) :=
  match t with
  | c :: rest =>
    let (negative, rest) := signOf rest
    let digits := digitsOf rest
    if (c = 'e' ∨ c = 'E') ∧ digits ≠ [] then
      let n : Int := Text.toNat digits
      some (if negative then -n else n, rest.drop digits.length)
    else none
  | [] => none

/-- The whole part at the beginning of a text: one zero, or digits that begin with another. -/
def wholePart? (t : Text) : Option (Text × Text) :=
  match t with
  | c :: rest =>
    if c = '0' then some ([c], rest)
    else
      let digits := digitsOf t
      if digits = [] then none else some (digits, t.drop digits.length)
  | [] => none

/-- The number after its sign, where `start` is the text from the sign on. It ends where it is no
longer a number. -/
def readNumber (start : Text) (negative : Bool) (t : Text) : Except Stop (Json × Text) :=
  match wholePart? t with
  | none => .error (.fault .valueExpected start)
  | some (whole, rest) =>
    match fraction? rest, exponent? ((fraction? rest).elim rest (·.2)) with
    | none, none =>
      if whole.length > Text.digitLimit then .error (.tooManyDigits whole.length)
      else
        let n : Int := Text.toNat whole
        .ok (int (if negative then -n else n), rest)
    | fraction, exponent =>
      let digits := fraction.elim [] (·.1)
      let (power, left) := exponent.getD (0, fraction.elim rest (·.2))
      .ok (float (Binary64.ofDecimal negative (Text.toNat (whole ++ digits)) (power - digits.length)), left)

/-! ## Values -/

def words : List (Text × Json) :=
  [("null", null), ("true", bool true), ("false", bool false), ("NaN", float .nan),
    ("Infinity", float (.infinite false)), ("-Infinity", float (.infinite true))]

/-- A word or a number. -/
def readScalar (t : Text) : Except Stop (Json × Text) :=
  match words.find? fun word => word.1.isPrefixOf t with
  | some (word, v) => .ok (v, t.drop word.length)
  | none =>
    match t with
    | [] => .error (.fault .valueExpected t)
    | c :: rest => if c = '-' then readNumber t true rest else readNumber t false t

/-- The items of an array up to its closing bracket, behind those already read. `fuel` is not less
than their number. -/
def readItems (value : Text → Except Stop (Json × Text)) : (fuel : Nat) → List Json → Text → Except Stop (List Json × Text)
  | 0, _, t => .error (.fault .valueExpected t)
  | fuel + 1, read, t => do
    let (v, rest) ← value t
    match skipSpace rest with
    | [] => .error (.fault .commaExpected [])
    | c :: more =>
      if c = ']' then .ok ((v :: read).reverse, more)
      else if c = ',' then readItems value fuel (v :: read) (skipSpace more)
      else .error (.fault .commaExpected (c :: more))

/-- The members of an object up to its closing brace, behind those already read. `fuel` is not less
than their number. -/
def readMembers (value : Text → Except Stop (Json × Text)) :
    (fuel : Nat) → List (Text × Json) → Text → Except Stop (List (Text × Json) × Text)
  | 0, _, t => .error (.fault .nameExpected t)
  | _, _, [] => .error (.fault .nameExpected [])
  | fuel + 1, read, quote :: inside => do
    if quote ≠ '"' then .error (.fault .nameExpected (quote :: inside))
    else
      let (name, rest) ← readText (quote :: inside) inside
      match skipSpace rest with
      | [] => .error (.fault .colonExpected [])
      | colon :: after =>
        if colon ≠ ':' then .error (.fault .colonExpected (colon :: after))
        else
          let (v, rest) ← value (skipSpace after)
          match skipSpace rest with
          | [] => .error (.fault .commaExpected [])
          | c :: more =>
            if c = '\x7d' then .ok (((name, v) :: read).reverse, more)
            else if c = ',' then readMembers value fuel ((name, v) :: read) (skipSpace more)
            else .error (.fault .commaExpected (c :: more))

/-- The rest of an array after its opening bracket. -/
def readArray (value : Text → Except Stop (Json × Text)) (fuel : Nat) (t : Text) : Except Stop (Json × Text) :=
  match skipSpace t with
  | [] => .error (.fault .valueExpected [])
  | c :: rest =>
    if c = ']' then .ok (array [], rest)
    else do
      let (items, left) ← readItems value fuel [] (c :: rest)
      return (array items, left)

/-- The rest of an object after its opening brace. -/
def readObject (value : Text → Except Stop (Json × Text)) (fuel : Nat) (t : Text) : Except Stop (Json × Text) :=
  match skipSpace t with
  | [] => .error (.fault .nameExpected [])
  | c :: rest =>
    if c = '\x7d' then .ok (object [], rest)
    else do
      let (members, left) ← readMembers value fuel [] (c :: rest)
      return (object (ofMembers members), left)

/-- A value at the beginning of a text, in which `depth` more containers may be nested; `fuel` is not
less than the number of items of any container. -/
def readValue (fuel : Nat) : (depth : Nat) → Text → Except Stop (Json × Text)
  | _, [] => .error (.fault .valueExpected [])
  | 0, c :: rest =>
    if c = '[' then .error (.tooDeep .array)
    else if c = '\x7b' then .error (.tooDeep .object)
    else if c = '"' then (readText (c :: rest) rest).map fun r => (text r.1, r.2)
    else readScalar (c :: rest)
  | depth + 1, c :: rest =>
    if c = '[' then readArray (readValue fuel depth) fuel rest
    else if c = '\x7b' then readObject (readValue fuel depth) fuel rest
    else if c = '"' then (readText (c :: rest) rest).map fun r => (text r.1, r.2)
    else readScalar (c :: rest)

/-- One value with white space around it and nothing else. -/
def readDocument (t : Text) : Except Stop Json := do
  let (v, rest) ← readValue (t.length + 1) depthLimit (skipSpace t)
  match skipSpace rest with
  | [] => return v
  | extra => .error (.fault .extraText extra)

def parse (t : Text) : Except ReadError Json :=
  match readDocument t with
  | .ok v => .ok v
  | .error (.fault fault left) => .error (.ofFault fault t left.length)
  | .error (.tooManyDigits count) => .error (.tooManyDigits count)
  | .error (.tooDeep container) => .error (.tooDeep container)

/-- As `parse`, for a text that came as characters: a byte order mark at its beginning is refused. -/
def parseText (t : Text) : Except ReadError Json :=
  if t.head? = some (CodePoint.ofNat 0xFEFF) then .error (.ofFault .byteOrderMark t t.length)
  else parse t

end SolidityGateway.Json
