import SolidityGateway.Json.Basic
import SolidityGateway.Number.Layout

/-!
Writing JSON. One writer serves three styles, which differ in the spaces after `,` and `:`, in what
they escape and in the layout of numbers: `Style.ascii` is what the compiler is given, `Style.error`
the body of a refusal, `Style.artifacts` the body of a result.
-/

namespace SolidityGateway.Json

/-- The choices that a value leaves open when it is written. -/
structure Style where
  /-- What separates items and members. -/
  comma : Text
  /-- What separates a member's name from its value. -/
  colon : Text
  /-- A code point inside a text. -/
  point : CodePoint → Text
  /-- A code point inside a member's name. -/
  namePoint : CodePoint → Text
  numbers : Layout

/-- The escapes of one letter, each with the code point that it stands for. -/
def shortEscapes : List (CodePoint × CodePoint) :=
  [('"', '"'), ('\\', '\\'), ('b', CodePoint.ofNat 8), ('f', CodePoint.ofNat 12), ('n', '\n'),
    ('r', '\r'), ('t', '\t')]

def escapeLetter? (c : CodePoint) : Option CodePoint :=
  (shortEscapes.find? fun e => e.2 = c).map (·.1)

/-- A number below 0x10000 as an escape. -/
def unitEscape (n : Nat) : Text := '\\' :: 'u' :: Text.hex 4 n

/-- A code point by its number; one above U+FFFF takes the two halves of a pair. -/
def numericEscape (c : CodePoint) : Text :=
  if c.val < 0x10000 then unitEscape c.val
  else
    let n := c.val - 0x10000
    unitEscape (0xD800 + n / 0x400) ++ unitEscape (0xDC00 + n % 0x400)

/-- A code point where all but U+0020 to U+007E is escaped. -/
def asciiPoint (c : CodePoint) : Text :=
  match escapeLetter? c with
  | some letter => ['\\', letter]
  | none => if 0x20 ≤ c.val ∧ c.val ≤ 0x7E then [c] else numericEscape c

/-- A code point where only quote, backslash and what is below U+0020 is escaped. -/
def plainPoint (c : CodePoint) : Text :=
  match escapeLetter? c with
  | some letter => ['\\', letter]
  | none => if c.val < 0x20 then numericEscape c else [c]

/-- As `plainPoint`, with three replacement characters for a surrogate. -/
def replacedPoint (c : CodePoint) : Text := c.replaced.flatMap plainPoint

/-- What the compiler is given. -/
def Style.ascii : Style := ⟨", ", ": ", asciiPoint, asciiPoint, Layout.plain⟩

/-- The body of a refusal. -/
def Style.error : Style := ⟨",", ":", plainPoint, plainPoint, Layout.plain⟩

/-- The body of a result. -/
def Style.artifacts : Style := ⟨",", ":", plainPoint, replacedPoint, Layout.compact⟩

def writeText (point : CodePoint → Text) (t : Text) : Text :=
  ('"' : CodePoint) :: (t.flatMap point ++ [CodePoint.ofChar '"'])

mutual

def write (style : Style) : Json → Text
  | null => "null"
  | bool true => "true"
  | bool false => "false"
  | int n => Text.ofInt n
  | float x => style.numbers.write x
  | text t => writeText style.point t
  | array [] => "[]"
  | array (value :: rest) => '[' :: (write style value ++ writeItems style rest)
  | object [] => "\x7b\x7d"
  | object ((name, value) :: rest) =>
    "\x7b" ++ (writeText style.namePoint name ++ (style.colon ++ (write style value ++ writeMembers style rest)))

/-- The items after the first, and the closing bracket. -/
def writeItems (style : Style) : List Json → Text
  | [] => "]"
  | value :: rest => style.comma ++ (write style value ++ writeItems style rest)

/-- The members after the first, and the closing brace. -/
def writeMembers (style : Style) : List (Text × Json) → Text
  | [] => "\x7d"
  | (name, value) :: rest =>
    style.comma ++
      (writeText style.namePoint name ++ (style.colon ++ (write style value ++ writeMembers style rest)))

end

end SolidityGateway.Json
