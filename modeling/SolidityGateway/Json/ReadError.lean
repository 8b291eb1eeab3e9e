import SolidityGateway.Text.Decimal

/-!
Why a text is no JSON. A `Fault` says what was met; `ReadError` adds the place. Apart from the grammar
the reader has two limits: how many digits an integer may have and how deep values may be nested.
-/

namespace SolidityGateway.Json

/-- What a reader met where the grammar has something else. -/
inductive Fault
  | valueExpected
  | extraText
  | nameExpected
  | colonExpected
  | commaExpected
  | unterminatedText
  | controlCharacter
  | unknownEscape
  | unfinishedEscape
  | byteOrderMark
deriving DecidableEq

def Fault.message : Fault → String
  | valueExpected => "Expecting value"
  | extraText => "Extra data"
  | nameExpected => "Expecting property name enclosed in double quotes"
  | colonExpected => "Expecting ':' delimiter"
  | commaExpected => "Expecting ',' delimiter"
  | unterminatedText => "Unterminated string starting at"
  | controlCharacter => "Invalid control character at"
  | unknownEscape => "Invalid \\escape"
  | unfinishedEscape => "Invalid \\uXXXX escape"
  | byteOrderMark => "Unexpected UTF-8 BOM (decode using utf-8-sig)"

/-- The kinds of value that hold others. -/
inductive Container
  | array
  | object
deriving DecidableEq

def Container.noun : Container → String
  | array => "array"
  | object => "object"

/-- Why a text is refused. -/
inductive ReadError
  /-- The text breaks the grammar at a place, counted from 0. -/
  | malformed (fault : Fault) (line column place : Nat)
  | tooManyDigits (count : Nat)
  | tooDeep (container : Container)
deriving DecidableEq

/-- How deep arrays and objects may be nested. Where a text is read in a gateway that runs, this depends
on how much of the stack is taken; the one number stands for the output of a compiler and for the body
of a request. -/
def depthLimit : Nat := 990

/-- The line and the column, both counted from 1, after a piece of text. -/
def lineAndColumn (before : Text) : Nat × Nat :=
  (before.count (CodePoint.ofChar '\n') + 1, (before.reverse.takeWhile (· ≠ CodePoint.ofChar '\n')).length + 1)

/-- A fault in a text, `left` code points before its end. -/
def ReadError.ofFault (fault : Fault) (t : Text) (left : Nat) : ReadError :=
  let place := t.length - left
  let (line, column) := lineAndColumn (t.take place)
  malformed fault line column place

def ReadError.message : ReadError → Text
  | malformed fault line column place =>
    fault.message ++ (": line " : Text) ++ Text.ofNat line ++ " column " ++ Text.ofNat column ++ " (char " ++
      Text.ofNat place ++ ")"
  | tooManyDigits count => Text.tooManyDigits count
  | tooDeep container =>
    ("maximum recursion depth exceeded while decoding a JSON " : Text) ++ container.noun ++
      " from a unicode string"

end SolidityGateway.Json
