import SolidityGateway.Validation.IntegerText
import SolidityGateway.Json.Basic
import SolidityGateway.Path

/-!
Readers for the values of single fields. Each takes a JSON value; a variable of the environment is a
text value. Integers and truth values may be written as texts, and as numbers of the other kinds
where nothing is lost.
-/

namespace SolidityGateway.Scalar

/-! ## Integers -/

def integerOfText (length : IntegerText.Length) (t : Text) : Except Complaint Int :=
  if t.hasSurrogate then .error .notCharacters else IntegerText.integer length t

def integerOfFloat (x : Binary64) : Except Complaint Int :=
  if x.isFinite then
    match x.toInt? with
    | none => .error .fractional
    | some n => if -2 ^ 63 < n ∧ n < 2 ^ 63 then .ok n else .error .integerTooLarge
  else .error .notFinite

def integer (length : IntegerText.Length) : Json → Except Complaint Int
  | .int n => .ok n
  | .bool b => .ok (if b then 1 else 0)
  | .float x => integerOfFloat x
  | .text t => integerOfText length t
  | _ => .error .notInteger

/-! ## Truth values -/

def falseWords : List Text := ["0", "off", "f", "false", "n", "no"]

def trueWords : List Text := ["1", "on", "t", "true", "y", "yes"]

/-- The truth value that a text is, in either case. -/
def truthOfText (t : Text) : Except Complaint Bool :=
  if t.hasSurrogate then .error .notCharacters
  else if t.toAsciiLower ∈ falseWords then .ok false
  else if t.toAsciiLower ∈ trueWords then .ok true
  else .error .notTruthText

/-- The truth value that an integer is; one of more than 64 bits is no candidate at all. -/
def truthOfInteger (n : Int) : Except Complaint Bool :=
  if n = 0 then .ok false
  else if n = 1 then .ok true
  else if -2 ^ 63 ≤ n ∧ n < 2 ^ 63 then .error .notTruthText
  else .error .notTruth

def truth : Json → Except Complaint Bool
  | .bool b => .ok b
  | .text t => truthOfText t
  | .int n => truthOfInteger n
  | .float x =>
    match integerOfFloat x with
    | .ok n => truthOfInteger n
    | .error _ => .error .notTruth
  | _ => .error .notTruth

/-! ## Texts and paths -/

def text : Json → Except Complaint Text
  | .text t => .ok t
  | _ => .error .notText

/-- A path field, which keeps the normal form. -/
def path : Json → Except Complaint Text
  | .text t => .ok (Path.normal t)
  | _ => .error .notPath

/-- A field that may also be null. -/
def optional {α : Type} (read : Json → Except Complaint α) : Json → Except Complaint (Option α)
  | .null => .ok none
  | value => (read value).map some

end SolidityGateway.Scalar
