import SolidityGateway.Text.Blank
import SolidityGateway.Text.Decimal

/-!
Release numbers of compilers, `epoch!1.2.3rc1.post2.dev3+local`. The numbers between dots are the
release itself; what may follow are a stage before it (alpha, beta, candidate), a revision after it,
a development mark and a local label. Letters count in either case, a `v` in front is allowed, and so
is white space at both ends. `Release.Parts` are the digits as they are written; they become a
`Release` unless some number among them has too many. `Release.base` is what is left without stage,
revision, mark and label.
-/

namespace SolidityGateway

/-- A release number. The label of a local build plays no part in what the gateway decides. -/
structure Release where
  epoch : Nat
  numbers : List Nat
  /-- A stage before the release. -/
  early : Bool
  /-- A revision after the release. -/
  revised : Bool
  /-- A state of development. -/
  development : Bool
deriving DecidableEq

namespace Release

def isSeparator (c : CodePoint) : Bool := c.val == 0x2E || c.val == 0x5F || c.val == 0x2D

/-- The text without one separator at its beginning. -/
def skipSeparator (t : Text) : Text :=
  match t with
  | c :: rest => if isSeparator c then rest else t
  | [] => []

def spanDigits (t : Text) : Text × Text := t.span CodePoint.isAsciiDigit

/-- The rest after the first of the words that the text begins with. -/
def skipWord? (words : List Text) (t : Text) : Option Text :=
  (words.find? t.startsWith).map fun word => t.drop word.length

/-- The words for a stage before the release; a longer word stands before one that begins it. -/
def earlyWords : List Text := ["alpha", "a", "beta", "b", "preview", "pre", "c", "rc"]

def revisionWords : List Text := ["post", "rev", "r"]

/-- A part that is a word with an optional number: the digits of the number, and the rest. -/
def splitPart? (words : List Text) (t : Text) : Option (Text × Text) := do
  let rest ← skipWord? words (skipSeparator t)
  return spanDigits (skipSeparator rest)

/-- A part if it is there: its digits, and the rest. -/
def optionalPart (words : List Text) (t : Text) : Option Text × Text :=
  match splitPart? words t with
  | some (digits, rest) => (some digits, rest)
  | none => (none, t)

/-- A revision, which may also be a minus sign with a number. -/
def revisionPart (t : Text) : Option Text × Text :=
  match t with
  | c :: rest =>
    let (digits, after) := spanDigits rest
    if c = '-' ∧ digits ≠ [] then (some digits, after) else optionalPart revisionWords t
  | [] => (none, [])

/-- The digits of the numbers between dots, behind those already found; the text begins after a
dot. -/
def splitNumbers : (fuel : Nat) → List Text → Text → Option (List Text × Text)
  | 0, _, _ => none
  | fuel + 1, found, t =>
    let (digits, rest) := spanDigits t
    if digits = [] then none
    else
      let found := digits :: found
      match rest with
      | c :: next :: after =>
        if c = '.' ∧ next.isAsciiDigit then splitNumbers fuel found (next :: after)
        else some (found.reverse, rest)
      | _ => some (found.reverse, rest)

def isLabelPoint (c : CodePoint) : Bool := c.isAsciiDigit || c.isAsciiLetter

/-- Whether a text is a local label: runs of letters and digits with one separator between them. -/
def isLabel : (afterPoint : Bool) → Text → Bool
  | afterPoint, [] => afterPoint
  | afterPoint, c :: rest =>
    if isLabelPoint c then isLabel true rest
    else afterPoint && isSeparator c && isLabel false rest

/-- The pieces of a local label between its separators. -/
def labelPieces (label : Text) : List Text :=
  Text.splitOn "." (label.map fun c => if isSeparator c then '.' else c)

/-- The pieces of what is empty or a local label after a plus sign. -/
def labelPart? (t : Text) : Option (List Text) :=
  match t with
  | [] => some []
  | c :: rest => if c = '+' ∧ isLabel false rest then some (labelPieces rest) else none

/-- The digits of the epoch in front of the numbers, none if there is no epoch, and the rest. -/
def splitEpoch (t : Text) : Text × Text :=
  let (digits, rest) := spanDigits t
  match rest with
  | c :: after => if digits ≠ [] ∧ c = '!' then (digits, after) else ([], t)
  | [] => ([], t)

/-- A release number as it is written. Stage, revision and mark have digits, maybe none, if they are
there. -/
structure Parts where
  epoch : Text
  numbers : List Text
  early : Option Text
  revision : Option Text
  development : Option Text
  label : List Text

namespace Parts

def ofText? (t : Text) : Option Parts := do
  let t := (t.trim CodePoint.isBlank).toAsciiLower
  let (epoch, t) := splitEpoch ((skipWord? ["v"] t).getD t)
  let (numbers, t) ← splitNumbers (t.length + 1) [] t
  let (early, t) := optionalPart earlyWords t
  let (revision, t) := revisionPart t
  let (development, t) := optionalPart ["dev"] t
  let label ← labelPart? t
  return ⟨epoch, numbers, early, revision, development, label⟩

/-- The digits of every number, pieces of the label included, from left to right. -/
def digitRuns (p : Parts) : List Text :=
  p.epoch :: p.numbers ++ p.early.toList ++ p.revision.toList ++ p.development.toList ++
    p.label.filter fun piece => piece.all CodePoint.isAsciiDigit

def release (p : Parts) : Release where
  epoch := Text.toNat p.epoch
  numbers := p.numbers.map Text.toNat
  early := p.early.isSome
  revised := p.revision.isSome
  development := p.development.isSome

end Parts

/-- Why a text gives no release number. -/
inductive Fault
  | malformed
  | tooManyDigits (count : Nat)
deriving DecidableEq

def parse (t : Text) : Except Fault Release :=
  match Parts.ofText? t with
  | none => .error .malformed
  | some parts =>
    match parts.digitRuns.find? fun digits => digits.length > Text.digitLimit with
    | some digits => .error (.tooManyDigits digits.length)
    | none => .ok parts.release

/-- The epoch, if it is not 0, and the numbers. -/
def base (r : Release) : Text :=
  let numbers := Text.join "." (r.numbers.map Text.ofNat)
  if r.epoch = 0 then numbers else Text.ofNat r.epoch ++ ("!" : Text) ++ numbers

/-- The numbers without zeros at their end, which make no difference to the order. -/
def significant (numbers : List Nat) : List Nat := (numbers.reverse.dropWhile (· = 0)).reverse

/-- Whether the release with these numbers comes after this one. With the same numbers that is so
for a stage before it, and for a development state that is no revision. -/
def isBefore (r : Release) (numbers : List Nat) : Bool :=
  r.epoch = 0 &&
    (decide (significant r.numbers < significant numbers) ||
      (significant r.numbers = significant numbers && (r.early || (r.development && !r.revised))))

end Release

end SolidityGateway
