import SolidityGateway.Text.Blank
import SolidityGateway.Text.Category

/-!
Versions inside the banner of a compiler. Both are found by a pattern that is a list of `Piece`s: every
way to match it is tried, the longest runs first, at one place of the banner after the other.
`Banner.version?` looks for a word after `Version:`, where white space may stand between the two.
`Banner.release?` looks for a release number that names its commit, where a nightly mark may stand
between the two.
-/

namespace SolidityGateway.Banner

/-- A step of a pattern: one code point that satisfies a test, or a run of such code points, which in
`run` are one or more. -/
inductive Piece
  | one (test : CodePoint → Bool)
  | many (test : CodePoint → Bool)
  | run (test : CodePoint → Bool)

/-- Exactly the code points of a text. -/
def exactly (t : Text) : List Piece := t.map fun c => .one (· = c)

/-- What may be left after a nonempty run, the longest run first, before what shorter runs leave. -/
def afterRun (test : CodePoint → Bool) (shorter : List Text) : Text → List Text
  | [] => shorter
  | c :: rest => if test c then afterRun test (rest :: shorter) rest else shorter

/-- What may be left after a piece. -/
def Piece.rests : Piece → Text → List Text
  | one test, c :: rest => if test c then [rest] else []
  | one _, [] => []
  | many test, t => afterRun test [t] t
  | run test, t => afterRun test [] t

def rests : List Piece → Text → List Text
  | [], t => [t]
  | piece :: pieces, t => (piece.rests t).flatMap (rests pieces)

/-- What is found at the first place of a text where something is. -/
def search (here? : Text → Option Text) : Text → Option Text
  | [] => none
  | c :: rest =>
    match here? (c :: rest) with
    | some found => some found
    | none => search here? rest

def mark : Text := "Version:"

/-- The mark with any white space after it. -/
def beforeVersion : List Piece := exactly mark ++ [.many CodePoint.isBlank]

def word : Piece := .run (!·.isBlank)

/-- The word behind a mark at the beginning of a text. -/
def versionHere? (t : Text) : Option Text :=
  (rests beforeVersion t).findSome? fun start =>
    (word.rests start).head?.map fun rest => start.take (start.length - rest.length)

/-- The first word behind a mark in a banner. -/
def version? (banner : Text) : Option Text := search versionHere? banner

/-- A decimal digit of some script, in a run. -/
def digits : Piece := .run CodePoint.isDecimalDigit

/-- Any code point but the end of a line. -/
def anything : Piece := .one (· ≠ CodePoint.ofChar '\n')

def number : List Piece :=
  [digits] ++ exactly "." ++ [digits] ++ exactly "." ++ [digits]

def nightlyMark : Text := "-nightly"

/-- The mark of a nightly build with three numbers, anything before and between them. -/
def nightly : List Piece := exactly nightlyMark ++ [anything, digits, anything, digits, anything, digits]

def commit : List Piece := exactly "+commit" ++ [anything, .run CodePoint.isWord]

/-- The release number with its commit at the beginning of a text. A nightly mark is left out, also
where the name of the commit begins with one. -/
def releaseHere? (t : Text) : Option Text :=
  let found := (rests number t).flatMap fun afterNumber =>
    (rests nightly afterNumber ++ [afterNumber]).flatMap fun start =>
      (rests commit start).map fun afterCommit =>
        t.take (t.length - afterNumber.length) ++
          Text.erase nightlyMark (start.take (start.length - afterCommit.length))
  found.head?

/-- The first release number with its commit in a banner. -/
def release? (banner : Text) : Option Text := search releaseHere? banner

end SolidityGateway.Banner
