/-!
Text as the gateway handles it: a sequence of code points. The surrogates are code points here,
because an escape in a JSON text can name one that stands alone, and such a text has to reach the
compiler, the client and the error messages as it is. A text of ordinary characters is the image of
a string (`Text.ofString`).
-/

namespace SolidityGateway

-- A power of a natural number or an integer is the built-in one, in every module.
attribute [instance (1100), default_instance 20000] instPowNat

/-- A Unicode code point, surrogates included. -/
structure CodePoint where
  val : Nat
  isLt : val < 0x110000
deriving DecidableEq

namespace CodePoint

theorem ext {a b : CodePoint} (h : a.val = b.val) : a = b := by
  cases a; cases b; simp_all

theorem val_inj {a b : CodePoint} : a.val = b.val ↔ a = b :=
  ⟨ext, fun h => h ▸ rfl⟩

def ofChar (c : Char) : CodePoint :=
  ⟨c.toNat, by
    have h := c.valid
    simp only [UInt32.isValidChar, Nat.isValidChar] at h
    show c.val.toNat < 0x110000
    omega⟩

instance : Coe Char CodePoint := ⟨ofChar⟩

/-- U+FFFD, which stands where a code point cannot be written. -/
def replacement : CodePoint := ⟨0xFFFD, by decide⟩

/-- The code point of a number; a number that is none gives the replacement character. -/
def ofNat (n : Nat) : CodePoint :=
  if h : n < 0x110000 then ⟨n, h⟩ else replacement

theorem val_ofNat {n : Nat} (h : n < 0x110000) : (ofNat n).val = n := by
  simp [ofNat, h]

@[simp] theorem ofNat_val (c : CodePoint) : ofNat c.val = c := by
  simp [ofNat, c.isLt]

/-- U+D800 to U+DBFF, the first half of a pair. -/
def isHighSurrogate (c : CodePoint) : Bool := 0xD800 ≤ c.val && c.val < 0xDC00

/-- U+DC00 to U+DFFF, the second half of a pair. -/
def isLowSurrogate (c : CodePoint) : Bool := 0xDC00 ≤ c.val && c.val < 0xE000

/-- A code point that is no character. -/
def isSurrogate (c : CodePoint) : Bool := 0xD800 ≤ c.val && c.val < 0xE000

/-- A code point, or three replacement characters for a surrogate. -/
def replaced (c : CodePoint) : List CodePoint :=
  if c.isSurrogate then List.replicate 3 replacement else [c]

/-- The code point above U+FFFF that two halves of a pair stand for. -/
def join (high low : CodePoint) : CodePoint :=
  ofNat (0x10000 + (high.val % 0x400) * 0x400 + low.val % 0x400)

/-- The character of a code point, unless it is a surrogate. -/
def toChar? (c : CodePoint) : Option Char :=
  if h : c.val.isValidChar then some (Char.ofNatAux c.val h) else none

def isAsciiDigit (c : CodePoint) : Bool := 0x30 ≤ c.val && c.val ≤ 0x39

def isAsciiLetter (c : CodePoint) : Bool :=
  (0x41 ≤ c.val && c.val ≤ 0x5A) || (0x61 ≤ c.val && c.val ≤ 0x7A)

/-- The lower case of `A` to `Z`; any other code point is kept. -/
def toAsciiLower (c : CodePoint) : CodePoint :=
  if 0x41 ≤ c.val && c.val ≤ 0x5A then ofNat (c.val + 0x20) else c

end CodePoint

/-- A sequence of code points. -/
abbrev Text := List CodePoint

instance : LawfulBEq Text := inferInstance

namespace Text

def ofString (s : String) : Text := s.toList.map CodePoint.ofChar

instance : Coe String Text := ⟨ofString⟩

def hasSurrogate (t : Text) : Bool := t.any CodePoint.isSurrogate

/-- The text with three replacement characters for each surrogate, one for each of the bytes that it
would take. -/
def replaceSurrogates (t : Text) : Text := t.flatMap CodePoint.replaced

def toString? (t : Text) : Option String :=
  (t.mapM CodePoint.toChar?).map String.ofList

/-- Every letter `A` to `Z` in lower case. -/
def toAsciiLower (t : Text) : Text := t.map CodePoint.toAsciiLower

def startsWith (t : Text) (start : Text) : Bool := start.isPrefixOf t

def endsWith (t : Text) (tail : Text) : Bool := tail.isSuffixOf t

/-- The texts one after another, with a mark between them. -/
def join (mark : Text) (parts : List Text) : Text := List.intercalate mark parts

/-- The text without the code points at its two ends that satisfy a test. -/
def trim (p : CodePoint → Bool) (t : Text) : Text :=
  ((t.dropWhile p).reverse.dropWhile p).reverse

/-- The pieces between the occurrences of a mark, found from left to right; `skip` code points of an
occurrence are still to be passed over. -/
def splitFrom (mark : Text) : (skip : Nat) → Text → List Text
  | _, [] => [[]]
  | skip + 1, _ :: rest => splitFrom mark skip rest
  | 0, c :: rest =>
    if mark.isPrefixOf (c :: rest) then [] :: splitFrom mark (mark.length - 1) rest
    else match splitFrom mark 0 rest with
      | [] => [[c]]
      | piece :: pieces => (c :: piece) :: pieces

/-- The pieces between the occurrences of a mark that is not empty. -/
def splitOn (mark t : Text) : List Text := splitFrom mark 0 t

def erase (mark t : Text) : Text := (splitOn mark t).flatten

end Text

end SolidityGateway
