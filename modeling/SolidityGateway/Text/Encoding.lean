import SolidityGateway.Text.CodePoint

/-!
Texts as bytes: UTF-8, and UTF-16 and UTF-32 in either byte order. All of them carry surrogates: a
half of a pair that stands alone is written as if it were a character, and is read back. `detect`
tells the encodings of a JSON text apart, by a byte order mark or by where zero bytes stand among the
first four, since a JSON text begins with two characters of ASCII.
-/

namespace SolidityGateway

abbrev Bytes := List UInt8

/-- Which byte of a number comes first. -/
inductive ByteOrder
  | big
  | little
deriving DecidableEq

/-- A way to write text as bytes. -/
inductive Encoding
  | utf8
  | utf16 (order : ByteOrder)
  | utf32 (order : ByteOrder)
deriving DecidableEq

namespace Encoding

/-! ## Writing -/

def utf8Point (c : CodePoint) : Bytes :=
  let n := c.val
  let tail (shift : Nat) : UInt8 := UInt8.ofNat (0x80 + n / 2 ^ shift % 0x40)
  if n < 0x80 then [UInt8.ofNat n]
  else if n < 0x800 then [UInt8.ofNat (0xC0 + n / 2 ^ 6), tail 0]
  else if n < 0x10000 then [UInt8.ofNat (0xE0 + n / 2 ^ 12), tail 6, tail 0]
  else [UInt8.ofNat (0xF0 + n / 2 ^ 18), tail 12, tail 6, tail 0]

def pairOf (order : ByteOrder) (n : Nat) : Bytes :=
  let high := UInt8.ofNat (n / 0x100)
  let low := UInt8.ofNat (n % 0x100)
  match order with
  | .big => [high, low]
  | .little => [low, high]

def utf16Point (order : ByteOrder) (c : CodePoint) : Bytes :=
  if c.val < 0x10000 then pairOf order c.val
  else
    let n := c.val - 0x10000
    pairOf order (0xD800 + n / 0x400) ++ pairOf order (0xDC00 + n % 0x400)

def utf32Point (order : ByteOrder) (c : CodePoint) : Bytes :=
  match order with
  | .big => pairOf .big (c.val / 0x10000) ++ pairOf .big (c.val % 0x10000)
  | .little => pairOf .little (c.val % 0x10000) ++ pairOf .little (c.val / 0x10000)

/-- The bytes of a text, without a byte order mark. -/
def encode (encoding : Encoding) (t : Text) : Bytes :=
  match encoding with
  | utf8 => t.flatMap utf8Point
  | utf16 order => t.flatMap (utf16Point order)
  | utf32 order => t.flatMap (utf32Point order)

/-- The byte order mark, U+FEFF in the encoding. -/
def mark (encoding : Encoding) : Bytes := encoding.encode [CodePoint.ofNat 0xFEFF]

/-! ## Reading -/

/-- The low six bits of a byte that continues a code point. -/
def tail? (b : UInt8) : Option Nat :=
  if 0x80 ≤ b.toNat ∧ b.toNat < 0xC0 then some (b.toNat - 0x80) else none

/-- The code point of a number, where numbers below `least` would have a shorter form. -/
def point? (least n : Nat) : Option CodePoint :=
  if h : n < 0x110000 then if least ≤ n then some ⟨n, h⟩ else none else none

/-- Reads UTF-8, behind the code points already read in reverse. -/
def readUtf8 (read : Text) : Bytes → Option Text
  | [] => some read.reverse
  | a :: rest =>
    if a.toNat < 0x80 then
      match point? 0 a.toNat with
      | some c => readUtf8 (c :: read) rest
      | none => none
    else if a.toNat < 0xC0 then none
    else
      match rest with
      | [] => none
      | b :: rest₁ =>
        if a.toNat < 0xE0 then
          match (do point? 0x80 ((a.toNat - 0xC0) * 2 ^ 6 + (← tail? b))) with
          | some c => readUtf8 (c :: read) rest₁
          | none => none
        else
          match rest₁ with
          | [] => none
          | c :: rest₂ =>
            if a.toNat < 0xF0 then
              match (do
                  let y ← tail? b
                  let z ← tail? c
                  point? 0x800 ((a.toNat - 0xE0) * 2 ^ 12 + y * 2 ^ 6 + z)) with
              | some p => readUtf8 (p :: read) rest₂
              | none => none
            else
              match rest₂ with
              | [] => none
              | d :: rest₃ =>
                if a.toNat < 0xF8 then
                  match (do
                      let x ← tail? b
                      let y ← tail? c
                      let z ← tail? d
                      point? 0x10000 ((a.toNat - 0xF0) * 2 ^ 18 + x * 2 ^ 12 + y * 2 ^ 6 + z)) with
                  | some p => readUtf8 (p :: read) rest₃
                  | none => none
                else none

def pairValue (order : ByteOrder) (a b : UInt8) : Nat :=
  match order with
  | .big => a.toNat * 0x100 + b.toNat
  | .little => b.toNat * 0x100 + a.toNat

/-- The numbers of the byte pairs, behind those already read in reverse; a byte may not be left. -/
def readPairs (order : ByteOrder) (read : Text) : Bytes → Option Text
  | [] => some read.reverse
  | [_] => none
  | a :: b :: rest => readPairs order (CodePoint.ofNat (pairValue order a b) :: read) rest

/-- The text in which halves of a pair that follow each other are joined. -/
def joinHalves : Text → Text
  | [] => []
  | [c] => [c]
  | c :: d :: rest =>
    if c.isHighSurrogate ∧ d.isLowSurrogate then c.join d :: joinHalves rest
    else c :: joinHalves (d :: rest)

/-- Reads UTF-32, behind the code points already read in reverse. -/
def readUtf32 (order : ByteOrder) (read : Text) : Bytes → Option Text
  | [] => some read.reverse
  | a :: b :: c :: d :: rest =>
    let n := match order with
      | .big => pairValue .big a b * 0x10000 + pairValue .big c d
      | .little => pairValue .little c d * 0x10000 + pairValue .little a b
    match point? 0 n with
    | some p => readUtf32 order (p :: read) rest
    | none => none
  | _ => none

def decode (encoding : Encoding) (bytes : Bytes) : Option Text :=
  match encoding with
  | utf8 => readUtf8 [] bytes
  | utf16 order => (readPairs order [] bytes).map joinHalves
  | utf32 order => readUtf32 order [] bytes

/-! ## Telling encodings apart -/

/-- The encodings by their marks; the mark of UTF-16 in little order begins that of UTF-32. -/
def marked : List Encoding := [utf32 .big, utf32 .little, utf16 .big, utf16 .little, utf8]

/-- The encoding that the zero bytes at the beginning show, for bytes without a mark. -/
def ofZeros : Bytes → Encoding
  | a :: b :: c :: d :: _ =>
    if a = 0 then if b = 0 then utf32 .big else utf16 .big
    else if b = 0 then if c = 0 ∧ d = 0 then utf32 .little else utf16 .little
    else utf8
  | [a, b] => if a = 0 then utf16 .big else if b = 0 then utf16 .little else utf8
  | _ => utf8

/-- The encoding of bytes, and the bytes after a mark. -/
def detect (bytes : Bytes) : Encoding × Bytes :=
  match marked.find? fun e => e.mark.isPrefixOf bytes with
  | some encoding => (encoding, bytes.drop encoding.mark.length)
  | none => (ofZeros bytes, bytes)

/-- The text of bytes in whichever encoding they show. -/
def decodeAny (bytes : Bytes) : Option Text :=
  let (encoding, rest) := detect bytes
  encoding.decode rest

end Encoding

end SolidityGateway
