import SolidityGateway.Proofs.Escapes
import SolidityGateway.Proofs.Histories
import SolidityGateway.Proofs.Submissions

/-!
Texts in every encoding of Unicode. Each encoding is read back (`Encoding.decode_encode`), and bytes
tell their encoding, by their mark or by where zero bytes stand, if the text begins with two characters
of ASCII (`Encoding.detect_send`). So a gateway that is sent a JSON object answers the text and not the
bytes (`answers_in_every_encoding`).
-/

namespace SolidityGateway

namespace Encoding

/-! ## UTF-16 and UTF-32 -/

section
variable (order : ByteOrder)

theorem pairOf_eq {n : Nat} (h : n < 0x10000) :
    ∃ a b, pairOf order n = [a, b] ∧ pairValue order a b = n := by
  have hhigh : (UInt8.ofNat (n / 0x100)).toNat = n / 0x100 := toNat_ofNat (by omega)
  have hlow : (UInt8.ofNat (n % 0x100)).toNat = n % 0x100 := toNat_ofNat (by omega)
  cases order with
  | big =>
    refine ⟨_, _, rfl, ?_⟩
    rw [pairValue, hhigh, hlow]
    omega
  | little =>
    refine ⟨_, _, rfl, ?_⟩
    rw [pairValue, hhigh, hlow]
    omega

theorem readPairs_pairOf (read : Text) {n : Nat} (h : n < 0x10000) (rest : Bytes) :
    readPairs order read (pairOf order n ++ rest) = readPairs order (CodePoint.ofNat n :: read) rest := by
  obtain ⟨a, b, hpair, hvalue⟩ := pairOf_eq order h
  rw [hpair, List.cons_append, List.cons_append, List.nil_append, readPairs, hvalue]

/-- A code point as it is read from byte pairs: one above U+FFFF in halves. -/
def pairPoints (c : CodePoint) : Text :=
  if c.val < 0x10000 then [c]
  else [CodePoint.ofNat (0xD800 + (c.val - 0x10000) / 0x400),
    CodePoint.ofNat (0xDC00 + (c.val - 0x10000) % 0x400)]

theorem readPairs_point (read : Text) (c : CodePoint) (rest : Bytes) :
    readPairs order read (utf16Point order c ++ rest) =
      readPairs order ((pairPoints c).reverse ++ read) rest := by
  have hlt := c.isLt
  rw [utf16Point, pairPoints]
  split
  · next h =>
    rw [readPairs_pairOf order read h, CodePoint.ofNat_val]
    rfl
  · rw [List.append_assoc, readPairs_pairOf order read (by omega), readPairs_pairOf order _ (by omega)]
    rfl

theorem readPairs_encode (t : Text) : ∀ read : Text,
    readPairs order read ((utf16 order).encode t) = some (read.reverse ++ t.flatMap pairPoints) := by
  induction t with
  | nil => intro read; simp [encode, readPairs]
  | cons c t ih =>
    intro read
    have hrest := ih ((pairPoints c).reverse ++ read)
    rw [encode] at hrest
    rw [encode, List.flatMap_cons, readPairs_point, hrest]
    simp

theorem joinHalves_cons {c : CodePoint} (h : c.isHighSurrogate = false) (t : Text) :
    joinHalves (c :: t) = c :: joinHalves t := by
  cases t with
  | nil => rfl
  | cons d t => rw [joinHalves, if_neg (by simp [h])]

/-- The halves of a text without surrogates come together again. -/
theorem joinHalves_pairPoints {t : Text} (h : t.hasSurrogate = false) :
    joinHalves (t.flatMap pairPoints) = t := by
  induction t with
  | nil => rfl
  | cons c t ih =>
    simp only [Text.hasSurrogate, List.any_cons, Bool.or_eq_false_iff] at h
    have hrest := ih h.2
    rw [List.flatMap_cons, pairPoints]
    split
    · have hhigh : c.isHighSurrogate = false := by
        have hfree := h.1
        simp only [CodePoint.isSurrogate, CodePoint.isHighSurrogate, Bool.and_eq_false_iff,
          decide_eq_false_iff_not] at hfree ⊢
        omega
      rw [List.singleton_append, joinHalves_cons hhigh, hrest]
    · obtain ⟨hhigh, hlow, hjoin⟩ := CodePoint.join_halves (c := c) (by omega)
      rw [List.cons_append, List.cons_append, List.nil_append, joinHalves, if_pos ⟨hhigh, hlow⟩, hjoin,
        hrest]

def quadValue (a b c d : UInt8) : Nat :=
  match order with
  | .big => pairValue .big a b * 0x10000 + pairValue .big c d
  | .little => pairValue .little c d * 0x10000 + pairValue .little a b

-- by unfolding here and nowhere else: the equations that Lean derives for `readUtf32` check slowly
theorem readUtf32_cons (read : Text) (a b c d : UInt8) (rest : Bytes) :
    readUtf32 order read (a :: b :: c :: d :: rest) =
      match point? 0 (quadValue order a b c d) with
      | some p => readUtf32 order (p :: read) rest
      | none => none :=
  rfl

theorem readUtf32_quad (read : Text) {p : CodePoint} {a b c d : UInt8}
    (h : quadValue order a b c d = p.val) (rest : Bytes) :
    readUtf32 order read (a :: b :: c :: d :: rest) = readUtf32 order (p :: read) rest := by
  rw [readUtf32_cons, h, point?_val (Nat.zero_le _)]

theorem readUtf32_point (read : Text) (p : CodePoint) (rest : Bytes) :
    readUtf32 order read (utf32Point order p ++ rest) = readUtf32 order (p :: read) rest := by
  have hlt := p.isLt
  obtain ⟨a, b, hhigh, hhighValue⟩ := pairOf_eq order (n := p.val / 0x10000) (by omega)
  obtain ⟨c, d, hlow, hlowValue⟩ := pairOf_eq order (n := p.val % 0x10000) (by omega)
  have hval : p.val / 0x10000 * 0x10000 + p.val % 0x10000 = p.val := by omega
  cases order with
  | big =>
    rw [utf32Point, hhigh, hlow]
    exact readUtf32_quad .big read (by rw [quadValue, hhighValue, hlowValue, hval]) rest
  | little =>
    rw [utf32Point, hhigh, hlow]
    exact readUtf32_quad .little read (by rw [quadValue, hhighValue, hlowValue, hval]) rest

theorem readUtf32_encode (t : Text) : ∀ read : Text,
    readUtf32 order read ((utf32 order).encode t) = some (read.reverse ++ t) := by
  induction t with
  | nil => intro read; exact congrArg some (List.append_nil read.reverse).symm
  | cons c t ih =>
    intro read
    rw [encode, List.flatMap_cons, readUtf32_point]
    simpa [encode] using ih (c :: read)

end

/-- **Every encoding is read back**, where no code point is a surrogate. -/
theorem decode_encode (encoding : Encoding) {t : Text} (h : t.hasSurrogate = false) :
    encoding.decode (encoding.encode t) = some t := by
  cases encoding with
  | utf8 => exact decode_encode_utf8 t
  | utf16 order =>
    rw [decode, readPairs_encode, Option.map_some, List.reverse_nil, List.nil_append,
      joinHalves_pairPoints h]
  | utf32 order => rw [decode, readUtf32_encode, List.reverse_nil, List.nil_append]

/-! ## Telling encodings apart -/

/-- The bytes of a text, with the byte order mark in front if it is marked. -/
def send (encoding : Encoding) (isMarked : Bool) (t : Text) : Bytes :=
  if isMarked then encoding.mark ++ encoding.encode t else encoding.encode t

def plainBytes (encoding : Encoding) (a : UInt8) : Bytes :=
  match encoding with
  | utf8 => [a]
  | utf16 .big => [0, a]
  | utf16 .little => [a, 0]
  | utf32 .big => [0, 0, 0, a]
  | utf32 .little => [a, 0, 0, 0]

theorem encode_cons_plain (encoding : Encoding) {c : CodePoint} (h : isPlainAscii c = true) (rest : Text) :
    encoding.encode (c :: rest) = encoding.plainBytes (UInt8.ofNat c.val) ++ encoding.encode rest := by
  simp only [isPlainAscii, Bool.and_eq_true, decide_eq_true_eq] at h
  have hhigh : c.val / 0x100 = 0 := by omega
  have hlow : c.val % 0x100 = c.val := by omega
  have hbmp : c.val < 0x10000 := by omega
  have hupper : c.val / 0x10000 = 0 := by omega
  have hlower : c.val % 0x10000 = c.val := by omega
  cases encoding with
  | utf8 => simp [encode, utf8Point, plainBytes, h.2]
  | utf16 order =>
    cases order <;> simp [encode, utf16Point, pairOf, plainBytes, hbmp, hhigh, hlow]
  | utf32 order =>
    cases order <;> simp [encode, utf32Point, pairOf, plainBytes, hupper, hlower, hhigh, hlow]

theorem mark_utf8 : utf8.mark = [0xEF, 0xBB, 0xBF] := by decide

theorem mark_utf16_big : (utf16 .big).mark = [0xFE, 0xFF] := by decide

theorem mark_utf16_little : (utf16 .little).mark = [0xFF, 0xFE] := by decide

theorem mark_utf32_big : (utf32 .big).mark = [0, 0, 0xFE, 0xFF] := by decide

theorem mark_utf32_little : (utf32 .little).mark = [0xFF, 0xFE, 0, 0] := by decide

/-- Whether a byte is that of an ASCII character other than U+0000. -/
structure IsPlainByte (a : UInt8) : Prop where
  pos : a ≠ 0
  lt : a.toNat < 0x80

theorem isPlainByte_ofNat {c : CodePoint} (h : isPlainAscii c = true) : IsPlainByte (UInt8.ofNat c.val) := by
  obtain ⟨b, hb, hpos, hlt⟩ := utf8Point_ascii h
  simp only [isPlainAscii, Bool.and_eq_true, decide_eq_true_eq] at h
  obtain rfl : UInt8.ofNat c.val = b := by simpa [utf8Point, h.2] using hb
  exact ⟨hpos, hlt⟩

/-- No byte of a mark other than 0 is such a byte. -/
theorem IsPlainByte.ne {a m : UInt8} (h : IsPlainByte a) (hm : 0x80 ≤ m.toNat) : (m == a) = false := by
  rw [beq_eq_false_iff_ne]
  rintro rfl
  have := h.lt
  omega

section
variable (encoding : Encoding) {a b : UInt8} (rest : Bytes)

theorem detect_mark (ha : IsPlainByte a) :
    detect (encoding.mark ++ (encoding.plainBytes a ++ rest)) = (encoding, encoding.plainBytes a ++ rest) := by
  -- only the mark of UTF-32 in little order begins with another, and what goes on after that is no zero
  have hzero : (0 == a) = false := beq_eq_false_iff_ne.2 ha.pos.symm
  rcases encoding with _ | (_ | _) | (_ | _) <;>
    simp [detect, marked, mark_utf8, mark_utf16_big, mark_utf16_little, mark_utf32_big,
      mark_utf32_little, plainBytes, List.isPrefixOf, hzero]

theorem detect_plain (ha : IsPlainByte a) (hb : IsPlainByte b) :
    detect (encoding.plainBytes a ++ (encoding.plainBytes b ++ rest)) =
      (encoding, encoding.plainBytes a ++ (encoding.plainBytes b ++ rest)) := by
  have hef := ha.ne (m := 0xEF) (by decide)
  have hfe := ha.ne (m := 0xFE) (by decide)
  have hff := ha.ne (m := 0xFF) (by decide)
  rcases encoding with _ | (_ | _) | (_ | _)
  · exact detect_ascii ⟨ha.pos, ha.lt⟩ hb.pos rest
  all_goals
    simp [detect, marked, mark_utf8, mark_utf16_big, mark_utf16_little, mark_utf32_big,
      mark_utf32_little, plainBytes, List.isPrefixOf, hef, hfe, hff, ofZeros, ha.pos, hb.pos]

end

/-- **Bytes tell their encoding** where the text begins with two characters of ASCII. -/
theorem detect_send (encoding : Encoding) (isMarked : Bool) {c d : CodePoint}
    (hc : isPlainAscii c = true) (hd : isPlainAscii d = true) (rest : Text) :
    detect (encoding.send isMarked (c :: d :: rest)) = (encoding, encoding.encode (c :: d :: rest)) := by
  rw [send, encode_cons_plain encoding hc, encode_cons_plain encoding hd]
  cases isMarked with
  | true => exact detect_mark encoding _ (isPlainByte_ofNat hc)
  | false => exact detect_plain encoding _ (isPlainByte_ofNat hc) (isPlainByte_ofNat hd)

end Encoding

/-- A text that begins with two characters of ASCII other than U+0000, as that of an object does. -/
inductive Text.BeginsPlain : Text → Prop
  | intro (c d : CodePoint) (rest : Text) (hc : Encoding.isPlainAscii c = true)
    (hd : Encoding.isPlainAscii d = true) : BeginsPlain (c :: d :: rest)

theorem Encoding.decodeAny_send (encoding : Encoding) (isMarked : Bool) {t : Text} (h : t.BeginsPlain)
    (hfree : t.hasSurrogate = false) : decodeAny (encoding.send isMarked t) = some t := by
  obtain ⟨c, d, rest, hc, hd⟩ := h
  simp only [decodeAny, detect_send encoding isMarked hc hd, decode_encode encoding hfree]

/-! ## Requests -/

/-- A request that submits a text as JSON, in some encoding, with a mark or without. -/
structure Request.Sends (request : Request) (t : Text) : Prop where
  route : Route.of request.method request.path = .endpoint .compile
  json : request.holdsJson = true
  body : ∃ encoding isMarked, request.body = Encoding.send encoding isMarked t

namespace Request.Sends

variable {request : Request} {t : Text}

theorem holdsText (h : request.Sends t) (hplain : t.BeginsPlain) (hfree : t.hasSurrogate = false) :
    request.HoldsText t := by
  obtain ⟨encoding, isMarked, hbody⟩ := h.body
  refine ⟨h.json, ?_⟩
  rw [hbody, Encoding.decodeAny_send encoding isMarked hplain hfree]

theorem ofRequest (h : request.Sends t) (hplain : t.BeginsPlain) (hfree : t.hasSurrogate = false) :
    Submission.ofRequest request = Submission.ofText t := by
  have htext := h.holdsText hplain hfree
  apply Submission.ofRequest_of_holdsText htext
  intro hempty
  have hdecodes := htext.decodes
  rw [hempty] at hdecodes
  obtain rfl := Option.some.inj hdecodes
  cases hplain

end Request.Sends

/-! ## Answers -/

namespace Application

variable (app : Application)

/-- What becomes of a JSON text that is submitted, and the gateway afterwards. -/
def receive (t : Text) : Option Exchange × Application :=
  match Submission.ofText t with
  | .ok source => app.compile source
  | .error fault => (some (Gateway.silent (.ofBodyFault fault)), app)

theorem handle_of_sends {request : Request} {t : Text} (h : request.Sends t) (hplain : t.BeginsPlain)
    (hfree : t.hasSurrogate = false) : app.handle request = app.receive t := by
  have hsubmission := h.ofRequest hplain hfree
  rw [handle, receive, h.route, ← hsubmission]
  cases hresult : Submission.ofRequest request with
  | ok source => rfl
  | error fault => rw [Gateway.handle_of_fault _ _ h.route hresult]

end Application

/-- A request, and one that submits the same text in another encoding. -/
inductive Gateway.Arrival.Resent : Arrival → Arrival → Prop
  | same (arrival : Arrival) : Resent arrival arrival
  | text (compiler : Option Compiler) (request request' : Request) (t : Text) (hplain : t.BeginsPlain)
    (hfree : t.hasSurrogate = false) (h : request.Sends t) (h' : request'.Sends t) :
    Resent ⟨compiler, request⟩ ⟨compiler, request'⟩

namespace Application

theorem step_of_resent (app : Application) {arrival arrival' : Gateway.Arrival}
    (h : arrival.Resent arrival') : app.step arrival = app.step arrival' := by
  cases h with
  | same => rfl
  | text compiler request request' t hplain hfree h h' =>
    simp only [step, handle_of_sends _ h hplain hfree, handle_of_sends _ h' hplain hfree]

theorem serve_of_resent {arrivals arrivals' : List Gateway.Arrival}
    (h : List.Forall₂ Gateway.Arrival.Resent arrivals arrivals') (app : Application) :
    app.serve arrivals = app.serve arrivals' := by
  induction h generalizing app with
  | nil => rfl
  | cons harrival _ ih => rw [serve, serve, step_of_resent app harrival, ih]

end Application

/-- **The answer does not depend on the encoding.** A text of characters that begins as an object does is
answered alike in whichever encoding it is sent, whether it is JSON or not: the gateway reads the text,
and the source in it is compiled as it stands there. So are all requests of a run in which some submit
their texts in other encodings. -/
theorem answers_in_every_encoding (app : Application) :
    (∀ (t : Text) (request : Request), t.BeginsPlain → t.hasSurrogate = false → request.Sends t →
      app.handle request = app.receive t ∧
      ∀ members source, Json.parse t = .ok (.object members) →
        Json.lookup "source" members = some (.text source) →
        app.handle request = app.compile (some source)) ∧
    ∀ arrivals arrivals', List.Forall₂ Gateway.Arrival.Resent arrivals arrivals' →
      app.serve arrivals = app.serve arrivals' := by
  refine ⟨?_, fun _ _ h => Application.serve_of_resent h app⟩
  intro t request hplain hfree hsends
  have hhandle := app.handle_of_sends hsends hplain hfree
  refine ⟨hhandle, ?_⟩
  intro members source hparse hsource
  have htext : Submission.ofText t = .ok (some source) :=
    Submission.ofText_eq_some.2 ⟨members, hparse, hsource⟩
  rw [hhandle, Application.receive, htext]

/-- The request that submits a text in an encoding and has nothing else in it. -/
def Request.sending (encoding : Encoding) (isMarked : Bool) (t : Text) : Request :=
  ⟨"POST", "/compile", [], [("content-type", "application/json")], encoding.send isMarked t⟩

theorem Request.sends_sending (encoding : Encoding) (isMarked : Bool) (t : Text) :
    (sending encoding isMarked t).Sends t := by
  have htype : (sending encoding isMarked t).header? "content-type" = some "application/json" := by
    rw [header?, sending]
    rfl
  refine ⟨rfl, ?_, encoding, isMarked, rfl⟩
  rw [holdsJson, htype]
  decide

/-- An object whose source is a letter with an accent and an emoji. -/
def accentedObject : Text := "\x7b\"source\":\"é😀\"\x7d"

/-- It is answered alike in UTF-8, in UTF-16 without a mark and in UTF-32 with one, and its source is
compiled. -/
theorem answers_accented_object :
    let app : Application := ⟨narrowSettings, narrowSettings.service, none,
      Script.compiler ⟨"/usr/bin/solc", none, "", none⟩⟩
    let arrival (encoding : Encoding) (isMarked : Bool) : Gateway.Arrival :=
      ⟨none, Request.sending encoding isMarked accentedObject⟩
    app.serve [arrival .utf8 false, arrival .utf8 false] =
        app.serve [arrival (.utf16 .little) false, arrival (.utf32 .big) true] ∧
      app.handle (Request.sending (.utf16 .big) false accentedObject) =
        app.compile (some (Text.ofString "é😀")) := by
  intro app arrival
  have hplain : accentedObject.BeginsPlain := .intro _ _ _ (by decide) (by decide)
  have hfree : accentedObject.hasSurrogate = false := Text.hasSurrogate_ofString _
  have hresent (encoding : Encoding) (isMarked : Bool) :
      (arrival .utf8 false).Resent (arrival encoding isMarked) :=
    .text none _ _ accentedObject hplain hfree (Request.sends_sending _ _ _)
      (Request.sends_sending _ _ _)
  have hwrite : accentedObject = Json.write .error (Submission.record (Text.ofString "é😀")) := by
    decide +kernel
  have hparse : Json.parse accentedObject = .ok (Submission.record (Text.ofString "é😀")) := by
    rw [hwrite]
    exact Json.parse_write_error rfl rfl (by decide)
  obtain ⟨hhandle, hserve⟩ := answers_in_every_encoding app
  refine ⟨hserve _ _ (.cons (hresent _ _) (.cons (hresent _ _) .nil)), ?_⟩
  exact (hhandle accentedObject _ hplain hfree (Request.sends_sending _ _ _)).2 _ _ hparse rfl

end SolidityGateway
