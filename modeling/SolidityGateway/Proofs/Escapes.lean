import SolidityGateway.Json.Parser
import SolidityGateway.Json.Style
import SolidityGateway.Text.Encoding
import SolidityGateway.Proofs.Digits

/-!
Texts between quotes, written and read back. A code point is written as some escapes or as itself and
is read as its units (`ReadsAs`); the units are then joined. Where everything outside ASCII is escaped,
two halves of a pair that stand side by side come back as one code point (`readText_ascii`); where only
what has to be is escaped, every text comes back as it was (`readText_plain`).
-/

namespace SolidityGateway

/-- A code point above U+FFFF has two halves, and is what they are joined to. -/
theorem CodePoint.join_halves {c : CodePoint} (h : 0x10000 ≤ c.val) :
    (ofNat (0xD800 + (c.val - 0x10000) / 0x400)).isHighSurrogate = true ∧
      (ofNat (0xDC00 + (c.val - 0x10000) % 0x400)).isLowSurrogate = true ∧
      (ofNat (0xD800 + (c.val - 0x10000) / 0x400)).join (ofNat (0xDC00 + (c.val - 0x10000) % 0x400)) =
        c := by
  have hlt := c.isLt
  have hhigh : (ofNat (0xD800 + (c.val - 0x10000) / 0x400)).val = 0xD800 + (c.val - 0x10000) / 0x400 :=
    val_ofNat (by omega)
  have hlow : (ofNat (0xDC00 + (c.val - 0x10000) % 0x400)).val = 0xDC00 + (c.val - 0x10000) % 0x400 :=
    val_ofNat (by omega)
  refine ⟨?_, ?_, ?_⟩
  · simp only [isHighSurrogate, hhigh, Bool.and_eq_true, decide_eq_true_eq]
    omega
  · simp only [isLowSurrogate, hlow, Bool.and_eq_true, decide_eq_true_eq]
    omega
  · apply ext
    rw [join, hhigh, hlow, val_ofNat (by omega)]
    omega

namespace Text

/-- Whether the two halves of a pair stand side by side. -/
def holdsPair : Text → Bool
  | c :: d :: rest => (c.isHighSurrogate && d.isLowSurrogate) || holdsPair (d :: rest)
  | _ => false

theorem holdsPair_of_hasSurrogate : ∀ t : Text, t.hasSurrogate = false → t.holdsPair = false
  | [], _ => rfl
  | [_], _ => rfl
  | c :: d :: rest, h => by
    simp only [hasSurrogate, List.any_cons, Bool.or_eq_false_iff] at h
    have hc : c.isHighSurrogate = false := by
      have := h.1
      simp only [CodePoint.isSurrogate, CodePoint.isHighSurrogate, Bool.and_eq_false_iff,
        decide_eq_false_iff_not] at this ⊢
      omega
    simp only [holdsPair, hc, Bool.false_and, Bool.false_or]
    exact holdsPair_of_hasSurrogate (d :: rest) (by simpa [hasSurrogate] using h.2)

theorem replaceSurrogates_of_hasSurrogate {t : Text} (h : t.hasSurrogate = false) :
    t.replaceSurrogates = t := by
  induction t with
  | nil => rfl
  | cons c rest ih =>
    simp only [hasSurrogate, List.any_cons, Bool.or_eq_false_iff] at h
    have hrest := ih h.2
    simp only [replaceSurrogates, List.flatMap_cons] at hrest ⊢
    rw [hrest]
    simp [CodePoint.replaced, h.1]

end Text

namespace Encoding

theorem length_joinHalves_le (t : Text) : (joinHalves t).length ≤ t.length := by
  fun_induction joinHalves t with
  | case1 => simp
  | case2 c => simp
  | case3 c d rest h ih => simp only [List.length_cons]; omega
  | case4 c d rest h ih => simp only [List.length_cons] at ih ⊢; omega

/-- Joining keeps a text just if there is nothing to join. -/
theorem joinHalves_eq_self_iff (t : Text) : joinHalves t = t ↔ t.holdsPair = false := by
  fun_induction joinHalves t with
  | case1 => simp [Text.holdsPair]
  | case2 c => simp [Text.holdsPair]
  | case3 c d rest h ih =>
    have hlen := length_joinHalves_le rest
    constructor
    · intro heq
      have := congrArg List.length heq
      simp only [List.length_cons] at this
      omega
    · intro hp
      simp [Text.holdsPair, h.1, h.2] at hp
  | case4 c d rest h ih =>
    have hp : (c.isHighSurrogate && d.isLowSurrogate) = false := by
      simpa [Bool.and_eq_false_iff] using h
    simp only [Text.holdsPair, hp, Bool.false_or, List.cons.injEq, true_and]
    exact ih

end Encoding

namespace Json

/-! ## Escapes -/

theorem ofHex?_digits {a b c d : Nat} (ha : a < 16) (hb : b < 16) (hc : c < 16) (hd : d < 16) :
    ofHex? (Text.digit a) (Text.digit b) (Text.digit c) (Text.digit d) =
      some (((a * 16 + b) * 16 + c) * 16 + d) := by
  simp [ofHex?, Text.hexValue?_digit, ha, hb, hc, hd]

theorem textUnits_unitEscape {n : Nat} (h : n < 0x10000) (opening : Text) (read : List TextUnit)
    (next : CodePoint) (rest : Text) :
    textUnits opening read (unitEscape n ++ next :: rest) =
      textUnits opening (⟨CodePoint.ofNat n, true⟩ :: read) (next :: rest) := by
  have hex : ((n / 16 / 16 / 16 % 16 * 16 + n / 16 / 16 % 16) * 16 + n / 16 % 16) * 16 + n % 16 = n := by
    omega
  have hdigits := ofHex?_digits (a := n / 16 / 16 / 16 % 16) (b := n / 16 / 16 % 16)
    (c := n / 16 % 16) (d := n % 16) (by omega) (by omega) (by omega) (by omega)
  rw [hex] at hdigits
  exact textUnits_number hdigits opening read next rest

theorem shortEscapes_read : ∀ e ∈ shortEscapes, e.1 ≠ 'u' ∧ ofEscapeLetter? e.1 = some e.2 := by
  decide

theorem ofEscapeLetter?_of_escapeLetter? {c letter : CodePoint} (h : escapeLetter? c = some letter) :
    letter ≠ 'u' ∧ ofEscapeLetter? letter = some c := by
  obtain ⟨e, he, rfl⟩ := Option.map_eq_some_iff.1 h
  have hc : e.2 = c := by simpa using List.find?_some he
  exact hc ▸ shortEscapes_read e (List.mem_of_find?_eq_some he)

theorem ne_of_escapeLetter?_none {c : CodePoint} (h : escapeLetter? c = none) :
    c ≠ '"' ∧ c ≠ '\\' := by
  have hnone := List.find?_eq_none.1 (Option.map_eq_none_iff.1 h)
  have hq := hnone (CodePoint.ofChar '"', CodePoint.ofChar '"') (by decide)
  have hb := hnone (CodePoint.ofChar '\\', CodePoint.ofChar '\\') (by decide)
  simp only [decide_eq_true_eq] at hq hb
  constructor
  · intro h
    exact hq h.symm
  · intro h
    exact hb h.symm

/-! ## Code points -/

/-- A code point so written is read as these units. -/
def ReadsAs (point : CodePoint → Text) (units : CodePoint → List TextUnit) : Prop :=
  ∀ (c : CodePoint) (opening : Text) (read : List TextUnit) (next : CodePoint) (rest : Text),
    textUnits opening read (point c ++ next :: rest) =
      textUnits opening ((units c).reverse ++ read) (next :: rest)

theorem ReadsAs.textUnits_eq {point : CodePoint → Text} {units : CodePoint → List TextUnit}
    (h : ReadsAs point units) (opening rest : Text) : ∀ (t : Text) (read : List TextUnit),
    textUnits opening read (t.flatMap point ++ CodePoint.ofChar '"' :: rest) =
      .ok (read.reverse ++ t.flatMap units, rest)
  | [], read => by simp [textUnits_quote]
  | c :: t, read => by
    -- An escape has to be followed by something: here it is the next code point or the quote.
    obtain ⟨next, after, hnext⟩ : ∃ next after,
        t.flatMap point ++ CodePoint.ofChar '"' :: rest = next :: after :=
      List.exists_cons_of_ne_nil (by simp)
    have ih := h.textUnits_eq opening rest t ((units c).reverse ++ read)
    rw [List.flatMap_cons, List.append_assoc, hnext, h, ← hnext, ih]
    simp

theorem ReadsAs.readText_eq {point : CodePoint → Text} {units : CodePoint → List TextUnit}
    (h : ReadsAs point units) (opening t rest : Text) :
    readText opening (t.flatMap point ++ CodePoint.ofChar '"' :: rest) =
      .ok (joinPairs (t.flatMap units), rest) := by
  simp only [readText, h.textUnits_eq opening rest t []]
  rfl

/-- The halves of the pair for a code point above U+FFFF, as they are read. -/
def halfUnits (c : CodePoint) : List TextUnit :=
  [⟨CodePoint.ofNat (0xD800 + (c.val - 0x10000) / 0x400), true⟩,
    ⟨CodePoint.ofNat (0xDC00 + (c.val - 0x10000) % 0x400), true⟩]

/-- What a code point is read as where all but U+0020 to U+007E is escaped. -/
def asciiUnits (c : CodePoint) : List TextUnit :=
  if (escapeLetter? c).isSome ∨ 0x20 ≤ c.val ∧ c.val ≤ 0x7E then [⟨c, false⟩]
  else if c.val < 0x10000 then [⟨c, true⟩]
  else halfUnits c

/-- What a code point is read as where only what has to be is escaped. -/
def plainUnits (c : CodePoint) : List TextUnit :=
  [⟨c, (escapeLetter? c).isNone && decide (c.val < 0x20)⟩]

theorem asciiPoint_readsAs : ReadsAs asciiPoint asciiUnits := by
  intro c opening read next rest
  have hlt := c.isLt
  cases hc : escapeLetter? c with
  | some letter =>
    obtain ⟨hu, hletter⟩ := ofEscapeLetter?_of_escapeLetter? hc
    simpa [asciiPoint, asciiUnits, hc] using textUnits_letter hu hletter opening read (next :: rest)
  | none =>
    obtain ⟨hq, hb⟩ := ne_of_escapeLetter?_none hc
    by_cases hprint : 0x20 ≤ c.val ∧ c.val ≤ 0x7E
    · simpa [asciiPoint, asciiUnits, hc, hprint] using
        textUnits_plain hq hb hprint.1 opening read (next :: rest)
    · by_cases hbmp : c.val < 0x10000
      · simpa [asciiPoint, asciiUnits, hc, hprint, numericEscape, hbmp] using
          textUnits_unitEscape hbmp opening read next rest
      · have hlow : unitEscape (0xDC00 + (c.val - 0x10000) % 0x400) ++ next :: rest =
            CodePoint.ofChar '\\' :: (CodePoint.ofChar 'u' ::
              (Text.hex 4 (0xDC00 + (c.val - 0x10000) % 0x400) ++ next :: rest)) := rfl
        simp only [asciiPoint, asciiUnits, hc, hprint, numericEscape, hbmp, halfUnits, if_false,
          Option.isSome_none, Bool.false_eq_true, or_self, List.append_assoc]
        rw [hlow, textUnits_unitEscape (by omega), ← hlow, textUnits_unitEscape (by omega)]
        rfl

theorem plainPoint_readsAs : ReadsAs plainPoint plainUnits := by
  intro c opening read next rest
  cases hc : escapeLetter? c with
  | some letter =>
    obtain ⟨hu, hletter⟩ := ofEscapeLetter?_of_escapeLetter? hc
    simpa [plainPoint, plainUnits, hc] using textUnits_letter hu hletter opening read (next :: rest)
  | none =>
    obtain ⟨hq, hb⟩ := ne_of_escapeLetter?_none hc
    by_cases hcontrol : c.val < 0x20
    · have hbmp : c.val < 0x10000 := by omega
      simpa [plainPoint, plainUnits, hc, hcontrol, numericEscape, hbmp] using
        textUnits_unitEscape hbmp opening read next rest
    · simpa [plainPoint, plainUnits, hc, hcontrol] using
        textUnits_plain hq hb (by omega) opening read (next :: rest)

/-! ## Joining -/

theorem joinPairs_cons {u : TextUnit} {us : List TextUnit}
    (h : u.escaped = true → u.point.isHighSurrogate = true →
      ∀ v, us.head? = some v → v.escaped = true → v.point.isLowSurrogate = false) :
    joinPairs (u :: us) = u.point :: joinPairs us := by
  cases us with
  | nil => rfl
  | cons v us =>
    rw [joinPairs, if_neg]
    intro h
    obtain ⟨hu, hv, hhigh, hlow⟩ := h
    rw [h hu hhigh v rfl hv] at hlow
    cases hlow

theorem joinPairs_halfUnits {c : CodePoint} (h : 0x10000 ≤ c.val) (us : List TextUnit) :
    joinPairs (halfUnits c ++ us) = c :: joinPairs us := by
  obtain ⟨hhigh, hlow, hjoin⟩ := CodePoint.join_halves h
  rw [halfUnits]
  -- the halves are names from here on: the elaborator would compute with their numbers
  generalize CodePoint.ofNat (0xD800 + (c.val - 0x10000) / 0x400) = high at hhigh hjoin ⊢
  generalize CodePoint.ofNat (0xDC00 + (c.val - 0x10000) % 0x400) = low at hlow hjoin ⊢
  rw [List.cons_append, List.cons_append, List.nil_append, joinPairs, if_pos ⟨rfl, rfl, hhigh, hlow⟩,
    hjoin]

/-- Only the first unit of a low half is one. -/
theorem asciiUnits_head (c : CodePoint) : ∃ u us, asciiUnits c = u :: us ∧
    (u.escaped = true → u.point.isLowSurrogate = true → c.isLowSurrogate = true) := by
  have hlt := c.isLt
  unfold asciiUnits
  split
  · refine ⟨_, _, rfl, ?_⟩
    intro hesc
    cases hesc
  · split
    · exact ⟨_, _, rfl, fun _ h => h⟩
    · refine ⟨_, _, rfl, ?_⟩
      intro _ h
      have hhigh : (CodePoint.ofNat (0xD800 + (c.val - 0x10000) / 0x400)).val =
          0xD800 + (c.val - 0x10000) / 0x400 := CodePoint.val_ofNat (by omega)
      simp only [CodePoint.isLowSurrogate, hhigh, Bool.and_eq_true, decide_eq_true_eq] at h
      omega

theorem joinPairs_asciiUnits {c : CodePoint} {us : List TextUnit}
    (h : c.isHighSurrogate = true → ∀ v, us.head? = some v → v.escaped = true →
      v.point.isLowSurrogate = false) :
    joinPairs (asciiUnits c ++ us) = c :: joinPairs us := by
  unfold asciiUnits
  split
  · apply joinPairs_cons
    intro hesc
    cases hesc
  · split
    · apply joinPairs_cons
      intro _
      exact h
    · exact joinPairs_halfUnits (by omega) us

/-- The units of a text come together as the text with its pairs joined. -/
theorem joinPairs_flatMap_asciiUnits (t : Text) :
    joinPairs (t.flatMap asciiUnits) = Encoding.joinHalves t := by
  fun_induction Encoding.joinHalves t with
  | case1 => rfl
  | case2 c =>
    have h := @joinPairs_asciiUnits c [] (by simp)
    simpa [joinPairs] using h
  | case3 c d rest h ih =>
    -- both halves are escaped, and so their units are joined
    have unit {e : CodePoint} (he : 0xD800 ≤ e.val ∧ e.val < 0xE000) : asciiUnits e = [⟨e, true⟩] := by
      have hletter : escapeLetter? e = none := by
        rw [escapeLetter?, Option.map_eq_none_iff, List.find?_eq_none]
        intro s hs heq
        have hsmall : ∀ s ∈ shortEscapes, s.2.val < 0xD800 := by decide
        have := hsmall s hs
        rw [show s.2 = e by simpa using heq] at this
        omega
      rw [asciiUnits, if_neg (by simp [hletter]; omega), if_pos (by omega)]
    have hc : 0xD800 ≤ c.val ∧ c.val < 0xDC00 := by
      simpa [CodePoint.isHighSurrogate] using h.1
    have hd : 0xDC00 ≤ d.val ∧ d.val < 0xE000 := by
      simpa [CodePoint.isLowSurrogate] using h.2
    rw [List.flatMap_cons, List.flatMap_cons, unit (by omega), unit (by omega)]
    simp only [List.cons_append, List.nil_append]
    rw [joinPairs, if_pos ⟨rfl, rfl, h.1, h.2⟩, ih]
  | case4 c d rest h ih =>
    rw [List.flatMap_cons, joinPairs_asciiUnits, ih]
    -- what follows a high half is an escaped low half only if the next code point is one
    intro hhigh v hv hesc
    obtain ⟨u, us, hu, hlow⟩ := asciiUnits_head d
    rw [List.flatMap_cons, hu] at hv
    obtain rfl : u = v := by simpa using hv
    by_contra hne
    exact h ⟨hhigh, hlow hesc (by simpa using hne)⟩

theorem joinPairs_flatMap_plainUnits : ∀ t : Text, joinPairs (t.flatMap plainUnits) = t
  | [] => rfl
  | c :: t => by
    have ih := joinPairs_flatMap_plainUnits t
    rw [List.flatMap_cons, plainUnits, List.singleton_append, joinPairs_cons, ih]
    -- only control characters are escaped by number, and none of them is a half
    intro hesc hhigh
    simp only [Bool.and_eq_true, decide_eq_true_eq, CodePoint.isHighSurrogate] at hesc hhigh
    omega

/-! ## Texts -/

/-- **ASCII texts come back with their pairs joined.** -/
theorem readText_ascii (opening t rest : Text) :
    readText opening (t.flatMap asciiPoint ++ CodePoint.ofChar '"' :: rest) =
      .ok (Encoding.joinHalves t, rest) := by
  rw [asciiPoint_readsAs.readText_eq, joinPairs_flatMap_asciiUnits]

/-- **Texts with the least escapes come back as they were.** -/
theorem readText_plain (opening t rest : Text) :
    readText opening (t.flatMap plainPoint ++ CodePoint.ofChar '"' :: rest) = .ok (t, rest) := by
  rw [plainPoint_readsAs.readText_eq, joinPairs_flatMap_plainUnits]

theorem readText_replaced (opening t rest : Text) :
    readText opening (t.flatMap replacedPoint ++ CodePoint.ofChar '"' :: rest) =
      .ok (t.replaceSurrogates, rest) := by
  have hpoint : t.flatMap replacedPoint = t.replaceSurrogates.flatMap plainPoint := by
    rw [Text.replaceSurrogates, List.flatMap_assoc]
    rfl
  rw [hpoint, readText_plain]

end Json

end SolidityGateway
