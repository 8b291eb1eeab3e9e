import SolidityGateway.Number.Layout
import SolidityGateway.Proofs.Numerals
import SolidityGateway.Proofs.ShortestDigits

/-!
Written floating-point numbers are read back. A `Numeral` is the parts of a number with a fraction or
an exponent; a reader takes them all and rounds their value (`readNumber_text`). Whatever the
layout, the text of a decimal is such a numeral with the decimal's value (`writeDecimal_denotes`), so the
text of a number is read as what the shortest decimal is rounded to, which is the number.
-/

namespace SolidityGateway.Json

/-! ## Numerals -/

/-- The parts of a number that is no integer. -/
structure Numeral where
  whole : Text
  fraction : Text
  exponent : Option (Bool × Text)

namespace Numeral

def power (n : Numeral) : Int :=
  match n.exponent with
  | none => 0
  | some (negative, digits) => if negative then -(Text.toNat digits : Int) else Text.toNat digits

def value (n : Numeral) : ℚ :=
  Text.toNat (n.whole ++ n.fraction) * 10 ^ (n.power - n.fraction.length)

def fractionText (digits : Text) : Text := if digits = [] then [] else CodePoint.ofChar '.' :: digits

def exponentText : Option (Bool × Text) → Text
  | none => []
  | some (negative, digits) => CodePoint.ofChar 'e' :: exponentSign negative :: digits

def text (n : Numeral) : Text :=
  n.whole ++ (fractionText n.fraction ++ exponentText n.exponent)

/-- What the parts have to be, so that each is taken as a whole. -/
structure WellFormed (n : Numeral) : Prop where
  whole : isWhole n.whole = true
  fraction : ∀ c ∈ n.fraction, c.isAsciiDigit = true
  exponent : ∀ e ∈ n.exponent, e.2 ≠ [] ∧ ∀ c ∈ e.2, c.isAsciiDigit = true
  noInteger : n.fraction ≠ [] ∨ n.exponent ≠ none

variable {n : Numeral} {rest : Text}

theorem exponent?_text (h : n.WellFormed) (hrest : endsNumber rest = true) :
    exponent? (exponentText n.exponent ++ rest) = n.exponent.map fun _ => (n.power, rest) := by
  have hexp := h.exponent
  unfold power
  cases he : n.exponent with
  | none => exact exponent?_none hrest
  | some e =>
    obtain ⟨hne, hdigits⟩ := hexp e (by rw [he]; rfl)
    exact exponent?_append e.1 hdigits hne (endsDigits_of_endsNumber hrest)

theorem endsDigits_exponentText (exponent : Option (Bool × Text)) (hrest : endsNumber rest = true) :
    endsDigits (exponentText exponent ++ rest) = true := by
  cases exponent with
  | none => exact endsDigits_of_endsNumber hrest
  | some e => rfl

theorem fraction?_text (h : n.WellFormed) (hrest : endsNumber rest = true) :
    fraction? (fractionText n.fraction ++ (exponentText n.exponent ++ rest)) =
      if n.fraction = [] then none else some (n.fraction, exponentText n.exponent ++ rest) := by
  by_cases hf : n.fraction = []
  · have he := h.noInteger.resolve_left (not_not.2 hf)
    obtain ⟨e, he⟩ := Option.ne_none_iff_exists'.1 he
    simp only [hf, fractionText, if_true, List.nil_append, he, exponentText, List.cons_append]
    exact fraction?_of_ne (by decide) _
  · simp only [hf, fractionText, if_false, List.cons_append]
    exact fraction?_append h.fraction hf (endsDigits_exponentText _ hrest)

theorem readNumber_text (h : n.WellFormed) (hrest : endsNumber rest = true) (start : Text)
    (negative : Bool) : readNumber start negative (n.text ++ rest) =
      .ok (float (Binary64.ofDecimal negative (Text.toNat (n.whole ++ n.fraction))
        (n.power - n.fraction.length)), rest) := by
  have hends : endsDigits (fractionText n.fraction ++
      (exponentText n.exponent ++ rest)) = true := by
    unfold fractionText
    split
    · exact endsDigits_exponentText _ hrest
    · rfl
  have hwhole := wholePart?_append h.whole hends
  have hfraction := fraction?_text h hrest
  have hexponent := exponent?_text h hrest
  simp only [readNumber, text, List.append_assoc, hwhole, hfraction]
  by_cases hf : n.fraction = []
  · obtain ⟨e, he⟩ := Option.ne_none_iff_exists'.1 (h.noInteger.resolve_left (not_not.2 hf))
    rw [he, Option.map_some] at hexponent
    simp only [hf, fractionText, if_true, Option.elim_none, List.nil_append, he, hexponent,
      Option.getD_some]
  · have hpower : (n.exponent.map fun _ => (n.power, rest)).getD (0, exponentText n.exponent ++ rest) =
        (n.power, rest) := by
      unfold power
      cases n.exponent <;> rfl
    simp only [hf, if_false, Option.elim_some, hexponent, hpower]

theorem text_cons (h : n.WellFormed) : ∃ c more, n.text = c :: more ∧ c.isAsciiDigit = true := by
  obtain ⟨c, more, hwhole, hc⟩ := isWhole_cons h.whole
  exact ⟨c, _, by rw [text, hwhole, List.cons_append], hc⟩

end Numeral

end SolidityGateway.Json

namespace SolidityGateway.Layout

open Json

/-! ## Decimals -/

theorem isAsciiDigit_of_mem_zeros {count : Nat} : ∀ c ∈ zeros count, c.isAsciiDigit = true := by
  intro c hc
  rw [List.eq_of_mem_replicate hc]
  decide

@[simp] theorem length_zeros (count : Nat) : (zeros count).length = count := List.length_replicate

theorem toNat_zeros (count : Nat) : Text.toNat (zeros count) = 0 := by
  induction count with
  | zero => rfl
  | succ count ih =>
    have hsplit : zeros (count + 1) = zeros count ++ [CodePoint.ofChar '0'] := List.replicate_succ'
    rw [hsplit, Text.toNat_concat, ih]
    rfl

/-- The text is a numeral of the decimal's value. -/
def Denotes (t : Text) (d : Binary64.Decimal) : Prop :=
  ∃ n : Numeral, n.WellFormed ∧ t = n.text ∧ n.value = d.value

/-- The digits of a decimal, with `k` zeros behind them, have its value at the exponent less `k`. -/
theorem value_eq {n : Numeral} {d : Binary64.Decimal} (k : Nat)
    (hdigits : Text.toNat (n.whole ++ n.fraction) = d.digits * 10 ^ k)
    (hpower : n.power - n.fraction.length = d.exponent - k) : n.value = d.value := by
  rw [Numeral.value, hdigits, hpower, zpow_sub₀ (by norm_num), zpow_natCast, Binary64.Decimal.value]
  push_cast
  field_simp

theorem isWhole_take {digits : Text} (hall : ∀ c ∈ digits, c.isAsciiDigit = true)
    (hhead : ∃ c rest, digits = c :: rest ∧ c ≠ '0') {k : Nat} (hk : 0 < k) :
    isWhole (digits.take k) = true := by
  obtain ⟨c, rest, rfl, hc⟩ := hhead
  obtain ⟨k, rfl⟩ := Nat.exists_eq_succ_of_ne_zero hk.ne'
  rw [List.take_succ_cons, isWhole, if_neg hc, List.all_eq_true]
  rw [← List.take_succ_cons]
  intro d hd
  exact hall d (List.mem_of_mem_take hd)

section
variable {d : Binary64.Decimal} (h : 0 < d.digits)
include h

/-- With a point the digits stand behind it, before it, or on both sides. -/
theorem withPoint_denotes :
    Denotes (withPoint (Text.ofNat d.digits) (d.exponent + (Text.ofNat d.digits).length)) d := by
  have hall := Text.isAsciiDigit_of_mem_ofNat d.digits
  have hne := Text.ofNat_ne_nil d.digits
  have hvalue := Text.toNat_ofNat d.digits
  have hhead := Text.head_ofNat h
  have hlen := List.length_pos_iff.2 hne
  have hzero : Text.toNat "0" = 0 := rfl
  have hzeroDigits : ∀ c ∈ Text.ofString "0", c.isAsciiDigit = true := by decide
  -- from here on only these facts about the digits count
  unfold withPoint
  generalize Text.ofNat d.digits = digits at *
  split
  · refine ⟨⟨"0", zeros (d.exponent + digits.length).natAbs ++ digits, none⟩,
      ⟨rfl, ?_, by simp, .inl (by simp [hne])⟩, ?_, value_eq 0 ?_ ?_⟩
    · intro c hc
      exact (List.mem_append.1 hc).elim (isAsciiDigit_of_mem_zeros c) (hall c)
    · simp [Numeral.text, Numeral.fractionText, Numeral.exponentText, hne, Text.ofString]
    · simp [Text.toNat_append, toNat_zeros, hvalue, hzero]
    · simp only [Numeral.power, List.length_append, length_zeros]
      omega
  · split
    · refine ⟨⟨digits ++ zeros ((d.exponent + digits.length).natAbs - digits.length), "0", none⟩,
        ⟨?_, hzeroDigits, by simp, .inl (List.cons_ne_nil _ _)⟩, ?_,
        value_eq (d.exponent.natAbs + 1) ?_ ?_⟩
      · obtain ⟨c, rest, rfl, hc⟩ := hhead
        rw [List.cons_append, isWhole, if_neg hc, List.all_eq_true, ← List.cons_append]
        intro c hc
        exact (List.mem_append.1 hc).elim (hall c) (isAsciiDigit_of_mem_zeros c)
      · simp [Numeral.text, Numeral.fractionText, Numeral.exponentText, Text.ofString]
      · have hcount : (d.exponent + digits.length).natAbs - digits.length = d.exponent.natAbs := by omega
        have hone : (Text.ofString "0").length = 1 := rfl
        simp [Text.toNat_append, toNat_zeros, hvalue, hzero, hcount, hone, pow_succ]
      · have hone : (Text.ofString "0").length = 1 := rfl
        simp only [Numeral.power, hone]
        omega
    · refine ⟨⟨digits.take (d.exponent + digits.length).natAbs,
        digits.drop (d.exponent + digits.length).natAbs, none⟩,
        ⟨isWhole_take hall hhead (by omega), fun c hc => hall c (List.mem_of_mem_drop hc), by simp,
          .inl ?_⟩, ?_, value_eq 0 ?_ ?_⟩
      · rw [ne_eq, List.drop_eq_nil_iff]
        omega
      · have hdrop : ¬digits.drop (d.exponent + digits.length).natAbs = [] := by
          rw [List.drop_eq_nil_iff]
          omega
        simp [Numeral.text, Numeral.fractionText, Numeral.exponentText, hdrop, Text.ofString]
      · simp [hvalue]
      · simp only [Numeral.power, List.length_drop]
        omega

theorem withExponent_denotes (width : Nat) :
    Denotes
      (withExponent width (Text.ofNat d.digits) (d.exponent + (Text.ofNat d.digits).length - 1)) d := by
  have hall := Text.isAsciiDigit_of_mem_ofNat d.digits
  have hne := Text.ofNat_ne_nil d.digits
  have hvalue := Text.toNat_ofNat d.digits
  have hhead := Text.head_ofNat h
  have hlen := List.length_pos_iff.2 hne
  generalize Text.ofNat d.digits = digits at *
  obtain ⟨e, he⟩ : ∃ e, d.exponent + digits.length - 1 = e := ⟨_, rfl⟩
  rw [he]
  have hpadded : ∀ c ∈ padded width (Text.ofNat e.natAbs), c.isAsciiDigit = true := by
    intro c hc
    rcases List.mem_append.1 hc with hc | hc
    · exact isAsciiDigit_of_mem_zeros c hc
    · exact Text.isAsciiDigit_of_mem_ofNat _ c hc
  have hpaddedValue : Text.toNat (padded width (Text.ofNat e.natAbs)) = e.natAbs := by
    rw [padded, Text.toNat_append, toNat_zeros, Text.toNat_ofNat, Nat.zero_mul, Nat.zero_add]
  refine ⟨⟨digits.take 1, digits.drop 1, some (decide (e < 0), padded width (Text.ofNat e.natAbs))⟩,
    ⟨isWhole_take hall hhead one_pos, fun c hc => hall c (List.mem_of_mem_drop hc), ?_, .inr (by simp)⟩,
    ?_, value_eq 0 ?_ ?_⟩
  · intro e' he'
    obtain rfl := Option.some.inj he'
    exact ⟨List.append_ne_nil_of_right_ne_nil _ (Text.ofNat_ne_nil _), hpadded⟩
  · have hfraction : (if digits.length ≤ 1 then [] else CodePoint.ofChar '.' :: digits.drop 1) =
        Numeral.fractionText (digits.drop 1) := by
      simp only [Numeral.fractionText, List.drop_eq_nil_iff]
    have hmark : (if e < 0 then Text.ofString "e-" else Text.ofString "e+") =
        [CodePoint.ofChar 'e', exponentSign (decide (e < 0))] := by
      by_cases hneg : e < 0 <;> simp [hneg, exponentSign, Text.ofString]
    simp only [withExponent, hfraction, hmark, Numeral.text, Numeral.exponentText, List.append_assoc,
      List.cons_append, List.nil_append]
  · rw [List.take_append_drop, hvalue, pow_zero, mul_one]
  · simp only [Numeral.power, hpaddedValue, List.length_drop]
    split <;> simp only [decide_eq_true_eq] at * <;> omega

theorem writeDecimal_denotes (layout : Layout) : Denotes (layout.writeDecimal d) d := by
  simp only [writeDecimal, Int.sub_add_cancel]
  split
  · exact withPoint_denotes h
  · exact withExponent_denotes h _

end

/-! ## Numbers -/

section
variable {s : Nat} {p : Int}

/-- The text of a finite number without its sign, and that it is read as the number. -/
theorem readNumber_write (layout : Layout) (negative : Bool)
    (hc : Binary64.isCanonical (.finite negative s p) = true) :
    ∃ n : Numeral, n.WellFormed ∧
      (if s = 0 then ("0.0" : Text) else layout.writeDecimal (Binary64.shortest s p)) = n.text ∧
      ∀ start rest, endsNumber rest = true →
        readNumber start negative (n.text ++ rest) = .ok (.float (.finite negative s p), rest) := by
  obtain ⟨hs, -, -, hcanonical⟩ := Binary64.isCanonical_finite.1 hc
  rcases Nat.eq_zero_or_pos s with rfl | hpos
  · obtain rfl : p = Binary64.leastPower := hcanonical.resolve_left (by decide)
    have hn : Numeral.WellFormed ⟨"0", "0", none⟩ := ⟨by decide, by decide, by simp, .inl (by decide)⟩
    refine ⟨_, hn, rfl, ?_⟩
    intro start rest hrest
    rw [Numeral.readNumber_text hn hrest]
    rfl
  · obtain ⟨n, hn, htext, hvalue⟩ := writeDecimal_denotes (Binary64.shortest_pos (p := p) hpos hs) layout
    refine ⟨n, hn, by rw [if_neg hpos.ne', htext], ?_⟩
    intro start rest hrest
    have hround := Binary64.shortest_spec (p := p) hpos hs
    rw [← hvalue] at hround
    rw [Numeral.readNumber_text hn hrest, Binary64.ofDecimal_eq hpos hc hround]

/-- A finite number in the form of the format. -/
def isWritable (x : Binary64) : Bool := x.isFinite && x.isCanonical

theorem write_finite (layout : Layout) (negative : Bool) (s : Nat) (p : Int) :
    layout.write (.finite negative s p) = (if negative then [CodePoint.ofChar '-'] else []) ++
      if s = 0 then ("0.0" : Text) else layout.writeDecimal (Binary64.shortest s p) := by
  cases negative <;> simp only [write] <;> split <;> rfl

theorem write_head (layout : Layout) {x : Binary64} (h : isWritable x = true) :
    ∃ c more, layout.write x = c :: more ∧ (c = '-' ∨ c.isAsciiDigit = true) := by
  obtain ⟨hfinite, hc⟩ := Bool.and_eq_true_iff.1 h
  cases x with
  | finite negative s p =>
    obtain ⟨n, hn, htext, -⟩ := readNumber_write layout negative hc
    obtain ⟨c, more, hcons, hdigit⟩ := n.text_cons hn
    rw [write_finite, htext, hcons]
    cases negative
    · exact ⟨c, more, rfl, .inr hdigit⟩
    · exact ⟨_, _, rfl, .inl rfl⟩
  | infinite => cases hfinite
  | nan => cases hfinite

/-- **A written number is read back**, whatever its layout. -/
theorem readScalar_write (layout : Layout) {x : Binary64} (h : isWritable x = true) {rest : Text}
    (hrest : endsNumber rest = true) : readScalar (layout.write x ++ rest) = .ok (.float x, rest) := by
  obtain ⟨hfinite, hc⟩ := Bool.and_eq_true_iff.1 h
  cases x with
  | finite negative s p =>
    obtain ⟨n, hn, htext, hread⟩ := readNumber_write layout negative hc
    obtain ⟨c, more, hcons, hdigit⟩ := n.text_cons hn
    rw [hcons] at hread
    rw [write_finite, htext, hcons]
    cases negative
    · rw [← hread (c :: (more ++ rest)) rest hrest]
      exact readScalar_of_digit hdigit _
    · rw [← hread (CodePoint.ofChar '-' :: c :: (more ++ rest)) rest hrest]
      exact readScalar_of_minus hdigit _
  | infinite => cases hfinite
  | nan => cases hfinite

end

end SolidityGateway.Layout
