import SolidityGateway.Json.Parser
import SolidityGateway.Proofs.Digits

/-!
Numbers at the beginning of a JSON text. The reader takes the parts of a number one after the other,
each as far as it goes: `wholePart?`, `fraction?` and `exponent?` are described here by the parts that
they take off and by where they find nothing. `readScalar_ofInt` reads back a written integer.
-/

namespace SolidityGateway.Json

/-- Whether a number stops in front of a text. -/
def endsNumber : Text → Bool
  | [] => true
  | c :: _ => !c.isAsciiDigit && decide (c ≠ '.' ∧ c ≠ 'e' ∧ c ≠ 'E')

def endsDigits : Text → Bool
  | [] => true
  | c :: _ => !c.isAsciiDigit

theorem endsDigits_of_endsNumber {rest : Text} (h : endsNumber rest = true) :
    endsDigits rest = true := by
  cases rest with
  | nil => rfl
  | cons c rest =>
    simp only [endsNumber, Bool.and_eq_true] at h
    exact h.1

/-! ## Runs of digits -/

theorem digitsOf_append {digits rest : Text} (h : ∀ c ∈ digits, c.isAsciiDigit = true)
    (hrest : endsDigits rest = true) : digitsOf (digits ++ rest) = digits := by
  rw [digitsOf, List.takeWhile_append_of_pos h]
  cases rest with
  | nil => simp
  | cons c rest =>
    have hc : c.isAsciiDigit = false := by simpa [endsDigits] using hrest
    simp [hc]

/-- Whether digits are a whole part: one zero, or digits that begin with another. -/
def isWhole : Text → Bool
  | [] => false
  | c :: rest => if c = '0' then rest.isEmpty else (c :: rest).all CodePoint.isAsciiDigit

theorem isWhole_ofNat (n : Nat) : isWhole (Text.ofNat n) = true := by
  rcases Nat.eq_zero_or_pos n with rfl | hn
  · rfl
  · obtain ⟨c, more, hdigits, hc⟩ := Text.head_ofNat hn
    have hrun := Text.isAsciiDigit_of_mem_ofNat n
    rw [hdigits] at hrun ⊢
    simp only [isWhole, hc, if_false]
    exact List.all_eq_true.2 hrun

theorem isAsciiDigit_of_isWhole {whole : Text} (h : isWhole whole = true) :
    ∀ c ∈ whole, c.isAsciiDigit = true := by
  cases whole with
  | nil =>
    intro c hc
    exact absurd hc List.not_mem_nil
  | cons c rest =>
    rw [isWhole] at h
    split at h
    · next hc =>
      obtain rfl : rest = [] := by simpa using h
      intro d hd
      rw [List.mem_singleton.1 hd, hc]
      decide
    · exact List.all_eq_true.1 h

theorem isWhole_cons {whole : Text} (h : isWhole whole = true) :
    ∃ c rest, whole = c :: rest ∧ c.isAsciiDigit = true := by
  cases whole with
  | nil => cases h
  | cons c rest => exact ⟨c, rest, rfl, isAsciiDigit_of_isWhole h c List.mem_cons_self⟩

theorem wholePart?_append {whole rest : Text} (h : isWhole whole = true)
    (hrest : endsDigits rest = true) : wholePart? (whole ++ rest) = some (whole, rest) := by
  have hrun := digitsOf_append (isAsciiDigit_of_isWhole h) hrest
  cases whole with
  | nil => cases h
  | cons c more =>
    rw [isWhole] at h
    rw [List.cons_append] at hrun ⊢
    split at h
    · next hc =>
      obtain rfl : more = [] := by simpa using h
      simp [wholePart?, hc]
    · next hc =>
      simp only [wholePart?, hc, if_false, hrun]
      rw [if_neg (List.cons_ne_nil _ _), ← List.cons_append, List.drop_left]

theorem fraction?_none {rest : Text} (h : endsNumber rest = true) : fraction? rest = none := by
  cases rest with
  | nil => rfl
  | cons c rest =>
    simp only [endsNumber, Bool.and_eq_true, decide_eq_true_eq] at h
    simp [fraction?, h.2.1]

theorem exponent?_none {rest : Text} (h : endsNumber rest = true) : exponent? rest = none := by
  cases rest with
  | nil => rfl
  | cons c rest =>
    simp only [endsNumber, Bool.and_eq_true, decide_eq_true_eq] at h
    simp [exponent?, h.2.2.1, h.2.2.2]

theorem fraction?_of_ne {c : CodePoint} (h : c ≠ '.') (rest : Text) : fraction? (c :: rest) = none := by
  simp [fraction?, h]

theorem fraction?_append {digits rest : Text} (h : ∀ c ∈ digits, c.isAsciiDigit = true)
    (hne : digits ≠ []) (hrest : endsDigits rest = true) :
    fraction? (CodePoint.ofChar '.' :: (digits ++ rest)) = some (digits, rest) := by
  simp [fraction?, digitsOf_append h hrest, hne]

def exponentSign (negative : Bool) : CodePoint := if negative then '-' else '+'

theorem exponent?_append (negative : Bool) {digits rest : Text}
    (h : ∀ c ∈ digits, c.isAsciiDigit = true) (hne : digits ≠ []) (hrest : endsDigits rest = true) :
    exponent? (CodePoint.ofChar 'e' :: exponentSign negative :: (digits ++ rest)) =
      some (if negative then -(Text.toNat digits : Int) else Text.toNat digits, rest) := by
  have hsign : signOf (exponentSign negative :: (digits ++ rest)) = (negative, digits ++ rest) := by
    cases negative <;> simp [signOf, exponentSign, CodePoint.ofChar]
  simp [exponent?, hsign, digitsOf_append h hrest, hne]

/-! ## Numbers -/

/-- No word of JSON has a digit in one of its first two places. -/
theorem words_head : ∀ word ∈ words, word.1.head?.map CodePoint.isAsciiDigit = some false ∧
    word.1.tail.head?.map CodePoint.isAsciiDigit = some false := by
  decide

theorem words_of_digit {c : CodePoint} (h : c.isAsciiDigit = true) (rest : Text) :
    (words.find? fun word => word.1.isPrefixOf (c :: rest)) = none ∧
      (words.find? fun word => word.1.isPrefixOf (CodePoint.ofChar '-' :: c :: rest)) = none := by
  have hne {d : CodePoint} (hd : d.isAsciiDigit = false) : (d == c) = false := by
    rw [beq_eq_false_iff_ne]
    intro heq
    subst heq
    rw [h] at hd
    cases hd
  have hword : ∀ word ∈ words, word.1.isPrefixOf (c :: rest) = false ∧
      word.1.isPrefixOf (CodePoint.ofChar '-' :: c :: rest) = false := by
    intro entry hmem
    obtain ⟨word, v⟩ := entry
    obtain ⟨h₁, h₂⟩ := words_head _ hmem
    match word, h₁, h₂ with
    | d :: e :: more, h₁, h₂ =>
      have hd := hne (by simpa using h₁)
      have he := hne (by simpa using h₂)
      simp only [List.isPrefixOf, hd, he, Bool.false_and, Bool.and_false, and_self]
  simp only [List.find?_eq_none]
  constructor
  · intro word hmem
    simp [(hword word hmem).1]
  · intro word hmem
    simp [(hword word hmem).2]

theorem readScalar_of_digit {c : CodePoint} (h : c.isAsciiDigit = true) (rest : Text) :
    readScalar (c :: rest) = readNumber (c :: rest) false (c :: rest) := by
  have hc : c ≠ '-' := by
    intro heq
    subst heq
    exact absurd h (by decide)
  simp [readScalar, (words_of_digit h rest).1, hc]

theorem readScalar_of_minus {c : CodePoint} (h : c.isAsciiDigit = true) (rest : Text) :
    readScalar (CodePoint.ofChar '-' :: c :: rest) =
      readNumber (CodePoint.ofChar '-' :: c :: rest) true (c :: rest) := by
  simp [readScalar, (words_of_digit h rest).2]

theorem readNumber_ofNat {n : Nat} (h : n < 10 ^ Text.digitLimit) (start : Text) (negative : Bool)
    {rest : Text} (hrest : endsNumber rest = true) :
    readNumber start negative (Text.ofNat n ++ rest) =
      .ok (int (if negative then -(n : Int) else n), rest) := by
  have hlen : ¬(Text.ofNat n).length > Text.digitLimit :=
    Nat.not_lt.2 ((Text.length_ofNat_le_iff (by decide)).2 h)
  simp only [readNumber, wholePart?_append (isWhole_ofNat n) (endsDigits_of_endsNumber hrest),
    fraction?_none hrest, Option.elim_none, exponent?_none hrest, hlen, if_false, Text.toNat_ofNat]

theorem ofNat_cons (n : Nat) : ∃ c more, Text.ofNat n = c :: more ∧ c.isAsciiDigit = true := by
  obtain ⟨c, more, hdigits⟩ := List.exists_cons_of_ne_nil (Text.ofNat_ne_nil n)
  exact ⟨c, more, hdigits, Text.isAsciiDigit_of_mem_ofNat n c (by simp [hdigits])⟩

/-- **A written integer is read back.** -/
theorem readScalar_ofInt {n : Int} (h : n.natAbs < 10 ^ Text.digitLimit) {rest : Text}
    (hrest : endsNumber rest = true) : readScalar (Text.ofInt n ++ rest) = .ok (int n, rest) := by
  cases n with
  | ofNat m =>
    obtain ⟨c, more, hdigits, hc⟩ := ofNat_cons m
    have hread := readNumber_ofNat (n := m) h (Text.ofNat m ++ rest) false hrest
    show readScalar (Text.ofNat m ++ rest) = _
    rw [hdigits, List.cons_append] at hread ⊢
    rw [readScalar_of_digit hc, hread]
    rfl
  | negSucc m =>
    obtain ⟨c, more, hdigits, hc⟩ := ofNat_cons (m + 1)
    have hread := readNumber_ofNat (n := m + 1) h (CodePoint.ofChar '-' :: (Text.ofNat (m + 1) ++ rest))
      true hrest
    show readScalar (CodePoint.ofChar '-' :: (Text.ofNat (m + 1) ++ rest)) = _
    rw [hdigits, List.cons_append] at hread ⊢
    rw [readScalar_of_minus hc, hread]
    rfl

end SolidityGateway.Json
