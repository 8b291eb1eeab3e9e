import SolidityGateway.Text.Encoding
import Mathlib.Tactic.Common

/-!
Texts as bytes and back. UTF-8 is read back code point by code point, surrogates included; bytes that
begin with two characters of ASCII show no other encoding, as those of a JSON object do.
-/

namespace SolidityGateway.Encoding

theorem toNat_ofNat {n : Nat} (h : n < 256) : (UInt8.ofNat n).toNat = n :=
  UInt8.toNat_ofNat_of_lt h

theorem tail?_ofNat {n : Nat} (h : n < 0x40) : tail? (UInt8.ofNat (0x80 + n)) = some n := by
  rw [tail?, toNat_ofNat (by omega), if_pos (by omega), Nat.add_sub_cancel_left]

theorem point?_val {least : Nat} {c : CodePoint} (h : least ≤ c.val) : point? least c.val = some c := by
  rw [point?, dif_pos c.isLt, if_pos h]

theorem bind_of_some {α β : Type} {o : Option α} {a : α} (h : o = some a) (f : α → Option β) :
    o >>= f = f a := by
  rw [h]
  rfl

section
variable (read : Text) {p : CodePoint} {a b c d : UInt8} (rest : Bytes)

theorem readUtf8_one (ha : a.toNat = p.val) (h : p.val < 0x80) :
    readUtf8 read (a :: rest) = readUtf8 (p :: read) rest := by
  have hpoint := point?_val (c := p) (Nat.zero_le _)
  rw [readUtf8.eq_def]
  simp only [ha, h, if_true, hpoint]

theorem readUtf8_two {x y : Nat} (ha : a.toNat = 0xC0 + x) (hx : x < 0x20) (hb : tail? b = some y)
    (h : x * 2 ^ 6 + y = p.val) (hleast : 0x80 ≤ p.val) :
    readUtf8 read (a :: b :: rest) = readUtf8 (p :: read) rest := by
  have h₁ : ¬a.toNat < 0x80 := by omega
  have h₂ : ¬a.toNat < 0xC0 := by omega
  have h₃ : a.toNat < 0xE0 := by omega
  have hfirst : a.toNat - 0xC0 = x := by omega
  have hp : (do point? 0x80 ((a.toNat - 0xC0) * 2 ^ 6 + (← tail? b))) = some p := by
    rw [bind_of_some hb, hfirst, h, point?_val hleast]
  -- the tests are taken one by one: a simp set would compute with the bounds
  rw [readUtf8.eq_def]
  dsimp only
  rw [if_neg h₁, if_neg h₂, if_pos h₃, hp]

theorem readUtf8_three {x y z : Nat} (ha : a.toNat = 0xE0 + x) (hx : x < 0x10) (hb : tail? b = some y)
    (hc : tail? c = some z) (h : x * 2 ^ 12 + y * 2 ^ 6 + z = p.val) (hleast : 0x800 ≤ p.val) :
    readUtf8 read (a :: b :: c :: rest) = readUtf8 (p :: read) rest := by
  have h₁ : ¬a.toNat < 0x80 := by omega
  have h₂ : ¬a.toNat < 0xC0 := by omega
  have h₃ : ¬a.toNat < 0xE0 := by omega
  have h₄ : a.toNat < 0xF0 := by omega
  have hfirst : a.toNat - 0xE0 = x := by omega
  have hp : (do
      let y ← tail? b
      let z ← tail? c
      point? 0x800 ((a.toNat - 0xE0) * 2 ^ 12 + y * 2 ^ 6 + z)) = some p := by
    rw [bind_of_some hb, bind_of_some hc, hfirst, h, point?_val hleast]
  rw [readUtf8.eq_def]
  dsimp only
  rw [if_neg h₁, if_neg h₂, if_neg h₃, if_pos h₄, hp]

theorem readUtf8_four {w x y z : Nat} (ha : a.toNat = 0xF0 + w) (hw : w < 8) (hb : tail? b = some x)
    (hc : tail? c = some y) (hd : tail? d = some z)
    (h : w * 2 ^ 18 + x * 2 ^ 12 + y * 2 ^ 6 + z = p.val) (hleast : 0x10000 ≤ p.val) :
    readUtf8 read (a :: b :: c :: d :: rest) = readUtf8 (p :: read) rest := by
  have h₁ : ¬a.toNat < 0x80 := by omega
  have h₂ : ¬a.toNat < 0xC0 := by omega
  have h₃ : ¬a.toNat < 0xE0 := by omega
  have h₄ : ¬a.toNat < 0xF0 := by omega
  have h₅ : a.toNat < 0xF8 := by omega
  have hfirst : a.toNat - 0xF0 = w := by omega
  have hp : (do
      let x ← tail? b
      let y ← tail? c
      let z ← tail? d
      point? 0x10000 ((a.toNat - 0xF0) * 2 ^ 18 + x * 2 ^ 12 + y * 2 ^ 6 + z)) = some p := by
    rw [bind_of_some hb, bind_of_some hc, bind_of_some hd, hfirst, h, point?_val hleast]
  rw [readUtf8.eq_def]
  dsimp only
  rw [if_neg h₁, if_neg h₂, if_neg h₃, if_neg h₄, if_pos h₅, hp]

end

theorem readUtf8_point (read : Text) (p : CodePoint) (rest : Bytes) :
    readUtf8 read (utf8Point p ++ rest) = readUtf8 (p :: read) rest := by
  have hlt := p.isLt
  have htail (n : Nat) := tail?_ofNat (n := n % 0x40) (Nat.mod_lt _ (by decide))
  unfold utf8Point
  by_cases h₁ : p.val < 0x80
  · simp only [h₁, if_true]
    exact readUtf8_one read rest (toNat_ofNat (by omega)) h₁
  · by_cases h₂ : p.val < 0x800
    · simp only [h₁, h₂, if_false, if_true]
      exact readUtf8_two read rest (toNat_ofNat (by omega)) (by omega) (htail _) (by omega) (by omega)
    · by_cases h₃ : p.val < 0x10000
      · simp only [h₁, h₂, h₃, if_false, if_true]
        exact readUtf8_three read rest (toNat_ofNat (by omega)) (by omega) (htail _) (htail _) (by omega)
          (by omega)
      · simp only [h₁, h₂, h₃, if_false]
        exact readUtf8_four read rest (toNat_ofNat (by omega)) (by omega) (htail _) (htail _) (htail _)
          (by omega) (by omega)

theorem readUtf8_encode (t : Text) : ∀ read : Text,
    readUtf8 read (utf8.encode t) = some (read.reverse ++ t) := by
  induction t with
  | nil => intro read; simp [encode, readUtf8]
  | cons c t ih =>
    intro read
    rw [encode, List.flatMap_cons, readUtf8_point]
    simpa [encode] using ih (c :: read)

/-- **UTF-8 is read back.** -/
theorem decode_encode_utf8 (t : Text) : utf8.decode (utf8.encode t) = some t := by
  rw [decode, readUtf8_encode, List.reverse_nil, List.nil_append]

def isPlainAscii (c : CodePoint) : Bool := 0 < c.val && c.val < 0x80

theorem utf8Point_ascii {c : CodePoint} (h : isPlainAscii c = true) :
    ∃ b, utf8Point c = [b] ∧ b ≠ 0 ∧ b.toNat < 0x80 := by
  simp only [isPlainAscii, Bool.and_eq_true, decide_eq_true_eq] at h
  have hb := toNat_ofNat (n := c.val) (by omega)
  refine ⟨UInt8.ofNat c.val, by simp [utf8Point, h.2], ?_, by omega⟩
  intro heq
  have := congrArg UInt8.toNat heq
  rw [hb] at this
  simp at this
  omega

/-- Two characters of ASCII at the beginning are UTF-8. -/
theorem detect_ascii {a b : UInt8} (ha : a ≠ 0 ∧ a.toNat < 0x80) (hb : b ≠ 0) (rest : Bytes) :
    detect (a :: b :: rest) = (utf8, a :: b :: rest) := by
  have hmark : ∀ e ∈ marked,
      e.mark.head?.all (fun m => m = 0 || 0x80 ≤ m.toNat) = true ∧ e.mark ≠ [] := by
    decide
  have hnone : marked.find? (fun e => e.mark.isPrefixOf (a :: b :: rest)) = none := by
    rw [List.find?_eq_none]
    intro e he
    obtain ⟨hall, hne⟩ := hmark e he
    obtain ⟨m, more, hm⟩ := List.exists_cons_of_ne_nil hne
    rw [hm] at hall ⊢
    simp only [List.head?_cons, Option.all_some, Bool.or_eq_true, decide_eq_true_eq] at hall
    have hma : (m == a) = false := by
      rw [beq_eq_false_iff_ne]
      intro heq
      subst heq
      rcases hall with h | h
      · exact ha.1 h
      · omega
    simp [List.isPrefixOf, hma]
  have hzeros : ofZeros (a :: b :: rest) = utf8 := by
    match rest with
    | [] => simp [ofZeros, ha.1, hb]
    | [_] => rfl
    | _ :: _ :: _ => simp [ofZeros, ha.1, hb]
  simp only [detect, hnone, hzeros]

/-- **A text in UTF-8 that begins with two characters of ASCII is told and read back.** -/
theorem decodeAny_encode_utf8 {c d : CodePoint} (hc : isPlainAscii c = true)
    (hd : isPlainAscii d = true) (rest : Text) :
    decodeAny (utf8.encode (c :: d :: rest)) = some (c :: d :: rest) := by
  obtain ⟨a, ha, hne, hlt⟩ := utf8Point_ascii hc
  obtain ⟨b, hb, hne', -⟩ := utf8Point_ascii hd
  have hbytes : utf8.encode (c :: d :: rest) = a :: b :: rest.flatMap utf8Point := by
    simp [encode, ha, hb]
  have hdecode := decode_encode_utf8 (c :: d :: rest)
  rw [hbytes] at hdecode ⊢
  rw [decodeAny, detect_ascii ⟨hne, hlt⟩ hne']
  exact hdecode

end SolidityGateway.Encoding
