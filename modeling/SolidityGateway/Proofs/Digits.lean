import SolidityGateway.Text.Decimal
import SolidityGateway.Number.Binary64
import Mathlib.Data.List.Induction
import Mathlib.Tactic.Common
import Mathlib.Tactic.Ring

/-!
Numbers as digits, written and read back. The digits of `Text.ofNat` are the shortest run of digits
with the value; their number is `Binary64.digitCount`, so a bound on the length is a bound on the
number. A digit in base sixteen is read back by its value.
-/

namespace SolidityGateway.Text

/-! ## Digits -/

theorem isAsciiDigit_digit {n : Nat} (h : n < 10) : (digit n).isAsciiDigit = true := by
  have hv : (digit n).val = 0x30 + n := by
    rw [digit, if_pos h, CodePoint.val_ofNat (by omega)]
  simp only [CodePoint.isAsciiDigit, hv, Bool.and_eq_true, decide_eq_true_eq]
  omega

theorem val_digit {n : Nat} (h : n < 10) : (digit n).val - 0x30 = n := by
  rw [digit, if_pos h, CodePoint.val_ofNat (by omega)]
  omega

theorem eq_digit {c : CodePoint} (h : c.isAsciiDigit = true) :
    c.val - 0x30 < 10 ∧ digit (c.val - 0x30) = c := by
  simp only [CodePoint.isAsciiDigit, Bool.and_eq_true, decide_eq_true_eq] at h
  refine ⟨by omega, CodePoint.ext ?_⟩
  rw [digit, if_pos (by omega), CodePoint.val_ofNat (by omega)]
  omega

/-! ## Writing -/

theorem decimalFrom_append : ∀ (fuel n : Nat) (t : Text),
    decimalFrom fuel n t = decimalFrom fuel n [] ++ t
  | 0, _, t => rfl
  | fuel + 1, n, t => by
    simp only [decimalFrom]
    split
    · rfl
    · rw [decimalFrom_append fuel (n / 10) (digit (n % 10) :: t),
        decimalFrom_append fuel (n / 10) [digit (n % 10)], List.append_assoc]
      rfl

theorem decimalFrom_fuel : ∀ (fuel fuel' n : Nat) (t : Text), n < fuel → n < fuel' →
    decimalFrom fuel n t = decimalFrom fuel' n t
  | 0, _, _, _, h, _ => absurd h (Nat.not_lt_zero _)
  | _, 0, _, _, _, h => absurd h (Nat.not_lt_zero _)
  | fuel + 1, fuel' + 1, n, t, h, h' => by
    simp only [decimalFrom]
    split
    · rfl
    · exact decimalFrom_fuel fuel fuel' (n / 10) _ (by omega) (by omega)

theorem ofNat_of_lt {n : Nat} (h : n < 10) : ofNat n = [digit n] := by
  simp [ofNat, decimalFrom, h]

theorem ofNat_of_le {n : Nat} (h : 10 ≤ n) : ofNat n = ofNat (n / 10) ++ [digit (n % 10)] := by
  have hn : ¬n < 10 := by omega
  simp only [ofNat, decimalFrom, hn, if_false]
  rw [decimalFrom_append, decimalFrom_fuel n (n / 10 + 1) (n / 10) [] (by omega) (by omega)]
  rfl

/-- Induction along the digits of a number. -/
theorem digits_induct {P : Nat → Prop} (one : ∀ n, n < 10 → P n)
    (more : ∀ n, 10 ≤ n → P (n / 10) → P n) (n : Nat) : P n := by
  induction n using Nat.strong_induction_on with
  | _ n ih =>
    by_cases h : n < 10
    · exact one n h
    · exact more n (by omega) (ih (n / 10) (by omega))

theorem isAsciiDigit_of_mem_ofNat (n : Nat) : ∀ c ∈ ofNat n, c.isAsciiDigit = true := by
  induction n using digits_induct with
  | one n h => simpa [ofNat_of_lt h] using isAsciiDigit_digit h
  | more n h ih =>
    rw [ofNat_of_le h]
    intro c hc
    rcases List.mem_append.1 hc with hc | hc
    · exact ih c hc
    · rw [List.mem_singleton.1 hc]
      exact isAsciiDigit_digit (Nat.mod_lt _ (by omega))

theorem ofNat_ne_nil (n : Nat) : ofNat n ≠ [] := by
  by_cases h : n < 10
  · simp [ofNat_of_lt h]
  · simp [ofNat_of_le (by omega : 10 ≤ n)]

theorem head_ofNat {n : Nat} (h : 0 < n) : ∃ c rest, ofNat n = c :: rest ∧ c ≠ '0' := by
  induction n using digits_induct with
  | one n hn =>
    refine ⟨digit n, [], ofNat_of_lt hn, ?_⟩
    intro heq
    have hv := val_digit hn
    rw [heq] at hv
    exact absurd hv (by simpa [CodePoint.ofChar] using Nat.ne_of_lt h)
  | more n hn ih =>
    obtain ⟨c, rest, heq, hc⟩ := ih (by omega)
    exact ⟨c, rest ++ [digit (n % 10)], by rw [ofNat_of_le hn, heq]; rfl, hc⟩

theorem length_ofNat (n : Nat) : (ofNat n).length = Binary64.digitCount n := by
  induction n using digits_induct with
  | one n h => rw [ofNat_of_lt h, Binary64.digitCount, Nat.toDigits_of_lt_base h]; rfl
  | more n h ih =>
    rw [ofNat_of_le h, Binary64.digitCount, Nat.toDigits_of_base_le (by omega) h,
      List.length_append, ih, List.length_append]
    rfl

theorem length_ofNat_le_iff {n k : Nat} (hk : 0 < k) : (ofNat n).length ≤ k ↔ n < 10 ^ k := by
  rw [length_ofNat, Binary64.digitCount]
  exact Nat.length_toDigits_le_iff (by omega) hk

/-! ## Reading -/

theorem toNat_concat (t : Text) (c : CodePoint) : toNat (t ++ [c]) = toNat t * 10 + (c.val - 0x30) := by
  simp [toNat, List.foldl_append]

theorem toNat_append (t u : Text) : toNat (t ++ u) = toNat t * 10 ^ u.length + toNat u := by
  induction u using List.reverseRecOn with
  | nil => simp [toNat]
  | append_singleton u c ih =>
    rw [← List.append_assoc, toNat_concat, toNat_concat, ih, List.length_append, List.length_singleton]
    ring

theorem toNat_lt {t : Text} (h : ∀ c ∈ t, c.isAsciiDigit = true) : toNat t < 10 ^ t.length := by
  induction t using List.reverseRecOn with
  | nil => simp [toNat]
  | append_singleton t c ih =>
    have ht : toNat t < 10 ^ t.length := by
      apply ih
      intro d hd
      exact h d (List.mem_append_left _ hd)
    have hc := (eq_digit (h c (by simp))).1
    rw [toNat_concat, List.length_append, List.length_singleton, Nat.pow_succ]
    omega

@[simp] theorem toNat_ofNat (n : Nat) : toNat (ofNat n) = n := by
  induction n using digits_induct with
  | one n h => rw [ofNat_of_lt h]; simpa [toNat] using val_digit h
  | more n h ih =>
    rw [ofNat_of_le h, toNat_concat, ih, val_digit (Nat.mod_lt _ (by omega))]
    omega

/-! ## Base sixteen -/

theorem hexValue?_digit {n : Nat} (h : n < 16) : hexValue? (digit n) = some n := by
  have hall : ∀ m : Fin 16, hexValue? (digit m) = some m.val := by decide
  exact hall ⟨n, h⟩

end SolidityGateway.Text
