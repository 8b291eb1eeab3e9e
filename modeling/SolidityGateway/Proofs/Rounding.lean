import SolidityGateway.Proofs.Digits
import Mathlib.Algebra.Order.Field.Power
import Mathlib.Algebra.Order.Field.Rat
import Mathlib.Algebra.Order.Ring.Abs
import Mathlib.Tactic.FieldSimp
import Mathlib.Tactic.Linarith
import Mathlib.Tactic.NormNum
import Mathlib.Tactic.Positivity
import Mathlib.Tactic.Ring

/-!
Which fractions are rounded to a number. Every number that `ofDecimal` gives has the form that the
format has (`isCanonical`). Around such a number lie the fractions that are rounded to it, halfway to
either neighbour (`RoundsTo`); `ofDecimal_eq` says that a decimal among them is rounded to it. The
argument is about fractions in `ℚ`: `powerFor` finds the one power at which a fraction has 53 bits
(`HasPower`), and `roundDiv` the whole number that is nearest.
-/

namespace SolidityGateway.Binary64

/-- Whether a finite number has the form of the format: 53 bits, or the least power. -/
def isCanonical : Binary64 → Bool
  | finite _ significand power =>
    decide (significand < 2 ^ 53 ∧ leastPower ≤ power ∧ power ≤ greatestPower ∧
      (2 ^ 52 ≤ significand ∨ power = leastPower))
  | _ => true

theorem isCanonical_finite {negative : Bool} {s : Nat} {p : Int} :
    isCanonical (finite negative s p) = true ↔
      s < 2 ^ 53 ∧ leastPower ≤ p ∧ p ≤ greatestPower ∧ (2 ^ 52 ≤ s ∨ p = leastPower) := by
  simp only [isCanonical, decide_eq_true_eq]

theorem two_zpow_pos (p : Int) : (0 : ℚ) < 2 ^ p := zpow_pos (by norm_num) p

theorem two_zpow_succ (p : Int) : (2 : ℚ) ^ (p + 1) = 2 * 2 ^ p := by
  rw [zpow_add_one₀ (by norm_num), mul_comm]

/-! ## The nearest whole number -/

/-- The quotient is rounded to a number that is not farther than one half, and even if it is
that far. -/
theorem roundDiv_eq {n d k : Nat} (hd : 0 < d) (hlow : 2 * k * d ≤ 2 * n + d)
    (hhigh : 2 * n ≤ (2 * k + 1) * d)
    (hodd : k % 2 = 1 → 2 * k * d ≠ 2 * n + d ∧ 2 * n ≠ (2 * k + 1) * d) : roundDiv n d = k := by
  have hn : d * (n / d) + n % d = n := Nat.div_add_mod n d
  have hr : n % d < d := Nat.mod_lt n hd
  simp only [roundDiv]
  generalize n / d = q at *
  generalize n % d = r at *
  have hle : q ≤ k := by
    by_contra hlt
    have := Nat.mul_le_mul_left d (show k + 1 ≤ q by omega)
    nlinarith
  have hge : k ≤ q + 1 := by
    by_contra hlt
    have := Nat.mul_le_mul_left d (show q + 2 ≤ k by omega)
    nlinarith
  rcases Nat.eq_or_lt_of_le hle with rfl | hlt
  · have hhalf : 2 * r ≤ d := by nlinarith
    split
    · rfl
    · have heq : 2 * r = d := by omega
      rw [if_pos heq]
      have hmod : q % 2 ≠ 1 := by
        intro h
        apply (hodd h).2
        rw [← hn]
        linarith
      omega
  · obtain rfl : k = q + 1 := by omega
    have hhalf : d ≤ 2 * r := by nlinarith
    rw [if_neg (by omega)]
    split
    · next heq =>
      have hmod : (q + 1) % 2 ≠ 1 := by
        intro h
        apply (hodd h).1
        rw [← hn]
        linarith
      omega
    · rfl

theorem roundDiv_of_near {n d k : Nat} {x : ℚ} (hd : 0 < d) (hx : (n : ℚ) = x * d)
    (hlow : k - 1 / 2 ≤ x) (hhigh : x ≤ k + 1 / 2) (hodd : k % 2 = 1 → k - 1 / 2 ≠ x ∧ x ≠ k + 1 / 2) :
    roundDiv n d = k := by
  have hpos : (0 : ℚ) < d := by exact_mod_cast hd
  have hmul (a b : ℚ) : a * d = b * d ↔ a = b := mul_left_inj' hpos.ne'
  have hlow' := mul_le_mul_of_nonneg_right hlow hpos.le
  have hhigh' := mul_le_mul_of_nonneg_right hhigh hpos.le
  rw [← hx] at hlow' hhigh'
  apply roundDiv_eq hd
  · exact (Nat.cast_le (α := ℚ)).1 (by push_cast; linarith)
  · exact (Nat.cast_le (α := ℚ)).1 (by push_cast; linarith)
  · intro h
    constructor
    · intro heq
      have heq := congrArg (Nat.cast (R := ℚ)) heq
      push_cast at heq
      apply (hodd h).1
      rw [← hmul, ← hx]
      linarith
    · intro heq
      have heq := congrArg (Nat.cast (R := ℚ)) heq
      push_cast at heq
      apply (hodd h).2
      rw [← hmul, ← hx]
      linarith

theorem roundDiv_le {n d k : Nat} (hd : 0 < d) (h : n ≤ k * d) : roundDiv n d ≤ k := by
  have hn : d * (n / d) + n % d = n := Nat.div_add_mod n d
  simp only [roundDiv]
  generalize n / d = q at *
  generalize n % d = r at *
  have hle : q ≤ k := by
    by_contra hlt
    have := Nat.mul_le_mul_left d (show k + 1 ≤ q by omega)
    nlinarith
  rcases Nat.eq_or_lt_of_le hle with rfl | hlt
  · have hr : r = 0 := by nlinarith
    rw [hr, if_pos (by omega)]
  · split
    · exact hle
    · split <;> omega

theorem le_roundDiv {n d k : Nat} (hd : 0 < d) (h : k * d ≤ n) : k ≤ roundDiv n d := by
  have hq : k ≤ n / d := (Nat.le_div_iff_mul_le hd).2 h
  simp only [roundDiv]
  split
  · exact hq
  · split <;> omega

/-! ## Scaled fractions -/

theorem scale_pos {num den : Nat} (hd : 0 < den) (p : Int) : 0 < (scale num den p).2 := by
  unfold scale
  split
  · exact hd
  · exact Nat.mul_pos hd (Nat.two_pow_pos _)

theorem zpow_natAbs_of_neg {b : ℚ} {p : Int} (h : p < 0) : b ^ p = (b ^ p.natAbs)⁻¹ := by
  conv_lhs => rw [show p = -(p.natAbs : Int) by omega, zpow_neg, zpow_natCast]

theorem zpow_natAbs_of_nonneg {b : ℚ} {p : Int} (h : 0 ≤ p) : b ^ p = b ^ p.natAbs := by
  conv_lhs => rw [show p = (p.natAbs : Int) by omega, zpow_natCast]

theorem scale_eq {num den : Nat} (hd : 0 < den) (p : Int) :
    ((scale num den p).1 : ℚ) = num / den / 2 ^ p * (scale num den p).2 := by
  have hden : (den : ℚ) ≠ 0 := by positivity
  unfold scale
  split
  · next h =>
    rw [zpow_natAbs_of_neg h]
    push_cast
    field_simp
  · next h =>
    rw [zpow_natAbs_of_nonneg (not_lt.1 h)]
    push_cast
    field_simp

theorem scale_lt_iff {num den : Nat} (hd : 0 < den) (p : Int) (k : Nat) :
    (scale num den p).1 < k * (scale num den p).2 ↔ (num : ℚ) / den < k * 2 ^ p := by
  have hpos : (0 : ℚ) < (scale num den p).2 := by exact_mod_cast scale_pos hd p
  rw [← @Nat.cast_lt ℚ, scale_eq hd p, Nat.cast_mul, mul_lt_mul_iff_left₀ hpos,
    div_lt_iff₀ (two_zpow_pos p)]

/-! ## The power of a fraction -/

/-- At this power the whole part of a fraction has 53 bits, or it is the least power. -/
structure HasPower (q : ℚ) (p : Int) : Prop where
  least : leastPower ≤ p
  high : q < 2 ^ 53 * 2 ^ p
  low : p = leastPower ∨ 2 ^ 52 * 2 ^ p ≤ q

theorem HasPower.le {q : ℚ} {p p' : Int} (h : HasPower q p) (h' : HasPower q p') : p' ≤ p := by
  by_contra hlt
  have hlow : 2 ^ 52 * 2 ^ p' ≤ q := h'.low.resolve_left (by have := h.least; omega)
  have hstep : (2 : ℚ) ^ (p + 1) ≤ 2 ^ p' := zpow_le_zpow_right₀ (by norm_num) (by omega)
  rw [two_zpow_succ] at hstep
  have := h.high
  linarith

theorem HasPower.unique {q : ℚ} {p p' : Int} (h : HasPower q p) (h' : HasPower q p') : p = p' :=
  le_antisymm (h'.le h) (h.le h')

theorem zpow_log2_le {n : Nat} (h : 0 < n) :
    (2 : ℚ) ^ (n.log2 : Int) ≤ n ∧ (n : ℚ) < 2 ^ ((n.log2 : Int) + 1) := by
  rw [two_zpow_succ, zpow_natCast]
  have hlt := Nat.lt_log2_self (n := n)
  rw [pow_succ'] at hlt
  exact ⟨by exact_mod_cast Nat.log2_self_le h.ne', by exact_mod_cast hlt⟩

/-- The logarithms of the two sides leave the quotient between 2^52 and 2^54. -/
theorem log2_div {num den : Nat} (hn : 0 < num) (hd : 0 < den) {p : Int}
    (hp : (num.log2 : Int) - den.log2 - 53 = p) :
    2 ^ 52 * (2 : ℚ) ^ p ≤ num / den ∧ (num : ℚ) / den < 2 ^ 53 * 2 ^ (p + 1) := by
  have hpos : (0 : ℚ) < den := by exact_mod_cast hd
  obtain ⟨hnum, hnum'⟩ := zpow_log2_le hn
  obtain ⟨hden, hden'⟩ := zpow_log2_le hd
  constructor
  · rw [le_div_iff₀ hpos]
    calc (2 : ℚ) ^ 52 * 2 ^ p * den
        ≤ 2 ^ 52 * 2 ^ p * 2 ^ ((den.log2 : Int) + 1) :=
          mul_le_mul_of_nonneg_left hden'.le (by positivity)
      _ = 2 ^ (num.log2 : Int) := by
          rw [← zpow_natCast, ← zpow_add₀ (by norm_num), ← zpow_add₀ (by norm_num)]
          congr 1
          push_cast
          omega
      _ ≤ num := hnum
  · rw [div_lt_iff₀ hpos]
    calc (num : ℚ) < 2 ^ ((num.log2 : Int) + 1) := hnum'
      _ = 2 ^ 53 * 2 ^ (p + 1) * 2 ^ (den.log2 : Int) := by
          rw [← zpow_natCast, ← zpow_add₀ (by norm_num), ← zpow_add₀ (by norm_num)]
          congr 1
          push_cast
          omega
      _ ≤ 2 ^ 53 * 2 ^ (p + 1) * den := mul_le_mul_of_nonneg_left hden (by positivity)

theorem powerFor_spec {num den : Nat} (hn : 0 < num) (hd : 0 < den) :
    HasPower (num / den) (powerFor num den) := by
  obtain ⟨guess, hguess⟩ : ∃ p : Int, (num.log2 : Int) - den.log2 - 53 = p := ⟨_, rfl⟩
  obtain ⟨hlow, hhigh⟩ := log2_div hn hd hguess
  have hfits : (scale num den guess).1 / (scale num den guess).2 < 2 ^ 53 ↔
      (num : ℚ) / den < 2 ^ 53 * 2 ^ guess := by
    rw [Nat.div_lt_iff_lt_mul (scale_pos hd guess), scale_lt_iff hd]
    norm_num
  -- one comparison finds the power; below the least one the least one is taken
  obtain ⟨p, hp, hbits⟩ : ∃ p, powerFor num den = max leastPower p ∧
      2 ^ 52 * (2 : ℚ) ^ p ≤ num / den ∧ (num : ℚ) / den < 2 ^ 53 * 2 ^ p := by
    refine ⟨if (scale num den guess).1 / (scale num den guess).2 < 2 ^ 53 then guess else guess + 1,
      by simp only [powerFor, hguess], ?_⟩
    split
    · next h => exact ⟨hlow, hfits.1 h⟩
    · next h =>
      have hreach := not_lt.1 fun h' => h (hfits.2 h')
      refine ⟨?_, hhigh⟩
      rw [two_zpow_succ]
      linarith
  rw [hp]
  rcases le_total leastPower p with h | h
  · rw [max_eq_right h]
    exact ⟨h, hbits.2, .inr hbits.1⟩
  · rw [max_eq_left h]
    have hmono : (2 : ℚ) ^ p ≤ 2 ^ leastPower := zpow_le_zpow_right₀ (by norm_num) h
    exact ⟨le_rfl, by linarith [hbits.2], .inl rfl⟩

/-! ## Fractions that are rounded to a number -/

/-- How far the fractions that are rounded to a number reach down, in quarters of its last place.
Below a power of two the neighbours lie closer. -/
def reach (s : Nat) (p : Int) : Nat := if s = 2 ^ 52 ∧ p > leastPower then 1 else 2

theorem reach_le (s : Nat) (p : Int) : reach s p ≤ 2 := by
  unfold reach
  split <;> omega

/-- A fraction lies no farther from a number than halfway to its neighbours, and less far from one
with an odd significand. -/
structure RoundsTo (q : ℚ) (s : Nat) (p : Int) : Prop where
  low : (s - reach s p / 4) * 2 ^ p ≤ q
  high : q ≤ (s + 1 / 2) * 2 ^ p
  odd : s % 2 = 1 → (s - reach s p / 4) * 2 ^ p ≠ q ∧ q ≠ (s + 1 / 2) * 2 ^ p

section
variable {q : ℚ} {s : Nat} {p : Int}

theorem RoundsTo.half_le (h : RoundsTo q s p) : (s - 1 / 2) * 2 ^ p ≤ q := by
  have hreach : (reach s p : ℚ) ≤ 2 := by exact_mod_cast reach_le s p
  refine le_trans (mul_le_mul_of_nonneg_right ?_ (two_zpow_pos p).le) h.low
  linarith

theorem RoundsTo.pos (h : RoundsTo q s p) (hs : 0 < s) : 0 < q := by
  have hs' : (1 : ℚ) ≤ s := by exact_mod_cast hs
  have := mul_le_mul_of_nonneg_right hs' (two_zpow_pos p).le
  have := h.half_le
  have := two_zpow_pos p
  linarith

theorem RoundsTo.lt (h : RoundsTo q s p) (hs : s < 2 ^ 53) : q < 2 ^ 53 * 2 ^ p := by
  have hs' : (s : ℚ) ≤ 2 ^ 53 - 1 := by
    rw [le_sub_iff_add_le]
    exact_mod_cast hs
  have := mul_le_mul_of_nonneg_right hs' (two_zpow_pos p).le
  have := h.high
  have := two_zpow_pos p
  linarith

/-- The power of a fraction is that of the number, or one less where the fraction is rounded up to a
power of two. -/
theorem RoundsTo.power (h : RoundsTo q s p) (hs : s < 2 ^ 53) (hleast : leastPower ≤ p)
    (hcanonical : 2 ^ 52 ≤ s ∨ p = leastPower) :
    HasPower q p ∨ s = 2 ^ 52 ∧ reach s p = 1 ∧ q < 2 ^ 52 * 2 ^ p ∧ HasPower q (p - 1) := by
  have hunit := two_zpow_pos p
  by_cases hlow : p = leastPower ∨ 2 ^ 52 * 2 ^ p ≤ q
  · exact .inl ⟨hleast, h.lt hs, hlow⟩
  · rw [not_or, not_le] at hlow
    obtain ⟨hp, hlow⟩ := hlow
    -- a fraction below the least one of the power is at most half a unit below a significand
    have hs' : s = 2 ^ 52 := by
      refine le_antisymm (Nat.le_of_lt_succ ?_) (hcanonical.resolve_right hp)
      by_contra hlt
      have hlt' : (2 : ℚ) ^ 52 + 1 ≤ s := by exact_mod_cast not_lt.1 hlt
      have := mul_le_mul_of_nonneg_right hlt' hunit.le
      have := h.half_le
      linarith
    have hreach : reach s p = 1 := if_pos ⟨hs', lt_of_le_of_ne hleast (Ne.symm hp)⟩
    have hq := h.low
    rw [hreach, hs'] at hq
    push_cast at hq
    have hsucc := two_zpow_succ (p - 1)
    rw [sub_add_cancel] at hsucc
    refine .inr ⟨hs', hreach, hlow, by omega, by linarith, .inr ?_⟩
    have := two_zpow_pos (p - 1)
    rw [hsucc] at hq
    linarith

/-- **A fraction is rounded to the number whose fractions it is one of.** -/
theorem ofFraction_eq {num den : Nat} {negative : Bool} (hd : 0 < den) (hs : 0 < s)
    (hc : isCanonical (finite negative s p) = true) (h : RoundsTo (num / den) s p) :
    ofFraction negative num den = finite negative s p := by
  obtain ⟨hs53, hleast, hgreatest, hcanonical⟩ := isCanonical_finite.1 hc
  have hn : num ≠ 0 := by
    intro heq
    subst heq
    simpa using h.pos hs
  have hunit := two_zpow_pos p
  have hspec := powerFor_spec (Nat.pos_of_ne_zero hn) hd
  have hpos := @scale_pos num den hd
  have hscale := @scale_eq num den hd
  rw [ofFraction, if_neg hn]
  rcases h.power hs53 hleast hcanonical with hp | ⟨hs', hreach, hlow, hp⟩
  -- the power of the number: its significand is what the fraction is rounded to
  · obtain rfl := hspec.unique hp
    have hround :
        roundDiv (scale num den (powerFor num den)).1 (scale num den (powerFor num den)).2 = s := by
      apply roundDiv_of_near (hpos _) (hscale _)
      · exact (le_div_iff₀ hunit).2 h.half_le
      · exact (div_le_iff₀ hunit).2 h.high
      · intro hodd
        have hreach : reach s (powerFor num den) = 2 := if_neg (by omega)
        obtain ⟨hlow, hhigh⟩ := h.odd hodd
        rw [hreach] at hlow
        constructor
        · intro heq
          apply hlow
          rw [eq_div_iff hunit.ne'] at heq
          rw [← heq]
          norm_num
        · intro heq
          apply hhigh
          rwa [div_eq_iff hunit.ne'] at heq
    simp only [hround, hs53, if_true, not_lt.2 hgreatest, if_false]
  -- one less: the fraction is rounded up to the next power of two, which is normalised
  · have hpower : powerFor num den = p - 1 := hspec.unique hp
    have hsucc := two_zpow_succ (p - 1)
    rw [sub_add_cancel] at hsucc
    have hround : roundDiv (scale num den (p - 1)).1 (scale num den (p - 1)).2 = 2 ^ 53 := by
      have hq := h.low
      rw [hreach, hs'] at hq
      push_cast at hq
      apply roundDiv_of_near (hpos _) (hscale _)
      · rw [le_div_iff₀ (two_zpow_pos _)]
        push_cast
        linarith
      · rw [div_le_iff₀ (two_zpow_pos _)]
        push_cast
        linarith [hp.high, two_zpow_pos (p - 1)]
      · intro hodd
        omega
    simp only [hpower, hround, lt_irrefl, if_false, sub_add_cancel, not_lt.2 hgreatest, hs']

theorem isCanonical_ofFraction (negative : Bool) (num : Nat) {den : Nat} (hd : 0 < den) :
    isCanonical (ofFraction negative num den) = true := by
  unfold ofFraction
  split
  · decide +revert
  · next hn =>
    obtain ⟨hleast, hhigh, hlow⟩ := powerFor_spec (Nat.pos_of_ne_zero hn) hd
    generalize powerFor num den = P at *
    have hle : roundDiv (scale num den P).1 (scale num den P).2 ≤ 2 ^ 53 :=
      roundDiv_le (scale_pos hd P) ((scale_lt_iff hd P _).2 (by exact_mod_cast hhigh)).le
    have hge : 2 ^ 52 ≤ roundDiv (scale num den P).1 (scale num den P).2 ∨ P = leastPower := by
      rcases hlow with rfl | hlow
      · exact .inr rfl
      · left
        apply le_roundDiv (scale_pos hd P)
        by_contra hlt
        have := (scale_lt_iff hd P _).1 (not_le.1 hlt)
        push_cast at this
        linarith
    dsimp only
    generalize roundDiv (scale num den P).1 (scale num den P).2 = r at *
    by_cases hr : r < 2 ^ 53
    · simp only [hr, if_true]
      split
      · rfl
      · next hP => exact isCanonical_finite.2 ⟨hr, hleast, not_lt.1 hP, hge⟩
    · simp only [hr, if_false]
      split
      · rfl
      · next hP => exact isCanonical_finite.2 ⟨by norm_num, by omega, not_lt.1 hP, .inl le_rfl⟩

/-! ## Decimals -/

theorem ten_zpow_pos (e : Int) : (0 : ℚ) < 10 ^ e := zpow_pos (by norm_num) e

theorem digitCount_pos (n : Nat) : 0 < digitCount n := by
  rw [← Text.length_ofNat]
  exact List.length_pos_iff.2 (Text.ofNat_ne_nil n)

/-- The number of digits says between which powers of ten a number lies. -/
theorem zpow_digitCount_le {n : Nat} (h : 0 < n) :
    (10 : ℚ) ^ ((digitCount n : Int) - 1) ≤ n ∧ (n : ℚ) < 10 ^ (digitCount n : Int) := by
  have hpos := digitCount_pos n
  have hlt : n < 10 ^ digitCount n := by
    rw [← Text.length_ofNat_le_iff hpos, Text.length_ofNat]
  have hle : 10 ^ (digitCount n - 1) ≤ n := by
    rcases Nat.eq_or_lt_of_le (Nat.succ_le_of_lt hpos) with h₁ | h₁
    · rw [← h₁]
      exact h
    · rw [← not_lt, ← Text.length_ofNat_le_iff (by omega), Text.length_ofNat]
      omega
  rw [show (digitCount n : Int) - 1 = ((digitCount n - 1 : Nat) : Int) by omega, zpow_natCast, zpow_natCast]
  exact ⟨by exact_mod_cast hle, by exact_mod_cast hlt⟩

theorem decimal_eq (digits : Nat) (e : Int) : ∃ num den : Nat, 0 < den ∧
    (num : ℚ) / den = digits * 10 ^ e ∧
      ∀ negative, (if e < 0 then ofFraction negative digits (10 ^ e.natAbs)
        else ofFraction negative (digits * 10 ^ e.natAbs) 1) = ofFraction negative num den := by
  by_cases he : e < 0
  · refine ⟨digits, 10 ^ e.natAbs, by positivity, ?_, fun negative => by rw [if_pos he]⟩
    rw [zpow_natAbs_of_neg he]
    push_cast
    rfl
  · refine ⟨digits * 10 ^ e.natAbs, 1, one_pos, ?_, fun negative => by rw [if_neg he]⟩
    rw [zpow_natAbs_of_nonneg (not_lt.1 he)]
    push_cast
    ring

theorem greatest_le : (2 : ℚ) ^ 53 * 2 ^ greatestPower ≤ 10 ^ (309 : Int) := by
  rw [greatestPower, zpow_ofNat, zpow_ofNat, ← pow_add]
  calc (2 : ℚ) ^ (53 + 971) = 2 * (2 ^ 93) ^ 11 := by rw [← pow_mul, ← pow_succ']
    _ ≤ 10 * (10 ^ 28) ^ 11 := by gcongr <;> norm_num
    _ = 10 ^ 309 := by rw [← pow_mul, ← pow_succ']

theorem le_least : (10 : ℚ) ^ (-330 : Int) ≤ 1 / 2 * 2 ^ leastPower := by
  rw [leastPower, zpow_neg, zpow_neg, zpow_ofNat, zpow_ofNat, one_div, ← mul_inv, ← pow_succ']
  refine inv_anti₀ (by positivity) ?_
  calc (2 : ℚ) ^ (1074 + 1) = (2 ^ 43) ^ 25 := by rw [← pow_mul]
    _ ≤ (10 ^ 13) ^ 25 := by gcongr; norm_num
    _ = 10 ^ 325 := by rw [← pow_mul]
    _ ≤ 10 ^ 330 := pow_le_pow_right₀ (by norm_num) (by norm_num)

/-- **A decimal is rounded to the number whose fractions it is one of.** -/
theorem ofDecimal_eq {digits : Nat} {e : Int} {negative : Bool} (hs : 0 < s)
    (hc : isCanonical (finite negative s p) = true) (h : RoundsTo (digits * 10 ^ e) s p) :
    ofDecimal negative digits e = finite negative s p := by
  obtain ⟨hs53, hleast, hgreatest, -⟩ := isCanonical_finite.1 hc
  have hn : digits ≠ 0 := by
    intro heq
    subst heq
    simpa using h.pos hs
  obtain ⟨hlow, hhigh⟩ := zpow_digitCount_le (Nat.pos_of_ne_zero hn)
  have hlow' := mul_le_mul_of_nonneg_right hlow (ten_zpow_pos e).le
  have hhigh' := mul_lt_mul_of_pos_right hhigh (ten_zpow_pos e)
  rw [← zpow_add₀ (by norm_num)] at hlow' hhigh'
  -- beyond these magnitudes no decimal is rounded to a number that is neither zero nor infinite
  have hnotLarge : ¬(digitCount digits : Int) + e > 310 := by
    intro hlarge
    have hmono : (10 : ℚ) ^ (309 : Int) ≤ 10 ^ ((digitCount digits : Int) - 1 + e) :=
      zpow_le_zpow_right₀ (by norm_num) (by omega)
    have hmax : (2 : ℚ) ^ p ≤ 2 ^ greatestPower := zpow_le_zpow_right₀ (by norm_num) hgreatest
    have hlt := h.lt hs53
    linarith [greatest_le]
  have hnotSmall : ¬(digitCount digits : Int) + e < -330 := by
    intro hsmall
    have hmono : (10 : ℚ) ^ ((digitCount digits : Int) + e) ≤ 10 ^ (-330 : Int) :=
      zpow_le_zpow_right₀ (by norm_num) (by omega)
    have hmin : (2 : ℚ) ^ leastPower ≤ 2 ^ p := zpow_le_zpow_right₀ (by norm_num) hleast
    have hs' : (1 : ℚ) ≤ s := by exact_mod_cast hs
    have hhalf := h.half_le
    have hscale := mul_le_mul_of_nonneg_right hs' (two_zpow_pos p).le
    linarith [le_least]
  obtain ⟨num, den, hd, hvalue, hfraction⟩ := decimal_eq digits e
  rw [← hvalue] at h
  simp only [ofDecimal, hn, hnotLarge, hnotSmall, if_false]
  rw [hfraction, ofFraction_eq hd hs hc h]

theorem isCanonical_zero (negative : Bool) : isCanonical (finite negative 0 leastPower) = true :=
  isCanonical_finite.2 (by decide)

theorem isCanonical_ofDecimal (negative : Bool) (digits : Nat) (e : Int) :
    isCanonical (ofDecimal negative digits e) = true := by
  obtain ⟨num, den, hd, -, hfraction⟩ := decimal_eq digits e
  simp only [ofDecimal, hfraction]
  split
  · exact isCanonical_zero negative
  · split
    · rfl
    · split
      · exact isCanonical_zero negative
      · exact isCanonical_ofFraction negative num hd

end

end SolidityGateway.Binary64
