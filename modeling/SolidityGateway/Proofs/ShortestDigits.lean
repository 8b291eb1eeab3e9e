import SolidityGateway.Number.Shortest
import SolidityGateway.Proofs.Rounding

/-!
The shortest decimal of a number is rounded to that number. An `Interval` holds the fractions that
`RoundsTo` describes; a hit lies in it, the grid of seventeen digits is finer than the interval is
wide and so has a hit, and zeros at the end are no part of the value.
-/

namespace SolidityGateway.Binary64

def Decimal.value (d : Decimal) : ℚ := d.digits * 10 ^ d.exponent

/-! ## Intervals -/

/-- The fractions in an interval, whose ends belong to it if it is closed. -/
structure Interval.Contains (i : Interval) (q : ℚ) : Prop where
  low : i.low ≤ q * i.den
  high : q * i.den ≤ i.high
  ends : i.closed = false → i.low ≠ q * i.den ∧ q * i.den ≠ i.high

theorem Interval.holds_iff (i : Interval) (num : Nat) {den : Nat} (hd : 0 < den) :
    i.holds num den = true ↔ i.Contains (num / den) := by
  have hpos : (0 : ℚ) < den := by exact_mod_cast hd
  have hlow : (i.low : ℚ) ≤ num / den * i.den ↔ i.low * den ≤ num * i.den := by
    rw [div_mul_eq_mul_div, le_div_iff₀ hpos]
    exact_mod_cast Iff.rfl
  have hhigh : (num : ℚ) / den * i.den ≤ i.high ↔ num * i.den ≤ i.high * den := by
    rw [div_mul_eq_mul_div, div_le_iff₀ hpos]
    exact_mod_cast Iff.rfl
  have hlow' : (i.low : ℚ) = num / den * i.den ↔ i.low * den = num * i.den := by
    rw [div_mul_eq_mul_div, eq_div_iff hpos.ne']
    exact_mod_cast Iff.rfl
  have hhigh' : (num : ℚ) / den * i.den = i.high ↔ num * i.den = i.high * den := by
    rw [div_mul_eq_mul_div, div_eq_iff hpos.ne']
    exact_mod_cast Iff.rfl
  have hcontains : i.Contains (num / den) ↔ i.low * den ≤ num * i.den ∧ num * i.den ≤ i.high * den ∧
      (i.closed = false → i.low * den ≠ num * i.den ∧ num * i.den ≠ i.high * den) := by
    rw [← hlow, ← hhigh, ne_eq, ← hlow', ne_eq, ← hhigh']
    constructor
    · intro h
      exact ⟨h.low, h.high, h.ends⟩
    · intro h
      obtain ⟨h₁, h₂, h₃⟩ := h
      exact ⟨h₁, h₂, h₃⟩
  rw [hcontains]
  cases hclosed : i.closed
  · simp only [Interval.holds, hclosed, if_false, Bool.false_eq_true, Bool.and_eq_true,
      decide_eq_true_eq, true_implies]
    omega
  · simp only [Interval.holds, hclosed, if_true, Bool.and_eq_true, decide_eq_true_eq,
      Bool.true_eq_false, false_implies, and_true]

section
variable {s : Nat} {p : Int}

theorem Interval.of_eq (hs : 0 < s) :
    0 < (Interval.of s p).den ∧
      ((Interval.of s p).low : ℚ) = (s - reach s p / 4) * 2 ^ p * (Interval.of s p).den ∧
      ((Interval.of s p).value : ℚ) = s * 2 ^ p * (Interval.of s p).den ∧
      ((Interval.of s p).high : ℚ) = (s + 1 / 2) * 2 ^ p * (Interval.of s p).den := by
  have hlow : ((4 * s - reach s p : Nat) : ℚ) = 4 * s - reach s p := by
    rw [Nat.cast_sub (le_trans (reach_le s p) (by omega))]
    push_cast
    rfl
  have hquarter : (2 : ℚ) ^ p = 4 * 2 ^ (p - 2) := by
    rw [zpow_sub₀ (by norm_num)]
    norm_num
    ring
  have hlowDef : (Interval.of s p).low =
      (4 * s - reach s p) * if p < 2 then 1 else 2 ^ (p - 2).natAbs := rfl
  rw [hlowDef, hquarter]
  by_cases hp : p < 2
  · simp only [Interval.of, hp, if_true]
    rw [zpow_natAbs_of_neg (show p - 2 < 0 by omega)]
    push_cast
    rw [hlow]
    refine ⟨by positivity, ?_, ?_, ?_⟩
    · field_simp
    · field_simp
    · field_simp
      ring
  · simp only [Interval.of, hp, if_false]
    rw [zpow_natAbs_of_nonneg (show 0 ≤ p - 2 by omega)]
    push_cast
    rw [hlow]
    refine ⟨trivial, ?_, ?_, ?_⟩ <;> ring

theorem Interval.contains_of (hs : 0 < s) (q : ℚ) : (Interval.of s p).Contains q ↔ RoundsTo q s p := by
  obtain ⟨hden, hlow, -, hhigh⟩ := Interval.of_eq (p := p) hs
  have hpos : (0 : ℚ) < (Interval.of s p).den := by exact_mod_cast hden
  have hclosed : (Interval.of s p).closed = false ↔ s % 2 = 1 := by
    simp [Interval.of]
  have hle (a b : ℚ) : a * (Interval.of s p).den ≤ b * (Interval.of s p).den ↔ a ≤ b :=
    mul_le_mul_iff_left₀ hpos
  have heq (a b : ℚ) : a * (Interval.of s p).den = b * (Interval.of s p).den ↔ a = b :=
    mul_left_inj' hpos.ne'
  constructor
  · intro h
    obtain ⟨h₁, h₂, h₃⟩ := h
    rw [hlow, hle] at h₁
    rw [hhigh, hle] at h₂
    rw [hclosed, hlow, hhigh, ne_eq, ne_eq, heq, heq] at h₃
    exact ⟨h₁, h₂, h₃⟩
  · intro h
    obtain ⟨h₁, h₂, h₃⟩ := h
    refine ⟨?_, ?_, ?_⟩
    · rwa [hlow, hle]
    · rwa [hhigh, hle]
    · rwa [hclosed, hlow, hhigh, ne_eq, ne_eq, heq, heq]

/-! ## Hits -/

theorem Interval.magnitude_le {i : Interval} (hv : 0 < i.value) (hd : 0 < i.den) :
    (10 : ℚ) ^ i.magnitude * i.den ≤ i.value := by
  obtain ⟨hlow, -⟩ := zpow_digitCount_le hv
  obtain ⟨-, hhigh⟩ := zpow_digitCount_le hd
  have hguess : (10 : ℚ) ^ ((digitCount i.value : Int) - digitCount i.den - 1) * i.den ≤ i.value := by
    calc (10 : ℚ) ^ ((digitCount i.value : Int) - digitCount i.den - 1) * i.den
        ≤ 10 ^ ((digitCount i.value : Int) - digitCount i.den - 1) * 10 ^ (digitCount i.den : Int) :=
          mul_le_mul_of_nonneg_left hhigh.le (ten_zpow_pos _).le
      _ = 10 ^ ((digitCount i.value : Int) - 1) := by
          rw [← zpow_add₀ (by norm_num)]
          congr 1
          omega
      _ ≤ i.value := hlow
  simp only [Interval.magnitude]
  generalize (digitCount i.value : Int) - digitCount i.den = guess at *
  by_cases hg : guess < 0
  · simp only [hg, if_true]
    split
    · next h =>
      rw [zpow_natAbs_of_neg hg, inv_mul_le_iff₀ (by positivity)]
      rw [mul_comm]
      exact_mod_cast h
    · exact hguess
  · simp only [hg, if_false]
    split
    · next h =>
      rw [zpow_natAbs_of_nonneg (not_lt.1 hg), mul_comm]
      exact_mod_cast h
    · exact hguess

def gridStep (e : Int) : Nat × Nat :=
  (if e < 0 then 1 else 10 ^ e.natAbs, if e < 0 then 10 ^ e.natAbs else 1)

theorem gridStep_eq (e : Int) : 0 < (gridStep e).1 ∧ 0 < (gridStep e).2 ∧
    ((gridStep e).1 : ℚ) / (gridStep e).2 = 10 ^ e := by
  unfold gridStep
  by_cases he : e < 0
  · simp only [he, if_true]
    refine ⟨one_pos, by positivity, ?_⟩
    rw [zpow_natAbs_of_neg he]
    push_cast
    rw [one_div]
  · simp only [he, if_false]
    refine ⟨by positivity, one_pos, ?_⟩
    rw [zpow_natAbs_of_nonneg (not_lt.1 he)]
    push_cast
    rw [div_one]

theorem Interval.holds_grid (i : Interval) (e : Int) (n : Nat) :
    i.holds (n * (gridStep e).1) (gridStep e).2 = true ↔ i.Contains (n * 10 ^ e) := by
  obtain ⟨-, hpos, hstep⟩ := gridStep_eq e
  rw [i.holds_iff _ hpos, ← hstep]
  push_cast
  rw [mul_div_assoc]

def Interval.below (i : Interval) (e : Int) : Nat :=
  (i.value * (gridStep e).2) / (i.den * (gridStep e).1)

/-- A hit is one of the two neighbours of the value, and there is one if the interval holds either. -/
theorem Interval.hit?_spec (i : Interval) (e : Int) :
    (∀ d, i.hit? e = some d → i.Contains d.value) ∧
      (i.Contains (i.below e * 10 ^ e) ∨ i.Contains ((i.below e + 1 : Nat) * 10 ^ e) →
        ∃ d, i.hit? e = some d) := by
  have hhit : i.hit? e =
      let fits (n : Nat) : Bool := i.holds (n * (gridStep e).1) (gridStep e).2
      let toBelow := i.value * (gridStep e).2 - i.below e * (gridStep e).1 * i.den
      let toAbove := (i.below e + 1) * (gridStep e).1 * i.den - i.value * (gridStep e).2
      let nearer := if toBelow < toAbove ∨ (toBelow = toAbove ∧ i.below e % 2 = 0) then i.below e
        else i.below e + 1
      if fits (i.below e) && fits (i.below e + 1) then some ⟨nearer, e⟩
      else if fits (i.below e) then some ⟨i.below e, e⟩
      else if fits (i.below e + 1) then some ⟨i.below e + 1, e⟩
      else none := rfl
  rw [← i.holds_grid, ← i.holds_grid, hhit]
  have hcontains (n : Nat) : i.holds (n * (gridStep e).1) (gridStep e).2 = true →
      i.Contains (Decimal.value ⟨n, e⟩) := (i.holds_grid e n).1
  cases hb : i.holds (i.below e * (gridStep e).1) (gridStep e).2 <;>
    cases ha : i.holds ((i.below e + 1) * (gridStep e).1) (gridStep e).2
  · simp [hb, ha]
  · simpa [hb, ha] using hcontains _ ha
  · simpa [hb, ha] using hcontains _ hb
  · simp only [hb, ha, Bool.and_self, if_true, Option.some.injEq, exists_eq', implies_true, and_true]
    intro d hd
    subst hd
    split
    · exact hcontains _ hb
    · exact hcontains _ ha

theorem Interval.below_le {i : Interval} (hd : 0 < i.den) (e : Int) :
    i.below e * 10 ^ e * i.den ≤ (i.value : ℚ) ∧ (i.value : ℚ) < (i.below e + 1 : Nat) * 10 ^ e * i.den := by
  obtain ⟨hup, hden, hstep⟩ := gridStep_eq e
  have hpos : (0 : ℚ) < (gridStep e).2 := by exact_mod_cast hden
  have hmul : 0 < i.den * (gridStep e).1 := Nat.mul_pos hd hup
  have hle : i.below e * (i.den * (gridStep e).1) ≤ i.value * (gridStep e).2 := Nat.div_mul_le_self _ _
  have hlt : i.value * (gridStep e).2 < (i.below e + 1) * (i.den * (gridStep e).1) :=
    (Nat.div_lt_iff_lt_mul hmul).1 (Nat.lt_succ_self _)
  rw [← hstep]
  constructor
  · rw [mul_div_assoc', div_mul_eq_mul_div, div_le_iff₀ hpos]
    calc (i.below e : ℚ) * (gridStep e).1 * i.den = (i.below e * (i.den * (gridStep e).1) : Nat) := by
          push_cast
          ring
      _ ≤ (i.value * (gridStep e).2 : Nat) := by exact_mod_cast hle
      _ = i.value * (gridStep e).2 := by push_cast; rfl
  · rw [mul_div_assoc', div_mul_eq_mul_div, lt_div_iff₀ hpos]
    calc (i.value : ℚ) * (gridStep e).2 = (i.value * (gridStep e).2 : Nat) := by push_cast; rfl
      _ < ((i.below e + 1) * (i.den * (gridStep e).1) : Nat) := by exact_mod_cast hlt
      _ = (i.below e + 1 : Nat) * (gridStep e).1 * i.den := by
          push_cast
          ring

theorem roundsTo_of_lt {q : ℚ} (hlow : (s - reach s p / 4) * 2 ^ p < q) (hhigh : q < (s + 1 / 2) * 2 ^ p) :
    RoundsTo q s p :=
  ⟨hlow.le, hhigh.le, fun _ => ⟨hlow.ne, hhigh.ne⟩⟩

/-- A grid that is finer than the interval of a number is wide has a hit. -/
theorem Interval.hit?_of_fine (hs : 0 < s) {e : Int}
    (he : (10 : ℚ) ^ e < (reach s p / 4 + 1 / 2) * 2 ^ p) :
    ∃ d, (Interval.of s p).hit? e = some d := by
  obtain ⟨hden, -, hvalue, -⟩ := Interval.of_eq (p := p) hs
  have hpos : (0 : ℚ) < (Interval.of s p).den := by exact_mod_cast hden
  obtain ⟨hbelow, habove⟩ := Interval.below_le hden e
  refine ((Interval.of s p).hit?_spec e).2 ?_
  rw [contains_of hs, contains_of hs]
  rw [hvalue] at hbelow habove
  have hbelow := le_of_mul_le_mul_right hbelow hpos
  have habove := lt_of_mul_lt_mul_right habove hpos.le
  generalize (Interval.of s p).below e = n at *
  push_cast at habove ⊢
  have hstep := ten_zpow_pos e
  have hunit := two_zpow_pos p
  -- if the point below the value is out of the interval, the one above is within it
  by_cases hclose : (s - reach s p / 4) * 2 ^ p < (n : ℚ) * 10 ^ e
  · exact .inl (roundsTo_of_lt hclose (by linarith))
  · have hreach : (0 : ℚ) ≤ reach s p / 4 * 2 ^ p := by positivity
    exact .inr (roundsTo_of_lt (by linarith) (by linarith))

/-- Seventeen digits make a grid that is fine enough. -/
theorem Interval.fine (hs : 0 < s) (hs' : s < 2 ^ 53) :
    (10 : ℚ) ^ ((Interval.of s p).magnitude - 16) < (reach s p / 4 + 1 / 2) * 2 ^ p := by
  obtain ⟨hden, -, hvalue, -⟩ := Interval.of_eq (p := p) hs
  have hpos : (0 : ℚ) < (Interval.of s p).den := by exact_mod_cast hden
  have hunit := two_zpow_pos p
  have hs₀ : (0 : ℚ) < s := by exact_mod_cast hs
  have hvpos : 0 < (Interval.of s p).value := by
    have : (0 : ℚ) < (Interval.of s p).value := by
      rw [hvalue]
      positivity
    exact_mod_cast this
  have hmag := Interval.magnitude_le hvpos hden
  rw [hvalue] at hmag
  have hmag := le_of_mul_le_mul_right hmag hpos
  have hsplit : (10 : ℚ) ^ (Interval.of s p).magnitude =
      10 ^ ((Interval.of s p).magnitude - 16) * 10 ^ 16 := by
    rw [← zpow_natCast, ← zpow_add₀ (by norm_num)]
    congr 1
    push_cast
    omega
  rw [hsplit] at hmag
  -- above a power of two the interval is narrower, and the number is smaller
  unfold reach
  split
  · next h =>
    have hs₁ : (s : ℚ) = 2 ^ 52 := by exact_mod_cast h.1
    rw [hs₁] at hmag
    push_cast
    linarith
  · have hs₁ : (s : ℚ) ≤ 2 ^ 53 := by exact_mod_cast hs'.le
    have := mul_le_mul_of_nonneg_right hs₁ hunit.le
    push_cast
    linarith

-- The grids before the one that is known to have a hit may have one as well.
theorem Interval.search_spec (i : Interval) : ∀ fuel count : Nat,
    (∃ k : Nat, count ≤ k ∧ k < count + fuel ∧ ∃ d, i.hit? (i.magnitude - k) = some d) →
      ∃ d, i.search fuel count = some d ∧ i.Contains d.value
  | 0, count, ⟨k, hle, hlt, _⟩ => absurd hlt (by omega)
  | fuel + 1, count, ⟨k, hle, hlt, hhit⟩ => by
    simp only [search]
    split
    · next d hd => exact ⟨d, rfl, (i.hit?_spec _).1 d hd⟩
    · next hnone =>
      have hne : k ≠ count := by
        intro heq
        subst heq
        obtain ⟨d, hd⟩ := hhit
        simp [hnone] at hd
      exact search_spec i fuel (count + 1) ⟨k, by omega, by omega, hhit⟩

theorem Decimal.value_trim : ∀ (fuel : Nat) (d : Decimal), (d.trim fuel).value = d.value
  | 0, _ => rfl
  | fuel + 1, d => by
    simp only [trim]
    split
    · next h =>
      rw [value_trim fuel]
      have hdigits : (d.digits : ℚ) = ((d.digits / 10 : Nat) : ℚ) * 10 := by
        exact_mod_cast (Nat.div_mul_cancel (Nat.dvd_of_mod_eq_zero h.2)).symm
      simp only [value]
      rw [hdigits, zpow_add_one₀ (by norm_num)]
      ring
    · rfl

/-- **The shortest decimal of a number is rounded to it.** -/
theorem shortest_spec (hs : 0 < s) (hs' : s < 2 ^ 53) : RoundsTo (shortest s p).value s p := by
  obtain ⟨d, hsearch, hcontains⟩ := (Interval.of s p).search_spec 17 0
    ⟨16, Nat.zero_le _, by decide, Interval.hit?_of_fine hs (Interval.fine hs hs')⟩
  rw [shortest, hsearch]
  simp only [Decimal.value_trim]
  exact (Interval.contains_of hs _).1 hcontains

theorem shortest_pos (hs : 0 < s) (hs' : s < 2 ^ 53) : 0 < (shortest s p).digits := by
  apply Nat.pos_of_ne_zero
  intro h
  have := (shortest_spec (p := p) hs hs').pos hs
  simp [Decimal.value, h] at this

end

end SolidityGateway.Binary64
