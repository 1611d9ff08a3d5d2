import BrainV2.Money.BrainMetrics
import BrainV2.Money.LibMetrics

/-!
# Money in both languages

The two libraries should convert an amount to the same minor units: the integer
nearest to the amount times the multiplier, ties to even.

* `ConvertsCorrectly`: both do, for one amount and one power of ten;
* `libMetrics_iff`: when the TypeScript library does;
* `converts_correctly_iff`: both do exactly when no odd tie is rounded without
  places, the multiplier is written without an exponent or the fraction is
  negligible, and the product fits 28 digits;
* `odd_tie_differs`: an amount that they convert differently.
-/

namespace BrainV2.Money

open Binary64 (Finite)
open BrainMetrics (FitsContext)
open HalfEven (Rounds)
open Js (IsNat)

structure ConvertsTo (a : AmountText) (k : ℕ) (n : ℤ) : Prop where
  rounds : Rounds (a.value * 10 ^ k) n
  libMetrics : ∀ x, IsNat x (10 ^ k) →
    LibMetrics.decimalToMinorUnits a.text (.finite x) = .ok n
  brainMetrics : BrainMetrics.decimalToMinorUnits a.text (10 ^ k) = .ok n

/-- Both libraries give the nearest integer, for every number that is the power of ten. -/
def ConvertsCorrectly (a : AmountText) (k : ℕ) : Prop := ∃ n, ConvertsTo a k n

/-- What the TypeScript library needs: without places, a tie that goes down anyway; and a
multiplier that is not written as `1e+21` or `1e+22`, or a fraction of no account. -/
structure LibMetricsExact (a : AmountText) (k : ℕ) : Prop where
  tie : k = 0 → a.part = 1 / 2 → Even (Digits.value a.whole)
  written : k = 21 ∨ k = 22 → a.part * 10 ^ k ≤ 1 / 2

section

variable {a : AmountText} {k : ℕ} {m n : ℤ}

theorem even_ten_pow (hk : k ≠ 0) (w : ℕ) : Even (w * 10 ^ k : ℤ) := by
  obtain ⟨j, rfl⟩ := Nat.exists_eq_succ_of_ne_zero hk
  exact ⟨w * 5 * 10 ^ j, by rw [Nat.succ_eq_add_one]; ring⟩

/-- The whole part is even in minor units, so only the fraction counts. -/
theorem rounds_shift_iff (hk : k ≠ 0) :
    Rounds (a.magnitude * 10 ^ k) (Digits.value a.whole * 10 ^ k + m) ↔
      Rounds (a.part * 10 ^ k) m := by
  have heven := even_ten_pow hk (Digits.value a.whole)
  have hsplit : a.magnitude * 10 ^ k =
      a.part * 10 ^ k + ((Digits.value a.whole * 10 ^ k : ℤ) : ℚ) := by
    rw [a.magnitude_eq]
    push_cast
    ring
  constructor
  · intro h
    have hback := h.add_even heven.neg
    rw [hsplit] at hback
    push_cast at hback
    have hq : a.part * 10 ^ k + (Digits.value a.whole : ℚ) * 10 ^ k +
        -((Digits.value a.whole : ℚ) * 10 ^ k) = a.part * 10 ^ k := by ring
    have hz : (Digits.value a.whole : ℤ) * 10 ^ k + m + -((Digits.value a.whole : ℤ) * 10 ^ k) =
        m := by ring
    rwa [hq, hz] at hback
  · intro h
    rw [hsplit, add_comm _ m]
    exact h.add_even heven

/-- Four places instead of more are enough for a negligible fraction only. -/
theorem rounds_four_places_iff {p : ℚ} (hp : 0 ≤ p) (hk : 5 ≤ k) (hm : Rounds (p * 10 ^ 4) m) :
    Rounds (p * 10 ^ k) m ↔ p * 10 ^ k ≤ 1 / 2 := by
  have hscale : 10 * (p * 10 ^ 4) ≤ p * 10 ^ k := by
    have hpow : (10 : ℚ) ^ 5 ≤ 10 ^ k := pow_le_pow_right₀ (by norm_num) hk
    nlinarith
  have hnonneg : 0 ≤ p * 10 ^ 4 := by positivity
  have hzero : p * 10 ^ 4 < 1 / 2 → m = 0 := by
    intro hlt
    apply hm.unique (HalfEven.rounds_of_lt _)
    rw [Int.cast_zero, sub_zero, abs_of_nonneg hnonneg]
    exact hlt
  constructor
  · intro h
    obtain ⟨hlow, hhigh⟩ := abs_le.mp h.near
    obtain ⟨hlow', hhigh'⟩ := abs_le.mp hm.near
    have hm0 := hzero (by linarith)
    rw [hm0, Int.cast_zero] at hhigh
    linarith
  · intro hle
    rw [hzero (by linarith)]
    constructor
    · rw [Int.cast_zero, sub_zero, abs_of_nonneg (by positivity)]
      exact hle
    · exact fun _ => Even.zero

/-- Without places a half is rounded down, whatever the whole part. -/
theorem rounds_whole_iff (hm : Rounds a.part m) :
    Rounds a.magnitude (Digits.value a.whole + m) ↔
      (a.part = 1 / 2 → Even (Digits.value a.whole)) := by
  rw [a.magnitude_eq]
  by_cases htie : a.part = 1 / 2
  · have hm0 : m = 0 := by
      apply hm.unique
      have h : Rounds ((0 : ℤ) + 1 / 2) 0 :=
        HalfEven.rounds_half_iff.mpr (Or.inl ⟨rfl, Even.zero⟩)
      rwa [Int.cast_zero, zero_add, ← htie] at h
    have h := HalfEven.rounds_half_iff (k := Digits.value a.whole) (n := Digits.value a.whole)
    rw [Int.cast_natCast] at h
    rw [htie, hm0, add_zero, h, ← Int.even_coe_nat]
    constructor
    · rintro (⟨-, heven⟩ | ⟨hne, -⟩) -
      · exact heven
      · omega
    · intro heven
      exact Or.inl ⟨rfl, heven rfl⟩
  · refine iff_of_true ?_ fun h => absurd h htie
    have hlt : |a.part - m| < 1 / 2 := by
      apply lt_of_le_of_ne hm.near
      intro heq
      have hnonneg := a.part_nonneg
      have hone := a.part_lt_one
      rcases abs_eq (by norm_num) |>.mp heq with h | h
      · have hm' : (m : ℚ) = 0 := by
          have hlow : (-1 : ℚ) < m := by linarith
          have hhigh : (m : ℚ) < 1 := by linarith
          norm_cast at hlow hhigh
          have : m = 0 := by omega
          exact_mod_cast this
        exact htie (by linarith)
      · have hm' : (m : ℚ) = 1 := by
          have hlow : (0 : ℚ) < m := by linarith
          have hhigh : (m : ℚ) < 2 := by linarith
          norm_cast at hlow hhigh
          have : m = 1 := by omega
          exact_mod_cast this
        exact htie (by linarith)
    apply HalfEven.rounds_of_lt
    push_cast
    rwa [add_sub_add_left_eq_sub]

theorem rounds_libMetrics_iff (hk : k ≤ 22)
    (hm : Rounds (a.part * 10 ^ LibMetrics.placesOf k) m) :
    Rounds (a.magnitude * 10 ^ k) (Digits.value a.whole * 10 ^ k + m) ↔ LibMetricsExact a k := by
  unfold LibMetrics.placesOf at hm
  by_cases hzero : k = 0
  · subst hzero
    simp only [Nat.zero_le, if_true, pow_zero, mul_one] at hm ⊢
    rw [rounds_whole_iff hm]
    constructor
    · intro h
      exact ⟨fun _ => h, by omega⟩
    · intro h
      exact h.tie rfl
  rw [rounds_shift_iff hzero]
  by_cases hplain : k ≤ 20
  · rw [if_pos hplain] at hm
    exact iff_of_true hm ⟨fun h => absurd h hzero, by omega⟩
  · rw [if_neg hplain] at hm
    rw [rounds_four_places_iff a.part_nonneg (by omega) hm]
    constructor
    · intro h
      exact ⟨fun h => absurd h hzero, fun _ => h⟩
    · intro h
      exact h.written (by omega)

/-! ### Both libraries -/

/-- The sign does not matter. -/
theorem rounds_value_iff : Rounds (a.value * 10 ^ k) (if a.isNegative then -n else n) ↔
    Rounds (a.magnitude * 10 ^ k) n := by
  rw [AmountText.value, AmountText.signed]
  cases a.isNegative with
  | false => simp
  | true =>
    simp only [if_true]
    constructor
    · intro h
      have hneg := h.neg
      rwa [neg_mul, neg_neg, neg_neg] at hneg
    · intro h
      rw [neg_mul]
      exact h.neg

/-- Every number is rounded to an integer. -/
theorem exists_rounds : ∃ n : ℤ, Rounds (a.magnitude * 10 ^ k) n := by
  have h := HalfEven.nearest_rounds (Digits.value (a.whole ++ a.places) * 10 ^ k)
    (Nat.pow_pos (n := a.places.length) (by omega : 0 < 10))
  have hsame : ((Digits.value (a.whole ++ a.places) * 10 ^ k : ℕ) : ℚ) /
      (10 ^ a.places.length : ℕ) = a.magnitude * 10 ^ k := by
    rw [AmountText.magnitude]
    push_cast
    ring
  rw [hsame] at h
  exact ⟨_, h⟩

theorem libMetrics_iff {x : Finite} (hx : IsNat x (10 ^ k))
    (hn : Rounds (a.magnitude * 10 ^ k) n) :
    LibMetrics.decimalToMinorUnits a.text (.finite x) = .ok (if a.isNegative then -n else n) ↔
      LibMetricsExact a k := by
  obtain ⟨m, hm, hresult⟩ := LibMetrics.decimalToMinorUnits_amount a hx
  rw [hresult, ← rounds_libMetrics_iff (Js.ten_pow_le hx) hm, Except.ok.injEq]
  have hsame : Digits.value a.whole * 10 ^ k + m = n ↔
      Rounds (a.magnitude * 10 ^ k) (Digits.value a.whole * 10 ^ k + m) := by
    constructor
    · rintro rfl
      exact hn
    · intro h
      exact h.unique hn
  rw [← hsame]
  cases a.isNegative with
  | false => simp
  | true => simp only [if_true, neg_inj]

/-- A number from its mantissa and its scale. -/
theorem isNat_of_units {x : Finite} {w : ℕ} {j : ℕ} (hsign : x.negative = false)
    (hmantissa : x.mantissa = w * 2 ^ j) (hscale : j + x.scale = k + 1074) (hw : w = 5 ^ k) :
    IsNat x (10 ^ k) where
  sign := hsign
  units := by
    rw [Finite.units, hmantissa, mul_assoc, ← pow_add, hscale, hw, Binary64.ten_pow, mul_assoc,
      ← pow_add]

/-- The powers of ten at which the conversion goes other ways are numbers. -/
theorem exists_isNat (hk : k = 0 ∨ k = 21 ∨ k = 22) : ∃ x, IsNat x (10 ^ k) := by
  rcases hk with rfl | rfl | rfl
  · exact ⟨⟨false, 1 * 2 ^ 52, 1022, by norm_num⟩, isNat_of_units rfl rfl rfl rfl⟩
  · exact ⟨⟨false, 5 ^ 21 * 2 ^ 4, 1091, by norm_num⟩, isNat_of_units rfl rfl rfl rfl⟩
  · exact ⟨⟨false, 5 ^ 22 * 2 ^ 1, 1095, by norm_num⟩, isNat_of_units rfl rfl rfl rfl⟩

/-- Both libraries convert an amount correctly exactly when each gets its own condition. -/
theorem converts_correctly_iff : ConvertsCorrectly a k ↔
    LibMetricsExact a k ∧ FitsContext (a.magnitude * 10 ^ k) := by
  obtain ⟨n, hn⟩ := exists_rounds (a := a) (k := k)
  have hvalue : Rounds (a.value * 10 ^ k) (if a.isNegative then -n else n) :=
    rounds_value_iff.mpr hn
  have hbrain := BrainMetrics.decimalToMinorUnits_iff a k hn
  constructor
  · rintro ⟨n', hrounds, hlib, hbrainOk⟩
    obtain rfl := hrounds.unique hvalue
    refine ⟨?_, hbrain.mp hbrainOk⟩
    by_cases hk : k = 0 ∨ k = 21 ∨ k = 22
    · obtain ⟨x, hx⟩ := exists_isNat hk
      exact (libMetrics_iff hx hn).mp (hlib x hx)
    · exact ⟨fun h => absurd (Or.inl h) hk, fun h => absurd (Or.inr h) hk⟩
  · rintro ⟨hexact, hfits⟩
    exact ⟨_, hvalue, fun x hx => (libMetrics_iff hx hn).mpr hexact, hbrain.mpr hfits⟩

end

/-! ### An odd tie -/

/-- `1.5`, in a currency without places. -/
def oneAndAHalf : AmountText where
  sign := .none
  whole := ['1']
  fraction := some ['5']
  digits := List.all_eq_true.mp (by decide)
  someDigit := by decide

/-- One library rounds it down to an odd number, the other one up to two. -/
theorem odd_tie_differs :
    ((∀ x, IsNat x (10 ^ 0) → LibMetrics.decimalToMinorUnits "1.5" (.finite x) = .ok 1) ∧
      BrainMetrics.decimalToMinorUnits "1.5" (10 ^ 0) = .ok 2) ∧
    ¬ ConvertsCorrectly oneAndAHalf 0 := by
  have htext : oneAndAHalf.text = "1.5" := by decide
  have hlib : ∀ x, IsNat x (10 ^ 0) →
      LibMetrics.decimalToMinorUnits "1.5" (.finite x) = .ok 1 := by
    intro x hx
    obtain ⟨m, hm, hresult⟩ := LibMetrics.decimalToMinorUnits_amount oneAndAHalf hx
    have hhalf : oneAndAHalf.part * 10 ^ LibMetrics.placesOf 0 = (0 : ℤ) + 1 / 2 := by
      have hvalue : Digits.value oneAndAHalf.places = 5 := by decide
      rw [AmountText.part, hvalue]
      norm_num [AmountText.places, oneAndAHalf, LibMetrics.placesOf]
    rw [hhalf] at hm
    obtain rfl : m = 0 := hm.unique (HalfEven.rounds_half_iff.mpr (Or.inl ⟨rfl, Even.zero⟩))
    rw [htext] at hresult
    exact hresult
  have hbrain : BrainMetrics.decimalToMinorUnits "1.5" (10 ^ 0) = .ok 2 := by rfl
  refine ⟨⟨hlib, hbrain⟩, ?_⟩
  rintro ⟨n, -, hlibOk, hbrainOk⟩
  obtain ⟨x, hx⟩ := exists_isNat (k := 0) (Or.inl rfl)
  rw [htext] at hlibOk hbrainOk
  have hone := (hlib x hx).symm.trans (hlibOk x hx)
  have htwo := hbrain.symm.trans hbrainOk
  rw [Except.ok.injEq] at hone htwo
  omega

end BrainV2.Money
