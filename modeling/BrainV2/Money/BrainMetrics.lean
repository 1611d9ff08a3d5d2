import BrainV2.Money.AmountText
import BrainV2.Py.Decimal

/-!
# Money in the Python library

* `decimalToMinorUnits`: a decimal text in minor units, as a product of decimal
  numbers that is quantized to an integer;
* `ofText_amount`: the text of an amount is read exactly;
* `FalseHalf`: the product is close to a half, beyond it, and is taken for it;
* `decimalToMinorUnits_iff`: the conversion rounds correctly exactly when the
  result has at most 28 digits and no half is mistaken.
-/

namespace BrainV2.BrainMetrics

open HalfEven (Beyond Rounds)
open Money (AmountText)
open Py (Decimal DecimalExc)

def decimalToMinorUnits (amount : String) (subunitMultiplier : Int) : Except DecimalExc Int := do
  let d ← Decimal.ofText amount
  let scaled ← d.mulInt subunitMultiplier
  let quantized ← scaled.quantizeOne
  quantized.toInt

/-! ### Reading the amount -/

theorem isDigit_digit (c : Char) (h : c.isDigit = true) : Decimal.isDigit c = true := by
  rw [Decimal.isDigit, Py.decimalDigit_of_isDigit h]
  rfl

theorem digitsValue_digits {ds : List Char} (hds : ∀ c ∈ ds, c.isDigit = true) :
    Decimal.digitsValue ds = Digits.value ds := by
  have hfold : ∀ n, ds.foldl (fun n c => 10 * n + (Py.decimalDigit c).getD 0) n =
      Nat.ofDigitChars 10 ds n := by
    induction ds with
    | nil => intro n; rfl
    | cons c cs ih =>
      intro n
      rw [List.foldl_cons, ih (fun c hc => hds c (List.mem_cons_of_mem _ hc)),
        Py.decimalDigit_of_isDigit (hds c List.mem_cons_self), Nat.ofDigitChars_cons]
      rfl
  exact hfold 0

theorem isBlank_digit (c : Char) (h : c.isDigit = true) : Decimal.isBlank c = false := by
  have hbounds := Digits.isDigit_bounds h
  rw [← Bool.not_eq_true]
  intro hblank
  simp only [Decimal.isBlank, Py.isSpace, Bool.or_eq_true, Bool.and_eq_true, decide_eq_true_eq,
    beq_iff_eq] at hblank
  omega

section

variable (a : AmountText)

/-- Nothing is stripped, and no underscore is there to be dropped. -/
theorem strip_chars :
    ((a.chars.dropWhile Decimal.isBlank).rdropWhile Decimal.isBlank).filter (· ≠ '_') =
      a.chars := by
  rw [Digits.trimmed_eq_self, List.filter_eq_self]
  · refine a.forall_mem_chars (fun c hc => ?_) (by decide) (by decide) (by decide)
    apply decide_eq_true
    rintro rfl
    cases hc
  · exact a.forall_mem_chars isBlank_digit (by decide) (by decide) (by decide)

theorem splitDigits_whole : (Decimal.splitDigits a.magnitudeText).1 = a.whole :=
  a.takeWhile_magnitudeText isDigit_digit (by decide)

theorem splitFraction_places :
    Decimal.splitFraction (Decimal.splitDigits a.magnitudeText).2 = (a.places, []) := by
  have hdigits : ∀ c ∈ a.places, Decimal.isDigit c = true :=
    fun c hc => isDigit_digit c (a.isDigit_of_mem_places hc)
  have hrest : (Decimal.splitDigits a.magnitudeText).2 = _ :=
    a.dropWhile_magnitudeText isDigit_digit (by decide)
  rw [hrest]
  unfold AmountText.places at *
  cases h : a.fraction with
  | none => rfl
  | some places =>
    rw [h, Option.getD_some] at hdigits
    simp only [Decimal.splitFraction, Decimal.splitDigits, Option.getD_some, Prod.mk.injEq,
      List.takeWhile_eq_self_iff, List.dropWhile_eq_nil_iff]
    exact ⟨hdigits, hdigits⟩

theorem scanMagnitude_amount (negative : Bool) :
    Decimal.scanMagnitude negative a.magnitudeText =
      some (.finite negative (Digits.value (a.whole ++ a.places)) (-a.places.length)) := by
  have hwhole := splitDigits_whole a
  have hplaces := splitFraction_places a
  have hsome : a.whole ++ a.places ≠ [] := a.someDigit
  have hvalue : Decimal.digitsValue (a.whole ++ a.places) = _ := digitsValue_digits a.digits
  unfold Decimal.scanMagnitude
  cases hsplit : Decimal.splitDigits a.magnitudeText with
  | mk whole rest =>
    rw [hsplit] at hwhole hplaces
    simp only at hwhole hplaces
    simp only [hwhole, hplaces, if_pos hsome, hvalue]
    simp [Decimal.scanExponent, AmountText.places]

/-- A text that starts with no sign is scanned as a magnitude. -/
theorem scan_magnitude {cs : List Char} (hminus : cs.head? ≠ some '-')
    (hplus : cs.head? ≠ some '+') : Decimal.scan cs = Decimal.scanMagnitude false cs := by
  unfold Decimal.scan
  split
  · exact absurd rfl hminus
  · exact absurd rfl hplus
  · rfl

theorem ofText_amount : Decimal.ofText a.text =
    .ok (.finite a.isNegative (Digits.value (a.whole ++ a.places)) (-a.places.length)) := by
  have hscan : Decimal.scan a.chars = Decimal.scanMagnitude a.isNegative a.magnitudeText := by
    rw [AmountText.chars, AmountText.isNegative]
    cases h : a.sign with
    | none =>
      exact scan_magnitude (a.head_magnitudeText rfl (by decide))
        (a.head_magnitudeText rfl (by decide))
    | plus => rfl
    | minus => rfl
  rw [Decimal.ofText, AmountText.text, String.toList_ofList, strip_chars, hscan,
    scanMagnitude_amount]

end

/-! ### Rounding to 28 digits and then to an integer -/

/-- To 28 digits the number is the half above `k`, but it goes another way than that half. -/
def FalseHalf (v : ℚ) (k : ℤ) : Prop :=
  ∃ j : ℕ, 10 ^ 27 ≤ v * 10 ^ (j + 1) ∧ v * 10 ^ (j + 1) < 10 ^ 28 ∧
    Rounds (v * 10 ^ (j + 1)) ((2 * k + 1) * (5 * 10 ^ j)) ∧ Beyond v k

/-- The number fits into 28 digits, and no half is mistaken. -/
structure FitsContext (v : ℚ) : Prop where
  small : v + 1 / 2 < 10 ^ 28
  noHalf : ∀ k, ¬ FalseHalf v k

section

variable {v s : ℚ} {r : ℕ}

/-- The half below an even number goes up. -/
theorem lt_even_iff {n m : ℤ} (hn : Even n) (h : Rounds v m) : m < n ↔ v + 1 / 2 < n := by
  obtain ⟨hlow, hhigh⟩ := abs_le.mp h.near
  constructor
  · intro hlt
    have hle : (m : ℚ) + 1 ≤ n := by exact_mod_cast hlt
    apply lt_of_le_of_ne (by linarith)
    intro heq
    -- The only half this close is the one above an odd number.
    have hm : (m : ℚ) + 1 = n := by linarith
    have hm' : m + 1 = n := by exact_mod_cast hm
    have heven := h.even (by rw [abs_of_nonneg (by linarith)]; linarith)
    rw [← hm'] at hn
    exact Int.even_add_one.mp hn heven
  · intro hlt
    have hlt' : (m : ℚ) < n := by linarith
    exact_mod_cast hlt'

/-- A number has 28 digits at one place only. -/
theorem places_unique {i j : ℤ} (hi : 10 ^ 27 ≤ v * 10 ^ i) (hi' : v * 10 ^ i < 10 ^ 28)
    (hj : 10 ^ 27 ≤ v * 10 ^ j) (hj' : v * 10 ^ j < 10 ^ 28) : i = j := by
  have hle : ∀ {i j : ℤ}, 10 ^ 27 ≤ v * 10 ^ i → v * 10 ^ j < 10 ^ 28 → j ≤ i := by
    intro i j hi hj
    by_contra hlt
    have hshift : v * 10 ^ j = v * 10 ^ i * 10 ^ (j - i) := by
      rw [mul_assoc, ← zpow_add₀ (by norm_num)]
      congr 2
      omega
    have hten : (10 : ℚ) ^ (1 : ℤ) ≤ 10 ^ (j - i) :=
      zpow_le_zpow_right₀ (by norm_num) (by omega)
    have hmul := mul_le_mul hi hten (by norm_num) ((by norm_num : (0 : ℚ) ≤ 10 ^ 27).trans hi)
    rw [← hshift] at hmul
    norm_num at hmul hj
    linarith
  exact le_antisymm (hle hj hi') (hle hi hj')

theorem half_scaled (k : ℤ) (j : ℕ) :
    (((2 * k + 1) * (5 * 10 ^ j) : ℤ) : ℚ) = (k + 1 / 2) * 10 ^ (j + 1) := by
  push_cast
  ring

theorem FalseHalf.near {k : ℤ} (h : FalseHalf v k) : 0 ≤ v ∧ |v - (k + 1 / 2)| ≤ 1 / 20 := by
  obtain ⟨j, hlow, -, hround, -⟩ := h
  have hpos : (0 : ℚ) < 10 ^ (j + 1) := by positivity
  have hten : (10 : ℚ) ≤ 10 ^ (j + 1) := by
    rw [pow_succ]
    have hone : (1 : ℚ) ≤ 10 ^ j := one_le_pow₀ (by norm_num)
    linarith
  constructor
  · by_contra hneg
    have hneg' := mul_neg_of_neg_of_pos (not_le.mp hneg) hpos
    norm_num at hlow
    linarith
  · have hnear := hround.near
    rw [half_scaled, ← sub_mul, abs_mul, abs_of_pos hpos] at hnear
    have habs := abs_nonneg (v - (k + 1 / 2))
    nlinarith

theorem no_falseHalf_of_small (h : v ≤ 1 / 4) (k : ℤ) : ¬ FalseHalf v k := by
  intro hfalse
  obtain ⟨hnonneg, hnear⟩ := hfalse.near
  obtain ⟨hlow, hhigh⟩ := abs_le.mp hnear
  have hk : (k : ℚ) < 0 := by linarith
  have hk' : (-1 : ℚ) < k := by linarith
  norm_cast at hk hk'
  omega

/-- Twenty-eight digits that are enough are not rounded at all. -/
theorem no_falseHalf_of_exact {c : ℕ} {e : ℤ} (hv : v = Decimal.magnitude c e) (hc : c < 10 ^ 28)
    (k : ℤ) : ¬ FalseHalf v k := by
  rintro ⟨j, hlow, -, hround, hbeyond⟩
  have hshift : v * 10 ^ (j + 1) = c * 10 ^ (e + (j + 1 : ℕ)) := by
    rw [hv, Decimal.magnitude, mul_assoc, zpow_add₀ (by norm_num), zpow_natCast]
  generalize e + ((j + 1 : ℕ) : ℤ) = x at hshift
  have hexponent : 0 ≤ x := by
    by_contra hneg
    have hten : (10 : ℚ) ^ x ≤ 10 ^ (-1 : ℤ) :=
      zpow_le_zpow_right₀ (by norm_num) (by omega)
    have hc' : (c : ℚ) < 10 ^ 28 := by exact_mod_cast hc
    have hmul := mul_le_mul_of_nonneg_left hten (Nat.cast_nonneg c : (0 : ℚ) ≤ c)
    rw [hshift] at hlow
    rw [zpow_neg_one] at hmul
    linarith
  have hint : v * 10 ^ (j + 1) = ((c * 10 ^ x.toNat : ℕ) : ℤ) := by
    rw [hshift]
    push_cast
    rw [← zpow_natCast, Int.toNat_of_nonneg hexponent]
  have hsame : v * 10 ^ (j + 1) = (((2 * k + 1) * (5 * 10 ^ j) : ℤ) : ℚ) := by
    rw [hint] at hround ⊢
    exact congrArg _ ((HalfEven.rounds_intCast _).unique hround)
  rw [half_scaled] at hsame
  have hhalf := mul_right_cancel₀ (by positivity) hsame
  rcases hbeyond with ⟨h, -⟩ | ⟨h, -⟩ <;> linarith

theorem lt_ten_pow_iff (h : Rounds v r) : r < 10 ^ 28 ↔ v + 1 / 2 < 10 ^ 28 := by
  have hlt := lt_even_iff (n := (10 ^ 28 : ℕ)) (by decide) h
  rw [Int.ofNat_lt, Int.cast_natCast, Nat.cast_pow, Nat.cast_ofNat] at hlt
  exact hlt

/-- A half that the digits kept stand for, and that the number is beyond. -/
theorem falseHalf_iff {M k : ℤ} {j : ℕ} (hM : Rounds (v * 10 ^ (j + 1)) M)
    (hlow : 10 ^ 27 ≤ v * 10 ^ (j + 1)) (hhigh : v * 10 ^ (j + 1) < 10 ^ 28) :
    FalseHalf v k ↔ (M : ℚ) / (10 ^ (j + 1) : ℤ) = k + 1 / 2 ∧ Beyond v k := by
  have hpos : (0 : ℚ) < 10 ^ (j + 1) := by positivity
  have hhalf : (M : ℚ) / (10 ^ (j + 1) : ℤ) = k + 1 / 2 ↔ M = (2 * k + 1) * (5 * 10 ^ j) := by
    push_cast
    rw [div_eq_iff hpos.ne', ← half_scaled]
    exact_mod_cast Iff.rfl
  rw [hhalf]
  constructor
  · rintro ⟨j', hlow', hhigh', hround, hbeyond⟩
    have hplaces := places_unique (v := v) (i := (j' + 1 : ℕ)) (j := (j + 1 : ℕ))
      (by rwa [zpow_natCast]) (by rwa [zpow_natCast]) (by rwa [zpow_natCast])
      (by rwa [zpow_natCast])
    obtain rfl : j' = j := by omega
    exact ⟨hM.unique hround, hbeyond⟩
  · rintro ⟨rfl, hbeyond⟩
    exact ⟨j, hlow, hhigh, hM, hbeyond⟩

/-- With places behind the point, rounding twice goes wrong at false halves only. -/
theorem rounds_with_places {M : ℤ} {j : ℕ} (hM : Rounds (v * 10 ^ (j + 1)) M)
    (hlow : 10 ^ 27 ≤ v * 10 ^ (j + 1)) (hhigh : v * 10 ^ (j + 1) < 10 ^ 28)
    (hr : Rounds ((M : ℚ) / (10 ^ (j + 1) : ℤ)) r) :
    r < 10 ^ 28 ∧ Rounds v r ↔ FitsContext v := by
  have hten : (10 : ℚ) ≤ 10 ^ (j + 1) := by
    rw [pow_succ]
    have hone : (1 : ℚ) ≤ 10 ^ j := one_le_pow₀ (by norm_num)
    linarith
  have hsmall : v + 1 / 2 < 10 ^ 28 := by
    by_contra hbig
    have hmul := mul_le_mul (by linarith : (10 ^ 28 : ℚ) - 1 / 2 ≤ v) hten (by norm_num)
      (by linarith)
    norm_num at hmul hhigh
    linarith
  have heven : Even ((10 : ℤ) ^ (j + 1)) := ⟨5 * 10 ^ j, by ring⟩
  have hgrid := HalfEven.rounds_twice_iff (by positivity) heven (by push_cast; exact hM) hr
  have hrSmall : Rounds v r → r < 10 ^ 28 := fun h => (lt_ten_pow_iff h).mpr hsmall
  have hhalves : (∀ k : ℤ, (M : ℚ) / (10 ^ (j + 1) : ℤ) = k + 1 / 2 → ¬ Beyond v k) ↔
      ∀ k, ¬ FalseHalf v k := by
    apply forall_congr'
    intro k
    rw [falseHalf_iff hM hlow hhigh, not_and]
  constructor
  · rintro ⟨-, h⟩
    exact ⟨hsmall, hhalves.mp (hgrid.mp h)⟩
  · rintro ⟨-, h⟩
    have hround := hgrid.mpr (hhalves.mpr h)
    exact ⟨hrSmall hround, hround⟩

/-- Without places there is one rounding. -/
theorem rounds_without_places {M : ℤ} {n : ℕ} (hM : Rounds (v * 10 ^ (-(n : ℤ))) M)
    (hlow : 10 ^ 27 ≤ v * 10 ^ (-(n : ℤ))) (hhigh : v * 10 ^ (-(n : ℤ)) < 10 ^ 28)
    (hr : Rounds (M * 10 ^ (n : ℤ)) r) : r < 10 ^ 28 ∧ Rounds v r ↔ FitsContext v := by
  cases n with
  | zero =>
    have hone : (10 : ℚ) ^ ((0 : ℕ) : ℤ) = 1 := by simp
    simp only [Nat.cast_zero, neg_zero, zpow_zero, mul_one] at hM hlow hhigh hr
    have hsame := (HalfEven.rounds_intCast M).unique hr
    rw [hsame] at hM
    rw [lt_ten_pow_iff hM]
    constructor
    · rintro ⟨hsmall, -⟩
      refine ⟨hsmall, ?_⟩
      rintro k ⟨j, hlow', hhigh', -⟩
      have hplaces := places_unique (v := v) (i := 0) (j := (j + 1 : ℕ)) (by simpa using hlow)
        (by simpa using hhigh) (by rwa [zpow_natCast]) (by rwa [zpow_natCast])
      omega
    · intro hfits
      exact ⟨hfits.small, hM⟩
  | succ n =>
    have hbig : (10 : ℚ) ^ 28 ≤ v := by
      have hpos := Decimal.ten_zpow_pos ((n + 1 : ℕ) : ℤ)
      have hten : (10 : ℚ) ^ (1 : ℤ) ≤ 10 ^ ((n + 1 : ℕ) : ℤ) :=
        zpow_le_zpow_right₀ (by norm_num) (by omega)
      rw [zpow_neg, ← div_eq_mul_inv, le_div_iff₀ hpos] at hlow
      rw [zpow_one] at hten
      linarith
    refine iff_of_false (fun h => ?_) fun h => ?_
    · have hle := (Decimal.rounds_ten_pow 28).mono h.2 hbig
      have hle' : 10 ^ 28 ≤ r := by exact_mod_cast hle
      exact absurd h.1 (Nat.not_lt.mpr hle')
    · have hsmall := h.small
      linarith

/-- A number so small that its exponent is bounded rounds to zero. -/
theorem rounds_tiny {M : ℤ} (hv : 0 ≤ v) (hM : Rounds (v * 10 ^ (-Decimal.etiny)) M)
    (hhigh : v * 10 ^ (-Decimal.etiny) < 10 ^ 28) (hr : Rounds (M * 10 ^ Decimal.etiny) r) :
    r < 10 ^ 28 ∧ Rounds v r ↔ FitsContext v := by
  have hpos := Decimal.ten_zpow_pos Decimal.etiny
  have htiny : (10 : ℚ) ^ 28 * 10 ^ Decimal.etiny ≤ 1 / 4 := by
    have hten : (10 : ℚ) ^ 28 * 10 ^ Decimal.etiny ≤ 10 ^ (-1 : ℤ) := by
      rw [← zpow_natCast, ← zpow_add₀ (by norm_num)]
      apply zpow_le_zpow_right₀ (by norm_num)
      rw [Decimal.etiny_eq]
      norm_num
    rw [zpow_neg_one] at hten
    linarith
  have hsmall : v ≤ 1 / 4 := by
    rw [zpow_neg, ← div_eq_mul_inv, div_lt_iff₀ hpos] at hhigh
    linarith
  have hMlow : 0 ≤ M := by
    apply (HalfEven.rounds_intCast 0).mono hM
    have hscaled := mul_nonneg hv (Decimal.ten_zpow_pos (-Decimal.etiny)).le
    simpa using hscaled
  have hMhigh : (M : ℚ) ≤ 10 ^ 28 := by
    have hle := hM.mono (Decimal.rounds_ten_pow 28) hhigh.le
    exact_mod_cast hle
  have hzero : Rounds (M * 10 ^ Decimal.etiny) 0 := by
    apply HalfEven.rounds_of_lt
    have hM' : (0 : ℚ) ≤ M := by exact_mod_cast hMlow
    have hle := mul_le_mul_of_nonneg_right hMhigh hpos.le
    have hge := mul_nonneg hM' hpos.le
    rw [Int.cast_zero, sub_zero, abs_of_nonneg hge]
    linarith
  obtain rfl : r = 0 := by exact_mod_cast hr.unique hzero
  refine iff_of_true ⟨by decide, ?_⟩ ⟨by linarith, no_falseHalf_of_small hsmall⟩
  apply HalfEven.rounds_of_lt
  rw [Nat.cast_zero, Int.cast_zero, sub_zero, abs_of_nonneg hv]
  linarith

/-- Rounding to 28 digits first is right exactly when the number fits. -/
theorem fixed_rounds_iff (hv : 0 ≤ v) (hs : Decimal.Fixed v s) (hr : Rounds s r) :
    r < 10 ^ 28 ∧ Rounds v r ↔ FitsContext v := by
  rcases hs with ⟨rfl, c, e, hce, hc⟩ | ⟨M, e, rfl, hM, hhigh, hlow⟩
  · rw [lt_ten_pow_iff hr]
    constructor
    · rintro ⟨hsmall, -⟩
      exact ⟨hsmall, no_falseHalf_of_exact hce hc⟩
    · intro hfits
      exact ⟨hfits.small, hr⟩
  by_cases htiny : e = Decimal.etiny
  · subst htiny
    exact rounds_tiny hv hM hhigh hr
  have hlow := hlow.resolve_right htiny
  rcases le_or_gt 0 e with he | he
  · obtain ⟨n, rfl⟩ := Int.eq_ofNat_of_zero_le he
    exact rounds_without_places hM hlow hhigh hr
  · obtain ⟨j, rfl⟩ : ∃ j : ℕ, e = -((j + 1 : ℕ) : ℤ) := ⟨(-e - 1).toNat, by omega⟩
    rw [neg_neg, zpow_natCast] at hM hlow hhigh
    apply rounds_with_places hM hlow hhigh
    rw [zpow_neg, zpow_natCast, ← div_eq_mul_inv] at hr
    push_cast
    exact hr

end

/-! ### The conversion -/

section

variable (a : AmountText) (k : ℕ)

theorem magnitude_product :
    Decimal.magnitude (Digits.value (a.whole ++ a.places) * 10 ^ k) (-a.places.length) =
      a.magnitude * 10 ^ k := by
  rw [Decimal.magnitude, AmountText.magnitude, zpow_neg, zpow_natCast, ← div_eq_mul_inv]
  push_cast
  ring

/-- The product, rounded to the context. -/
theorem decimalToMinorUnits_fix : decimalToMinorUnits a.text (10 ^ k) =
    (Decimal.fix a.isNegative (Digits.value (a.whole ++ a.places) * 10 ^ k)
      (-a.places.length)).bind fun scaled => scaled.quantizeOne.bind Decimal.toInt := by
  have hpos : ¬ (10 ^ k : ℤ) < 0 := not_lt.mpr (by positivity)
  have habs : (10 ^ k : ℤ).natAbs = 10 ^ k := by
    rw [Int.natAbs_pow]
    rfl
  rw [decimalToMinorUnits, ofText_amount]
  change (Decimal.fix _ _ _).bind _ = _
  rw [habs, decide_eq_false hpos, Bool.bne_false]
  rfl

/-- The conversion rounds correctly exactly when the product fits the context. -/
theorem decimalToMinorUnits_iff {n : ℤ} (hn : Rounds (a.magnitude * 10 ^ k) n) :
    decimalToMinorUnits a.text (10 ^ k) = .ok (if a.isNegative then -n else n) ↔
      FitsContext (a.magnitude * 10 ^ k) := by
  have hnonneg : 0 ≤ a.magnitude * 10 ^ k := by
    unfold AmountText.magnitude
    positivity
  rw [decimalToMinorUnits_fix, ← magnitude_product] at *
  generalize Digits.value (a.whole ++ a.places) * 10 ^ k = c at *
  generalize (-(a.places.length : ℤ)) = e at *
  rcases Decimal.fixFinite_spec c e with ⟨herror, hbig⟩ | ⟨c', e', hok, hfixed⟩
  · have hfix : Decimal.fix a.isNegative c e = .error .overflow := by
      rw [Decimal.fix, herror]
      rfl
    rw [hfix]
    refine iff_of_false (by rintro ⟨⟩) fun h => ?_
    have hsmall := h.small
    linarith
  · obtain ⟨r, hr, hquantize⟩ := Decimal.quantizeOne_spec a.isNegative c' e'
    have hfix : Decimal.fix a.isNegative c e = .ok (.finite a.isNegative c' e') := by
      rw [Decimal.fix, hok]
      rfl
    have hsame : Rounds (Decimal.magnitude c e) r ↔ (r : ℤ) = n := by
      constructor
      · intro h
        exact h.unique hn
      · rintro rfl
        exact hn
    have hint : (Decimal.finite a.isNegative r 0).toInt =
        .ok (if a.isNegative then -(r : ℤ) else r) := by
      simp [Decimal.toInt]
    rw [hfix, ← fixed_rounds_iff hnonneg hfixed hr, hsame]
    change (Decimal.quantizeOne _).bind _ = _ ↔ _
    rw [hquantize]
    by_cases hlt : r < 10 ^ 28
    · rw [if_pos hlt, Except.bind, hint, Except.ok.injEq, and_iff_right hlt]
      cases a.isNegative
      · simp
      · simp
    · rw [if_neg hlt]
      exact iff_of_false (by rintro ⟨⟩) fun h => hlt h.1

end

end BrainV2.BrainMetrics
