import BrainV2.Connectors.Normalizers
import BrainV2.Connectors.Scales

/-!
# Discounts and the gross sales of an order

Every reader deducts the discounts of a fact from its gross sales.

* `PricedOrder`: a node whose amounts are decimals that add up as the vendor's do;
* `unitsOf`, `lostOf`: an amount in minor units, and what is cut off;
* `normalizeShopifyOrder_priced`: the fact of such a node, in terms of its amounts;
* `DeductedOnce`, `deductedOnce_iff`: when the discounts are deducted once.
-/

namespace BrainV2.Connectors

open Js (Engine)
open Money (AmountText)

/-! ### Amounts -/

/-- The amount that stands in a price set. -/
structure IsAmount (m : Option ShopifyMoney) (a : AmountText) : Prop where
  text : moneyAmount m = a.text
  sign : a.sign ≠ .plus

/-- The quantity and the price of a line. -/
structure IsPriced (ln : ShopifyLineNode) (line : Int × AmountText) : Prop where
  quantity : ln.bigQuantity = .ok line.1
  price : IsAmount ln.originalUnitPriceSet line.2

/-- A node whose subtotal is what the lines come to without the discounts, and whose total is the
subtotal with shipping and tax. -/
structure PricedOrder where
  node : ShopifyOrderNode
  subtotal : AmountText
  total : AmountText
  tax : AmountText
  discounts : AmountText
  shipping : AmountText
  lines : List (Int × AmountText)
  subtotal_amount : IsAmount node.subtotalPriceSet subtotal
  total_amount : IsAmount node.totalPriceSet total
  tax_amount : IsAmount node.totalTaxSet tax
  discounts_amount : IsAmount node.totalDiscountsSet discounts
  shipping_amount : IsAmount node.totalShippingPriceSet shipping
  lines_priced : List.Forall₂ IsPriced node.lineNodes lines
  subtotal_eq : subtotal.value =
    (lines.map fun line => (line.1 : ℚ) * line.2.value).sum - discounts.value
  total_eq : total.value = subtotal.value + shipping.value + tax.value

section

variable (engine : Engine) (currency : String) (a : AmountText)

/-- The places of the currency. -/
def placesOf : Nat := subunitExponent (subunitMultiplier engine currency)

/-- The minor units that an amount has. -/
def unitsOf : Int := cutUnits a (subunitMultiplier engine currency) (placesOf engine currency)

/-- What is cut off from an amount, in minor units. -/
def lostOf : ℚ := a.signed (cutOff a (placesOf engine currency))

theorem subunitMultiplier_pow :
    subunitMultiplier engine currency = 10 ^ placesOf engine currency := by
  unfold placesOf subunitMultiplier
  apply Dict.getD_lookup (p := fun mult => mult = 10 ^ subunitExponent mult)
  · decide
  · decide

theorem moneyMu_eq {m : Option ShopifyMoney} (h : IsAmount m a) :
    moneyMu engine currency m = .ok (unitsOf engine currency a) := by
  rw [moneyMu, h.text, decimalStringToMinorUnits_text a h.sign]
  rfl

theorem units_add_lost : (unitsOf engine currency a : ℚ) + lostOf engine currency a =
    a.value * 10 ^ placesOf engine currency := by
  rw [unitsOf, subunitMultiplier_pow, cutUnits_eq, lostOf, AmountText.value, AmountText.signed,
    AmountText.signed, AmountText.signed]
  split <;> ring

theorem abs_lostOf_lt : |lostOf engine currency a| < 1 := by
  have hoff : cutOff a (placesOf engine currency) < 1 := by
    have hlt : Digits.value (a.places.drop (placesOf engine currency)) <
        10 ^ (a.places.drop (placesOf engine currency)).length :=
      Digits.value_lt fun c hc => a.isDigit_of_mem_places (List.mem_of_mem_drop hc)
    rw [cutOff, div_lt_one (by positivity)]
    exact_mod_cast hlt
  rw [lostOf, abs_signed, abs_of_nonneg (cutOff_nonneg a _)]
  exact hoff

/-- No minor unit is left of an amount below one. -/
theorem unitsOf_eq_zero_iff :
    unitsOf engine currency a = 0 ↔ |a.value| * 10 ^ placesOf engine currency < 1 := by
  have hpow : (0 : ℚ) < 10 ^ placesOf engine currency := by positivity
  constructor
  · intro h
    have hsum := units_add_lost engine currency a
    rw [h, Int.cast_zero, zero_add] at hsum
    have hlost := abs_lostOf_lt engine currency a
    rwa [hsum, abs_mul, abs_of_pos hpow] at hlost
  · intro h
    have hle := cut_le a (placesOf engine currency)
    rw [← subunitMultiplier_pow engine currency] at hle
    have hunits : |(unitsOf engine currency a : ℚ)| < 1 := by
      refine lt_of_le_of_lt hle ?_
      exact_mod_cast h
    have habs : |unitsOf engine currency a| < 1 := by exact_mod_cast hunits
    exact Int.abs_lt_one_iff.mp habs

/-- Nothing is lost of an amount with no more places than the currency. -/
theorem lostOf_eq_zero (h : a.places.length ≤ placesOf engine currency) :
    lostOf engine currency a = 0 := by
  rw [lostOf, cutOff_eq_zero a h, AmountText.signed]
  split <;> simp

end

/-! ### The text of zero -/

theorem text_zero {a : AmountText} (h : a.text = "0") : a.value = 0 ∧ a.places = [] := by
  have hchars : a.chars = ['0'] := String.ofList_injective (h.trans rfl)
  have hsign : a.sign = .none := by
    cases hs : a.sign with
    | none => rfl
    | plus => simp [AmountText.chars, hs, Money.Sign.text] at hchars
    | minus => simp [AmountText.chars, hs, Money.Sign.text] at hchars
  have hmagnitude : a.magnitudeText = ['0'] := by
    rwa [AmountText.chars, hsign] at hchars
  have hwhole := a.takeWhile_magnitudeText (fun _ h => h) (by decide)
  have hrest := a.dropWhile_magnitudeText (fun _ h => h) (by decide)
  rw [hmagnitude] at hwhole hrest
  have hplaces : a.places = [] := by
    unfold AmountText.places
    cases hfraction : a.fraction with
    | none => rfl
    | some places =>
      rw [hfraction] at hrest
      cases hrest
  refine ⟨?_, hplaces⟩
  rw [AmountText.value, AmountText.magnitude, hplaces, ← hwhole, AmountText.signed]
  have hzero : Digits.value (List.takeWhile Char.isDigit ['0'] ++ []) = 0 := by decide
  rw [hzero]
  simp

/-! ### The fact of a node -/

theorem elementTexts_str (names : List String) : Js.elementTexts (names.map .str) = .ok names := by
  induction names with
  | nil => rfl
  | cons name names ih =>
    rw [List.map_cons, Js.elementTexts, ih]
    · rfl
    · intro h
      cases h

theorem classifyPaymentMethod_names (engine : Engine) (names : Option (List String)) :
    ∃ method, classifyPaymentMethod engine (names.map fun names => .arr (names.map .str)) =
      .ok method := by
  cases names with
  | none => exact ⟨_, rfl⟩
  | some names =>
    cases names with
    | nil => exact ⟨_, rfl⟩
    | cons name names =>
      have hjoin : Js.join ((name :: names).map .str) " " =
          .ok (" ".intercalate (name :: names)) := by
        rw [Js.join, elementTexts_str]
        rfl
      change ∃ method, (Js.join ((name :: names).map Json.str) " " >>= _) = Except.ok method
      rw [hjoin]
      dsimp only [bind, Except.bind]
      split
      · exact ⟨_, rfl⟩
      · exact ⟨_, rfl⟩

section

variable (engine : Engine) (vendorOrderId currency : String)

theorem lineFact_priced {ln : ShopifyLineNode} {line : Int × AmountText} (h : IsPriced ln line)
    (idx : Nat) : ∃ fact, ln.lineFact engine vendorOrderId currency idx = .ok fact ∧
      fact.quantity * fact.unitPriceMu = line.1 * unitsOf engine currency line.2 := by
  rw [ShopifyLineNode.lineFact, h.quantity, moneyMu_eq engine currency line.2 h.price]
  exact ⟨_, rfl, rfl⟩

theorem lineFacts_priced {nodes : List ShopifyLineNode} {lines : List (Int × AmountText)}
    (h : List.Forall₂ IsPriced nodes lines) (start : Nat) :
    ∃ facts, (nodes.zipIdx start).mapM (fun ln =>
        ln.1.lineFact engine vendorOrderId currency ln.2) = .ok facts ∧
      (facts.map fun fact => fact.quantity * fact.unitPriceMu) =
        lines.map fun line => line.1 * unitsOf engine currency line.2 := by
  induction h generalizing start with
  | nil => exact ⟨[], rfl, rfl⟩
  | cons hline _ ih =>
    obtain ⟨fact, hfact, hproduct⟩ := lineFact_priced engine vendorOrderId currency hline start
    obtain ⟨facts, hfacts, hproducts⟩ := ih (start + 1)
    refine ⟨fact :: facts, ?_, ?_⟩
    · rw [List.zipIdx_cons, List.mapM_cons, hfact]
      simp only [hfacts]
      rfl
    · rw [List.map_cons, List.map_cons, hproduct, hproducts]

end

namespace PricedOrder

variable (o : PricedOrder)

/-- What becomes the gross sales. -/
def gross : AmountText :=
  if moneyAmount o.node.subtotalPriceSet = "0" then o.total else o.subtotal

theorem gross_amount : IsAmount o.node.grossMoney o.gross := by
  unfold gross ShopifyOrderNode.grossMoney
  by_cases hzero : moneyAmount o.node.subtotalPriceSet = "0"
  · rw [if_neg (not_not_intro hzero), if_pos hzero]
    exact o.total_amount
  · rw [if_pos hzero, if_neg hzero]
    exact o.subtotal_amount

variable (engine : Engine) (hashes : Hashes) (identityStitcher : Option String)
  (workspaceSalt : Option (List UInt8))

def units (a : AmountText) : Int := unitsOf engine o.node.currency a

def lost (a : AmountText) : ℚ := lostOf engine o.node.currency a

theorem normalizeShopifyOrder_priced : ∃ fact,
    normalizeShopifyOrder engine hashes identityStitcher o.node workspaceSalt = .ok fact ∧
      fact.order.grossSalesMu = o.units engine o.gross ∧
      fact.order.totalDiscountMu = o.units engine o.discounts ∧
      (fact.lineItems.map fun l => l.quantity * l.unitPriceMu) =
        o.lines.map fun line => line.1 * o.units engine line.2 := by
  obtain ⟨method, hmethod⟩ := classifyPaymentMethod_names engine o.node.paymentGatewayNames
  obtain ⟨facts, hfacts, hproducts⟩ :=
    lineFacts_priced engine o.node.vendorOrderId o.node.currency o.lines_priced 0
  have hindexed : o.node.indexedLines = o.node.lineNodes.zipIdx 0 := rfl
  rw [normalizeShopifyOrder, hmethod, moneyMu_eq engine _ _ o.gross_amount,
    moneyMu_eq engine _ _ o.discounts_amount, moneyMu_eq engine _ _ o.tax_amount,
    moneyMu_eq engine _ _ o.shipping_amount, hindexed]
  simp only [hfacts, bind, Except.bind]
  exact ⟨_, rfl, rfl, rfl, hproducts⟩

/-! ### One deduction -/

/-- The gross sales are what the lines come to, and without the discounts the subtotal. -/
structure Deducted (fact : NormalizedOrder) : Prop where
  net : fact.order.grossSalesMu - fact.order.totalDiscountMu = o.units engine o.subtotal
  gross : fact.order.grossSalesMu = (fact.lineItems.map fun l => l.quantity * l.unitPriceMu).sum

def DeductedOnce : Prop :=
  ∃ fact, normalizeShopifyOrder engine hashes identityStitcher o.node workspaceSalt = .ok fact ∧
    o.Deducted engine fact

/-- There is nothing to deduct: no minor unit of discounts, or, where the subtotal is the text of
zero, as many as the total has. What is cut off from the prices is what is cut off from the
subtotal and the discounts. -/
structure NothingDeducted : Prop where
  discounts : if moneyAmount o.node.subtotalPriceSet = "0" then
      o.units engine o.total = o.units engine o.discounts
    else |o.discounts.value| * 10 ^ placesOf engine o.node.currency < 1
  cut : (o.lines.map fun line => (line.1 : ℚ) * o.lost engine line.2).sum =
    o.lost engine o.subtotal + o.lost engine o.discounts

theorem sum_units_add_lost (lines : List (Int × AmountText)) :
    (((lines.map fun line => line.1 * o.units engine line.2).sum : Int) : ℚ) +
        (lines.map fun line => (line.1 : ℚ) * o.lost engine line.2).sum =
      (lines.map fun line => (line.1 : ℚ) * line.2.value).sum *
        10 ^ placesOf engine o.node.currency := by
  induction lines with
  | nil => simp
  | cons line lines ih =>
    have hline := units_add_lost engine o.node.currency line.2
    simp only [List.map_cons, List.sum_cons, Int.cast_add, Int.cast_mul]
    rw [add_mul, ← ih, mul_assoc, ← hline, units, lost]
    ring

/-- The lines come to the subtotal and the discounts, in units and in what is cut off. -/
theorem lines_eq : (((o.lines.map fun line => line.1 * o.units engine line.2).sum : Int) : ℚ) +
      (o.lines.map fun line => (line.1 : ℚ) * o.lost engine line.2).sum =
    (o.units engine o.subtotal + o.lost engine o.subtotal) +
      (o.units engine o.discounts + o.lost engine o.discounts) := by
  have hsubtotal := units_add_lost engine o.node.currency o.subtotal
  have hdiscounts := units_add_lost engine o.node.currency o.discounts
  rw [sum_units_add_lost, units, units, lost, lost, hsubtotal, hdiscounts, o.subtotal_eq]
  ring

theorem subtotal_of_zero (h : moneyAmount o.node.subtotalPriceSet = "0") :
    o.units engine o.subtotal = 0 ∧ o.lost engine o.subtotal = 0 := by
  obtain ⟨hvalue, hplaces⟩ := text_zero (o.subtotal_amount.text.symm.trans h)
  constructor
  · apply (unitsOf_eq_zero_iff engine o.node.currency o.subtotal).mpr
    rw [hvalue]
    simp
  · exact lostOf_eq_zero engine o.node.currency o.subtotal (by simp [hplaces])

/-- In minor units. -/
theorem deductedOnce_units_iff : o.DeductedOnce engine hashes identityStitcher workspaceSalt ↔
    o.units engine o.gross - o.units engine o.discounts = o.units engine o.subtotal ∧
      o.units engine o.gross = (o.lines.map fun line => line.1 * o.units engine line.2).sum := by
  obtain ⟨fact, hfact, hgross, hdiscounts, hlines⟩ :=
    o.normalizeShopifyOrder_priced engine hashes identityStitcher workspaceSalt
  rw [← hgross, ← hdiscounts, ← hlines]
  constructor
  · rintro ⟨fact', hfact', hnet, hlines'⟩
    rw [hfact] at hfact'
    cases hfact'
    exact ⟨hnet, hlines'⟩
  · rintro ⟨hnet, hlines'⟩
    exact ⟨fact, hfact, hnet, hlines'⟩

/-- Discounts are deducted once only when there is nothing to deduct. -/
theorem deductedOnce_iff : o.DeductedOnce engine hashes identityStitcher workspaceSalt ↔
    o.NothingDeducted engine := by
  have hsum := o.lines_eq engine
  rw [deductedOnce_units_iff]
  generalize (o.lines.map fun line => line.1 * o.units engine line.2).sum = S at hsum ⊢
  by_cases hzero : moneyAmount o.node.subtotalPriceSet = "0"
  · have hsubtotal := o.subtotal_of_zero engine hzero
    rw [hsubtotal.1, hsubtotal.2, Int.cast_zero] at hsum
    rw [gross, if_pos hzero, hsubtotal.1]
    constructor
    · rintro ⟨hnet, hlines⟩
      have hsame : o.units engine o.total = o.units engine o.discounts := by omega
      refine ⟨by rwa [if_pos hzero], ?_⟩
      rw [hsubtotal.2]
      rw [← hlines, hsame] at hsum
      linarith
    · rintro ⟨hsame, hcut⟩
      rw [if_pos hzero] at hsame
      rw [hsubtotal.2] at hcut
      have hlines : (S : ℚ) = o.units engine o.discounts := by linarith
      have hlines' : S = o.units engine o.discounts := by exact_mod_cast hlines
      exact ⟨by omega, by omega⟩
  · rw [gross, if_neg hzero]
    have hnone := unitsOf_eq_zero_iff engine o.node.currency o.discounts
    constructor
    · rintro ⟨hnet, hlines⟩
      have hdiscounts' : o.units engine o.discounts = 0 := by omega
      refine ⟨by rw [if_neg hzero]; exact hnone.mp hdiscounts', ?_⟩
      rw [hdiscounts', ← hlines, Int.cast_zero] at hsum
      linarith
    · rintro ⟨hsmall, hcut⟩
      rw [if_neg hzero] at hsmall
      have hdiscounts' : o.units engine o.discounts = 0 := hnone.mpr hsmall
      rw [hdiscounts', Int.cast_zero] at hsum
      have hlines : (S : ℚ) = o.units engine o.subtotal := by linarith
      have hlines' : S = o.units engine o.subtotal := by exact_mod_cast hlines
      exact ⟨by omega, by omega⟩

/-- No amount has more places than the currency. -/
structure InPlaces : Prop where
  subtotal : o.subtotal.places.length ≤ placesOf engine o.node.currency
  total : o.total.places.length ≤ placesOf engine o.node.currency
  discounts : o.discounts.places.length ≤ placesOf engine o.node.currency
  lines : ∀ line ∈ o.lines, line.2.places.length ≤ placesOf engine o.node.currency

/-- For such amounts there is nothing to deduct when the discounts are zero, or those of a free
order are its total. -/
theorem nothingDeducted_iff (h : o.InPlaces engine) : o.NothingDeducted engine ↔
    if moneyAmount o.node.subtotalPriceSet = "0" then o.total.value = o.discounts.value
    else o.discounts.value = 0 := by
  have hpow : (0 : ℚ) < 10 ^ placesOf engine o.node.currency := by positivity
  have hsubtotal : o.lost engine o.subtotal = 0 := lostOf_eq_zero engine _ _ h.subtotal
  have hdiscounts : o.lost engine o.discounts = 0 := lostOf_eq_zero engine _ _ h.discounts
  have hlines : (o.lines.map fun line => (line.1 : ℚ) * o.lost engine line.2).sum = 0 := by
    apply List.sum_eq_zero
    intro cut hcut
    obtain ⟨line, hline, rfl⟩ := List.mem_map.mp hcut
    rw [lost, lostOf_eq_zero engine _ _ (h.lines line hline), mul_zero]
  have hunits {a : AmountText} (ha : a.places.length ≤ placesOf engine o.node.currency) :
      (o.units engine a : ℚ) = a.value * 10 ^ placesOf engine o.node.currency := by
    rw [← units_add_lost, lostOf_eq_zero engine _ _ ha, add_zero, units]
  have htotal : o.units engine o.total = o.units engine o.discounts ↔
      o.total.value = o.discounts.value := by
    rw [← Int.cast_inj (α := ℚ), hunits h.total, hunits h.discounts]
    exact mul_left_inj' hpow.ne'
  have hnone : |o.discounts.value| * 10 ^ placesOf engine o.node.currency < 1 ↔
      o.discounts.value = 0 := by
    rw [← unitsOf_eq_zero_iff, ← Int.cast_eq_zero (α := ℚ), ← units, hunits h.discounts,
      mul_eq_zero, or_iff_left hpow.ne']
  constructor
  · rintro ⟨hdeducted, -⟩
    rwa [htotal, hnone] at hdeducted
  · intro hvalues
    refine ⟨by rwa [htotal, hnone], ?_⟩
    rw [hlines, hsubtotal, hdiscounts, add_zero]

end PricedOrder

/-- An amount with two places. -/
def twoPlaces (whole : String) (h : whole.toList.all Char.isDigit = true) : AmountText where
  sign := .none
  whole := whole.toList
  fraction := some "00".toList
  digits := by
    intro c hc
    cases List.mem_append.mp hc with
    | inl hwhole => exact List.all_eq_true.mp h c hwhole
    | inr hplaces => exact List.all_eq_true.mp (by decide) c hplaces
  someDigit := by simp

theorem twoPlaces_value {whole : String} {h : whole.toList.all Char.isDigit = true} {n : Nat}
    (hn : Digits.value (whole.toList ++ "00".toList) = n * 100) :
    (twoPlaces whole h).value = n := by
  have hvalue : (twoPlaces whole h).value =
      (Digits.value (whole.toList ++ "00".toList) : ℚ) / 10 ^ 2 := rfl
  rw [hvalue, hn]
  push_cast
  ring

def inrOf (amount : String) : Option ShopifyMoney := some ⟨some ⟨some amount, some "INR"⟩⟩

/-- Two pieces of a hundred rupees, with fifty rupees off. -/
def fiftyOffNode : ShopifyOrderNode where
  id := some "1"
  name := none
  totalPriceSet := inrOf "150.00"
  subtotalPriceSet := inrOf "150.00"
  totalTaxSet := inrOf "0.00"
  totalDiscountsSet := inrOf "50.00"
  totalShippingPriceSet := inrOf "0.00"
  currencyCode := some "INR"
  displayFinancialStatus := none
  displayFulfillmentStatus := none
  processedAt := none
  cancelledAt := none
  paymentGatewayNames := none
  customer := none
  shippingAddress := none
  lineItems := some ⟨some
    [⟨some ⟨none, none, some (Binary64.ofInt 2), none, inrOf "100.00", none⟩⟩]⟩

def fiftyOff : PricedOrder where
  node := fiftyOffNode
  subtotal := twoPlaces "150" (by decide)
  total := twoPlaces "150" (by decide)
  tax := twoPlaces "0" (by decide)
  discounts := twoPlaces "50" (by decide)
  shipping := twoPlaces "0" (by decide)
  lines := [(2, twoPlaces "100" (by decide))]
  subtotal_amount := ⟨by decide, by decide⟩
  total_amount := ⟨by decide, by decide⟩
  tax_amount := ⟨by decide, by decide⟩
  discounts_amount := ⟨by decide, by decide⟩
  shipping_amount := ⟨by decide, by decide⟩
  lines_priced := by
    obtain ⟨x, hx, hnat⟩ := Js.isNat_ofInt (show 2 < 2 ^ 53 by decide)
    have hquantity : Js.bigIntOfNumber (Binary64.ofInt 2) = some 2 := by
      rw [← Nat.cast_ofNat, hx]
      exact hnat.bigIntOfNumber
    refine .cons ⟨?_, by decide, by decide⟩ .nil
    change Js.ofBigInt (Js.bigIntOfNumber (Binary64.ofInt 2)) .rangeError = _
    rw [hquantity]
    rfl
  subtotal_eq := by
    have h150 : (twoPlaces "150" (by decide)).value = 150 := twoPlaces_value (by decide)
    have h100 : (twoPlaces "100" (by decide)).value = 100 := twoPlaces_value (by decide)
    have h50 : (twoPlaces "50" (by decide)).value = 50 := twoPlaces_value (by decide)
    simp only [List.map_cons, List.map_nil, List.sum_cons, List.sum_nil, h150, h100, h50]
    norm_num
  total_eq := by
    have h0 : (twoPlaces "0" (by decide)).value = 0 := by
      exact_mod_cast twoPlaces_value (n := 0) (by decide)
    rw [h0, add_zero, add_zero]

/-- The fifty rupees are deducted from the subtotal once more. -/
theorem fifty_off_twice : ¬ fiftyOff.DeductedOnce ⟨id, id, fun _ => none, fun _ => ""⟩
    ⟨id, fun _ message => message⟩ none none := by
  intro h
  have hnet := ((fiftyOff.deductedOnce_units_iff _ _ _ _).mp h).1
  exact absurd hnet (by decide)

end BrainV2.Connectors
