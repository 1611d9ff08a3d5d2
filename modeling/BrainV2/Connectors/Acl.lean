import BrainV2.Ingest.PiiTokenizer
import BrainV2.Js.Values
import BrainV2.Money.AmountText

/-!
# From a vendor's order to the facts

* `decimalStringToMinorUnits`: an amount in minor units, further digits cut off;
* `classifyPaymentMethod`, `customerRef`, `resolveGstSlabBp`: the other conversions;
* `OrderFact`, `LineItemFact`: what they make up;
* `decimalStringToMinorUnits_text`: every decimal without a plus goes through.
-/

namespace BrainV2.Connectors

open Js (Engine JsError Result Value)
open Ingest (Hmac hexdigest)
open Money (AmountText)

/-! ### Money -/

def subunitMultipliers : List (String × Nat) :=
  [("KWD", 1000), ("BHD", 1000), ("JPY", 1), ("INR", 100), ("AED", 100), ("SAR", 100),
    ("USD", 100), ("EUR", 100), ("GBP", 100)]

def subunitMultiplier (engine : Engine) (currencyCode : String) : Nat :=
  (subunitMultipliers.lookup (engine.toUpperCase currencyCode)).getD 100

/-- 100 has two places, 1000 three and 1 none. -/
def subunitExponent (mult : Nat) : Nat :=
  if mult = 1 then 0 else (Nat.toDigits 10 mult).length - 1

/-- `/^\d*\.?\d*$/` -/
def isDecimal (s : List Char) : Bool :=
  match s.dropWhile Char.isDigit with
  | [] => true
  | '.' :: rest => rest.all Char.isDigit
  | _ => false

def notADecimal (amount : Json) : JsError :=
  .error ("[acl] decimalStringToMinorUnits: not a decimal: " ++ Js.stringify amount)

/-- The amount as text, to the places of the currency if it is a number. -/
def amountChars (amount : Json) (exponent : Nat) : Result (List Char) :=
  match amount with
  | .int n => .ok (Js.toFixed (Binary64.ofInt n) exponent)
  | .real x => .ok (Js.toFixed x exponent)
  | j => do
    let text ← Js.toText j
    .ok (Js.trim text.toList)

/-- The minor units of a text behind its sign. -/
def unsignedMinorUnits (s : List Char) (mult exponent : Nat) : Result Int := do
  let fracRaw := (s.dropWhile (· ≠ '.')).drop 1
  let frac := (fracRaw ++ List.replicate exponent '0').take exponent
  let whole ← Js.ofBigInt (Js.bigInt (s.takeWhile (· ≠ '.'))) .syntaxError
  let cents ← if exponent > 0 then Js.ofBigInt (Js.bigInt frac) .syntaxError else .ok 0
  .ok (whole * mult + cents)

/-- `decimalStringToMinorUnits`; more digits than the currency has are cut off. -/
def decimalStringToMinorUnits (engine : Engine) (amount : Json) (currencyCode : String) :
    Result Int :=
  match amount with
  | .null | .str "" => .ok 0
  | amount => do
    let mult := subunitMultiplier engine currencyCode
    let exponent := subunitExponent mult
    let s ← amountChars amount exponent
    let negative := s.head? == some '-'
    let s := if negative then s.drop 1 else s
    if !isDecimal s || s = [] || s = ['.'] then .error (notADecimal amount)
    else
      let minor ← unsignedMinorUnits s mult exponent
      .ok (if negative then -minor else minor)

/-! ### The other fields -/

inductive PaymentMethod where
  | cod
  | prepaid
deriving DecidableEq, Repr

def PaymentMethod.text : PaymentMethod → String
  | .cod => "COD"
  | .prepaid => "Prepaid"

def classifyPaymentMethod (engine : Engine) (gatewayNames : Value) :
    Result (Option PaymentMethod) :=
  match gatewayNames with
  | none => .ok none
  | some names =>
    if !Js.truthy names then .ok none
    else
      let arr := match names with
        | .arr items => items
        | name => [name]
      if arr.length = 0 then .ok none
      else do
        let text ← Js.join arr " "
        let joined := engine.toLowerCase text
        if Js.includes joined "cod" || Js.includes joined "cash on delivery" ||
            Js.includes joined "cash_on_delivery" then .ok (some .cod)
        else .ok (some .prepaid)

def indiaDefaultGstBp : Nat := 1800

def resolveGstSlabBp (explicitBp : Option Int) : Int :=
  match explicitBp with
  | some bp => if bp ≥ 0 then bp else indiaDefaultGstBp
  | none => indiaDefaultGstBp

/-- SHA-256, plain and with a key. -/
structure Hashes where
  sha256 : List UInt8 → List UInt8
  hmac : Hmac

/-- `digest('hex').slice(0, 32)` -/
def shortHex (digest : List UInt8) : String := String.ofList ((hexdigest digest).toList.take 32)

/-- `identityStitcher` is the variable `IDENTITY_STITCHER`. -/
def customerRef (hashes : Hashes) (identityStitcher : Option String)
    (vendorCustomerId : Option String) (workspaceSalt : Option (List UInt8)) : Option String :=
  match vendorCustomerId with
  | none | some "" => none
  | some id =>
    match workspaceSalt with
    | some salt =>
      if identityStitcher = some "true" then some (shortHex (hashes.hmac salt (Py.utf8 id)))
      else some (shortHex (hashes.sha256 (Py.utf8 id)))
    | none => some (shortHex (hashes.sha256 (Py.utf8 id)))

/-! ### Facts -/

/-- The texts that no code looks into are whatever the vendor sent. -/
structure OrderFact where
  vendor : String
  vendorOrderId : String
  orderNumber : Json
  financialStatus : Json
  fulfillmentStatus : Json
  paymentMethod : Option PaymentMethod
  currencyCode : String
  grossSalesMu : Int
  totalDiscountMu : Int
  totalTaxMu : Int
  shippingMu : Int
  customerRef : Option String
  deliveryPincode : Json
  deliveryCity : Json
  processedAt : Json
  cancelledAt : Json

structure LineItemFact where
  vendor : String
  vendorOrderId : String
  vendorLineId : String
  sku : Json
  title : Json
  quantity : Int
  unitPriceMu : Int
  gstSlabBp : Int

/-! ### Decimals go through -/

section

variable (a : AmountText)

/-- The minor units of an amount, cut off towards zero. -/
def cutUnits (mult exponent : Nat) : Int :=
  let whole : Int := Digits.value a.whole
  let cents : Int := Digits.value ((a.places ++ List.replicate exponent '0').take exponent)
  if a.isNegative then -(whole * mult + cents) else whole * mult + cents

theorem isDecimal_magnitudeText : isDecimal a.magnitudeText = true := by
  rw [isDecimal, a.dropWhile_magnitudeText (fun _ h => h) (by decide)]
  cases hfraction : a.fraction with
  | none => rfl
  | some places =>
    apply List.all_eq_true.mpr
    intro c hc
    apply a.isDigit_of_mem_places
    rw [AmountText.places, hfraction]
    exact hc

theorem bigInt_of_digits {ds : List Char} (hds : ∀ c ∈ ds, c.isDigit = true) :
    Js.bigInt ds = some ((Digits.value ds : Nat) : Int) := by
  by_cases hne : ds = []
  · rw [hne]
    rfl
  · exact Js.bigInt_digits hds hne

theorem notPoint_of_isDigit {c : Char} (h : c.isDigit = true) : decide (c ≠ '.') = true := by
  apply decide_eq_true
  intro hpoint
  rw [hpoint] at h
  cases h

theorem unsignedMinorUnits_magnitudeText (mult exponent : Nat) :
    unsignedMinorUnits a.magnitudeText mult exponent =
      .ok (Digits.value a.whole * mult +
        Digits.value ((a.places ++ List.replicate exponent '0').take exponent)) := by
  have hwhole : a.magnitudeText.takeWhile (· ≠ '.') = a.whole :=
    a.takeWhile_magnitudeText (fun _ h => notPoint_of_isDigit h) (by decide)
  have hrest : (a.magnitudeText.dropWhile (· ≠ '.')).drop 1 = a.places := by
    rw [a.dropWhile_magnitudeText (fun _ h => notPoint_of_isDigit h) (by decide),
      AmountText.places]
    cases a.fraction <;> rfl
  have hfrac : ∀ c ∈ (a.places ++ List.replicate exponent '0').take exponent,
      c.isDigit = true := by
    intro c hc
    cases List.mem_append.mp (List.mem_of_mem_take hc) with
    | inl hplaces => exact a.isDigit_of_mem_places hplaces
    | inr hzero =>
      rw [List.eq_of_mem_replicate hzero]
      rfl
  simp only [unsignedMinorUnits, hwhole, hrest, bigInt_of_digits hfrac,
    bigInt_of_digits fun c hc => a.isDigit_of_mem_whole hc, Js.ofBigInt, bind, Except.bind]
  cases exponent with
  | zero => rfl
  | succ n => rfl

theorem chars_not_blank : ∀ c ∈ a.chars, Js.isSpace c = false :=
  a.forall_mem_chars (fun _ h => Js.isSpace_of_isDigit h) (by decide) (by decide) (by decide)

theorem text_ne_empty : a.text ≠ "" := by
  intro h
  have hnil : a.chars = [] := String.ofList_injective (h.trans rfl)
  exact a.magnitudeText_ne_nil (List.append_eq_nil_iff.mp hnil).2

theorem magnitudeText_ne_point : a.magnitudeText ≠ ['.'] := by
  intro h
  have hwhole := a.takeWhile_magnitudeText (fun _ h => h) (by decide)
  have hrest := a.dropWhile_magnitudeText (fun _ h => h) (by decide)
  rw [h] at hwhole hrest
  have hplaces : a.fraction.getD [] = [] := by
    cases hfraction : a.fraction with
    | none => rfl
    | some places =>
      rw [hfraction] at hrest
      exact (List.cons.inj hrest).2.symm
  exact a.someDigit (by rw [← hwhole, hplaces]; rfl)

/-- What stands behind the sign. -/
theorem chars_split (hsign : a.sign ≠ .plus) :
    (a.chars.head? == some '-') = a.isNegative ∧
      (if a.isNegative then a.chars.drop 1 else a.chars) = a.magnitudeText := by
  unfold AmountText.isNegative AmountText.chars
  cases hs : a.sign with
  | plus => exact absurd hs hsign
  | minus => exact ⟨rfl, rfl⟩
  | none =>
    refine ⟨?_, rfl⟩
    exact beq_eq_false_iff_ne.mpr (a.head_magnitudeText (by decide) (by decide))

/-- Decimals without a plus. -/
theorem decimalStringToMinorUnits_text (hsign : a.sign ≠ .plus) (engine : Engine)
    (currencyCode : String) :
    decimalStringToMinorUnits engine (.str a.text) currencyCode =
      .ok (cutUnits a (subunitMultiplier engine currencyCode)
        (subunitExponent (subunitMultiplier engine currencyCode))) := by
  have hchars : ∀ exponent, amountChars (.str a.text) exponent = .ok a.chars := by
    intro exponent
    have htrim := Js.trim_eq_self (chars_not_blank a)
    change Except.ok (Js.trim a.text.toList) = _
    rw [AmountText.text, String.toList_ofList, htrim]
  obtain ⟨hnegative, hrest⟩ := chars_split a hsign
  have hok : (!isDecimal a.magnitudeText || a.magnitudeText = [] || a.magnitudeText = ['.']) =
      false := by
    simp [isDecimal_magnitudeText, a.magnitudeText_ne_nil, magnitudeText_ne_point]
  unfold decimalStringToMinorUnits
  split
  · next h => cases h
  · next h => exact absurd (Json.str.inj h) (text_ne_empty a)
  · simp only [hchars, bind, Except.bind, hnegative, hrest, hok, unsignedMinorUnits_magnitudeText]
    rfl

end

end BrainV2.Connectors
