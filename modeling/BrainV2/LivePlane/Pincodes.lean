import BrainV2.Analytics.Shipments
import BrainV2.Lib.Encodings
import BrainV2.LivePlane.Numbers
import BrainV2.Sql.Averages

/-!
# Pincodes of the live plane

* `classifyTier`, `stateFromPincode`: what a city and a pincode tell;
* `getPincodeIntelligence`: the groups of the reader, scored and filtered.
-/

namespace BrainV2.LivePlane

open Analytics (FactPincodeRow)
open Binary64 (Double ofDecimal ofInt)

def tier1Cities : List String :=
  ["mumbai", "delhi", "bangalore", "bengaluru", "hyderabad", "chennai", "kolkata", "pune",
    "ahmedabad"]

def tier2Cities : List String :=
  ["jaipur", "lucknow", "surat", "kanpur", "nagpur", "indore", "bhopal", "patna", "vadodara",
    "ludhiana", "agra", "nashik", "faridabad", "meerut", "rajkot", "varanasi", "srinagar",
    "aurangabad", "dhanbad", "amritsar", "navi mumbai", "allahabad", "ranchi", "howrah",
    "coimbatore", "jabalpur", "gwalior", "vijayawada", "jodhpur", "madurai", "raipur", "kota",
    "guwahati", "chandigarh", "solapur", "hubballi", "tiruchirappalli", "bareilly", "mysuru",
    "mysore", "tiruppur", "gurgaon", "gurugram", "noida", "thane"]

def trimText (text : String) : String := String.ofList (Js.trim text.toList)

def classifyTier (engine : Js.Engine) (city : String) : Option Nat :=
  let c := engine.toLowerCase (trimText city)
  if c = "" ∨ c = "—" then none
  else if c ∈ tier1Cities then some 1
  else if c ∈ tier2Cities then some 2
  else some 3

/-- `parseInt(text, 10)`; `none` is `NaN`. -/
def parseInt (text : List Char) : Option Int :=
  let digits (cs : List Char) : Option Int :=
    let run := cs.takeWhile Char.isDigit
    if run = [] then none else some (Digits.value run)
  match text.dropWhile Js.isSpace with
  | '-' :: rest => (digits rest).map fun n => -n
  | '+' :: rest => digits rest
  | rest => digits rest

/-- `n >= low && n <= high`, false of `NaN`. -/
def between (low high : Int) (n : Option Int) : Bool := n.any fun n => low ≤ n ∧ n ≤ high

def stateFromPincode (pincode : String) : String :=
  let p := trimText pincode
  let prefix2 := parseInt (p.toList.take 2)
  let prefix3 := parseInt (p.toList.take 3)
  if (Utf16.utf16 p).length < 6 then ""
  else if between 11 11 prefix2 then "Delhi"
  else if between 12 13 prefix2 then "Haryana"
  else if between 14 15 prefix2 then "Punjab"
  else if between 16 16 prefix2 then "Punjab"
  else if between 17 17 prefix2 then "Himachal Pradesh"
  else if between 18 19 prefix2 then "Jammu & Kashmir"
  else if between 20 28 prefix2 then
    if between 248 249 prefix3 then "Uttarakhand" else "Uttar Pradesh"
  else if between 30 34 prefix2 then "Rajasthan"
  else if between 36 39 prefix2 then "Gujarat"
  else if between 40 44 prefix2 then "Maharashtra"
  else if between 45 48 prefix2 then "Madhya Pradesh"
  else if between 49 49 prefix2 then "Chhattisgarh"
  else if between 50 53 prefix2 then
    if between 500 502 prefix3 then "Telangana"
    else if between 503 535 prefix3 then "Andhra Pradesh"
    else "Telangana"
  else if between 56 59 prefix2 then "Karnataka"
  else if between 60 64 prefix2 then "Tamil Nadu"
  else if between 67 69 prefix2 then "Kerala"
  else if between 70 74 prefix2 then "West Bengal"
  else if between 75 77 prefix2 then "Odisha"
  else if between 78 78 prefix2 then "Assam"
  else if between 82 83 prefix2 then "Jharkhand"
  else if between 80 81 prefix2 then "Bihar"
  else if between 84 85 prefix2 then "Odisha"
  else ""

/-- 100 less twice the percentage that returns and half of the one paid in cash, in hundredths. -/
def reliabilityScore (rtoBp codBp : Option Double) : Double :=
  let rtoRatePct := Sql.floatDiv (rtoBp.getD (ofInt 0)) 100
  let codRatePct := Sql.floatDiv (codBp.getD (ofInt 0)) 100
  let rawScore := clamp 0 100
    (minus (minus (ofInt 100) (times rtoRatePct (ofInt 2)))
      (times codRatePct (ofDecimal false 5 (-1))))
  roundNumber (times rawScore (ofInt 100))

structure PincodeRow where
  pincode : String
  city : String
  state : String
  tier : Option Nat
  shipmentCount : Nat
  rtoCount : Nat
  rtoRateBp : Option Double
  codCount : Nat
  codRateBp : Option Double
  deliveredCount : Nat
  deliveredRateBp : Option Double
  revenueMu : Int
  aovMu : Option Int
  uniqueCustomers : Nat
  repeatRateBp : Option Double
  reliabilityScore : Double
  topCourier : String
deriving DecidableEq

def pincodeRowOf (engine : Js.Engine) (r : FactPincodeRow) : PincodeRow :=
  let rtoBp := bp r.rtoCount r.shipmentCount
  let codBp := bp r.codCount r.shipmentCount
  { pincode := r.pincode
    city := r.city
    state := stateFromPincode r.pincode
    tier := classifyTier engine r.city
    shipmentCount := r.shipmentCount
    rtoCount := r.rtoCount
    rtoRateBp := rtoBp
    codCount := r.codCount
    codRateBp := codBp
    deliveredCount := r.deliveredCount
    deliveredRateBp := bp r.deliveredCount r.shipmentCount
    revenueMu := 0
    aovMu := none
    uniqueCustomers := 0
    repeatRateBp := none
    reliabilityScore := reliabilityScore rtoBp codBp
    topCourier := "" }

structure PincodeFilterInput where
  search : Option String
  state : Option String
  minOrders : Option Nat
  highRto : Bool
  highCod : Bool
deriving DecidableEq

namespace PincodeFilterInput

variable (engine : Js.Engine) (filters : PincodeFilterInput)

def bySearch (r : PincodeRow) : Bool :=
  match filters.search with
  | none | some "" => true
  | some search =>
    let q := engine.toLowerCase search
    Js.includes (engine.toLowerCase r.pincode) q || Js.includes (engine.toLowerCase r.city) q ||
      Js.includes (engine.toLowerCase r.state) q

def byState (r : PincodeRow) : Bool :=
  match filters.state with
  | none | some "" => true
  | some state => engine.toLowerCase r.state = engine.toLowerCase state

/-- The filters one after the other; none and zero orders are no filter. -/
def has (r : PincodeRow) : Bool :=
  filters.bySearch engine r && filters.byState engine r &&
    filters.minOrders.getD 0 ≤ r.shipmentCount &&
    (!filters.highRto || r.rtoRateBp.any (atLeast · 2000)) &&
    (!filters.highCod || r.codRateBp.any (atLeast · 5000))

end PincodeFilterInput

structure PincodeIntelligenceResult where
  totalShipments : Nat
  rows : List PincodeRow
deriving DecidableEq

def getPincodeIntelligence (engine : Js.Engine) (filters : Option PincodeFilterInput)
    (rows : List FactPincodeRow) : PincodeIntelligenceResult where
  totalShipments := (rows.map (·.shipmentCount)).sum
  rows := (rows.map (pincodeRowOf engine)).filter fun r => filters.all (·.has engine r)

end BrainV2.LivePlane
