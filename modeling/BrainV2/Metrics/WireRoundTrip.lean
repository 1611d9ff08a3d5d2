import BrainV2.Metrics.AverageOrder

/-!
# A metric row over the wire

* `DomainRow`, `domainRowToProto`: a row with any 64-bit values, and the message made of it;
* `serializeInt32Value`, `byteSize`: what a wrapper takes on the wire;
* `unwrapInt32value_eq`: the client sees the size of a wrapper, not whether it is there;
* `Survives`, `survives_iff`: when the client reads back what the row says.
-/

namespace BrainV2.Metrics

open Py (Date PyExc)

/-! ### Rows of the domain -/

/-- `MetricRow`, whose nullable values are as wide as the money. -/
structure DomainRow where
  workspaceId : String
  date : Date
  grossSalesMu : Int64
  returnsMu : Int64
  discountsMu : Int64
  netSalesMu : Int64
  totalTaxMu : Int64
  netNetTaxMu : Int64
  shippingRevenueMu : Int64
  netRevenueMu : Int64
  cogsMu : Int64
  totalAdSpendMu : Int64
  cm1Mu : Int64
  cm2Mu : Int64
  miscExpensesProratedMu : Option Int64
  cm3Mu : Int64
  totalOrders : Int64
  rtoRateBp : Option Int64
  prepaidRateBp : Option Int64
  conversionRateBp : Option Int64
  aovMu : Option Int64
  acosBp : Option Int64
  blendedRoasX100 : Option Int64
  metaCtrBp : Option Int64
  metaCpcMu : Option Int64
  metaCpmMu : Option Int64
  googleCtrBp : Option Int64
  googleAvgCpcMu : Option Int64

namespace DomainRow

variable (row : DomainRow)

/-- The values that go into wrappers. -/
def nullables : List (Option Int64) :=
  [row.miscExpensesProratedMu, row.rtoRateBp, row.prepaidRateBp, row.conversionRateBp, row.aovMu,
    row.acosBp, row.blendedRoasX100, row.metaCtrBp, row.metaCpcMu, row.metaCpmMu, row.googleCtrBp,
    row.googleAvgCpcMu]

def FitsWrappers : Prop := ∀ v ∈ row.nullables, ∀ n ∈ v, FitsInt32 n.toInt

end DomainRow

/-- A row as ClickHouse returns it. -/
def MetricRow.toDomain (row : MetricRow) : DomainRow where
  workspaceId := row.workspaceId
  date := row.date
  grossSalesMu := row.grossSalesMu
  returnsMu := row.returnsMu
  discountsMu := row.discountsMu
  netSalesMu := row.netSalesMu
  totalTaxMu := row.totalTaxMu
  netNetTaxMu := row.netNetTaxMu
  shippingRevenueMu := row.shippingRevenueMu
  netRevenueMu := row.netRevenueMu
  cogsMu := row.cogsMu
  totalAdSpendMu := row.totalAdSpendMu
  cm1Mu := row.cm1Mu
  cm2Mu := row.cm2Mu
  miscExpensesProratedMu := row.miscExpensesProratedMu
  cm3Mu := row.cm3Mu
  totalOrders := row.totalOrders
  rtoRateBp := row.rtoRateBp.map Int32.toInt64
  prepaidRateBp := row.prepaidRateBp.map Int32.toInt64
  conversionRateBp := row.conversionRateBp.map Int32.toInt64
  aovMu := row.aovMu
  acosBp := row.acosBp.map Int32.toInt64
  blendedRoasX100 := row.blendedRoasX100.map Int32.toInt64
  metaCtrBp := row.metaCtrBp.map Int32.toInt64
  metaCpcMu := row.metaCpcMu
  metaCpmMu := row.metaCpmMu
  googleCtrBp := row.googleCtrBp.map Int32.toInt64
  googleAvgCpcMu := row.googleAvgCpcMu

/-- `_row_to_proto` -/
def domainRowToProto (row : DomainRow) : Except PyExc ProtoMetricRow := do
  let miscExpensesProratedMu ← int32Value row.miscExpensesProratedMu
  let rtoRateBp ← int32Value row.rtoRateBp
  let prepaidRateBp ← int32Value row.prepaidRateBp
  let conversionRateBp ← int32Value row.conversionRateBp
  let aovMu ← int32Value row.aovMu
  let acosBp ← int32Value row.acosBp
  let blendedRoasX100 ← int32Value row.blendedRoasX100
  let metaCtrBp ← int32Value row.metaCtrBp
  let metaCpcMu ← int32Value row.metaCpcMu
  let metaCpmMu ← int32Value row.metaCpmMu
  let googleCtrBp ← int32Value row.googleCtrBp
  let googleAvgCpcMu ← int32Value row.googleAvgCpcMu
  .ok {
    workspaceId := row.workspaceId
    date := row.date
    grossSalesMu := row.grossSalesMu
    returnsMu := row.returnsMu
    discountsMu := row.discountsMu
    netSalesMu := row.netSalesMu
    totalTaxMu := row.totalTaxMu
    netNetTaxMu := row.netNetTaxMu
    shippingRevenueMu := row.shippingRevenueMu
    netRevenueMu := row.netRevenueMu
    cogsMu := row.cogsMu
    totalAdSpendMu := row.totalAdSpendMu
    cm1Mu := row.cm1Mu
    cm2Mu := row.cm2Mu
    cm3Mu := row.cm3Mu
    totalOrders := row.totalOrders
    currencyCode := currencyInr
    miscExpensesProratedMu := miscExpensesProratedMu
    rtoRateBp := rtoRateBp
    prepaidRateBp := prepaidRateBp
    conversionRateBp := conversionRateBp
    aovMu := aovMu
    acosBp := acosBp
    blendedRoasX100 := blendedRoasX100
    metaCtrBp := metaCtrBp
    metaCpcMu := metaCpcMu
    metaCpmMu := metaCpmMu
    googleCtrBp := googleCtrBp
    googleAvgCpcMu := googleAvgCpcMu }

/-- What is 32 bits wide in the table goes through its wrapper. -/
theorem int32Value_toInt64 (v : Option Int32) : int32Value (v.map Int32.toInt64) = .ok v := by
  apply int32Value_ok_iff.mpr
  cases v with
  | none => simp
  | some n =>
    have hfits : FitsInt32 n.toInt := ⟨n.le_toInt, n.toInt_lt⟩
    simp [hfits]

theorem domainRowToProto_toDomain (row : MetricRow) :
    domainRowToProto row.toDomain = rowToProto row := by
  simp only [domainRowToProto, MetricRow.toDomain, int32Value_toInt64]
  rfl

theorem domainRowToProto_of_fits {row : DomainRow} (h : row.FitsWrappers) :
    ∃ proto, domainRowToProto row = .ok proto := by
  simp only [DomainRow.FitsWrappers, DomainRow.nullables, List.forall_mem_cons] at h
  obtain ⟨hmisc, hrto, hprepaid, hconversion, haov, hacos, hroas, hctr, hcpc, hcpm, hgctr, hgcpc,
    -⟩ := h
  simp only [domainRowToProto, Py.bind_ok, int32Value_ok_iff]
  exact ⟨_, _, ⟨hmisc, rfl⟩, _, ⟨hrto, rfl⟩, _, ⟨hprepaid, rfl⟩, _, ⟨hconversion, rfl⟩, _,
    ⟨haov, rfl⟩, _, ⟨hacos, rfl⟩, _, ⟨hroas, rfl⟩, _, ⟨hctr, rfl⟩, _, ⟨hcpc, rfl⟩, _,
    ⟨hcpm, rfl⟩, _, ⟨hgctr, rfl⟩, _, ⟨hgcpc, rfl⟩, rfl⟩

/-! ### Wrappers on the wire -/

/-- Seven bits a byte, the lowest first; every byte but the last has its high bit set. -/
def varint (n : Nat) : List UInt8 :=
  if n < 128 then [n.toUInt8] else (n % 128 + 128).toUInt8 :: varint (n / 128)

/-- `SerializeToString` of an `Int32Value`: its field is left out when it is zero. -/
def serializeInt32Value (value : Int32) : List UInt8 :=
  if value = 0 then [] else 0x08 :: varint (value.toInt % 2 ^ 64).toNat

def byteSize (value : Int32) : Nat := (serializeInt32Value value).length

/-- `_unwrap_int32value` of what the field of a message reads as, which is a wrapper of zero when
there is none. -/
def unwrapBySize (wrapper : Int32) : Option Int :=
  if byteSize wrapper = 0 then none else some wrapper.toInt

theorem byteSize_eq_zero_iff {value : Int32} : byteSize value = 0 ↔ value = 0 := by
  unfold byteSize serializeInt32Value
  split
  · next h => simp [h]
  · next h => simp [h]

theorem unwrapInt32value_eq (field : Option Int32) :
    unwrapInt32value field = unwrapBySize (field.getD 0) := by
  cases field with
  | none => rfl
  | some n => simp only [unwrapInt32value, unwrapBySize, Option.getD_some, byteSize_eq_zero_iff]

/-! ### What is read back -/

structure ReadsBack (view : MetricRowView) (row : DomainRow) : Prop where
  date : view.date = row.date
  netSales : view.netSalesMu = row.netSalesMu
  cogs : view.cogsMu = row.cogsMu
  cm1 : view.cm1Mu = row.cm1Mu
  cm2 : view.cm2Mu = row.cm2Mu
  cm3 : view.cm3Mu = row.cm3Mu
  adSpend : view.totalAdSpendMu = row.totalAdSpendMu
  orders : view.totalOrders = some row.totalOrders
  aov : view.aovMu = row.aovMu.map Int64.toInt

/-- The row becomes a message, and the client reads the row from it. -/
def Survives (row : DomainRow) : Prop :=
  ∃ proto, domainRowToProto row = .ok proto ∧ ReadsBack (protoRowToView proto) row

variable {row : DomainRow}

/-- Of a message, only the average can be read back wrong. -/
theorem readsBack_iff {proto : ProtoMetricRow} (h : domainRowToProto row = .ok proto) :
    row.FitsWrappers ∧ (ReadsBack (protoRowToView proto) row ↔
      unwrapInt32value (row.aovMu.map fun n => Int32.ofInt n.toInt) =
        row.aovMu.map Int64.toInt) := by
  simp only [domainRowToProto, Py.bind_ok, int32Value_ok_iff] at h
  obtain ⟨_, ⟨hmisc, -⟩, _, ⟨hrto, -⟩, _, ⟨hprepaid, -⟩, _, ⟨hconversion, -⟩, _, ⟨haov, rfl⟩, _,
    ⟨hacos, -⟩, _, ⟨hroas, -⟩, _, ⟨hctr, -⟩, _, ⟨hcpc, -⟩, _, ⟨hcpm, -⟩, _, ⟨hgctr, -⟩, _,
    ⟨hgcpc, -⟩, h⟩ := h
  cases h
  constructor
  · simp only [DomainRow.FitsWrappers, DomainRow.nullables, List.forall_mem_cons]
    exact ⟨hmisc, hrto, hprepaid, hconversion, haov, hacos, hroas, hctr, hcpc, hcpm, hgctr, hgcpc,
      List.forall_mem_nil _⟩
  · constructor
    · exact fun hread => hread.aov
    · exact fun h => ⟨rfl, rfl, rfl, rfl, rfl, rfl, rfl, rfl, h⟩

/-- A wrapper that is narrow enough gives its value back, unless that is zero. -/
theorem unwrap_narrow_iff {v : Option Int64} (h : ∀ n ∈ v, FitsInt32 n.toInt) :
    unwrapInt32value (v.map fun n => Int32.ofInt n.toInt) = v.map Int64.toInt ↔ v ≠ some 0 := by
  cases v with
  | none => exact iff_of_true rfl (by simp)
  | some n =>
    have hfits := h n rfl
    have hvalue : (Int32.ofInt n.toInt).toInt = n.toInt :=
      Int32.toInt_ofInt_of_le hfits.1 hfits.2
    have hzero : Int32.ofInt n.toInt = 0 ↔ n = 0 := by
      rw [← Int32.toInt_inj, hvalue, ← Int64.toInt_inj]
      rfl
    simp only [Option.map_some, unwrapInt32value, hzero, hvalue]
    by_cases hn : n = 0
    · simp [hn]
    · simp [hn]

theorem DomainRow.FitsWrappers.aov (h : row.FitsWrappers) :
    ∀ n ∈ row.aovMu, FitsInt32 n.toInt :=
  h row.aovMu (by simp [DomainRow.nullables])

/-- A row survives when all its nullable values fit into 32 bits and its average is not zero. -/
theorem survives_iff (row : DomainRow) :
    Survives row ↔ row.FitsWrappers ∧ row.aovMu ≠ some 0 := by
  constructor
  · rintro ⟨proto, hproto, hread⟩
    obtain ⟨hfits, hiff⟩ := readsBack_iff hproto
    exact ⟨hfits, (unwrap_narrow_iff hfits.aov).mp (hiff.mp hread)⟩
  · rintro ⟨hfits, hzero⟩
    obtain ⟨proto, hproto⟩ := domainRowToProto_of_fits hfits
    refine ⟨proto, hproto, ?_⟩
    exact (readsBack_iff hproto).2.mpr ((unwrap_narrow_iff hfits.aov).mpr hzero)

/-- A day with one order of an amount. -/
def orderOf (grossMu : Int64) : Facts where
  orders := [⟨"w", "shopify", "1", juneDay 1, grossMu, 0, 0, 0, "INR", "COD", "paid", none, 1⟩]
  lineItems := []
  products := []
  adSpend := []
  shipments := []

def rowsOf (facts : Facts) : List DomainRow :=
  ((rollup facts ⟨"w", ⟨juneDay 1, juneDay 30⟩, 0⟩).map computedRow).map (·.toMetricRow.toDomain)

/-- The average of a free order is zero and is read as none; one of `2 ^ 31` does not fit. -/
theorem free_order_unread :
    (∃ row ∈ rowsOf (orderOf 0), ¬ Survives row) ∧
      ∃ row ∈ rowsOf (orderOf 2147483648), ¬ Survives row := by
  have hrow (grossMu : Int64) (h : (rowsOf (orderOf grossMu)).length = 1) :
      ∃ row, row ∈ rowsOf (orderOf grossMu) :=
    List.exists_mem_of_length_pos (by omega)
  constructor
  · obtain ⟨row, hmem⟩ := hrow 0 (by decide)
    refine ⟨row, hmem, ?_⟩
    have haov : ∀ row ∈ rowsOf (orderOf 0), row.aovMu = some 0 := by decide
    rintro ⟨proto, hproto, hread⟩
    have h := (readsBack_iff hproto).2.mp hread
    rw [haov row hmem] at h
    cases h
  · obtain ⟨row, hmem⟩ := hrow 2147483648 (by decide)
    refine ⟨row, hmem, ?_⟩
    have haov : ∀ row ∈ rowsOf (orderOf 2147483648), row.aovMu = some 2147483648 := by decide
    rintro ⟨proto, hproto, -⟩
    have h := (readsBack_iff hproto).1.aov _ (haov row hmem)
    exact absurd h (by decide)

end BrainV2.Metrics
