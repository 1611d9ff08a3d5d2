import BrainV2.Analytics.Timings
import BrainV2.Lib.Runs
import BrainV2.Retention.OrderRows
import Mathlib

/-!
# What purges bring about

That they stick:

* `Effective`: what a purge has to clear;
* `Sticks`: a closed order that was cleared stays clear;
* `ClosedForGood`: a write of an order that is closed, and stays closed, brings nothing to clear;
* `purges_run`: in the runs whose writes are so, each purge is effective, and what it clears stays
  clear.

What they change in the analytics:

* `SameButRef`: two orders that differ in their keys only;
* `partlyRefunded_of_purgeable`: the counted orders that are cleared are refunded in part;
* `purge_reads`: when none of them is cleared, the readers answer as before.
-/

namespace BrainV2.Retention

section

open Connectors (World forall_mem_upsert)
open Runs (Always Allowed allowed_of_forall allowed_of_step always_of_step)
open Sql (Timestamp)

/-- What has been closed for longer than the retention is clear. -/
def Effective (now : Timestamp) (retentionDays : Int) (s : Store) : Prop :=
  ∀ t ∈ s.orders, ∀ since, t.closedSince = some since →
    since.instant < now.instant - 86400000000 * retentionDays → t.row.NoPii

/-- What a purge has cleared stays clear while the order is closed. -/
def Sticks (s : Store) : Prop := ∀ t ∈ s.orders, t.purged = true → t.row.NoPii

def PurgeEffective (world : World) (s : Store) (e : Event) : Prop :=
  ∀ now retentionDays, e = .purge now retentionDays →
    Effective now retentionDays (step world s e)

/-- An order that is closed and is written as closed carries nothing to clear. -/
def ClosedForGood (orders : List Tracked) (w : Write) : Prop :=
  ∀ t ∈ orders, w.Conflicts t → t.row.purgeable = true → w.row.purgeable = true →
    (w.updated t).row.NoPii

instance (orders : List Tracked) (w : Write) : Decidable (ClosedForGood orders w) :=
  inferInstanceAs (Decidable (∀ t ∈ orders, _))

/-- The condition on the writes of an event, each taken in the table it meets. -/
def WritesClosedForGood (world : World) (s : Store) (e : Event) : Prop :=
  Allowed put ClosedForGood s.orders (writesOf world s e)

instance (world : World) (s : Store) (e : Event) : Decidable (WritesClosedForGood world s e) :=
  inferInstanceAs (Decidable (Allowed _ _ _ _))

/-! ### One row -/

/-- A closed row is clear, or was written when it was closed. -/
structure Kept (t : Tracked) : Prop where
  closed : t.closedSince.isSome = t.row.purgeable
  since : t.row.purgeable = true → t.row.NoPii ∨ t.closedSince = some t.row.syncedAt
  purgedClosed : t.purged = true → t.row.purgeable = true
  purged : t.purged = true → t.row.NoPii

theorem kept_inserted (w : Write) : Kept w.inserted := by
  constructor
  · simp only [Write.inserted]
    split <;> simp_all
  · intro hClosed
    right
    simp only [Write.inserted] at hClosed ⊢
    rw [if_pos hClosed]
  · simp [Write.inserted]
  · simp [Write.inserted]

theorem purgeable_updated (w : Write) (t : Tracked) :
    (w.updated t).row.purgeable = w.row.purgeable := rfl

theorem kept_updated {w : Write} {t : Tracked} (h : Kept t)
    (hw : t.row.purgeable = true → w.row.purgeable = true → (w.updated t).row.NoPii) :
    Kept (w.updated t) := by
  constructor
  · simp only [purgeable_updated]
    simp only [Write.updated]
    split <;> simp_all
  · intro hClosed
    rw [purgeable_updated] at hClosed
    cases hBefore : t.row.purgeable with
    | true => exact Or.inl (hw hBefore hClosed)
    | false =>
      -- The write closes the order.
      right
      have hOpen : t.closedSince = none := by
        have hNone := h.closed
        rw [hBefore] at hNone
        exact Option.isNone_iff_eq_none.mp (by simpa using hNone)
      simp [Write.updated, hClosed, hOpen]
  · intro hPurged
    simp only [Write.updated, Bool.and_eq_true] at hPurged
    exact hPurged.2
  · intro hPurged
    simp only [Write.updated, Bool.and_eq_true] at hPurged
    exact hw (h.purgedClosed hPurged.1) hPurged.2

theorem noPii_withoutPii (row : OrderRow) : row.withoutPii.NoPii := ⟨rfl, rfl, rfl, rfl⟩

theorem kept_purge {t : Tracked} (h : Kept t) (now : Timestamp) (retentionDays : Int) :
    Kept (t.purge now retentionDays) := by
  unfold Tracked.purge
  split
  · next hPurges =>
    have hClosed : t.row.purgeable = true := by
      simp only [OrderRow.purges, Bool.and_eq_true] at hPurges
      exact hPurges.1.2
    exact ⟨h.closed, fun _ => Or.inl (noPii_withoutPii _), fun _ => hClosed,
      fun _ => noPii_withoutPii _⟩
  · exact h

/-! ### Runs -/

def AllKept (orders : List Tracked) : Prop := ∀ t ∈ orders, Kept t

def Store.Kept (s : Store) : Prop := AllKept s.orders

theorem allKept_put {orders : List Tracked} (h : AllKept orders) {w : Write}
    (hw : ClosedForGood orders w) : AllKept (put orders w) := by
  unfold put Connectors.upsert
  split
  · intro u hu
    obtain ⟨t, ht, rfl⟩ := List.mem_map.mp hu
    split
    · next hConflicts => exact kept_updated (h t ht) (hw t ht (of_decide_eq_true hConflicts))
    · exact h t ht
  · intro u hu
    cases List.mem_append.mp hu with
    | inl hOld => exact h u hOld
    | inr hNew =>
      rw [List.mem_singleton.mp hNew]
      exact kept_inserted w

theorem allKept_puts {orders : List Tracked} (h : AllKept orders) {ws : List Write}
    (hws : Allowed put ClosedForGood orders ws) : AllKept (ws.foldl put orders) := by
  have hstep : ∀ orders w, AllKept orders → ClosedForGood orders w → AllKept (put orders w) :=
    fun orders w ho hw => allKept_put ho hw
  exact (always_of_step hstep h hws).last

theorem kept_step {world : World} {s : Store} (h : s.Kept) {e : Event}
    (he : WritesClosedForGood world s e) : (step world s e).Kept := by
  cases e with
  | sync | webhook => exact allKept_puts h he
  | purge now retentionDays =>
    intro u hu
    obtain ⟨t, ht, rfl⟩ := List.mem_map.mp hu
    exact kept_purge (h t ht) now retentionDays
  | setIdentityStitcher | rotateWorkspaceSalt => exact h

theorem sticks_of_kept {s : Store} (h : s.Kept) : Sticks s :=
  fun t ht => (h t ht).purged

theorem row_purge_cases {t : Tracked} (now : Timestamp) (retentionDays : Int) :
    (t.purge now retentionDays).row.NoPii ∨
      t.purge now retentionDays = t ∧ t.row.purges now retentionDays = false := by
  unfold Tracked.purge
  split
  · exact Or.inl (noPii_withoutPii _)
  · next hPurges => exact Or.inr ⟨rfl, Bool.eq_false_iff.mpr hPurges⟩

/-- A closed row that the purge leaves is clear or was written lately. -/
theorem noPii_of_not_purges {row : OrderRow} {now : Timestamp} {retentionDays : Int}
    (h : row.purges now retentionDays = false) (hClosed : row.purgeable = true)
    (hOld : row.syncedAt.instant < now.instant - 86400000000 * retentionDays) : row.NoPii := by
  simp only [OrderRow.purges, hClosed, hOld, decide_true, Bool.true_and, Bool.or_eq_false_iff,
    Option.isSome_eq_false_iff, Option.isNone_iff_eq_none] at h
  exact ⟨h.1.1.1.1, h.1.1.1.2, h.1.1.2, h.1.2⟩

theorem effective_purge {world : World} {s : Store} (h : s.Kept) (now : Timestamp)
    (retentionDays : Int) :
    Effective now retentionDays (step world s (.purge now retentionDays)) := by
  intro u hu since hSince hOld
  obtain ⟨t, ht, rfl⟩ := List.mem_map.mp hu
  cases row_purge_cases (t := t) now retentionDays with
  | inl hClear => exact hClear
  | inr hSame =>
    obtain ⟨hSame, hPurges⟩ := hSame
    simp only [hSame] at hSince ⊢
    have hClosed : t.row.purgeable = true := by rw [← (h t ht).closed, hSince]; rfl
    cases (h t ht).since hClosed with
    | inl hClear => exact hClear
    | inr hWritten =>
      obtain rfl : since = t.row.syncedAt := Option.some.inj (hSince.symm.trans hWritten)
      exact noPii_of_not_purges hPurges hClosed hOld

/-- Each purge is effective, and what it clears stays clear. -/
theorem purges_run {world : World} {identityStitcher : Option String}
    {salts : Identity.SaltTable (List UInt8)} {es : List Event}
    (h : Allowed (step world) (WritesClosedForGood world) (.empty identityStitcher salts) es) :
    Allowed (step world) (PurgeEffective world) (.empty identityStitcher salts) es ∧
      Always (step world) Sticks (.empty identityStitcher salts) es := by
  have hstart : (Store.empty identityStitcher salts).Kept := List.forall_mem_nil _
  have hkept : ∀ s e, s.Kept → WritesClosedForGood world s e → (step world s e).Kept :=
    fun s e hs he => kept_step hs he
  have hstep : ∀ s e, s.Kept → WritesClosedForGood world s e →
      PurgeEffective world s e ∧ (step world s e).Kept := by
    intro s e hs he
    refine ⟨?_, hkept s e hs he⟩
    rintro now retentionDays rfl
    exact effective_purge hs now retentionDays
  exact ⟨allowed_of_step hstep hstart h,
    (always_of_step hkept hstart h).mono fun s hs => sticks_of_kept hs⟩

/-! ### A refunded order that is synced again -/

/-- It is synced, and cleared after its retention. -/
def syncedOnce : List Event := [syncRefunded (firstOf 6), .purge (firstOf 10) 90]

theorem syncedOnce_run :
    Allowed (step exampleWorld) (PurgeEffective exampleWorld) (.empty none []) syncedOnce ∧
      Always (step exampleWorld) Sticks (.empty none []) syncedOnce := by
  apply purges_run
  refine ⟨?_, trivial, trivial⟩
  unfold WritesClosedForGood
  rw [writesOf_syncRefunded rfl]
  decide

/-- A sync after the purge brings the customer back. -/
theorem syncedAgain_not_sticks :
    ¬ Always (step exampleWorld) Sticks (.empty none [])
      (syncedOnce ++ [syncRefunded (firstOf 11)]) := by
  intro h
  have hLast := h.last
  unfold Sticks at hLast
  simp only [syncedOnce, List.cons_append, List.nil_append, Runs.exec_cons, Runs.exec_nil] at hLast
  rw [orders_syncRefunded rfl] at hLast
  change ∀ t ∈ put ((step exampleWorld (.empty none []) (syncRefunded (firstOf 6))).orders.map
    (·.purge (firstOf 10) 90)) (refundedWrite (firstOf 11)), _ at hLast
  rw [orders_syncRefunded rfl] at hLast
  revert hLast
  decide

end

section

open Analytics (Facts FactStoreSummary OrderFact SameReads liveKnown lower ranked readMarketing
  readStoreSummary sumMu sameReads_of_liveKnown)
open Sql (FactDateRange Timestamp)

/-! ### The tables -/

structure Tables where
  orders : List OrderRow
  lineItems : List Analytics.LineItemFact
  products : List Analytics.ProductFact
  adSpend : List Analytics.AdSpendFact

def Tables.facts (t : Tables) : Facts :=
  ⟨t.orders.map (·.toOrderFact), t.lineItems, t.products, t.adSpend⟩

/-- `purge_closed_order_pii` -/
def Tables.purge (t : Tables) (now : Timestamp) (retentionDays : Int) : Tables :=
  { t with orders := (purgeClosedOrderPii now retentionDays t.orders).1 }

/-- Fulfilled, refunded in part, and not cancelled. -/
def OrderRow.PartlyRefunded (row : OrderRow) : Prop :=
  upper (row.financialStatus.getD "") = "PARTIALLY_REFUNDED" ∧
    upper (row.fulfillmentStatus.getD "") = "FULFILLED" ∧ row.cancelledAt = none

/-- The readers answer as before. -/
structure Invisible (t t' : Tables) : Prop extends SameReads t.facts.orders t'.facts.orders where
  marketing : ∀ range, readMarketing t'.facts range = readMarketing t.facts range

/-! ### Orders but for their keys -/

/-- The second order is the first with another key. -/
def SameButRef (o o' : OrderFact) : Prop := o' = { o with customerRef := o'.customerRef }

theorem live_of_sameButRef {o o' : OrderFact} (h : SameButRef o o') : o.live = o'.live := by
  rw [h]
  rfl

theorem inRange_of_sameButRef {o o' : OrderFact} (h : SameButRef o o')
    (range : Option FactDateRange) : o.inRange range = o'.inRange range := by
  rw [h]
  rfl

theorem forall₂_filter {orders orders' : List OrderFact} {p : OrderFact → Bool}
    (h : List.Forall₂ SameButRef orders orders') (hp : ∀ o o', SameButRef o o' → p o = p o') :
    List.Forall₂ SameButRef (orders.filter p) (orders'.filter p) := by
  induction h with
  | nil => exact .nil
  | @cons o o' orders orders' ho _ ih =>
    have hSame := hp o o' ho
    cases hKept : p o with
    | true =>
      rw [List.filter_cons_of_pos hKept, List.filter_cons_of_pos (hSame ▸ hKept)]
      exact .cons ho ih
    | false =>
      rw [List.filter_cons_of_neg (by simp [hKept]),
        List.filter_cons_of_neg (by simp [← hSame, hKept])]
      exact ih

theorem map_of_sameButRef {β : Type} {orders orders' : List OrderFact} (column : OrderFact → β)
    (h : List.Forall₂ SameButRef orders orders')
    (hcolumn : ∀ o o', SameButRef o o' → column o' = column o) :
    orders'.map column = orders.map column := by
  induction h with
  | nil => rfl
  | cons ho _ ih => rw [List.map_cons, List.map_cons, ih, hcolumn _ _ ho]

/-- The summary of the store does not read the keys. -/
theorem readStoreSummary_of_sameButRef {facts facts' : Facts}
    (h : List.Forall₂ SameButRef facts.orders facts'.orders) (range : Option FactDateRange) :
    readStoreSummary facts' range = readStoreSummary facts range := by
  have hRows := forall₂_filter (p := (·.inRange range)) h fun o o' ho =>
    inRange_of_sameButRef ho range
  have hRealized := forall₂_filter (p := (·.live)) hRows fun o o' ho => live_of_sameButRef ho
  have hGross : ∀ o o', SameButRef o o' → o'.grossSalesMu.toInt = o.grossSalesMu.toInt := by
    intro o o' ho
    rw [ho]
  have hDiscount : ∀ o o', SameButRef o o' → o'.totalDiscountMu.toInt = o.totalDiscountMu.toInt := by
    intro o o' ho
    rw [ho]
  have hTax : ∀ o o', SameButRef o o' → o'.totalTaxMu.toInt = o.totalTaxMu.toInt := by
    intro o o' ho
    rw [ho]
  have hShipping : ∀ o o', SameButRef o o' → o'.shippingMu.toInt = o.shippingMu.toInt := by
    intro o o' ho
    rw [ho]
  have hCurrency : ∀ o o', SameButRef o o' → o'.currencyCode = o.currencyCode := by
    intro o o' ho
    rw [ho]
  simp only [readStoreSummary, Analytics.netSalesOf, sumMu, Analytics.currencyOf,
    map_of_sameButRef _ hRows hGross, map_of_sameButRef _ hRows hDiscount,
    map_of_sameButRef _ hRows hTax, map_of_sameButRef _ hRows hShipping,
    map_of_sameButRef _ hRows hCurrency, map_of_sameButRef _ hRealized hGross,
    map_of_sameButRef _ hRealized hDiscount, hRows.length_eq, hRealized.length_eq]

/-! ### The orders that are counted -/

theorem known_withoutPii (row : OrderRow) : row.withoutPii.known = false := rfl

/-- A purge that clears no counted order leaves the counted orders as they are. -/
theorem liveKnown_purge {now : Timestamp} {retentionDays : Int} {rows : List OrderRow}
    (h : ∀ row ∈ rows, row.purges now retentionDays = true → row.live = true →
      row.known = false) :
    liveKnown ((purgeClosedOrderPii now retentionDays rows).1.map (·.toOrderFact)) =
      liveKnown (rows.map (·.toOrderFact)) := by
  simp only [liveKnown, purgeClosedOrderPii, List.filter_filter]
  induction rows with
  | nil => rfl
  | cons row rows ih =>
    have hRest := ih fun r hr => h r (List.mem_cons_of_mem _ hr)
    have hRow := h row List.mem_cons_self
    simp only [List.map_cons]
    cases hPurges : row.purges now retentionDays with
    | false => simp only [Bool.false_eq_true, if_false, List.filter_cons, hRest]
    | true =>
      have hOut : (row.known && row.live) = false := by
        cases hLive : row.live with
        | false => exact Bool.and_false _
        | true => rw [hRow hPurges hLive, Bool.false_and]
      simp only [if_true, List.filter_cons, hRest, hOut, known_withoutPii, Bool.false_and,
        Bool.false_eq_true, if_false]

theorem ranked_eq (facts : Facts) (range : Option FactDateRange) :
    ranked facts range = (liveKnown facts.orders).filter (·.inRange range) := by
  simp only [ranked, Analytics.liveIn, liveKnown, List.filter_filter]
  apply List.filter_congr
  intro o _
  cases o.inRange range <;> cases o.live <;> simp

/-- `lower` does not see what `upper` changes. -/
theorem toLower_toUpper (c : Char) : c.toUpper.toLower = c.toLower := by
  rw [Char.toUpper.eq_def c]
  split
  · next h =>
    obtain ⟨ha, hz⟩ := h
    simp only [UInt32.le_iff_toNat_le, Char.reduceVal, UInt32.reduceToNat] at ha hz
    have hLower : c.toLower = c := by
      rw [Char.toLower, dif_neg]
      rintro ⟨-, hZ⟩
      simp only [UInt32.le_iff_toNat_le, Char.reduceVal, UInt32.reduceToNat] at hZ
      omega
    rw [hLower, Char.toLower, dif_pos]
    · apply Char.ext
      change c.val + ('A'.val - 'a'.val) + ('a'.val - 'A'.val) = c.val
      have hBack : 'A'.val - 'a'.val + ('a'.val - 'A'.val) = 0 := by decide
      rw [UInt32.add_assoc, hBack, UInt32.add_zero]
    · simp only [ge_iff_le, UInt32.le_iff_toNat_le, UInt32.toNat_add, Char.reduceVal,
        UInt32.reduceSub, UInt32.reduceToNat]
      omega
  · rfl

theorem lower_upper (text : String) : lower (upper text) = lower text := by
  simp only [lower, upper, String.toList_ofList, List.map_map]
  congr 1
  exact List.map_congr_left fun c _ => toLower_toUpper c

/-- The counted orders that can be cleared are refunded in part. -/
theorem partlyRefunded_of_purgeable {row : OrderRow} (h : row.purgeable = true)
    (hLive : row.live = true) : row.PartlyRefunded := by
  simp only [OrderFact.live, OrderFact.status, decide_eq_true_eq, List.mem_cons, List.not_mem_nil,
    or_false, not_or] at hLive
  obtain ⟨hCancelled, -, hRefunded⟩ := hLive
  simp only [OrderRow.purgeable, isOrderPiiPurgeable, hCancelled, Option.isSome_none, Bool.false_or,
    Bool.and_eq_true, decide_eq_true_eq] at h
  obtain ⟨-, hFinancial, hFulfilled⟩ := h
  refine ⟨?_, hFulfilled, hCancelled⟩
  cases List.mem_cons.mp hFinancial with
  | inl hFull =>
    rw [← lower_upper, hFull] at hRefunded
    exact (hRefunded (by decide)).elim
  | inr hPart => exact List.mem_singleton.mp hPart

theorem purgeable_of_purges {row : OrderRow} {now : Timestamp} {retentionDays : Int}
    (h : row.purges now retentionDays = true) : row.purgeable = true := by
  simp only [OrderRow.purges, Bool.and_eq_true] at h
  exact h.1.2

theorem sameButRef_purge (now : Timestamp) (retentionDays : Int) (rows : List OrderRow) :
    List.Forall₂ SameButRef (rows.map (·.toOrderFact))
      ((purgeClosedOrderPii now retentionDays rows).1.map (·.toOrderFact)) := by
  induction rows with
  | nil => exact .nil
  | cons row rows ih =>
    refine .cons ?_ ih
    unfold SameButRef
    by_cases hPurges : row.purges now retentionDays = true
    · simp only [if_pos hPurges]
      rfl
    · simp only [if_neg hPurges]

theorem marketing_of_liveKnown {facts facts' : Facts}
    (hOrders : List.Forall₂ SameButRef facts.orders facts'.orders)
    (hKnown : liveKnown facts'.orders = liveKnown facts.orders)
    (hSpend : facts'.adSpend = facts.adSpend) (range : Option FactDateRange) :
    readMarketing facts' range = readMarketing facts range := by
  have hAds : Analytics.readAdSpend facts' range = Analytics.readAdSpend facts range := by
    unfold Analytics.readAdSpend
    rw [hSpend]
  simp only [readMarketing, readStoreSummary_of_sameButRef hOrders range, hAds, ranked_eq, hKnown]

/-- Every order that is cleared is left out by the readers or refunded in part; when none of
the latter has a customer, the readers answer as before. -/
theorem purge_reads (t : Tables) (now : Timestamp) (retentionDays : Int) :
    (∀ row ∈ t.orders, row.purges now retentionDays = true →
      row.live = false ∨ row.PartlyRefunded) ∧
    ((∀ row ∈ t.orders, row.purges now retentionDays = true → row.PartlyRefunded →
      row.customerRef = none) → Invisible t (t.purge now retentionDays)) := by
  have hCounted : ∀ row : OrderRow, row.purges now retentionDays = true → row.live = true →
      row.PartlyRefunded := fun row hPurges hLive =>
    partlyRefunded_of_purgeable (purgeable_of_purges hPurges) hLive
  constructor
  · intro row _ hPurges
    cases hLive : row.live with
    | false => exact Or.inl rfl
    | true => exact Or.inr (hCounted row hPurges hLive)
  · intro h
    have hKnown : liveKnown (t.purge now retentionDays).facts.orders =
        liveKnown t.facts.orders := by
      apply liveKnown_purge
      intro row hRow hPurges hLive
      simp [OrderFact.known, h row hRow hPurges (hCounted row hPurges hLive)]
    exact ⟨sameReads_of_liveKnown hKnown,
      marketing_of_liveKnown (sameButRef_purge now retentionDays t.orders) hKnown rfl⟩

/-! ### One order -/

/-- The order of `refundedNode`, with a status. -/
def oneOrder (financialStatus : String) : Tables where
  orders := [{ (refundedWrite (firstOf 6)).row with financialStatus := some financialStatus }]
  lineItems := []
  products := []
  adSpend := []

/-- An order that is refunded whole is cleared, and was not counted. -/
theorem refunded_invisible : Invisible (oneOrder "REFUNDED")
    ((oneOrder "REFUNDED").purge (firstOf 10) 90) :=
  (purge_reads (oneOrder "REFUNDED") (firstOf 10) 90).2 (by
    intro row hRow _ hPartly
    rw [List.mem_singleton.mp hRow] at hPartly
    exact absurd hPartly.1 (by decide))

/-- The customer of an order that is refunded in part is new before the purge, and gone after. -/
theorem partlyRefunded_visible :
    ¬ ∀ t now retentionDays, Invisible t (Tables.purge t now retentionDays) := by
  intro h
  have hSame := (h (oneOrder "PARTIALLY_REFUNDED") (firstOf 10) 90).marketing none
  have hBefore : ∃ m, readMarketing (oneOrder "PARTIALLY_REFUNDED").facts none = .ok m ∧
      m.newCustomersCount = 1 := ⟨_, rfl, rfl⟩
  have hAfter : ∃ m, readMarketing ((oneOrder "PARTIALLY_REFUNDED").purge (firstOf 10) 90).facts
      none = .ok m ∧ m.newCustomersCount = 0 := ⟨_, rfl, rfl⟩
  obtain ⟨before, hBefore, hOne⟩ := hBefore
  obtain ⟨after, hAfter, hNone⟩ := hAfter
  rw [hBefore, hAfter] at hSame
  cases hSame
  omega

end

end BrainV2.Retention
