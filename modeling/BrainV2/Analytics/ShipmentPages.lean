import BrainV2.Analytics.Shipments
import BrainV2.Lib.Keyset
import BrainV2.Lib.Encodings

/-!
# The pages of the shipment console

* `shipmentPages`: the pages that `nextCursor` leads to, until it is null;
* `cursors`: a cursor comes back cut to 128 code units, and the empty one is none;
* `shipmentAnswers`: the rows behind a cursor, as the first statement finds them;
* `shipmentsReadOnce_iff`: no row is lost or repeated if and only if the id after each page is
  below what comes back of the last id on it;
* `borders_clear`: as it is for ids that differ and fit.
-/

namespace BrainV2.Analytics

open Keyset
open RowOrder (Arrangement orderBy orderBy_perm orderBy_sorted)
open Sql (juneDay)
open Utf16 (units utf16)

/-! ### A text cut off -/

theorem not_lex_sliceChars (cs : List Char) (n : Nat) :
    ¬ List.Lex (· < ·) cs (sliceChars cs n) := by
  fun_induction sliceChars cs n with
  | case1 => exact List.not_lex_nil
  | case2 => exact List.not_lex_nil
  | case3 c cs n h ih =>
    intro hlex
    cases hlex with
    | rel hlt => exact lt_irrefl _ hlt
    | cons hlex => exact ih hlex
  | case4 c cs h =>
    intro hlex
    cases hlex with
    | rel hlt =>
      have : c.toNat < 0xFFFD := hlt
      omega
    | cons hlex => exact h (by decide)
  | case5 c cs h n ih =>
    intro hlex
    cases hlex with
    | rel hlt => exact lt_irrefl _ hlt
    | cons hlex => exact ih hlex

theorem sliceText_le (n : Nat) (text : String) : sliceText n text ≤ text := by
  apply not_lt.mp
  rw [String.lt_iff_toList_lt, sliceText, String.toList_ofList]
  exact not_lex_sliceChars _ n

theorem units_length (c : Char) : (units c).length = if c.toNat < 0x10000 then 1 else 2 := by
  unfold units
  split <;> rfl

theorem sliceChars_of_length_le {cs : List Char} {n : Nat} (h : (cs.flatMap units).length ≤ n) :
    sliceChars cs n = cs := by
  fun_induction sliceChars cs n with
  | case1 => rfl
  | case2 cs =>
    cases cs with
    | nil => rfl
    | cons c cs =>
      rw [List.flatMap_cons, List.length_append, units_length] at h
      split at h <;> omega
  | case3 c cs n hc ih =>
    rw [List.flatMap_cons, List.length_append, units_length, if_pos hc] at h
    rw [ih (by omega)]
  | case4 c cs hc =>
    rw [List.flatMap_cons, List.length_append, units_length, if_neg hc] at h
    omega
  | case5 c cs hc n ih =>
    rw [List.flatMap_cons, List.length_append, units_length, if_neg hc] at h
    rw [ih (by omega)]

theorem sliceText_of_length_le {n : Nat} {text : String} (h : (utf16 text).length ≤ n) :
    sliceText n text = text := by
  rw [sliceText, sliceChars_of_length_le h, String.ofList_toList]

def cursors : Cursors String where
  clip := sliceText 128
  clip_le := sliceText_le 128
  blank cursor := cursor = ""
  blank_le cursor h other := by
    rw [of_decide_eq_true h]
    exact not_lt.mp (String.lt_iff_toList_lt.not.mpr List.not_lex_nil)

theorem beforeCursor_eq (cursor : Option String) (s : ChShipment) :
    beforeCursor cursor s = cursors.reached cursor s.vendorShipmentId := by
  unfold beforeCursor
  split
  · rfl
  · rw [cursors.reached_blank rfl]
    rfl
  · next text hne =>
    rw [cursors.reached_some (decide_eq_false fun h => hne (by rw [h]))]
    rfl

section

variable (b : Nat → Arrangement) (db : ChDatabase) (workspaceId : String)
  (filters : ShipmentRowFilters) (pageSize : Nat)

/-- Each page may have rows of one id in another order. -/
def shipmentPages : Nat → Nat → Option String → Option (List FactShipmentPage) :=
  follow (fun i cursor => readShipmentRowsCH (b i) db workspaceId filters cursor pageSize)
    (·.nextCursor)

def matchingShipments : List ChShipment := (db.shipmentsOf workspaceId).filter filters.has

/-- The run from the first page ends, and its pages hold every matching row once. -/
def ShipmentsReadOnce : Prop :=
  ∃ fuel pages, shipmentPages b db workspaceId filters pageSize fuel 0 none = some pages ∧
    (pages.flatMap (·.rows)).Perm ((matchingShipments db workspaceId filters).map factShipmentRow)

/-- The ids that match, the last first. -/
def shipmentIds : List String :=
  descending ((matchingShipments db workspaceId filters).map (·.vendorShipmentId))

def shipmentAnswers : Answers cursors FactShipmentRow.id
    ((matchingShipments db workspaceId filters).map factShipmentRow) where
  found i cursor :=
    (orderBy (b i) (fun s s' : ChShipment => s'.vendorShipmentId ≤ s.vendorShipmentId)
      ((db.shipmentsOf workspaceId).filter fun s =>
        filters.has s && beforeCursor cursor s)).map factShipmentRow
  perm i cursor := by
    apply ((orderBy_perm _ _ _).map factShipmentRow).trans
    rw [List.filter_map, matchingShipments, List.filter_filter]
    apply List.Perm.of_eq
    apply congrArg (List.map factShipmentRow)
    apply List.filter_congr
    intro s _
    rw [beforeCursor_eq, Bool.and_comm]
    rfl
  sorted i cursor := by
    rw [List.map_map, List.pairwise_map]
    exact orderBy_sorted _

variable {b db workspaceId filters pageSize}

theorem readShipmentRowsCH_page (i : Nat) (cursor : Option String) :
    let page := readShipmentRowsCH (b i) db workspaceId filters cursor pageSize
    (page.rows, page.nextCursor) =
      (shipmentAnswers b db workspaceId filters).page pageSize i cursor := by
  have htake : ∀ rows : List ChShipment, (rows.take (pageSize + 1)).take pageSize =
      rows.take pageSize := by
    intro rows
    rw [List.take_take]
    congr 1
    omega
  have hlonger : ∀ rows : List ChShipment,
      pageSize < (rows.take (pageSize + 1)).length ↔ pageSize < rows.length := by
    intro rows
    rw [List.length_take]
    omega
  simp only [readShipmentRowsCH, shipmentRows, htake, hlonger, Answers.page, shipmentAnswers,
    List.length_map, ← List.map_take, List.getLast?_map, Option.map_map]
  rfl

theorem readOnce_answers : ShipmentsReadOnce b db workspaceId filters pageSize ↔
    (shipmentAnswers b db workspaceId filters).ReadOnce pageSize := by
  have hpages : ∀ fuel, (shipmentPages b db workspaceId filters pageSize fuel 0 none).map
      (List.map fun page => (page.rows, page.nextCursor)) =
        (shipmentAnswers b db workspaceId filters).pages pageSize fuel 0 none := by
    intro fuel
    apply follow_map
    · exact fun page => rfl
    · exact fun n cursor => readShipmentRowsCH_page (0 + n) cursor
  constructor
  · rintro ⟨fuel, pages, hrun, hperm⟩
    refine ⟨fuel, _, (hpages fuel).symm.trans (congrArg _ hrun), ?_⟩
    rwa [List.flatMap_map]
  · rintro ⟨fuel, P, hrun, hperm⟩
    obtain ⟨pages, hpages, rfl⟩ := Option.map_eq_some_iff.mp ((hpages fuel).trans hrun)
    rw [List.flatMap_map] at hperm
    exact ⟨fuel, pages, hpages, hperm⟩

/-- No row is lost or repeated if and only if the id after each page is below what comes back of
the last id on it. -/
theorem shipmentsReadOnce_iff (h : 0 < pageSize) :
    ShipmentsReadOnce b db workspaceId filters pageSize ↔
      Clear cursors pageSize (shipmentIds db workspaceId filters) := by
  rw [readOnce_answers, Answers.readOnce_iff _ h, List.map_map]
  rfl

/-- Ids that differ, of at most 128 code units, lose nothing at any border. -/
theorem borders_clear (h : 0 < pageSize)
    (hids : ((matchingShipments db workspaceId filters).map (·.vendorShipmentId)).Nodup)
    (hfit : ∀ s ∈ matchingShipments db workspaceId filters,
      (utf16 s.vendorShipmentId).length ≤ 128) :
    Clear cursors pageSize (shipmentIds db workspaceId filters) := by
  have hperm := descending_perm
    ((matchingShipments db workspaceId filters).map (·.vendorShipmentId))
  apply clear_of_pairwise h
  · apply ((descending_sorted _).and (hperm.nodup_iff.mpr hids)).imp
    rintro x y ⟨hge, hne⟩
    exact lt_of_le_of_ne hge hne.symm
  · intro id hid
    obtain ⟨s, hs, rfl⟩ := List.mem_map.mp (hperm.subset hid)
    exact sliceText_of_length_le (hfit s hs)

end

/-! ### Runs of two pages -/

/-- A shipment of the workspace `w`, of which nothing else is known. -/
def shipmentOf (vendor vendorShipmentId : String) : ChShipment where
  workspaceId := "w"
  vendor := vendor
  vendorShipmentId := vendorShipmentId
  vendorOrderId := ""
  status := "DELIVERED"
  courierName := ""
  deliveryPincode := ""
  deliveryCity := ""
  isCod := 0
  shippedAt := none
  date := juneDay 1
  version := 1

def shipmentsDatabase (rows : List ChShipment) : ChDatabase := ⟨[], [], [], [], rows⟩

def anyShipment : ShipmentRowFilters := ⟨none, none, none, false⟩

/-- Two pages of three shipments. -/
theorem three_shipments_read_once :
    ShipmentsReadOnce (fun _ => .plain) (shipmentsDatabase [shipmentOf "shiprocket" "1001",
      shipmentOf "shiprocket" "1002", shipmentOf "shiprocket" "1003"]) "w" anyShipment 2 := by
  apply (shipmentsReadOnce_iff (by decide)).mpr
  apply borders_clear (by decide)
  · decide
  · decide

/-- Of two shipments with one id, one is on the first page and none behind its cursor. -/
theorem tied_shipment_lost :
    ¬ ShipmentsReadOnce (fun _ => .plain) (shipmentsDatabase [shipmentOf "shiprocket" "7",
      shipmentOf "delhivery" "7"]) "w" anyShipment 1 := by
  have hids : shipmentIds (shipmentsDatabase [shipmentOf "shiprocket" "7",
      shipmentOf "delhivery" "7"]) "w" anyShipment = ["7", "7"] := by
    apply List.perm_replicate (n := 2).mp
    exact descending_perm _
  rw [readOnce_answers, Answers.readOnce_iff _ (by decide)]
  intro hclear
  have hlt := hclear 0 "7" "7" (congrArg (·[0]?) hids) (congrArg (·[1]?) hids)
  exact absurd (hlt.trans_le (sliceText_le 128 "7")) (lt_irrefl _)

end BrainV2.Analytics
