import DualSleeve.Exchange.BinanceRest.Theorems
import DualSleeve.Execution.Repair

namespace DualSleeve

open Library Library.Raise

namespace BinanceRest

-- An order object of the exchange: a status text, and decimals for the quantity and the
-- average price, where the fields are there and not null.
structure IsOrderPayload (fields : JsonObject) : Prop where
  status_text : ∀ value, fields.present "status" = some value → ∃ status, value = .text status
  executedQty_decimal : ∀ value, fields.present "executedQty" = some value →
    ∃ quantity, decimal value.str = .ok quantity
  avgPrice_decimal : ∀ value, fields.present "avgPrice" = some value →
    ∃ price, decimal value.str = .ok price

-- An order as the router hands it to the exchange.
structure IsFresh (order : OrderRecord) : Prop where
  status_eq : order.status = .submitted
  filled_eq : order.filledQuantity = 0
  average_eq : order.averageFillPrice = none
  exchangeId_eq : order.exchangeOrderId = none

-- The answer to the submission and the same object as the answer to a query: both are
-- read, and the snapshot changes nothing in the order.
def DecodersAgree (order : OrderRecord) (fields : JsonObject) : Prop :=
  ∃ reply snapshot, applyExchangeOrderPayload order (.object fields) = .ok reply ∧
    parseOrderSnapshot fields = .ok snapshot ∧ (applyRemoteSnapshot reply snapshot).1 = false

variable {order : OrderRecord} {fields : JsonObject}

theorem optionalDecimal_ok {field : Option JsonScalar}
    (h : ∀ value, field = some value → ∃ number, decimal value.str = .ok number) :
    ∃ number, optionalDecimal field = .ok number := by
  cases field with
  | none => exact ⟨none, rfl⟩
  | some value =>
    obtain ⟨number, hnumber⟩ := h value rfl
    exact ⟨some number, by rw [optionalDecimal, hnumber]; rfl⟩

theorem averagePrice_ok (h : IsOrderPayload fields) :
    ∃ price, optionalDecimal (averagePriceGiven fields) = .ok price := by
  refine optionalDecimal_ok fun value hvalue => h.avgPrice_decimal value ?_
  exact (Option.filter_eq_some_iff.mp hvalue).1

theorem decimal_none : decimal (JsonScalar.null).str = .error .invalidOperation := by decide +kernel

theorem decimal_zero : decimal "0" = .ok 0 := by decide +kernel

theorem present_eq_none {key : String} :
    fields.present key = none ↔ fields.get key = none ∨ fields.get key = some .null := by
  unfold JsonObject.present
  cases fields.get key with
  | none => simp
  | some value => simp

-- The query decoder reads the quantity exactly where it is not null, and then as the
-- submit decoder does.
theorem executedQty_eq_ok_iff {quantity : Option ℚ}
    (hquantity : optionalDecimal (fields.present "executedQty") = .ok quantity) (executed : ℚ) :
    decimal ((fields.get "executedQty").getD (.text "0")).str = .ok executed ↔
      fields.get "executedQty" ≠ some .null ∧ executed = quantity.getD 0 := by
  cases hget : fields.get "executedQty" with
  | none =>
    rw [present_eq_none.mpr (Or.inl hget)] at hquantity
    obtain rfl := Except.ok.inj hquantity
    show decimal "0" = .ok executed ↔ _
    rw [decimal_zero]
    simp [eq_comm]
  | some value =>
    by_cases hnull : value = .null
    · subst hnull
      show decimal (JsonScalar.null).str = .ok executed ↔ _
      rw [decimal_none]
      simp
    · have hpresent : fields.present "executedQty" = some value := by
        unfold JsonObject.present
        rw [hget]
        simp [hnull]
      rw [hpresent, optionalDecimal] at hquantity
      obtain ⟨number, hnumber, rfl⟩ := map_eq_ok.mp hquantity
      show decimal value.str = .ok executed ↔ _
      rw [hnumber]
      simp [hnull, eq_comm]

theorem lookup_none_text : statusMap.lookup (JsonScalar.null).str = none := by decide

-- Both decoders look the status up in the same map, and only differ where it is not there.
theorem status_lookup (h : IsOrderPayload fields) :
    statusMap.lookup ((fields.get "status").getD .null).str = mappedStatus fields := by
  unfold mappedStatus
  cases hget : fields.get "status" with
  | none => exact lookup_none_text
  | some value =>
    by_cases hnull : value = .null
    · subst hnull
      exact lookup_none_text
    · have hpresent : fields.present "status" = some value := by
        unfold JsonObject.present
        rw [hget]
        simp [hnull]
      obtain ⟨status, rfl⟩ := h.status_text value hpresent
      rfl

theorem mappedStatus_isSome_iff :
    (mappedStatus fields).isSome ↔
      ∃ status ∈ statusMap.map Prod.fst, fields.get "status" = some (.text status) := by
  unfold mappedStatus
  split
  · rename_i status hstatus
    rw [hstatus, List.lookup_isSome_iff]
    simp
  · rename_i hother
    simp only [Option.isSome_none, Bool.false_eq_true, false_iff]
    intro h
    obtain ⟨status, -, hstatus⟩ := h
    exact hother status hstatus

-- For a fresh order the two decoders agree exactly on the payloads that name a status of
-- the map and whose quantity is not null.
theorem decodersAgree_iff (hpayload : IsOrderPayload fields) (hfresh : IsFresh order) :
    DecodersAgree order fields ↔
      (∃ status ∈ statusMap.map Prod.fst, fields.get "status" = some (.text status)) ∧
        fields.get "executedQty" ≠ some .null := by
  obtain ⟨quantity, hquantity⟩ := optionalDecimal_ok hpayload.executedQty_decimal
  obtain ⟨price, hprice⟩ := averagePrice_ok hpayload
  rw [← mappedStatus_isSome_iff]
  constructor
  · intro h
    obtain ⟨reply, snapshot, hreply, hsnapshot, hsame⟩ := h
    obtain ⟨average, haverage, hsnapshot⟩ := bind_eq_ok.mp hsnapshot
    obtain ⟨executed, hexecuted, hsnapshot⟩ := bind_eq_ok.mp hsnapshot
    obtain rfl := Except.ok.inj hsnapshot
    refine ⟨?_, ((executedQty_eq_ok_iff hquantity executed).mp hexecuted).1⟩
    have hstatus := (unchanged_iff.mp hsame).1
    rw [(applied_eq hreply).2.2, hfresh.status_eq] at hstatus
    have hlookup := status_lookup hpayload
    cases hmapped : mappedStatus fields with
    | none =>
      simp only [hlookup, hmapped] at hstatus
      cases hstatus
    | some status => rfl
  · intro h
    obtain ⟨hmapped, hnull⟩ := h
    obtain ⟨status, hstatus⟩ := Option.isSome_iff_exists.mp hmapped
    refine ⟨_, _, (bind_of_ok hquantity).trans (bind_of_ok hprice),
      (bind_of_ok hprice).trans
        (bind_of_ok ((executedQty_eq_ok_iff hquantity _).mpr ⟨hnull, rfl⟩)),
      unchanged_iff.mpr ⟨?_, rfl, ?_, ?_⟩⟩
    · simp [status_lookup hpayload, hstatus]
    · show quantity.getD order.filledQuantity = quantity.getD 0
      rw [hfresh.filled_eq]
    · show price.or order.averageFillPrice = price
      rw [hfresh.average_eq, Option.or_none]

-- A status the map does not know, and a quantity that is null.

def freshOrder : OrderRecord where
  clientOrderId := "B-EN-BTCUSDT-1"
  intent := {
    sleeveId := .b
    symbol := "BTCUSDT"
    side := .buy
    orderType := .market
    action := .entry
    quantity := 1 }
  status := .submitted

theorem freshOrder_isFresh : IsFresh freshOrder := ⟨rfl, rfl, rfl, rfl⟩

def unmappedPayload : JsonObject := [
  ("symbol", .text "BTCUSDT"), ("orderId", .number "7"), ("status", .text "EXPIRED_IN_MATCH"),
  ("executedQty", .text "0"), ("avgPrice", .text "0.00000")]

def nullQuantityPayload : JsonObject := [
  ("symbol", .text "BTCUSDT"), ("orderId", .number "7"), ("status", .text "NEW"), ("executedQty", .null)]

theorem decoders_disagree :
    ((applyExchangeOrderPayload freshOrder (.object unmappedPayload)).map OrderRecord.status =
        .ok .submitted ∧
      (parseOrderSnapshot unmappedPayload).map ExchangeOrderSnapshot.status = .ok .unknown ∧
      ¬ DecodersAgree freshOrder unmappedPayload) ∧
    (applyExchangeOrderPayload freshOrder (.object nullQuantityPayload)).isOk ∧
      parseOrderSnapshot nullQuantityPayload = .error .invalidOperation := by
  have hreply : (applyExchangeOrderPayload freshOrder (.object unmappedPayload)).map OrderRecord.status =
      .ok .submitted := by decide +kernel
  have hsnapshot : (parseOrderSnapshot unmappedPayload).map ExchangeOrderSnapshot.status =
      .ok .unknown := by decide +kernel
  refine ⟨⟨hreply, hsnapshot, fun h => ?_⟩, by decide +kernel, by decide +kernel⟩
  obtain ⟨reply, snapshot, happlied, hparsed, hsame⟩ := h
  rw [happlied] at hreply
  rw [hparsed] at hsnapshot
  have hstatus := (unchanged_iff.mp hsame).1
  rw [Except.ok.inj hreply, Except.ok.inj hsnapshot] at hstatus
  cases hstatus

def filledPayload : JsonObject := [
  ("symbol", .text "BTCUSDT"), ("orderId", .number "7"), ("status", .text "FILLED"),
  ("executedQty", .text "1"), ("avgPrice", .text "100.5")]

theorem decodersAgree_iff_filled : DecodersAgree freshOrder filledPayload := by
  have hpayload : IsOrderPayload filledPayload := by
    refine ⟨?_, ?_, ?_⟩
    · intro value hvalue
      obtain rfl := Option.some.inj hvalue
      exact ⟨_, rfl⟩
    · intro value hvalue
      obtain rfl := Option.some.inj hvalue
      exact exists_ok (by decide +kernel)
    · intro value hvalue
      obtain rfl := Option.some.inj hvalue
      exact exists_ok (by decide +kernel)
  exact (decodersAgree_iff hpayload freshOrder_isFresh).mpr ⟨⟨"FILLED", by decide, rfl⟩, by decide⟩

end BinanceRest

end DualSleeve
