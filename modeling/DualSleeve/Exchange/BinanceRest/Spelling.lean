import DualSleeve.Exchange.BinanceRest
import DualSleeve.Library.Raise

namespace DualSleeve

open Library

namespace BinanceRest

-- Two values that spell one number, or are both left out.
inductive SameNumber : Option JsonScalar → Option JsonScalar → Prop where
  | absent : SameNumber none none
  | spelled {value other : JsonScalar} {number : ℚ} (hvalue : decimal value.str = .ok number)
      (hother : decimal other.str = .ok number) : SameNumber (some value) (some other)

-- Payloads that differ only in how they spell `avgPrice` and `executedQty`.
structure Respelled (fields other : JsonObject) : Prop where
  rest : ∀ key, key ≠ "avgPrice" → key ≠ "executedQty" → fields.get key = other.get key
  averagePrice : SameNumber (fields.present "avgPrice") (other.present "avgPrice")
  executedQuantity : SameNumber (fields.get "executedQty") (other.get "executedQty")

-- The average price is 0, however it is spelled.
def ZeroPrice (fields : JsonObject) (value : JsonScalar) : Prop :=
  fields.present "avgPrice" = some value ∧ decimal value.str = .ok 0

-- The spellings of zero that the decoder passes over.
def zeroSpellings : List JsonScalar := [.text "0", .text "0.0", .text "0.00000"]

-- A zero average price is spelled in a way the decoder knows.
def ZeroListed (fields : JsonObject) : Prop :=
  ∀ value, ZeroPrice fields value →
    value ∈ zeroSpellings

def NoneForZero (fields : JsonObject) : Prop :=
  ∀ value, ZeroPrice fields value →
    ∃ snapshot, parseOrderSnapshot fields = .ok snapshot ∧ snapshot.averagePrice = none

-- What is decoded depends on the numbers only, and no price is decoded from a zero.
structure DecodedByValue (fields other : JsonObject) : Prop where
  snapshot : parseOrderSnapshot fields = parseOrderSnapshot other
  record : ∀ order, applyExchangeOrderPayload order (.object fields) =
    applyExchangeOrderPayload order (.object other)
  zero : NoneForZero fields ∧ NoneForZero other

variable {fields other : JsonObject}

theorem decimal_of_listed {value : JsonScalar} (h : value ∈ zeroSpellings) :
    decimal value.str = .ok 0 := by
  have hall : ∀ listed ∈ zeroSpellings, decimal listed.str = .ok 0 := by
    decide +kernel
  exact hall value h

-- Three spellings of zero are passed over; every other price is read.
theorem averagePriceGiven_eq {value : JsonScalar} {number : ℚ}
    (hpresent : fields.present "avgPrice" = some value) (hvalue : decimal value.str = .ok number) :
    optionalDecimal (averagePriceGiven fields) =
      .ok (if value ∈ zeroSpellings then none else some number) := by
  have hgiven : averagePriceGiven fields = (some value).filter (· ∉ zeroSpellings) :=
    congrArg (Option.filter (· ∉ zeroSpellings)) hpresent
  rw [hgiven]
  by_cases hlisted : value ∈ zeroSpellings
  · rw [if_pos hlisted, Option.filter_some, decide_eq_false (not_not.mpr hlisted)]
    rfl
  · rw [if_neg hlisted, Option.filter_some, decide_eq_true hlisted, if_pos rfl, optionalDecimal, hvalue]
    rfl

-- Where zero is spelled in a known way, the number decides what is decoded.
theorem averagePriceGiven_of_listed (hlisted : ZeroListed fields) {value : JsonScalar} {number : ℚ}
    (hpresent : fields.present "avgPrice" = some value) (hvalue : decimal value.str = .ok number) :
    optionalDecimal (averagePriceGiven fields) = .ok (if number = 0 then none else some number) := by
  have hiff : value ∈ zeroSpellings ↔ number = 0 := by
    constructor
    · intro h
      rw [decimal_of_listed h] at hvalue
      exact (Except.ok.inj hvalue).symm
    · intro hzero
      subst hzero
      exact hlisted value ⟨hpresent, hvalue⟩
  rw [averagePriceGiven_eq hpresent hvalue]
  simp only [hiff]

theorem averagePrice_congr (hprice : SameNumber (fields.present "avgPrice") (other.present "avgPrice"))
    (hlisted : ZeroListed fields) (hother : ZeroListed other) :
    optionalDecimal (averagePriceGiven fields) = optionalDecimal (averagePriceGiven other) := by
  generalize hf : fields.present "avgPrice" = price, ho : other.present "avgPrice" = price' at hprice
  cases hprice with
  | absent =>
    unfold averagePriceGiven
    rw [hf, ho]
  | spelled hvalue hvalue' =>
    rw [averagePriceGiven_of_listed hlisted hf hvalue, averagePriceGiven_of_listed hother ho hvalue']

-- The executed quantity is read from either spelling, and a missing one is missing in both.
theorem SameNumber.decimal_eq {value other : Option JsonScalar} (h : SameNumber value other) :
    ∃ number, decimal (value.getD (.text "0")).str = .ok number ∧
      decimal (other.getD (.text "0")).str = .ok number := by
  cases h with
  | absent => exact ⟨0, by decide +kernel, by decide +kernel⟩
  | spelled hvalue hother => exact ⟨_, hvalue, hother⟩

theorem present_of_decimal {key : String} {value : JsonScalar} {number : ℚ}
    (hget : fields.get key = some value) (hvalue : decimal value.str = .ok number) :
    fields.present key = some value := by
  have hnull : value ≠ .null := by
    rintro rfl
    have hnone : decimal JsonScalar.null.str = .error .invalidOperation := by decide +kernel
    rw [hnone] at hvalue
    cases hvalue
  rw [JsonObject.present, hget, Option.filter_some, if_pos (decide_eq_true hnull)]

theorem executedQuantity_congr (h : SameNumber (fields.get "executedQty") (other.get "executedQty")) :
    optionalDecimal (fields.present "executedQty") = optionalDecimal (other.present "executedQty") := by
  generalize hf : fields.get "executedQty" = quantity, ho : other.get "executedQty" = quantity' at h
  cases h with
  | absent => rw [JsonObject.present, JsonObject.present, hf, ho]
  | spelled hvalue hvalue' =>
    rw [present_of_decimal hf hvalue, present_of_decimal ho hvalue', optionalDecimal, optionalDecimal,
      hvalue, hvalue']

theorem Respelled.mappedStatus (h : Respelled fields other) : mappedStatus fields = mappedStatus other := by
  unfold BinanceRest.mappedStatus
  rw [h.rest "status" (by decide) (by decide)]

theorem Respelled.present (h : Respelled fields other) {key : String} (hprice : key ≠ "avgPrice")
    (hquantity : key ≠ "executedQty") : fields.present key = other.present key := by
  rw [JsonObject.present, JsonObject.present, h.rest key hprice hquantity]

theorem parseOrderSnapshot_congr (h : Respelled fields other) (hlisted : ZeroListed fields)
    (hother : ZeroListed other) : parseOrderSnapshot fields = parseOrderSnapshot other := by
  obtain ⟨number, hexecuted, hexecuted'⟩ := h.executedQuantity.decimal_eq
  unfold parseOrderSnapshot
  rw [averagePrice_congr h.averagePrice hlisted hother, hexecuted, hexecuted',
    h.present (by decide) (by decide), h.rest "status" (by decide) (by decide),
    h.rest "clientOrderId" (by decide) (by decide), h.rest "symbol" (by decide) (by decide)]

theorem applyExchangeOrderPayload_congr (h : Respelled fields other) (hlisted : ZeroListed fields)
    (hother : ZeroListed other) (order : OrderRecord) :
    applyExchangeOrderPayload order (.object fields) = applyExchangeOrderPayload order (.object other) := by
  unfold applyExchangeOrderPayload
  simp only [executedQuantity_congr h.executedQuantity, averagePrice_congr h.averagePrice hlisted hother,
    h.mappedStatus, h.present (by decide : "orderId" ≠ "avgPrice") (by decide)]

-- No price is decoded from a zero exactly when the zero is spelled in a known way.
theorem noneForZero_iff {number : ℚ}
    (hexecuted : decimal ((fields.get "executedQty").getD (.text "0")).str = .ok number) :
    NoneForZero fields ↔ ZeroListed fields := by
  constructor
  · intro h value hzero
    obtain ⟨snapshot, hparse, hnone⟩ := h value hzero
    obtain ⟨averagePrice, haverage, hrest⟩ := Raise.bind_eq_ok.mp hparse
    obtain ⟨executed, _, hrest⟩ := Raise.bind_eq_ok.mp hrest
    obtain rfl := Except.ok.inj hrest
    by_contra hunlisted
    rw [averagePriceGiven_eq hzero.1 hzero.2, if_neg hunlisted] at haverage
    cases (Except.ok.inj haverage).trans hnone
  · intro hlisted value hzero
    have haverage : optionalDecimal (averagePriceGiven fields) = .ok none := by
      rw [averagePriceGiven_of_listed hlisted hzero.1 hzero.2, if_pos rfl]
    unfold parseOrderSnapshot
    rw [haverage, hexecuted]
    exact ⟨_, rfl, rfl⟩

-- Orders are decoded by their numbers exactly when every zero price is spelled in a known way.
theorem decodedByValue_iff (h : Respelled fields other) :
    DecodedByValue fields other ↔ ZeroListed fields ∧ ZeroListed other := by
  obtain ⟨number, hexecuted, hexecuted'⟩ := h.executedQuantity.decimal_eq
  constructor
  · intro hdecoded
    exact ⟨(noneForZero_iff hexecuted).mp hdecoded.zero.1, (noneForZero_iff hexecuted').mp hdecoded.zero.2⟩
  · intro hlisted
    refine ⟨parseOrderSnapshot_congr h hlisted.1 hlisted.2,
      applyExchangeOrderPayload_congr h hlisted.1 hlisted.2, ?_⟩
    exact ⟨(noneForZero_iff hexecuted).mpr hlisted.1, (noneForZero_iff hexecuted').mpr hlisted.2⟩

-- The answer for an order of BTCUSDT, with these spellings.
def orderPayload (averagePrice executedQuantity : String) : JsonObject := [
  ("clientOrderId", .text "b-1"), ("symbol", .text "BTCUSDT"), ("orderId", .number "7"),
  ("status", .text "NEW"), ("avgPrice", .text averagePrice), ("executedQty", .text executedQuantity)]

theorem present_orderPayload (averagePrice executedQuantity : String) :
    (orderPayload averagePrice executedQuantity).present "avgPrice" = some (.text averagePrice) := rfl

theorem respelled_orderPayload {averagePrice averagePrice' executedQuantity executedQuantity' : String}
    (price quantity : ℚ) (hprice : decimal averagePrice = .ok price)
    (hprice' : decimal averagePrice' = .ok price) (hquantity : decimal executedQuantity = .ok quantity)
    (hquantity' : decimal executedQuantity' = .ok quantity) :
    Respelled (orderPayload averagePrice executedQuantity)
      (orderPayload averagePrice' executedQuantity') where
  rest := by
    intro key hp hq
    simp [JsonObject.get, orderPayload, List.lookup_cons, beq_eq_false_iff_ne.mpr hp,
      beq_eq_false_iff_ne.mpr hq]
  averagePrice := by
    rw [present_orderPayload, present_orderPayload]
    exact .spelled hprice hprice'
  executedQuantity := .spelled hquantity hquantity'

theorem zeroListed_of_ne {value : JsonScalar} {number : ℚ} (hpresent : fields.present "avgPrice" = some value)
    (hvalue : decimal value.str = .ok number) (hne : number ≠ 0) : ZeroListed fields := by
  intro other hzero
  obtain rfl := Option.some.inj (hpresent.symm.trans hzero.1)
  exact absurd (Except.ok.inj (hvalue.symm.trans hzero.2)) hne

theorem decimal_hundred : decimal "100.0" = .ok 100 ∧ decimal "100.00" = .ok 100 := by decide +kernel

theorem decodedByValue_hundred :
    DecodedByValue (orderPayload "100.0" "0.010") (orderPayload "100.00" "0.01") := by
  have hrespelled : Respelled (orderPayload "100.0" "0.010") (orderPayload "100.00" "0.01") :=
    respelled_orderPayload 100 (1 / 100) decimal_hundred.1 decimal_hundred.2 (by decide +kernel)
      (by decide +kernel)
  have hfields : ZeroListed (orderPayload "100.0" "0.010") :=
    zeroListed_of_ne (present_orderPayload _ _) decimal_hundred.1 (by norm_num)
  have hother : ZeroListed (orderPayload "100.00" "0.01") :=
    zeroListed_of_ne (present_orderPayload _ _) decimal_hundred.2 (by norm_num)
  exact (decodedByValue_iff hrespelled).mpr ⟨hfields, hother⟩

-- Zero with two digits behind the point is decoded as a price.
theorem decodedByValue_zero :
    Respelled (orderPayload "0.00" "0") (orderPayload "0" "0") ∧
      ¬DecodedByValue (orderPayload "0.00" "0") (orderPayload "0" "0") := by
  refine ⟨?_, ?_⟩
  · exact respelled_orderPayload 0 0 (by decide +kernel) (by decide +kernel) (by decide +kernel)
      (by decide +kernel)
  · intro h
    have hread : (parseOrderSnapshot (orderPayload "0.00" "0")).map (·.averagePrice) = .ok (some 0) := by
      decide +kernel
    have hother : (parseOrderSnapshot (orderPayload "0" "0")).map (·.averagePrice) = .ok none := by
      decide +kernel
    rw [h.snapshot, hother] at hread
    cases hread

end BinanceRest

end DualSleeve
