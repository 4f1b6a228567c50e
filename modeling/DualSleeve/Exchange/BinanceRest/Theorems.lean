import DualSleeve.Exchange.BinanceRest
import DualSleeve.Execution.OrderStateMachine
import DualSleeve.Library.Raise

namespace DualSleeve

open Library

-- The endpoint answers a request with a payload.
def RestState.Answers (state : RestState) (method path : String) (params : List (String × FieldValue))
    (payload : Payload) : Prop :=
  ∃ response, state.transport { method, path, params } = .ok response ∧
    response.statusCode < 400 ∧ response.json = .ok payload

namespace BinanceRest

variable {state after : RestState} {order reply : OrderRecord} {fields : JsonObject}

theorem request_eq_ok {method path : String} {params : List (String × FieldValue)} {payload : Payload} :
    request method path params state = (.ok payload, after) ↔
      state.Answers method path params payload ∧ after = state := by
  unfold request
  rw [Program.get_bind]
  constructor
  · intro h
    obtain ⟨response, middle, hresponse, h⟩ := Program.bind_eq_ok.mp h
    rw [Program.ofExcept_apply] at hresponse
    obtain ⟨htransport, rfl⟩ := Prod.mk.inj hresponse
    split at h
    · cases (Prod.mk.inj h).1
    · rename_i hcode
      obtain ⟨hjson, rfl⟩ := Prod.mk.inj h
      exact ⟨⟨response, htransport, not_le.mp hcode, hjson⟩, rfl⟩
  · intro h
    obtain ⟨⟨response, htransport, hcode, hjson⟩, rfl⟩ := h
    rw [htransport, Program.ofExcept_ok_bind, if_neg (not_le.mpr hcode), hjson]
    rfl

-- The order is submitted when the answer is an object whose numbers can be read.
theorem submitOrder_eq_ok :
    (submitOrder order state).1 = .ok reply ↔
      ∃ fields, state.Answers "POST" "/fapi/v1/order" (orderParams order) (.object fields) ∧
        applyExchangeOrderPayload order (.object fields) = .ok reply := by
  constructor
  · intro h
    have hsubmit : submitOrder order state = (.ok reply, (submitOrder order state).2) := by rw [← h]
    obtain ⟨payload, middle, hrequest, happly⟩ := Program.bind_eq_ok.mp hsubmit
    obtain ⟨hanswers, _⟩ := request_eq_ok.mp hrequest
    have happlied : applyExchangeOrderPayload order payload = .ok reply := (Prod.mk.inj happly).1
    cases payload with
    | object fields => exact ⟨fields, hanswers, happlied⟩
    | scalar value => cases happlied
    | list items => cases happlied
    | rows items => cases happlied
    | exchangeInfo symbols => cases happlied
  · intro h
    obtain ⟨fields, hanswers, happly⟩ := h
    unfold submitOrder
    rw [Program.bind_of_ok (request_eq_ok.mpr ⟨hanswers, rfl⟩)]
    exact happly

theorem applied_eq (h : applyExchangeOrderPayload order (.object fields) = .ok reply) :
    reply.clientOrderId = order.clientOrderId ∧ reply.intent = order.intent ∧
      reply.status = (mappedStatus fields).getD order.status := by
  obtain ⟨_, _, h⟩ := Raise.bind_eq_ok.mp h
  obtain ⟨_, _, h⟩ := Raise.bind_eq_ok.mp h
  cases h
  exact ⟨rfl, rfl, rfl⟩

theorem queryOrder_eq_ok {symbol clientOrderId : String} {snapshot : ExchangeOrderSnapshot} :
    queryOrder symbol clientOrderId state = (.ok (some snapshot), after) ↔
      (∃ fields, state.Answers "GET" "/fapi/v1/order"
          [("symbol", .text symbol), ("origClientOrderId", .text clientOrderId)] (.object fields) ∧
        parseOrderSnapshot fields = .ok snapshot) ∧ after = state := by
  constructor
  · intro h
    obtain ⟨payload, middle, hrequest, h⟩ := Program.bind_eq_ok.mp h
    obtain ⟨hanswers, rfl⟩ := request_eq_ok.mp hrequest
    cases payload with
    | object fields =>
      obtain ⟨parsed, last, hparsed, h⟩ := Program.bind_eq_ok.mp h
      obtain ⟨hparse, rfl⟩ := Prod.mk.inj hparsed
      cases h
      exact ⟨⟨fields, hanswers, hparse⟩, rfl⟩
    | scalar value => cases h
    | list items => cases h
    | rows items => cases h
    | exchangeInfo symbols => cases h
  · intro h
    obtain ⟨⟨fields, hanswers, hparse⟩, rfl⟩ := h
    unfold queryOrder
    rw [Program.bind_of_ok (request_eq_ok.mpr ⟨hanswers, rfl⟩)]
    dsimp only
    rw [hparse]
    rfl

-- A mapped status can follow SUBMITTED.
theorem legalChange_of_mapped {status : OrderStatus} (h : mappedStatus fields = some status) :
    LegalChange .submitted status := by
  unfold mappedStatus at h
  split at h
  · rename_i text _
    have hmem : (text, status) ∈ statusMap := by
      rw [List.lookup_eq_some_iff] at h
      obtain ⟨before, after, hmap, _⟩ := h
      rw [hmap]
      simp
    have hall : ∀ entry ∈ statusMap, LegalChange .submitted entry.2 := by decide
    exact hall _ hmem
  · cases h

end BinanceRest

end DualSleeve
