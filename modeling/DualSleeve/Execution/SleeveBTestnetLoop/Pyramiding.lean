import DualSleeve.Execution.SleeveBTestnetLoop.Market
import DualSleeve.Library.Run

namespace DualSleeve

open Library

-- A run of the loop, with what the exchange answers to it, or a fill of the order at
-- an index of the book.
inductive MarketEvent where
  | run (allocator : SleeveBExecutionAllocatorConfig) (config : SleeveBAutoLoopConfig)
      (answers : Answers) (now : DateTime) (candidates : List SleeveBSignalCandidate)
  | fill (index : ℕ) (quantity : ℚ)

def World.answering (world : World Market) (answers : Answers) (now : DateTime) : World Market :=
  { world with outside := { world.outside with answers, now } }

def WorkingOrder.symbol (order : WorkingOrder) : String := order.intent.symbol

-- No symbol has two working orders, or a working order and a position.
structure Market.NoPyramid (market : Market) : Prop where
  orders : (market.working.map (·.symbol)).Nodup
  position : ∀ order ∈ market.working, market.held order.symbol = 0

-- The exchange reports a position of a symbol exactly where the fills left one.
def Reported (world : World Market) : MarketEvent → Prop
  | .run _ _ answers _ _ => ∀ symbol,
      hasOpenPosition symbol answers.positions = true ↔ world.outside.held symbol ≠ 0
  | .fill _ _ => True

section Fill

variable {market : Market} {index : ℕ} {quantity : ℚ} {order : WorkingOrder}

namespace Market

-- What a run adds to the book keeps the invariant when each of its orders is for a
-- symbol of its own, without position.
theorem noPyramid_book_iff (h : market.NoPyramid) {entries : List Entry}
    (hflat : ∀ entry ∈ entries, market.held entry.normalized.symbol = 0) :
    (market.book entries).NoPyramid ↔ (entries.map (·.normalized.symbol)).Nodup ∧
      ∀ entry ∈ entries, entry.normalized.symbol ∉ market.working.map (·.symbol) := by
  have hsymbols : ((market.book entries).working.map (·.symbol)) =
      market.working.map (·.symbol) ++ entries.map (·.normalized.symbol) := by
    simp [book, WorkingOrder.symbol, Function.comp_def]
  constructor
  · intro hn
    have ho := hn.orders
    rw [hsymbols, List.nodup_append'] at ho
    refine ⟨ho.2.1, ?_⟩
    intro entry he hm
    exact ho.2.2 hm (List.mem_map_of_mem he)
  · intro hc
    obtain ⟨hnodup, hnew⟩ := hc
    refine ⟨?_, ?_⟩
    · rw [hsymbols, List.nodup_append']
      refine ⟨h.orders, hnodup, ?_⟩
      intro symbol hold hentry
      obtain ⟨entry, he, rfl⟩ := List.mem_map.mp hentry
      exact hnew entry he hold
    · intro other ho
      cases List.mem_append.mp ho with
      | inl hold => exact h.position other hold
      | inr hentry =>
        obtain ⟨entry, he, rfl⟩ := List.mem_map.mp hentry
        exact hflat entry he

theorem fillable_eq_some (h : market.fillable index quantity = some order) :
    ∃ hi : index < market.working.length, market.working[index] = order ∧ 0 < quantity := by
  obtain ⟨hget, hq⟩ := Option.filter_eq_some_iff.mp h
  obtain ⟨hi, he⟩ := List.getElem?_eq_some_iff.mp hget
  exact ⟨hi, he, (of_decide_eq_true hq).1⟩

theorem signed_ne_zero {side : OrderSide} (h : 0 < quantity) : signed side quantity ≠ 0 := by
  cases side with
  | buy => exact h.ne'
  | sell => exact neg_ne_zero.mpr h.ne'

-- Under the invariant the symbol of a working order gives its place on the book.
theorem NoPyramid.index_eq (h : market.NoPyramid) {i j : ℕ} (hi : i < market.working.length)
    (hj : j < market.working.length) (hs : (market.working[i]).symbol = (market.working[j]).symbol) :
    i = j := by
  have hi' : i < (market.working.map (·.symbol)).length := by simpa using hi
  have hj' : j < (market.working.map (·.symbol)).length := by simpa using hj
  have hmap : (market.working.map (·.symbol))[i] = (market.working.map (·.symbol))[j] := by
    simpa using hs
  exact h.orders.getElem_inj_iff.mp hmap

theorem noPyramid_fillOrder_iff (h : market.NoPyramid) (hi : index < market.working.length)
    (hget : market.working[index] = order) (hpos : 0 < quantity) :
    (market.fillOrder index order quantity).NoPyramid ↔ quantity = order.remaining := by
  constructor
  · intro hn
    by_contra hpartial
    -- the order would stay on the book beside the position its fill made
    have hstill : { order with filled := order.filled + quantity } ∈
        (market.fillOrder index order quantity).working := by
      simp only [fillOrder, hpartial, if_false]
      exact List.mem_set hi _
    have hflat := hn.position _ hstill
    have hzero : market.held order.intent.symbol = 0 := h.position order (hget ▸ List.getElem_mem hi)
    simp only [fillOrder, WorkingOrder.symbol, Function.update_self, hzero, zero_add] at hflat
    exact signed_ne_zero hpos hflat
  · intro hfull
    have hworking : (market.fillOrder index order quantity).working = market.working.eraseIdx index :=
      if_pos hfull
    refine ⟨?_, ?_⟩
    · rw [hworking]
      exact h.orders.sublist ((List.eraseIdx_sublist _ _).map _)
    · intro other ho
      rw [hworking] at ho
      obtain ⟨j, hj, hne, rfl⟩ := List.mem_eraseIdx_iff_getElem.mp ho
      have hsymbol : (market.working[j]).intent.symbol ≠ order.intent.symbol := by
        intro hs
        exact hne (h.index_eq hj hi (by rw [hget]; exact hs))
      simp only [fillOrder, WorkingOrder.symbol, Function.update_of_ne hsymbol]
      exact h.position _ (List.getElem_mem hj)

theorem noPyramid_fill_iff (h : market.NoPyramid) (index : ℕ) (quantity : ℚ) :
    (market.fill index quantity).NoPyramid ↔
      ∀ order ∈ market.fillable index quantity, quantity = order.remaining := by
  unfold fill
  cases hf : market.fillable index quantity with
  | none => exact iff_of_true h (by simp)
  | some order =>
    obtain ⟨hi, hget, hpos⟩ := fillable_eq_some hf
    simpa using noPyramid_fillOrder_iff h hi hget hpos

end Market

end Fill

section Runs

variable [DecimalContext]

def marketStep (world : World Market) : MarketEvent → World Market
  | .run allocator config answers now candidates =>
      ((Market.loop allocator config).runOnce candidates (world.answering answers now)).2
  | .fill index quantity => { world with outside := world.outside.fill index quantity }

-- A run sends orders for different symbols, none of which has a working order yet; a
-- fill completes its order.
def OneOrderEach (world : World Market) : MarketEvent → Prop
  | .run allocator config answers _ candidates =>
      let entries := (Market.loop allocator config).entries world.safeMode answers candidates
      (entries.map (·.normalized.symbol)).Nodup ∧
        ∀ entry ∈ entries, entry.normalized.symbol ∉ world.outside.working.map (·.symbol)
  | .fill index quantity => ∀ order ∈ world.outside.fillable index quantity, quantity = order.remaining

namespace SleeveBAutoTestnetLoop

variable {σ : Type} {loop : SleeveBAutoTestnetLoop σ} {given : Answers}

theorem noPosition_of_entry {candidate : SleeveBSignalCandidate} {entry : Entry}
    (h : loop.entry given candidate = .ok (some entry)) :
    hasOpenPosition entry.normalized.symbol given.positions = false := by
  obtain ⟨filters, _, h⟩ := Raise.bind_eq_ok.mp h
  obtain ⟨allocation, hallocate, h⟩ := Raise.bind_eq_ok.mp h
  cases haccepted : allocation.accepted with
  | false =>
    rw [haccepted, Bool.not_false, if_pos rfl] at h
    cases h
  | true =>
    rw [haccepted, Bool.not_true, if_neg Bool.false_ne_true] at h
    obtain ⟨normalized, hnormal, h⟩ := Raise.bind_eq_ok.mp h
    cases h
    rw [normalizeOrderIntent_keeps hnormal]
    exact SleeveBExecutionAllocatorConfig.hasOpenPosition_of_allocate hallocate haccepted

-- The allocator keeps the plan away from every symbol with a reported position.
theorem noPosition_of_plan (room : ℕ) (candidates : List SleeveBSignalCandidate) :
    ∀ entry ∈ (loop.plan given room candidates).1,
      hasOpenPosition entry.normalized.symbol given.positions = false := by
  induction candidates generalizing room with
  | nil => simp [plan]
  | cons candidate candidates ih =>
    cases room with
    | zero => simp
    | succ room =>
      cases he : loop.entry given candidate with
      | error exc => simp [plan_of_error he]
      | ok outcome =>
        cases outcome with
        | none =>
          rw [plan_of_none he]
          exact ih (room + 1)
        | some entry =>
          rw [plan_of_some he]
          intro other ho
          cases List.mem_cons.mp ho with
          | inl h => exact h ▸ noPosition_of_entry he
          | inr h => exact ih room other h

theorem noPosition_of_entries {loop : SleeveBAutoTestnetLoop Market} {safeMode : SafeModeController}
    {candidates : List SleeveBSignalCandidate} {entry : Entry}
    (h : entry ∈ loop.entries safeMode given candidates) :
    hasOpenPosition entry.normalized.symbol given.positions = false := by
  unfold entries at h
  split at h
  · exact noPosition_of_plan _ _ entry h
  · cases h

end SleeveBAutoTestnetLoop

theorem noPyramid_step_iff {world : World Market} (event : MarketEvent) (h : world.outside.NoPyramid)
    (hreported : Reported world event) :
    (marketStep world event).outside.NoPyramid ↔ OneOrderEach world event := by
  cases event with
  | fill index quantity => exact Market.noPyramid_fill_iff h index quantity
  | run allocator config answers now candidates =>
    have hbook : (marketStep world (.run allocator config answers now candidates)).outside = _ :=
      (SleeveBAutoTestnetLoop.runOnce_book candidates (world.answering answers now)).outside
    rw [hbook]
    have hstart : (world.answering answers now).outside.NoPyramid := ⟨h.orders, h.position⟩
    refine Market.noPyramid_book_iff hstart ?_
    intro entry he
    by_contra hheld
    have hnone : hasOpenPosition entry.normalized.symbol answers.positions = false :=
      SleeveBAutoTestnetLoop.noPosition_of_entries he
    rw [(hreported entry.normalized.symbol).mpr hheld] at hnone
    cases hnone

-- No state of a sequence of runs and fills has a pyramid exactly when every run keeps
-- off the symbols with a working order and every fill completes its order.
theorem noPyramid_always_iff (world : World Market) (events : List MarketEvent)
    (hempty : world.outside.working = []) (hreported : Run.Along marketStep Reported world events) :
    Run.Always marketStep (·.outside.NoPyramid) world events ↔
      Run.Along marketStep OneOrderEach world events := by
  have hstart : world.outside.NoPyramid := ⟨by simp [hempty], by simp [hempty]⟩
  exact Run.always_iff_along (P := fun world : World Market => world.outside.NoPyramid)
    (fun _ event hn hv => noPyramid_step_iff event hn hv) hstart hreported

end Runs

section Samples

open scoped DefaultContext

def sampleRun : MarketEvent :=
  .run {} { requireAck := true } sampleAnswers sampleClock [sampleCandidate "BTCUSDT"]

theorem sampleRun_reported (world : World Market) (h : world.outside.held = fun _ => 0) :
    Reported world sampleRun := by
  intro symbol
  rw [h]
  exact iff_of_false (by simp [sampleAnswers, hasOpenPosition]) (by simp)

-- The one order of a run, and its fill.
theorem noPyramid_always_sample :
    Run.Always marketStep (·.outside.NoPyramid) sampleMarket [sampleRun] := by
  refine (noPyramid_always_iff sampleMarket [sampleRun] rfl
    ⟨sampleRun_reported sampleMarket rfl, trivial⟩).mpr ⟨?_, trivial⟩
  unfold sampleRun OneOrderEach
  decide +kernel

-- Two runs with the same candidate, while the order of the first one rests unfilled.
theorem noPyramid_fails_over_two_runs :
    sampleMarket.outside.working = [] ∧
      Run.Along marketStep Reported sampleMarket [sampleRun, sampleRun] ∧
      ¬Run.Always marketStep (·.outside.NoPyramid) sampleMarket [sampleRun, sampleRun] := by
  refine ⟨rfl, ⟨sampleRun_reported sampleMarket rfl, sampleRun_reported _ ?_, trivial⟩, ?_⟩
  · rw [sampleRun, marketStep, (SleeveBAutoTestnetLoop.runOnce_book _ _).outside]
    rfl
  · intro halways
    have hlast := halways (marketStep (marketStep sampleMarket sampleRun) sampleRun) (by simp [Run.states])
    have horders := hlast.orders
    revert horders
    decide +kernel

end Samples

end DualSleeve
