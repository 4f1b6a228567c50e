import DualSleeve.Execution.SleeveBTestnetLoop.Theorems
import Mathlib.Data.List.Nodup

namespace DualSleeve

open Library

-- A LIMIT order on the book, and how much of it is filled.
structure WorkingOrder where
  intent : OrderIntent
  filled : ℚ := 0

def WorkingOrder.remaining (order : WorkingOrder) : ℚ := order.intent.quantity - order.filled

-- An exchange that keeps every order on its book until it is filled, and the signed
-- quantities filled so far. `answers` and `now` hold for one run.
structure Market where
  answers : Answers
  now : DateTime
  working : List WorkingOrder := []
  held : String → ℚ := fun _ => 0

namespace Market

def exchange : SleeveBLoopExchange Market where
  getSymbolFilters symbol := fun market => (market.answers.filters symbol, market)
  submitOrder order := fun market =>
    (.ok order, { market with working := market.working ++ [⟨order.intent, 0⟩] })
  cancelOrder _ _ := fun market => (.ok none, market)
  fetchOpenOrders := fun market => (.ok [], market)
  fetchAccountSnapshot := fun market => (.ok market.answers.account, market)
  fetchPositionSnapshots _ := fun market => (.ok market.answers.positions, market)

def loop (allocator : SleeveBExecutionAllocatorConfig) (config : SleeveBAutoLoopConfig) :
    SleeveBAutoTestnetLoop Market where
  exchange := exchange
  allocator := allocator
  config := config
  now := Market.now

def signed (side : OrderSide) (quantity : ℚ) : ℚ :=
  match side with
  | .buy => quantity
  | .sell => -quantity

-- A fill adds to the position of the order's symbol; a fully filled order leaves the
-- book.
def fillOrder (market : Market) (index : ℕ) (order : WorkingOrder) (quantity : ℚ) : Market :=
  { market with
    working :=
      if quantity = order.remaining then market.working.eraseIdx index
      else market.working.set index { order with filled := order.filled + quantity }
    held := Function.update market.held order.intent.symbol
      (market.held order.intent.symbol + signed order.intent.side quantity) }

-- The order a fill event is about, if there is one and it has that much left.
def fillable (market : Market) (index : ℕ) (quantity : ℚ) : Option WorkingOrder :=
  (market.working[index]?).filter fun order => 0 < quantity ∧ quantity ≤ order.remaining

def fill (market : Market) (index : ℕ) (quantity : ℚ) : Market :=
  match market.fillable index quantity with
  | some order => market.fillOrder index order quantity
  | none => market

end Market

def marketFilters (symbol : String) : SymbolFilters := ⟨symbol, 1 / 10, 1 / 1000, 50⟩

def sampleAnswers : Answers where
  account := ⟨10000, 0, 10000, 10000⟩
  positions := []
  filters symbol := .ok (marketFilters symbol)

def sampleCandidate (symbol : String) : SleeveBSignalCandidate :=
  ⟨symbol, .long, 100, 99, "auto-breakout"⟩

def sampleMarket : World Market :=
  { outside := { answers := sampleAnswers, now := sampleClock } }

theorem Market.exchange_steady : Market.exchange.Steady id Market.answers where
  account _ := ⟨_, rfl, rfl⟩
  positions _ := ⟨_, rfl, rfl⟩
  filters _ _ := ⟨_, rfl, rfl⟩

def Market.book (market : Market) (entries : List Entry) : Market :=
  { market with working := market.working ++ entries.map fun entry => ⟨entry.normalized, 0⟩ }

@[simp] theorem Market.book_nil (market : Market) : market.book [] = market := by
  simp [Market.book]

theorem Market.book_cons (market : Market) (entry : Entry) (entries : List Entry) :
    market.book (entry :: entries) = (market.book [entry]).book entries := by
  simp [Market.book]

-- `entries`, and nothing else, came to rest on the book.
structure Booked (world after : World Market) (entries : List Entry) : Prop where
  outside : after.outside = world.outside.book entries
  safeMode : after.safeMode = world.safeMode

theorem Booked.refl (world : World Market) : Booked world world [] :=
  ⟨(world.outside.book_nil).symm, rfl⟩

namespace SleeveBAutoTestnetLoop

variable [DecimalContext] {allocator : SleeveBExecutionAllocatorConfig} {config : SleeveBAutoLoopConfig}

-- By induction on the candidates, each of which adds its entry.
theorem considerCandidates_book {world : World Market} (hsafe : world.safeMode.allowsNewEntries = true)
    (submitted : ℤ) (candidates : List SleeveBSignalCandidate) :
    Booked world
      ((Market.loop allocator config).considerCandidates world.outside.answers.account
        world.outside.answers.positions submitted candidates world).2
      ((Market.loop allocator config).plan world.outside.answers
        ((Market.loop allocator config).room submitted) candidates).1 := by
  induction candidates generalizing world submitted with
  | nil =>
    rw [plan]
    exact .refl world
  | cons candidate candidates ih =>
    by_cases hfull : (Market.loop allocator config).config.maxNewOrdersPerRun ≤ submitted
    · have hrest := ih hsafe submitted
      rw [considerCandidates_of_ok (considerCandidate_of_full hfull candidate world)]
      rw [room_of_le hfull, plan_zero] at hrest ⊢
      exact hrest
    have hroom := not_le.mp hfull
    have hc : Considered (Market.loop allocator config) id Market.answers world candidate
        ((Market.loop allocator config).considerCandidate world.outside.answers.account
          world.outside.answers.positions submitted candidate world).1
        ((Market.loop allocator config).considerCandidate world.outside.answers.account
          world.outside.answers.positions submitted candidate world).2 :=
      considerCandidate_considered Market.exchange_steady hsafe hroom candidate
    generalize hresult : (Market.loop allocator config).considerCandidate world.outside.answers.account
      world.outside.answers.positions submitted candidate world = result at hc
    obtain ⟨outcome, after⟩ := result
    rw [room_of_lt hroom]
    cases hc with
    | stopped exc hentry _ hview hsafe' =>
      have he : (Market.loop allocator config).entry world.outside.answers candidate = _ := hentry
      rw [considerCandidates_of_error hresult, plan_of_error he]
      exact ⟨hview.trans (world.outside.book_nil).symm, hsafe'⟩
    | declined hentry decision hdecision _ hview hsafe' =>
      have he : (Market.loop allocator config).entry world.outside.answers candidate = _ := hentry
      have hrest := ih (hsafe'.symm ▸ hsafe) submitted
      have houtside : after.outside = world.outside := hview
      rw [houtside, room_of_lt hroom] at hrest
      rw [considerCandidates_of_ok hresult, plan_of_none he, hdecision]
      exact ⟨hrest.outside.trans (by rw [houtside]), hrest.safeMode.trans hsafe'⟩
    | submitRaised entry hentry order _ before _ exc _ hsubmit _ => cases (Prod.mk.inj hsubmit).1
    | entered entry hentry order horder before hview reply _ hsubmit hsafe' decision hdecision _ =>
      have he : (Market.loop allocator config).entry world.outside.answers candidate = _ := hentry
      have hrest := ih (hsafe'.symm ▸ hsafe) (submitted + 1)
      have houtside : after.outside = world.outside.book [entry] := by
        rw [← (Prod.mk.inj hsubmit).2, show before = world.outside from hview, horder]
        rfl
      have hanswers : after.outside.answers = world.outside.answers := by rw [houtside]; rfl
      rw [hanswers] at hrest
      rw [considerCandidates_of_ok hresult, plan_of_some he, hdecision, if_pos rfl]
      exact ⟨hrest.outside.trans (by rw [houtside, ← Market.book_cons]), hrest.safeMode.trans hsafe'⟩

-- The entries of a run: those of its plan, where the ACK is given and the safe mode
-- lets them through.
def entries (loop : SleeveBAutoTestnetLoop Market) (safeMode : SafeModeController) (answers : Answers)
    (candidates : List SleeveBSignalCandidate) : List Entry :=
  if loop.config.requireAck && safeMode.allowsNewEntries then
    (loop.plan answers loop.config.maxNewOrdersPerRun.toNat candidates).1
  else []

theorem runOnce_book (candidates : List SleeveBSignalCandidate) (world : World Market) :
    Booked world ((Market.loop allocator config).runOnce candidates world).2
      ((Market.loop allocator config).entries world.safeMode world.outside.answers candidates) := by
  unfold entries
  cases hack : (Market.loop allocator config).config.requireAck with
  | false =>
    have hrun : ((Market.loop allocator config).runOnce candidates world).2 = world := by
      unfold runOnce
      rw [Program.get_bind, hack, Bool.not_false, if_pos rfl, Program.pure_apply]
    rw [hrun, Bool.false_and, if_neg Bool.false_ne_true]
    exact .refl world
  | true =>
    rw [Bool.true_and]
    cases hsafe : world.safeMode.allowsNewEntries with
    | false =>
      obtain ⟨_, _, _, hview, hsafe'⟩ := runOnce_of_blocked Market.exchange_steady hack hsafe candidates
      rw [if_neg Bool.false_ne_true]
      exact ⟨hview.trans (world.outside.book_nil).symm, hsafe'⟩
    | true =>
      obtain ⟨start, hview, hsafe', hafter, _⟩ :=
        runOnce_of_ack Market.exchange_steady hack candidates world
      have houtside : start.outside = world.outside := hview
      have hbook : Booked start
          ((Market.loop allocator config).considerCandidates _ _ 0 candidates start).2 _ :=
        considerCandidates_book (hsafe'.symm ▸ hsafe) 0 candidates
      rw [houtside, room, sub_zero] at hbook
      rw [if_pos rfl, hafter]
      exact ⟨hbook.outside.trans (by rw [houtside]), hbook.safeMode.trans hsafe'⟩

end SleeveBAutoTestnetLoop

end DualSleeve
