import DualSleeve.Execution.SleeveBTestnetLoop.Theorems

namespace DualSleeve

open Library

variable [DecimalContext] {σ : Type}

namespace SleeveBAutoTestnetLoop

section Taken

variable (loop : SleeveBAutoTestnetLoop σ) (account : AccountSnapshotV3)
  (positions : List ExchangePositionSnapshot) (filters : String → SymbolFilters)

-- The candidates a run sends orders for, read off its inputs: those that meet every
-- gate of the allocator, up to the number of new orders.
def taken (room : ℕ) (candidates : List SleeveBSignalCandidate) : List SleeveBSignalCandidate :=
  (candidates.filter fun candidate =>
    loop.allocator.Accepts candidate account positions (filters candidate.symbol)).take room

def sizedIntent (candidate : SleeveBSignalCandidate) : OrderIntent :=
  loop.config.allocationToIntent candidate
    (loop.allocator.allocation candidate account positions (filters candidate.symbol))

-- Every candidate has a positive entry price, and filters and leverage are positive.
def WellFormed (candidates : List SleeveBSignalCandidate) : Prop :=
  ∀ candidate ∈ candidates, loop.allocator.WellFormed candidate (filters candidate.symbol)

end Taken

-- None in safe mode.
def takenBy (loop : SleeveBAutoTestnetLoop σ) (safeMode : SafeModeController) (account : AccountSnapshotV3)
    (positions : List ExchangePositionSnapshot) (filters : String → SymbolFilters)
    (candidates : List SleeveBSignalCandidate) : List SleeveBSignalCandidate :=
  if safeMode.allowsNewEntries then
    loop.taken account positions filters loop.config.maxNewOrdersPerRun.toNat candidates
  else []

variable {loop : SleeveBAutoTestnetLoop σ} {given : Answers} {filters : String → SymbolFilters}
  {candidate : SleeveBSignalCandidate} {candidates : List SleeveBSignalCandidate}

theorem mem_takenBy {safeMode : SafeModeController} {account : AccountSnapshotV3}
    {positions : List ExchangePositionSnapshot} {filters : String → SymbolFilters}
    {candidates : List SleeveBSignalCandidate} {candidate : SleeveBSignalCandidate}
    (h : candidate ∈ loop.takenBy safeMode account positions filters candidates) :
    candidate ∈ candidates ∧
      loop.allocator.Accepts candidate account positions (filters candidate.symbol) := by
  unfold takenBy at h
  split at h
  · obtain ⟨hm, ha⟩ := List.mem_filter.mp (List.mem_of_mem_take h)
    exact ⟨hm, of_decide_eq_true ha⟩
  · cases h

-- A plan that stops early does so at a candidate of the run.
theorem entry_of_plan_stop {room : ℕ} {exc : PyError} (h : (loop.plan given room candidates).2 = some exc) :
    ∃ candidate ∈ candidates, loop.entry given candidate = .error exc := by
  induction candidates generalizing room with
  | nil => simp [plan] at h
  | cons candidate candidates ih =>
    cases room with
    | zero => simp at h
    | succ room =>
      cases he : loop.entry given candidate with
      | error raised =>
        rw [plan_of_error he] at h
        exact ⟨candidate, by simp, by rw [he, Option.some.inj h]⟩
      | ok outcome =>
        cases outcome with
        | none =>
          rw [plan_of_none he] at h
          obtain ⟨other, ho, hr⟩ := ih h
          exact ⟨other, List.mem_cons_of_mem _ ho, hr⟩
        | some entry =>
          rw [plan_of_some he] at h
          obtain ⟨other, ho, hr⟩ := ih h
          exact ⟨other, List.mem_cons_of_mem _ ho, hr⟩

theorem entry_of_accepts (hf : given.filters candidate.symbol = .ok (filters candidate.symbol))
    (hw : loop.allocator.WellFormed candidate (filters candidate.symbol))
    (ha : loop.allocator.Accepts candidate given.account given.positions (filters candidate.symbol)) :
    loop.entry given candidate =
      normalizeOrderIntent (loop.sizedIntent given.account given.positions filters candidate)
          (filters candidate.symbol) >>= fun normalized =>
        return some ⟨candidate.symbol, loop.allocator.allocation candidate given.account given.positions
          (filters candidate.symbol), normalized⟩ := by
  rw [entry_of_filters hf, SleeveBExecutionAllocatorConfig.allocate_of_accepts hw ha, Raise.ok_bind]
  rfl

theorem entry_of_not_accepts (hf : given.filters candidate.symbol = .ok (filters candidate.symbol))
    (hw : loop.allocator.WellFormed candidate (filters candidate.symbol))
    (ha : ¬loop.allocator.Accepts candidate given.account given.positions (filters candidate.symbol)) :
    loop.entry given candidate = .ok none := by
  obtain ⟨reason, hr⟩ := SleeveBExecutionAllocatorConfig.allocate_of_not_accepts hw ha
  rw [entry_of_filters hf, hr, Raise.ok_bind]
  rfl

theorem taken_cons_of_accepts {account : AccountSnapshotV3} {positions : List ExchangePositionSnapshot}
    (ha : loop.allocator.Accepts candidate account positions (filters candidate.symbol)) (room : ℕ) :
    loop.taken account positions filters (room + 1) (candidate :: candidates) =
      candidate :: loop.taken account positions filters room candidates := by
  simp [taken, ha]

theorem taken_cons_of_not_accepts {account : AccountSnapshotV3}
    {positions : List ExchangePositionSnapshot}
    (ha : ¬loop.allocator.Accepts candidate account positions (filters candidate.symbol)) (room : ℕ) :
    loop.taken account positions filters room (candidate :: candidates) =
      loop.taken account positions filters room candidates := by
  simp [taken, ha]

-- The plan of a run on well-formed inputs: it goes through when all taken candidates
-- normalise, and then its entries are their allocations.
theorem plan_taken
    (hf : ∀ candidate ∈ candidates, given.filters candidate.symbol = .ok (filters candidate.symbol))
    (hw : loop.WellFormed filters candidates) (room : ℕ) :
    ((∀ candidate ∈ loop.taken given.account given.positions filters room candidates,
        ∃ normalized, normalizeOrderIntent
          (loop.sizedIntent given.account given.positions filters candidate)
          (filters candidate.symbol) = .ok normalized) ∧
      (loop.plan given room candidates).2 = none ∧
      (loop.plan given room candidates).1.map (·.allocated) =
        (loop.taken given.account given.positions filters room candidates).map fun candidate =>
          (candidate.symbol, loop.allocator.allocation candidate given.account given.positions
            (filters candidate.symbol))) ∨
    ∃ candidate ∈ loop.taken given.account given.positions filters room candidates, ∃ exc,
      normalizeOrderIntent (loop.sizedIntent given.account given.positions filters candidate)
        (filters candidate.symbol) = .error exc ∧
      (loop.plan given room candidates).2 = some exc := by
  induction candidates generalizing room with
  | nil => exact Or.inl ⟨by simp [taken], rfl, by simp [plan, taken]⟩
  | cons candidate candidates ih =>
    have hw' : loop.WellFormed filters candidates := fun other ho => hw other (List.mem_cons_of_mem _ ho)
    have hf' : ∀ other ∈ candidates, given.filters other.symbol = .ok (filters other.symbol) :=
      fun other ho => hf other (List.mem_cons_of_mem _ ho)
    have hc := hw candidate (by simp)
    have hfc := hf candidate (by simp)
    cases room with
    | zero => exact Or.inl ⟨by simp [taken], rfl, by simp [taken]⟩
    | succ room =>
      by_cases ha : loop.allocator.Accepts candidate given.account given.positions (filters candidate.symbol)
      · rw [taken_cons_of_accepts ha]
        have he := entry_of_accepts hfc hc ha
        cases hn : normalizeOrderIntent (loop.sizedIntent given.account given.positions filters candidate)
            (filters candidate.symbol) with
        | error exc =>
          rw [hn, Raise.error_bind] at he
          exact Or.inr ⟨candidate, by simp, exc, hn, by rw [plan_of_error he]⟩
        | ok normalized =>
          rw [hn, Raise.ok_bind] at he
          rw [plan_of_some he]
          cases ih hf' hw' room with
          | inl h =>
            obtain ⟨hall, hstop, hmap⟩ := h
            refine Or.inl ⟨?_, hstop, by rw [List.map_cons, List.map_cons, hmap]; rfl⟩
            intro other ho
            cases List.mem_cons.mp ho with
            | inl h => exact h ▸ ⟨normalized, hn⟩
            | inr h => exact hall other h
          | inr h =>
            obtain ⟨other, ho, h⟩ := h
            exact Or.inr ⟨other, List.mem_cons_of_mem _ ho, h⟩
      · rw [taken_cons_of_not_accepts ha, plan_of_none (entry_of_not_accepts hfc hc ha)]
        exact ih hf' hw' (room + 1)

end SleeveBAutoTestnetLoop

end DualSleeve
