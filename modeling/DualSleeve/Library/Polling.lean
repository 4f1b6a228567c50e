import DualSleeve.Library.Effect
import Mathlib.Algebra.Order.Ring.Int
import Mathlib.Data.List.Basic

namespace DualSleeve.Library

-- A loop that runs its body again and again, with a pause in between, until a result says
-- to stop or the limit of the iterations is reached.
structure Polling (σ ε ρ : Type) where
  body : Program σ ε ρ
  pause : Program σ ε Unit
  stops : ρ → Bool
  limit : Option ℤ

namespace Polling

variable {σ ε ρ : Type} (loop : Polling σ ε ρ)

def exhausted (iterations : ℤ) : Bool := loop.limit.any (· ≤ iterations)

-- The loop after so many iterations: the results it adds, or nothing where it is still
-- running after `fuel` more.
def runFrom : ℕ → ℤ → Program σ ε (Option (List ρ))
  | 0, _ => return none
  | fuel + 1, iterations =>
    if loop.exhausted iterations then
      return some []
    else do
      let result ← loop.body
      if loop.stops result then
        return some [result]
      else if loop.exhausted (iterations + 1) then
        return some [result]
      else
        loop.pause
        let results ← runFrom fuel (iterations + 1)
        return results.map (result :: ·)

-- The iterations of a loop that came to its end.
inductive Polled : ℤ → σ → List ρ → σ → Prop
  | finished {iterations : ℤ} {state : σ} (hlimit : loop.exhausted iterations = true) :
      Polled iterations state [] state
  | last {iterations : ℤ} {state after : σ} {result : ρ} (hmore : loop.exhausted iterations = false)
      (hbody : loop.body state = (.ok result, after))
      (hend : loop.stops result = true ∨ loop.exhausted (iterations + 1) = true) :
      Polled iterations state [result] after
  | next {iterations : ℤ} {state after paused final : σ} {result : ρ} {results : List ρ}
      (hmore : loop.exhausted iterations = false) (hbody : loop.body state = (.ok result, after))
      (hgo : loop.stops result = false) (hlater : loop.exhausted (iterations + 1) = false)
      (hpause : loop.pause after = (.ok (), paused))
      (hrest : Polled (iterations + 1) paused results final) :
      Polled iterations state (result :: results) final

-- An iteration of the loop that returned its result, whatever came of the loop.
inductive Returned : ℕ → ℤ → σ → ρ → Prop
  | here {fuel : ℕ} {iterations : ℤ} {state after : σ} {result : ρ} (hmore : loop.exhausted iterations = false)
      (hbody : loop.body state = (.ok result, after)) : Returned (fuel + 1) iterations state result
  | later {fuel : ℕ} {iterations : ℤ} {state after paused : σ} {first result : ρ}
      (hmore : loop.exhausted iterations = false) (hbody : loop.body state = (.ok first, after))
      (hgo : loop.stops first = false) (hlater : loop.exhausted (iterations + 1) = false)
      (hpause : loop.pause after = (.ok (), paused)) (hrest : Returned fuel (iterations + 1) paused result) :
      Returned (fuel + 1) iterations state result

variable {loop}

theorem exhausted_iff {iterations : ℤ} :
    loop.exhausted iterations = true ↔ ∃ limit, loop.limit = some limit ∧ limit ≤ iterations := by
  unfold exhausted
  rw [Option.any_eq_true]
  simp only [decide_eq_true_eq]

theorem lt_of_not_exhausted {iterations limit : ℤ} (hlimit : loop.limit = some limit)
    (h : loop.exhausted iterations = false) : iterations < limit := by
  by_contra hreached
  have hexhausted := exhausted_iff.mpr ⟨limit, hlimit, not_lt.mp hreached⟩
  rw [h] at hexhausted
  cases hexhausted

-- With more fuel than iterations the loop returns their results.
theorem Polled.runFrom_eq {iterations : ℤ} {state final : σ} {results : List ρ}
    (h : loop.Polled iterations state results final) {fuel : ℕ} (hfuel : results.length < fuel) :
    loop.runFrom fuel iterations state = (.ok (some results), final) := by
  induction h generalizing fuel with
  | finished hlimit =>
    obtain ⟨fuel, rfl⟩ := Nat.exists_eq_succ_of_ne_zero (Nat.ne_of_gt hfuel)
    rw [runFrom, if_pos hlimit]
    rfl
  | last hmore hbody hend =>
    obtain ⟨fuel, rfl⟩ := Nat.exists_eq_succ_of_ne_zero (Nat.ne_of_gt (Nat.zero_lt_of_lt hfuel))
    rw [runFrom, hmore, if_neg Bool.false_ne_true, Program.bind_of_ok hbody]
    split
    · rfl
    · rename_i hgo
      rw [if_pos (hend.resolve_left hgo)]
      rfl
  | next hmore hbody hgo hlater hpause hrest ih =>
    obtain ⟨fuel, rfl⟩ := Nat.exists_eq_succ_of_ne_zero (Nat.ne_of_gt (Nat.zero_lt_of_lt hfuel))
    rw [runFrom, hmore, if_neg Bool.false_ne_true, Program.bind_of_ok hbody, hgo,
      if_neg Bool.false_ne_true, hlater, if_neg Bool.false_ne_true, Program.bind_of_ok hpause,
      Program.bind_of_ok (ih (Nat.lt_of_succ_lt_succ hfuel))]
    rfl

theorem Polled.length_le {iterations : ℤ} {state final : σ} {results : List ρ}
    (h : loop.Polled iterations state results final) {limit : ℤ} (hlimit : loop.limit = some limit) :
    results.length ≤ (limit - iterations).toNat := by
  induction h with
  | finished _ => exact Nat.zero_le _
  | last hmore _ _ =>
    have hlt := lt_of_not_exhausted hlimit hmore
    rw [List.length_singleton]
    omega
  | next hmore _ _ _ _ _ ih =>
    have hlt := lt_of_not_exhausted hlimit hmore
    rw [List.length_cons]
    omega

-- Only the last result may be one to stop at.
theorem Polled.goes_on {iterations : ℤ} {state final : σ} {results : List ρ}
    (h : loop.Polled iterations state results final) :
    ∀ result ∈ results.dropLast, loop.stops result = false := by
  induction h with
  | finished _ => simp
  | last _ _ _ => simp
  | @next _ _ _ _ _ result results _ _ hgo _ _ hrest ih =>
    cases results with
    | nil => simp
    | cons second results =>
      intro other hother
      rw [List.dropLast_cons_cons, List.mem_cons] at hother
      cases hother with
      | inl hfirst => exact hfirst ▸ hgo
      | inr hlater => exact ih other hlater

-- The loop ends at a result to stop at, or when all iterations were made.
theorem Polled.ends {iterations : ℤ} {state final : σ} {results : List ρ}
    (h : loop.Polled iterations state results final) {limit : ℤ} (hlimit : loop.limit = some limit) :
    results.length = (limit - iterations).toNat ∨
      ∃ result ∈ results.getLast?, loop.stops result = true := by
  induction h with
  | finished hexhausted =>
    obtain ⟨reached, hreached, hle⟩ := exhausted_iff.mp hexhausted
    obtain rfl := Option.some.inj (hlimit.symm.trans hreached)
    left
    rw [List.length_nil]
    omega
  | last hmore _ hend =>
    cases hend with
    | inl hstop => exact .inr ⟨_, rfl, hstop⟩
    | inr hexhausted =>
      have hlt := lt_of_not_exhausted hlimit hmore
      obtain ⟨reached, hreached, hle⟩ := exhausted_iff.mp hexhausted
      obtain rfl := Option.some.inj (hlimit.symm.trans hreached)
      left
      rw [List.length_singleton]
      omega
  | @next _ _ _ _ _ result results hmore _ _ _ _ hrest ih =>
    have hlt := lt_of_not_exhausted hlimit hmore
    cases ih with
    | inl hlength =>
      left
      rw [List.length_cons]
      omega
    | inr hlast =>
      obtain ⟨stopping, hstopping, hstop⟩ := hlast
      right
      refine ⟨stopping, ?_, hstop⟩
      rw [List.getLast?_cons, Option.mem_def.mp hstopping]
      rfl

-- Where neither the body nor a pause raises, the loop comes to its end.
theorem exists_polled {I : σ → Prop}
    (hbody : ∀ state, I state → ∃ result after, loop.body state = (.ok result, after) ∧ I after)
    {limit : ℤ} (hlimit : loop.limit = some limit) {iterations : ℤ}
    (hpause : loop.exhausted (iterations + 1) = false →
      ∀ state, I state → ∃ after, loop.pause state = (.ok (), after) ∧ I after)
    (state : σ) (h : I state) :
    ∃ results final, loop.Polled iterations state results final ∧ I final := by
  generalize hleft : (limit - iterations).toNat = left
  induction left generalizing iterations state with
  | zero => exact ⟨[], state, .finished (exhausted_iff.mpr ⟨limit, hlimit, by omega⟩), h⟩
  | succ left ih =>
    have hmore : loop.exhausted iterations = false := by
      rw [← Bool.not_eq_true, exhausted_iff]
      rintro ⟨reached, hreached, hle⟩
      obtain rfl := Option.some.inj (hlimit.symm.trans hreached)
      omega
    obtain ⟨result, after, hran, hafter⟩ := hbody state h
    by_cases hend : loop.stops result = true ∨ loop.exhausted (iterations + 1) = true
    · exact ⟨[result], after, .last hmore hran hend, hafter⟩
    · rw [not_or, Bool.not_eq_true, Bool.not_eq_true] at hend
      obtain ⟨paused, hpaused, hkept⟩ := hpause hend.2 after hafter
      have hfewer : (limit - (iterations + 1)).toNat = left := by omega
      obtain ⟨results, final, hrest, hfinal⟩ := ih (fun _ => hpause hend.2) paused hkept hfewer
      exact ⟨_, final, .next hmore hran hend.1 hend.2 hpaused hrest, hfinal⟩

variable {R : σ → σ → Prop}

theorem leads_runFrom [IsPreorder σ R] (hbody : Program.Leads R loop.body)
    (hpause : Program.Leads R loop.pause) (fuel : ℕ) (iterations : ℤ) :
    Program.Leads R (loop.runFrom fuel iterations) := by
  induction fuel generalizing iterations with
  | zero => exact Program.leads_pure _
  | succ fuel ih =>
    unfold runFrom
    refine (Program.leads_pure _).ite (hbody.bind fun result => ?_)
    refine (Program.leads_pure _).ite ((Program.leads_pure _).ite (hpause.bind fun _ => ?_))
    exact (ih (iterations + 1)).bind fun _ => Program.leads_pure _

-- Such an iteration is one of a run, and what comes after it is the rest of the run.
theorem Returned.within [IsPreorder σ R] (hbody : Program.Leads R loop.body)
    (hpause : Program.Leads R loop.pause) {fuel : ℕ} {iterations : ℤ} {state : σ} {result : ρ}
    (h : loop.Returned fuel iterations state result) :
    ∃ before after, loop.body before = (.ok result, after) ∧ R after (loop.runFrom fuel iterations state).2 := by
  induction h with
  | @here fuel iterations state after result hmore hreturned =>
    have hrest : Program.Leads R (loop.pause >>= fun _ => loop.runFrom fuel (iterations + 1) >>= fun results =>
        pure (results.map (result :: ·))) :=
      hpause.bind fun _ => (leads_runFrom hbody hpause fuel _).bind fun _ => Program.leads_pure _
    refine ⟨state, after, hreturned, ?_⟩
    rw [runFrom, hmore, if_neg Bool.false_ne_true, Program.bind_of_ok hreturned]
    exact (Program.leads_pure _).ite ((Program.leads_pure _).ite hrest) after
  | @later fuel iterations state after paused first result hmore hfirst hgo hlater hpaused _ ih =>
    obtain ⟨before, reached, hreturned, hwithin⟩ := ih
    refine ⟨before, reached, hreturned, ?_⟩
    rw [runFrom, hmore, if_neg Bool.false_ne_true, Program.bind_of_ok hfirst, hgo,
      if_neg Bool.false_ne_true, hlater, if_neg Bool.false_ne_true, Program.bind_of_ok hpaused]
    cases hrun : loop.runFrom fuel (iterations + 1) paused with
    | mk outcome final =>
      rw [hrun] at hwithin
      cases outcome with
      | error exc =>
        rw [Program.bind_of_error hrun]
        exact hwithin
      | ok results =>
        rw [Program.bind_of_ok hrun]
        exact hwithin

end Polling

end DualSleeve.Library
