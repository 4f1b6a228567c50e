import DualSleeve.Strategies.SleeveBReplay.Theorems
import DualSleeve.Library.DecimalText
import Mathlib.Data.List.Forall2

namespace DualSleeve

open Library Library.Raise

-- The opening time that a stamp shows, in milliseconds.
def openTime (timestamp : String) : ℕ := (DecimalText.digits timestamp.toList).getD 0

-- A stamp as the exchange gives it: a number of milliseconds with `width` digits.
def IsStamp (width : ℕ) (timestamp : String) : Prop :=
  timestamp.toList.length = width ∧ (DecimalText.digits timestamp.toList).isSome

instance (width : ℕ) (timestamp : String) : Decidable (IsStamp width timestamp) :=
  inferInstanceAs (Decidable (_ ∧ _))

def dayMs : ℕ := 86400000

def fourHoursMs : ℕ := 14400000

-- A day whose close is not known yet when the bar opened at `decision` closes.
def Unfinished (decision day : String) : Prop :=
  openTime decision + fourHoursMs < openTime day + dayMs

instance (decision day : String) : Decidable (Unfinished decision day) :=
  inferInstanceAs (Decidable (_ < _))

-- Two histories of days that differ only in closes not known at the decision.
def DifferInUnfinished (decision : String) (days days' : List OhlcBar) : Prop :=
  List.Forall₂ (fun day day' => day' = { day with close := day'.close } ∧
    (day' = day ∨ Unfinished decision day.timestamp)) days days'

section Source

variable [DecimalContext]

-- With days stamped by the calendar, what the replay decides at the bar does not depend on
-- the closes of unfinished days.
def NoLookAhead (symbol : String) (calendar : List String) (fourHourBars : List OhlcBar)
    (cfg : SleeveBReplayConfig) (index : ℤ) (bar : OhlcBar) : Prop :=
  ∀ days days', days.map OhlcBar.timestamp = calendar →
    DifferInUnfinished bar.timestamp days days' →
    regimeFromDailyClose (dailyClosesUntil days bar.timestamp) =
        regimeFromDailyClose (dailyClosesUntil days' bar.timestamp) ∧
      replaySignal symbol days fourHourBars cfg index = replaySignal symbol days' fourHourBars cfg index

-- The regime is all that the signal reads of the days.
theorem replaySignal_congr {symbol : String} {days days' fourHourBars : List OhlcBar}
    {cfg : SleeveBReplayConfig} {index : ℤ} {bar : OhlcBar} (hbar : itemAt fourHourBars index = .ok bar)
    (hregime : regimeFromDailyClose (dailyClosesUntil days bar.timestamp) =
      regimeFromDailyClose (dailyClosesUntil days' bar.timestamp)) :
    replaySignal symbol days fourHourBars cfg index = replaySignal symbol days' fourHourBars cfg index := by
  unfold replaySignal
  rw [hbar, ok_bind, ok_bind, hregime]

end Source

theorem stamp_le_iff {width : ℕ} {left right : String} (hleft : IsStamp width left)
    (hright : IsStamp width right) : left ≤ right ↔ openTime left ≤ openTime right := by
  obtain ⟨a, ha⟩ := Option.isSome_iff_exists.mp hleft.2
  obtain ⟨b, hb⟩ := Option.isSome_iff_exists.mp hright.2
  have hlt := DecimalText.digits_lt_iff hb ha (hright.1.trans hleft.1.symm)
  rw [openTime, openTime, ha, hb, Option.getD_some, Option.getD_some, String.le_iff_toList_le,
    ← not_lt, hlt, not_lt]

theorem openTime_toString (n : ℕ) : openTime (toString n) = n := by
  rw [openTime, DecimalText.digits_toString, Option.getD_some]

theorem isStamp_toString {width n : ℕ} (hlow : 10 ^ width ≤ n) (hhigh : n < 10 ^ (width + 1)) :
    IsStamp (width + 1) (toString n) :=
  ⟨DecimalText.length_toString hlow hhigh, by rw [DecimalText.digits_toString]; rfl⟩

theorem timestamps_of_differ {decision : String} {days days' : List OhlcBar}
    (h : DifferInUnfinished decision days days') :
    days'.map OhlcBar.timestamp = days.map OhlcBar.timestamp := by
  induction h with
  | nil => rfl
  | cons hday rest ih =>
    rw [List.map_cons, List.map_cons, ih, hday.1]

theorem length_dailyClosesUntil (days : List OhlcBar) (timestamp : String) :
    (dailyClosesUntil days timestamp).length =
      (days.map OhlcBar.timestamp).countP fun stamp => stamp ≤ timestamp := by
  rw [dailyClosesUntil, List.length_map, ← List.countP_eq_length_filter, List.countP_map]
  rfl

theorem dailyClosesUntil_cons {day : OhlcBar} {days : List OhlcBar} {timestamp : String}
    (h : day.timestamp ≤ timestamp) :
    dailyClosesUntil (day :: days) timestamp = day.close :: dailyClosesUntil days timestamp := by
  rw [dailyClosesUntil, List.filter_cons_of_pos (by simpa using h), List.map_cons]
  rfl

theorem dailyClosesUntil_cons_of_later {day : OhlcBar} {days : List OhlcBar} {timestamp : String}
    (h : ¬ day.timestamp ≤ timestamp) :
    dailyClosesUntil (day :: days) timestamp = dailyClosesUntil days timestamp := by
  rw [dailyClosesUntil, List.filter_cons_of_neg (by simpa using h)]
  rfl

-- While every visible day is finished, the visible closes are the same.
theorem dailyClosesUntil_of_finished {decision : String} {days days' : List OhlcBar}
    (hfinished : ∀ day ∈ days, day.timestamp ≤ decision → ¬ Unfinished decision day.timestamp)
    (h : DifferInUnfinished decision days days') :
    dailyClosesUntil days decision = dailyClosesUntil days' decision := by
  induction h with
  | nil => rfl
  | @cons day day' days days' hday rest ih =>
    have hrest := ih fun later hlater => hfinished later (List.mem_cons_of_mem day hlater)
    have hstamp : day'.timestamp = day.timestamp := by rw [hday.1]
    by_cases hvisible : day.timestamp ≤ decision
    · cases hday.2 with
      | inl hsame =>
        subst hsame
        rw [dailyClosesUntil_cons hvisible, dailyClosesUntil_cons hvisible, hrest]
      | inr hopen => exact absurd hopen (hfinished day List.mem_cons_self hvisible)
    · rw [dailyClosesUntil_cons_of_later hvisible,
        dailyClosesUntil_cons_of_later (hstamp ▸ hvisible), hrest]

-- Days that do not move, and one that does.

def quietDay (stamp : String) : OhlcBar := ⟨stamp, 0, 0, 0, 0⟩

def closingDay (stamp : String) (close : ℚ) : OhlcBar := ⟨stamp, 0, 0, 0, close⟩

theorem dailyClosesUntil_quiet (stamps : List String) (decision : String) :
    ∀ close ∈ dailyClosesUntil (stamps.map quietDay) decision, close = 0 := by
  intro close hclose
  obtain ⟨day, hday, rfl⟩ := List.mem_map.mp hclose
  obtain ⟨stamp, -, rfl⟩ := List.mem_map.mp (List.mem_filter.mp hday).1
  rfl

theorem dailyClosesUntil_append_days (before after : List OhlcBar) (decision : String) :
    dailyClosesUntil (before ++ after) decision =
      dailyClosesUntil before decision ++ dailyClosesUntil after decision := by
  rw [dailyClosesUntil, List.filter_append, List.map_append]
  rfl

section Default

open scoped DefaultContext

-- Quiet days and a rise on the last one are a bull market.
theorem regime_of_rise {quiet : List ℚ} (hquiet : ∀ close ∈ quiet, close = 0)
    (hlength : 199 ≤ quiet.length) : regimeFromDailyClose (quiet ++ [1]) = .ok .bull := by
  rw [regimeFromDailyClose_of_level 1 hlength hquiet (by decide +kernel) (by decide +kernel)]
  decide +kernel

theorem regime_of_quiet {quiet : List ℚ} (hquiet : ∀ close ∈ quiet, close = 0)
    (hlength : 199 ≤ quiet.length) : regimeFromDailyClose (quiet ++ [0]) = .ok .chop := by
  rw [regimeFromDailyClose_of_level 0 hlength hquiet (by decide +kernel) (by decide +kernel)]
  decide +kernel

theorem rounded_pow (n : ℕ) : rounded (10 ^ n : ℚ) = 10 ^ n := by
  have hpower := defaultContext.representable_zpow (K := ℚ) n
  rw [zpow_natCast] at hpower
  exact Significant.Format.round_eq_self hpower (by positivity)

theorem emaStep_nonneg {last value : ℚ} (hlast : 0 ≤ last) (hvalue : 0 ≤ value) :
    0 ≤ emaStep (emaAlpha 50) last value := by
  have halpha : 0 ≤ emaAlpha 50 := by decide +kernel
  have hkeep : 0 ≤ rounded (1 - emaAlpha 50) := by decide +kernel
  exact rounded_nonneg (add_nonneg (rounded_nonneg (mul_nonneg halpha hvalue))
    (rounded_nonneg (mul_nonneg hkeep hlast)))

-- One step leaves more than a tenth of the average, and takes more than a hundredth of the close.
theorem pow_le_emaStep {last value : ℚ} {n : ℕ} (hlast : 0 ≤ last) (hvalue : 0 ≤ value)
    (h : 10 ^ (n + 1) ≤ last ∨ 10 ^ (n + 2) ≤ value) : 10 ^ n ≤ emaStep (emaAlpha 50) last value := by
  have halpha : 1 / 100 ≤ emaAlpha 50 := by decide +kernel
  have hkeep : 1 / 10 ≤ rounded (1 - emaAlpha 50) := by decide +kernel
  have hnew : 0 ≤ rounded (emaAlpha 50 * value) :=
    rounded_nonneg (mul_nonneg (by linarith) hvalue)
  have hold : 0 ≤ rounded (rounded (1 - emaAlpha 50) * last) :=
    rounded_nonneg (mul_nonneg (by linarith) hlast)
  have hpart : 10 ^ n ≤ rounded (emaAlpha 50 * value) + rounded (rounded (1 - emaAlpha 50) * last) := by
    rcases h with h | h
    · have hpower : (10 : ℚ) ^ n ≤ rounded (1 - emaAlpha 50) * last :=
        calc (10 : ℚ) ^ n = 1 / 10 * 10 ^ (n + 1) := by ring
          _ ≤ rounded (1 - emaAlpha 50) * last := mul_le_mul hkeep h (by positivity) (by linarith)
      have hrounded := rounded_mono hpower
      rw [rounded_pow] at hrounded
      linarith
    · have hpower : (10 : ℚ) ^ n ≤ emaAlpha 50 * value :=
        calc (10 : ℚ) ^ n = 1 / 100 * 10 ^ (n + 2) := by ring
          _ ≤ emaAlpha 50 * value := mul_le_mul halpha h (by positivity) (by linarith)
      have hrounded := rounded_mono hpower
      rw [rounded_pow] at hrounded
      linarith
  rw [← rounded_pow]
  exact rounded_mono hpart

theorem pow_le_foldl {rest : List ℚ} (hrest : ∀ close ∈ rest, 0 ≤ close) {n : ℕ} {start : ℚ}
    (h : 10 ^ (n + rest.length) ≤ start) : 10 ^ n ≤ rest.foldl (emaStep (emaAlpha 50)) start := by
  induction rest generalizing start with
  | nil => exact h
  | cons close rest ih =>
    rw [List.forall_mem_cons] at hrest
    have hstart : 0 ≤ start := le_trans (by positivity) h
    exact ih hrest.2 (pow_le_emaStep hstart hrest.1 (.inl h))

theorem one_le_emaFinal {before rest : List ℚ} (hbefore : ∀ close ∈ before, 0 ≤ close)
    (hrest : ∀ close ∈ rest, 0 ≤ close) : 1 ≤ emaFinal 50 (before ++ 10 ^ (rest.length + 2) :: rest) := by
  rw [← pow_zero (10 : ℚ), emaFinal]
  cases before with
  | nil => exact pow_le_foldl hrest (pow_le_pow_right₀ (by norm_num) (by omega))
  | cons first earlier =>
    rw [List.cons_append, Ema.finalBy, List.foldl_append, List.foldl_cons]
    have hearlier : 0 ≤ earlier.foldl (emaStep (emaAlpha 50)) first :=
      Ema.finalBy_keeps (emaStep (emaAlpha 50)) (List.cons_ne_nil first earlier) hbefore
        fun _ _ => emaStep_nonneg
    refine pow_le_foldl hrest (pow_le_emaStep hearlier (by positivity) (.inr ?_))
    exact pow_le_pow_right₀ (by norm_num) (by omega)

-- One earlier close can always be chosen so high that the last one is not above the average.
theorem exists_close_not_bull {before after : List ℚ} (hbefore : ∀ close ∈ before, 0 ≤ close)
    (hafter : ∀ close ∈ after, 0 ≤ close)
    (hlength : ∀ close : ℚ, 200 ≤ (before ++ close :: (after ++ [1])).length) :
    ∃ close, regimeFromDailyClose (before ++ close :: (after ++ [1])) ≠ .ok .bull := by
  have hrest : ∀ close ∈ after ++ [1], 0 ≤ close := by
    intro close hclose
    cases List.mem_append.mp hclose with
    | inl hmem => exact hafter close hmem
    | inr hmem => exact (List.mem_singleton.mp hmem).symm ▸ zero_le_one
  have hhigh := one_le_emaFinal hbefore hrest
  refine ⟨10 ^ ((after ++ [1]).length + 2), ?_⟩
  have hlast (close : ℚ) : (before ++ close :: (after ++ [1])).getLast? = some 1 := by
    rw [← List.cons_append, ← List.append_assoc]
    exact List.getLast?_concat
  rw [regimeFromDailyClose_of_length (hlength _) (hlast _)]
  intro h
  have hbull := Except.ok.inj h
  unfold Regime.ofAverages at hbull
  rw [if_neg (fun hrise => not_lt.mpr hhigh hrise.1)] at hbull
  split at hbull <;> cases hbull

theorem differ_self (decision : String) (days : List OhlcBar) :
    DifferInUnfinished decision days days :=
  List.forall₂_same.mpr fun _ _ => ⟨rfl, Or.inl rfl⟩

-- Histories that differ in the close of one unfinished day.
theorem differ_of_close {decision stamp : String} (before after : List OhlcBar) (close close' : ℚ)
    (hopen : Unfinished decision stamp) :
    DifferInUnfinished decision (before ++ closingDay stamp close :: after)
      (before ++ closingDay stamp close' :: after) :=
  List.rel_append (differ_self decision before)
    (.cons ⟨rfl, Or.inr hopen⟩ (differ_self decision after))

theorem dailyClosesUntil_visible {decision stamp : String} (close : ℚ) (before after : List OhlcBar)
    (hvisible : stamp ≤ decision) :
    dailyClosesUntil (before ++ closingDay stamp close :: after) decision =
      dailyClosesUntil before decision ++ close :: dailyClosesUntil after decision := by
  rw [dailyClosesUntil_append_days, dailyClosesUntil_cons hvisible]
  rfl

theorem dailyClosesUntil_later {decision : String} {stamps : List String}
    (hlater : ∀ stamp ∈ stamps, ¬ stamp ≤ decision) :
    dailyClosesUntil (stamps.map quietDay) decision = [] := by
  induction stamps with
  | nil => rfl
  | cons stamp stamps ih =>
    rw [List.map_cons, dailyClosesUntil_cons_of_later (hlater stamp List.mem_cons_self)]
    exact ih fun later hmem => hlater later (List.mem_cons_of_mem stamp hmem)

theorem timestamps_quiet (stamps : List String) :
    (stamps.map quietDay).map OhlcBar.timestamp = stamps := by
  rw [List.map_map]
  exact List.map_id stamps

theorem timestamps_closing (before after : List String) (last : String) (close : ℚ) :
    (before.map quietDay ++ closingDay last close :: after.map quietDay).map OhlcBar.timestamp =
      before ++ last :: after := by
  rw [List.map_append, List.map_cons, timestamps_quiet, timestamps_quiet]
  rfl

-- The close of the last visible day is the last of the closes.
theorem dailyClosesUntil_closing {decision last : String} {after : List String} (hlast : last ≤ decision)
    (hafter : ∀ stamp ∈ after, ¬ stamp ≤ decision) (days : List OhlcBar) (close : ℚ) :
    dailyClosesUntil (days ++ closingDay last close :: after.map quietDay) decision =
      dailyClosesUntil days decision ++ [close] := by
  rw [dailyClosesUntil_visible close _ _ hlast, dailyClosesUntil_later hafter]

-- The last visible day rises; an unfinished day before it can take that rise below the average.
theorem regime_depends_earlier {decision stamp last : String} {first second after : List String}
    (hvisible : 200 ≤ ((first ++ stamp :: second) ++ last :: after).countP fun stamp => stamp ≤ decision)
    (hlast : last ≤ decision) (hafter : ∀ stamp ∈ after, ¬ stamp ≤ decision) (hstamp : stamp ≤ decision)
    (hopen : Unfinished decision stamp)
    (hbull : regimeFromDailyClose (dailyClosesUntil ((first ++ stamp :: second).map quietDay) decision ++ [1]) =
      .ok .bull) :
    ∃ days days', days.map OhlcBar.timestamp = (first ++ stamp :: second) ++ last :: after ∧
      DifferInUnfinished decision days days' ∧
      regimeFromDailyClose (dailyClosesUntil days decision) ≠
        regimeFromDailyClose (dailyClosesUntil days' decision) := by
  have hdays (close : ℚ) : dailyClosesUntil (first.map quietDay ++ closingDay stamp close ::
      (second.map quietDay ++ closingDay last 1 :: after.map quietDay)) decision =
      dailyClosesUntil (first.map quietDay) decision ++
        close :: (dailyClosesUntil (second.map quietDay) decision ++ [1]) := by
    rw [dailyClosesUntil_visible close _ _ hstamp, dailyClosesUntil_closing hlast hafter]
  have hsame : first.map quietDay ++ closingDay stamp 0 ::
      (second.map quietDay ++ closingDay last 1 :: after.map quietDay) =
      (first ++ stamp :: second).map quietDay ++ closingDay last 1 :: after.map quietDay := by
    rw [List.map_append, List.map_cons, List.append_assoc, List.cons_append]
    rfl
  have hnonneg (stamps : List String) :
      ∀ close ∈ dailyClosesUntil (stamps.map quietDay) decision, 0 ≤ close := fun close hclose =>
    (dailyClosesUntil_quiet stamps decision close hclose).ge
  obtain ⟨close, hclose⟩ := exists_close_not_bull (hnonneg first) (hnonneg second) fun close => by
    rw [List.length_append, List.length_cons, ← List.length_cons (a := (0 : ℚ)), ← List.length_append,
      ← hdays 0, hsame, length_dailyClosesUntil, timestamps_closing]
    exact hvisible
  refine ⟨_, _, timestamps_closing _ _ _ 1, hsame ▸ differ_of_close _ _ 0 close hopen, ?_⟩
  rw [dailyClosesUntil_closing hlast hafter, hbull, hdays]
  exact hclose.symm

-- With 200 visible days, an unfinished visible one can turn a bull market by its close.
theorem regime_depends {calendar : List String} {decision stamp : String}
    (hvisible : 200 ≤ calendar.countP fun stamp => stamp ≤ decision) (hmem : stamp ∈ calendar)
    (hstamp : stamp ≤ decision) (hopen : Unfinished decision stamp) :
    ∃ days days', days.map OhlcBar.timestamp = calendar ∧ DifferInUnfinished decision days days' ∧
      regimeFromDailyClose (dailyClosesUntil days decision) ≠
        regimeFromDailyClose (dailyClosesUntil days' decision) := by
  obtain ⟨before, last, after, rfl, hlast, hafter⟩ :=
    Sequence.exists_last_of_mem (fun stamp => stamp ≤ decision) ⟨stamp, hmem, hstamp⟩
  have hcloses := dailyClosesUntil_closing hlast hafter
  have hquiet : 199 ≤ (dailyClosesUntil (before.map quietDay) decision).length := by
    have hlength : 200 ≤ (dailyClosesUntil (before.map quietDay) decision ++ [1]).length := by
      rw [← hcloses, length_dailyClosesUntil, timestamps_closing]
      exact hvisible
    rw [List.length_append, List.length_singleton] at hlength
    omega
  have hbull := regime_of_rise (dailyClosesUntil_quiet before decision) hquiet
  by_cases hsame : stamp = last
  · -- The rise itself is not final.
    subst hsame
    refine ⟨_, _, timestamps_closing _ _ _ 1, differ_of_close _ _ 1 0 hopen, ?_⟩
    rw [hcloses, hcloses, hbull, regime_of_quiet (dailyClosesUntil_quiet before decision) hquiet]
    simp
  · -- An earlier day is not final, and its close moves the average.
    have hbefore : stamp ∈ before := by
      cases List.mem_append.mp hmem with
      | inl h => exact h
      | inr h =>
        cases List.mem_cons.mp h with
        | inl heq => exact absurd heq hsame
        | inr h => exact absurd hstamp (hafter stamp h)
    obtain ⟨first, second, rfl⟩ := List.append_of_mem hbefore
    exact regime_depends_earlier hvisible hlast hafter hstamp hopen hbull

variable {symbol : String} {calendar : List String} {fourHourBars : List OhlcBar}
  {cfg : SleeveBReplayConfig} {index : ℤ} {bar : OhlcBar}

-- The replay does not look ahead at a bar exactly when it sees too few days for a regime,
-- or none that ends after the bar's close.
theorem noLookAhead_iff {width : ℕ} (hbar : itemAt fourHourBars index = .ok bar)
    (hstamps : ∀ stamp ∈ bar.timestamp :: calendar, IsStamp width stamp) :
    NoLookAhead symbol calendar fourHourBars cfg index bar ↔
      (calendar.countP fun stamp => openTime stamp ≤ openTime bar.timestamp) < 200 ∨
        ∀ stamp ∈ calendar, openTime stamp ≤ openTime bar.timestamp →
          openTime stamp + dayMs ≤ openTime bar.timestamp + fourHoursMs := by
  have hle : ∀ stamp ∈ calendar, stamp ≤ bar.timestamp ↔ openTime stamp ≤ openTime bar.timestamp :=
    fun stamp hstamp => stamp_le_iff (hstamps stamp (List.mem_cons_of_mem _ hstamp))
      (hstamps bar.timestamp List.mem_cons_self)
  have hcount : (calendar.countP fun stamp => openTime stamp ≤ openTime bar.timestamp) =
      calendar.countP fun stamp => stamp ≤ bar.timestamp :=
    List.countP_congr fun stamp hstamp => by simp [hle stamp hstamp]
  rw [hcount]
  constructor
  · intro h
    by_contra hnot
    obtain ⟨hvisible, hunfinished⟩ := not_or.mp hnot
    obtain ⟨stamp, hunfinished⟩ := not_forall.mp hunfinished
    obtain ⟨hmem, hunfinished⟩ := Classical.not_imp.mp hunfinished
    obtain ⟨hstamp, hopen⟩ := Classical.not_imp.mp hunfinished
    obtain ⟨days, days', hcalendar, hdiffer, hregime⟩ := regime_depends (not_lt.mp hvisible) hmem
      ((hle stamp hmem).mpr hstamp) (not_le.mp hopen)
    exact hregime (h days days' hcalendar hdiffer).1
  · intro h days days' hcalendar hdiffer
    have hregime : regimeFromDailyClose (dailyClosesUntil days bar.timestamp) =
        regimeFromDailyClose (dailyClosesUntil days' bar.timestamp) := by
      cases h with
      | inl hfew =>
        rw [regimeFromDailyClose_of_short (by rw [length_dailyClosesUntil, hcalendar]; exact hfew),
          regimeFromDailyClose_of_short
            (by rw [length_dailyClosesUntil, timestamps_of_differ hdiffer, hcalendar]; exact hfew)]
      | inr hfinished =>
        rw [dailyClosesUntil_of_finished ?_ hdiffer]
        intro day hday hvisible
        have hmem : day.timestamp ∈ calendar := hcalendar ▸ List.mem_map_of_mem hday
        exact not_lt.mpr (hfinished day.timestamp hmem ((hle day.timestamp hmem).mp hvisible))
    exact ⟨hregime, replaySignal_congr hbar hregime⟩

-- 200 days up to 2023-11-15, and the four hour bar that opens with the last of them.

def novemberDay (n : ℕ) : OhlcBar := ⟨toString (1682812800000 + 86400000 * n), 100, 101, 99, 100⟩

def novemberDays (close : ℚ) : List OhlcBar :=
  (List.range 199).map novemberDay ++ [⟨toString 1700006400000, 100, 110, 90, close⟩]

def novemberBar : OhlcBar := ⟨toString 1700006400000, 10, 13, 9, 12⟩

def novemberBars : List OhlcBar := [
  ⟨toString 1699977600000, 10, 11, 9, 10⟩, ⟨toString 1699992000000, 10, 11, 9, 10⟩, novemberBar]

theorem isStamp_november {close : ℚ} :
    ∀ day ∈ novemberDays close, IsStamp 13 day.timestamp ∧ openTime day.timestamp ≤ 1700006400000 := by
  intro day hday
  cases List.mem_append.mp hday with
  | inl hmem =>
    obtain ⟨n, hn, rfl⟩ := List.mem_map.mp hmem
    have hlt := List.mem_range.mp hn
    refine ⟨isStamp_toString (by omega) (by omega), ?_⟩
    rw [novemberDay, openTime_toString]
    omega
  | inr hmem =>
    obtain rfl := List.mem_singleton.mp hmem
    exact ⟨isStamp_toString (by omega) (by omega), (openTime_toString _).le⟩

theorem dailyClosesUntil_november (close : ℚ) :
    dailyClosesUntil (novemberDays close) novemberBar.timestamp =
      (novemberDays close).map OhlcBar.close := by
  have hstamp : IsStamp 13 novemberBar.timestamp := isStamp_toString (by omega) (by omega)
  rw [dailyClosesUntil, List.filter_eq_self.mpr]
  intro day hday
  obtain ⟨hday, hle⟩ := isStamp_november day hday
  refine decide_eq_true ((stamp_le_iff hday hstamp).mpr ?_)
  rw [novemberBar, openTime_toString]
  exact hle

theorem regime_november (close : ℚ) :
    regimeFromDailyClose (dailyClosesUntil (novemberDays close) novemberBar.timestamp) =
      .ok (.ofAverages close (emaStep (emaAlpha 50) 100 close) (emaStep (emaAlpha 200) 100 close)) := by
  have hlevel : ∀ value ∈ ((List.range 199).map novemberDay).map OhlcBar.close, value = 100 := by
    rintro value hvalue
    obtain ⟨day, hday, rfl⟩ := List.mem_map.mp hvalue
    obtain ⟨n, -, rfl⟩ := List.mem_map.mp hday
    rfl
  rw [dailyClosesUntil_november, novemberDays, List.map_append, List.map_singleton]
  exact regimeFromDailyClose_of_level close (by rw [List.length_map, List.length_map, List.length_range])
    hlevel (by decide +kernel) (by decide +kernel)

-- The close of a day that has twenty hours to go decides whether the replay buys.
theorem replay_looks_ahead :
    DifferInUnfinished novemberBar.timestamp (novemberDays 105) (novemberDays 95) ∧
      regimeFromDailyClose (dailyClosesUntil (novemberDays 105) novemberBar.timestamp) = .ok .bull ∧
      regimeFromDailyClose (dailyClosesUntil (novemberDays 95) novemberBar.timestamp) = .ok .bear ∧
      (replaySignal "BTCUSDT" (novemberDays 105) novemberBars shortReplayConfig 2).map
        SleeveBSignal.side = .ok (some .long) ∧
      (replaySignal "BTCUSDT" (novemberDays 95) novemberBars shortReplayConfig 2).map
        SleeveBSignal.side = .ok none := by
  have hrise : regimeFromDailyClose (dailyClosesUntil (novemberDays 105) novemberBar.timestamp) =
      .ok .bull := by
    rw [regime_november]
    decide +kernel
  have hfall : regimeFromDailyClose (dailyClosesUntil (novemberDays 95) novemberBar.timestamp) =
      .ok .bear := by
    rw [regime_november]
    decide +kernel
  have hbar : itemAt novemberBars 2 = .ok novemberBar := rfl
  refine ⟨?_, hrise, hfall, ?_, ?_⟩
  · refine List.rel_append (differ_self _ _) (.cons ⟨rfl, Or.inr ?_⟩ .nil)
    rw [Unfinished, novemberBar, openTime_toString, dayMs, fourHoursMs]
    omega
  · rw [replaySignal, hbar, ok_bind, hrise]
    decide +kernel
  · rw [replaySignal, hbar, ok_bind, hfall]
    decide +kernel

theorem noLookAhead_iff_november :
    ¬ NoLookAhead "BTCUSDT" ((novemberDays 105).map OhlcBar.timestamp) novemberBars shortReplayConfig 2
      novemberBar := by
  intro h
  have hbar : itemAt novemberBars 2 = .ok novemberBar := rfl
  have htime : openTime novemberBar.timestamp = 1700006400000 := openTime_toString _
  have hstamps : ∀ stamp ∈ novemberBar.timestamp :: (novemberDays 105).map OhlcBar.timestamp,
      IsStamp 13 stamp := by
    intro stamp hstamp
    cases List.mem_cons.mp hstamp with
    | inl heq => exact heq ▸ isStamp_toString (by omega) (by omega)
    | inr hmem =>
      obtain ⟨day, hday, rfl⟩ := List.mem_map.mp hmem
      exact (isStamp_november day hday).1
  cases (noLookAhead_iff hbar hstamps).mp h with
  | inl hfew =>
    rw [List.countP_eq_length.mpr, List.length_map] at hfew
    · simp [novemberDays] at hfew
    · intro stamp hstamp
      obtain ⟨day, hday, rfl⟩ := List.mem_map.mp hstamp
      exact decide_eq_true (htime ▸ (isStamp_november day hday).2)
  | inr hfinished =>
    have hlast := hfinished novemberBar.timestamp
      (List.mem_map.mpr ⟨_, List.mem_append_right _ (List.mem_singleton.mpr rfl), rfl⟩) le_rfl
    rw [htime, dayMs, fourHoursMs] at hlast
    omega

end Default

end DualSleeve
