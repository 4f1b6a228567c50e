import DualSleeve.Execution.OrderIds

namespace DualSleeve

open Library.Text

theorem strftime_injective {time other : DateTime} (h : strftime time = strftime other) : time = other := by
  unfold strftime at h
  obtain ⟨h, hsecond⟩ := List.append_inj h (by simp)
  obtain ⟨h, hminute⟩ := List.append_inj h (by simp)
  obtain ⟨h, hhour⟩ := List.append_inj h (by simp)
  obtain ⟨h, hday⟩ := List.append_inj h (by simp)
  obtain ⟨hyear, hmonth⟩ := List.append_inj h (by simp)
  obtain ⟨year, month, day, hour, minute, second⟩ := time
  obtain ⟨year', month', day', hour', minute', second'⟩ := other
  simp only [DateTime.mk.injEq, Fin.ext_iff]
  exact ⟨paddedDigits_injective (by omega) (by omega) hyear,
    paddedDigits_injective (by omega) (by omega) hmonth,
    paddedDigits_injective (by omega) (by omega) hday,
    paddedDigits_injective (by omega) (by omega) hhour,
    paddedDigits_injective (by omega) (by omega) hminute,
    paddedDigits_injective (by omega) (by omega) hsecond⟩

theorem length_strftime (time : DateTime) : (strftime time).length = 14 := by
  simp [strftime]

theorem separator_notMem_action (action : OrderAction) : '_' ∉ action.value.toList := by
  cases action <;> decide

theorem OrderAction.value_injective {action other : OrderAction}
    (h : action.value.toList = other.value.toList) : action = other := by
  cases action <;> cases other <;> first | rfl | exact absurd h (by decide)

theorem SleeveId.value_injective {sleeve other : SleeveId}
    (h : sleeve.value.toList = other.value.toList) : sleeve = other := by
  cases sleeve <;> cases other <;> first | rfl | exact absurd h (by decide)

theorem SleeveId.length_value (sleeve : SleeveId) : sleeve.value.toList.length = 1 := by
  cases sleeve <;> decide

-- An id tells its four parts apart: the timestamp has fourteen characters, no action
-- holds a separator and a sleeve is one character. The prefix may hold anything.
theorem makeClientOrderId_inj {sleeve sleeve' : SleeveId} {setup setup' : String}
    {action action' : OrderAction} {time time' : DateTime} :
    makeClientOrderId sleeve setup action time = makeClientOrderId sleeve' setup' action' time' ↔
      sleeve = sleeve' ∧ setupPrefix setup = setupPrefix setup' ∧ action = action' ∧ time = time' := by
  constructor
  · intro h
    have hl := String.ofList_injective h
    obtain ⟨hl, htime⟩ := List.append_inj' hl (by simp [length_strftime])
    obtain ⟨hl, haction⟩ := append_separator_inj (separator_notMem_action action)
      (separator_notMem_action action') hl
    obtain ⟨hsleeve, hsetup⟩ := List.append_inj hl (by simp [SleeveId.length_value])
    exact ⟨SleeveId.value_injective hsleeve, (List.cons.inj hsetup).2,
      OrderAction.value_injective haction, strftime_injective (List.cons.inj htime).2⟩
  · rintro ⟨rfl, hsetup, rfl, rfl⟩
    simp only [makeClientOrderId, hsetup]

end DualSleeve
