import BalanceSheet.Query.Statement
import Mathlib.Data.List.Nodup

/-!
Names inside a statement. The two sources of a table are named after it, so that different tables have
different sources, and their endings keep them apart from each other and from the expressions with the
keys and the names of groups.
-/

namespace BalanceSheet

/-- The last two characters of a name, the last one first. -/
def ending (name : String) : List Char := name.toList.reverse.take 2

theorem ending_currentSource (table : String) : ending (currentSource table) = ['t', 'n'] := by
  simp [ending, currentSource, String.toList_append]

theorem ending_previousSource (table : String) : ending (previousSource table) = ['s', 'u'] := by
  simp [ending, previousSource, String.toList_append]

theorem currentSource_injective {t t' : String} (h : currentSource t = currentSource t') : t = t' := by
  have hlist := congrArg String.toList h
  rw [currentSource, currentSource, String.toList_append, String.toList_append] at hlist
  exact String.toList_inj.mp (List.append_cancel_right hlist)

theorem previousSource_injective {t t' : String} (h : previousSource t = previousSource t') : t = t' := by
  have hlist := congrArg String.toList h
  rw [previousSource, previousSource, String.toList_append, String.toList_append] at hlist
  exact String.toList_inj.mp (List.append_cancel_right hlist)

theorem currentSource_ne_previousSource (t t' : String) : currentSource t ≠ previousSource t' := by
  intro h
  have hending := congrArg ending h
  rw [ending_currentSource, ending_previousSource] at hending
  exact absurd hending (by decide)

namespace Source

/-- A source tells its table and its period by its name. -/
theorem nameOf_injective {t t' : String} {period period' : Period} (h : nameOf t period = nameOf t' period') :
    t = t' ∧ period = period' := by
  cases period with
  | current =>
      cases period' with
      | current => exact ⟨currentSource_injective h, rfl⟩
      | previous => exact absurd h (currentSource_ne_previousSource t t')
  | previous =>
      cases period' with
      | current => exact absurd h.symm (currentSource_ne_previousSource t' t)
      | previous => exact ⟨previousSource_injective h, rfl⟩

theorem exists_nameOf {t name : String} (h : name ∈ [currentSource t, previousSource t]) :
    ∃ period, name = nameOf t period := by
  rcases List.mem_pair.mp h with rfl | rfl
  · exact ⟨.current, rfl⟩
  · exact ⟨.previous, rfl⟩

theorem nameOf_ne_of_ending {name : String} (hcurrent : ending name ≠ ['t', 'n'])
    (hprevious : ending name ≠ ['s', 'u']) (t : String) (period : Period) : nameOf t period ≠ name := by
  intro h
  have hending := congrArg ending h
  cases period with
  | current => exact hcurrent (hending.symm.trans (ending_currentSource t))
  | previous => exact hprevious (hending.symm.trans (ending_previousSource t))

theorem nameOf_ne_groupKeys (t : String) (period : Period) : nameOf t period ≠ Grouped.groupKeys :=
  nameOf_ne_of_ending (by decide) (by decide) t period

theorem nameOf_ne_groupNames (t : String) (period : Period) : nameOf t period ≠ Grouped.groupNames :=
  nameOf_ne_of_ending (by decide) (by decide) t period

/-- Different tables have different sources. -/
theorem nodup_names {tables : List String} (h : tables.Nodup) :
    (tables.flatMap fun t => [currentSource t, previousSource t]).Nodup := by
  rw [List.nodup_flatMap]
  constructor
  · intro t _
    rw [List.nodup_cons, List.mem_singleton]
    exact ⟨currentSource_ne_previousSource t t, List.nodup_singleton _⟩
  · refine h.imp ?_
    intro t t' hne name hname hname'
    obtain ⟨period, hperiod⟩ := exists_nameOf hname
    obtain ⟨period', hperiod'⟩ := exists_nameOf hname'
    exact hne (nameOf_injective (hperiod.symm.trans hperiod')).1

end Source
end BalanceSheet
