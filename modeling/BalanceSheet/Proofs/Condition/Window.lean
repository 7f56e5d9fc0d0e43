import BalanceSheet.Condition.Filter
import BalanceSheet.Proofs.Except

/-!
The previous window beside the current one. Its conditions are those of the current window, one for one,
with every date a year earlier and all else unchanged, and behind them the cap where the current window has
no bound from above.
-/

namespace BalanceSheet

/-- The operand with every date a year earlier. -/
inductive Operand.YearEarlier : Operand → Operand → Prop
  | none : YearEarlier .none .none
  | single {v v' : String} (h : Condition.yearEarlier v = .ok v') : YearEarlier (.single v) (.single v')
  | multiple {vs vs' : List String} (h : List.Forall₂ (fun v v' => Condition.yearEarlier v = .ok v') vs vs') :
      YearEarlier (.multiple vs) (.multiple vs')

namespace Condition

theorem operandYearEarlier_ok {o o' : Operand} (h : operandYearEarlier o = .ok o') : o.YearEarlier o' := by
  cases o with
  | none =>
      cases h
      exact .none
  | single v =>
      simp only [operandYearEarlier] at h
      cases hv : yearEarlier v with
      | error f => rw [hv] at h; cases h
      | ok v' =>
          rw [hv] at h
          cases h
          exact .single hv
  | multiple vs =>
      simp only [operandYearEarlier] at h
      cases hvs : vs.mapM yearEarlier with
      | error f => rw [hvs] at h; cases h
      | ok vs' =>
          rw [hvs] at h
          cases h
          exact .multiple (Except.mapM_ok hvs)

/-- `c'` stands in the previous window for `c` in the current one. -/
structure Moved (c c' : Condition) : Prop where
  field : c'.field = c.field
  operator : c'.operator = c.operator
  undated : c.isDate = false → c' = c
  dated : c.isDate = true → c.operand.YearEarlier c'.operand

theorem shifted_ok {c c' : Condition} (h : shifted c = .ok c') : c.Moved c' := by
  rw [shifted] at h
  split at h
  case isTrue hdate =>
      cases hoperand : operandYearEarlier c.operand with
      | error f => rw [hoperand] at h; cases h
      | ok operand =>
          rw [hoperand] at h
          cases h
          exact ⟨rfl, rfl, fun hundated => by simp_all, fun _ => operandYearEarlier_ok hoperand⟩
  case isFalse hdate =>
      cases h
      exact ⟨rfl, rfl, fun _ => rfl, fun hdated => by simp_all⟩

/-- The cap that a window open from above gets, and no other. -/
def trailingCap (conditions : List Condition) (today : Date) : List Condition :=
  if boundedAbove conditions then [] else [cap today]

theorem previousPeriod_ok {conditions previous : List Condition} {today : Date}
    (h : previousPeriod conditions today = .ok previous) :
    ∃ moved, previous = moved ++ trailingCap conditions today ∧ List.Forall₂ Moved conditions moved := by
  rw [previousPeriod] at h
  cases hmoved : conditions.mapM shifted with
  | error f => rw [hmoved] at h; cases h
  | ok moved =>
      rw [hmoved] at h
      cases h
      refine ⟨moved, ?_, (Except.mapM_ok hmoved).imp fun _ _ => shifted_ok⟩
      rw [trailingCap]
      split <;> simp

end Condition
end BalanceSheet
