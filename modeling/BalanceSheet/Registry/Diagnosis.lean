import BalanceSheet.Formula
import BalanceSheet.Registry.Basic
import BalanceSheet.Text.Basic

/-!
Gaps in a registry that fail no request but lose a field: a calculated metric that names an unknown
dependency or can never be resolved, and a formula and its dependencies that do not match.
-/

namespace BalanceSheet

inductive Gap where
  | missingDependency (metric dependency : String)
  | unresolvable (metric : String)
  | undeclaredPlaceholder (metric placeholder : String)
  | unusedDependency (metric dependency : String)
  deriving DecidableEq

def Gap.message : Gap → String
  | missingDependency metric dependency =>
    s!"calculated metric '{metric}' depends on unknown metric '{dependency}' and will be omitted"
  | unresolvable metric =>
    s!"calculated metric '{metric}' has a circular dependency and will be omitted"
  | undeclaredPlaceholder metric placeholder =>
    s!"calculated metric '{metric}' uses placeholder '\x7b{placeholder}\x7d' that is not a declared dependency"
  | unusedDependency metric dependency =>
    s!"calculated metric '{metric}' declares dependency '{dependency}' but never uses it"

namespace Registry

/-- The names that a formula may depend on. -/
def knownMetrics (r : Registry) : List String :=
  (r.base.flatMap fun m => [m.name, m.lastYearField]) ++ r.calculated.map CalculatedMetric.name

/-- The identifiers that stand in braces in a formula, in order of first use. -/
def formulaPlaceholders (formula : String) : List String :=
  (((Text.braced formula.toList).filter Identifier.isValid).map String.ofList).eraseDups

def uses (formula name : String) : Bool :=
  Text.contains (CalculatedMetric.placeholder name).toList formula.toList

/-- The gaps of one dependency. -/
def dependencyGaps (r : Registry) (m : CalculatedMetric) (name : String) : List Gap :=
  (if r.knownMetrics.contains name then [] else [.missingDependency m.name name]) ++
  (if uses m.formula name then [] else [.unusedDependency m.name name])

/-- The gaps between a formula and its dependencies. -/
def declarationGaps (r : Registry) (m : CalculatedMetric) : List Gap :=
  m.dependencies.flatMap (r.dependencyGaps m) ++
  ((formulaPlaceholders m.formula).filter fun name => !m.dependencies.contains name).map
    (.undeclaredPlaceholder m.name)

/-- The calculated metrics that are resolved when every base metric is asked for. -/
def resolvable (r : Registry) : List String :=
  let aliases := Aliases.ofMetrics [] (TableMetrics.ofMetrics r.base)
  (CalculatedMetric.resolveAll aliases r.calculated).map ResolvedMetric.name

/-- Metrics whose dependencies all exist and that are not resolved all the same. -/
def unresolvable (r : Registry) : List CalculatedMetric :=
  let resolvable := r.resolvable
  r.calculated.filter fun m => m.dependencies.all r.knownMetrics.contains && !resolvable.contains m.name

def diagnose (r : Registry) : List Gap :=
  r.calculated.flatMap r.declarationGaps ++ r.unresolvable.map fun m => .unresolvable m.name

end Registry
end BalanceSheet
