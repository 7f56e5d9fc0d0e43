import BalanceSheet.Json.Basic
import BalanceSheet.Registry.Parts
import BalanceSheet.Text.Basic

/-!
Calculated metrics resolved. Each name of a base metric stands for a column of the statement. In rounds,
every metric is resolved whose dependencies are aliases or were resolved in an earlier round, until a
round resolves none; so the order of declaration does not matter, and a metric that lacks a dependency or
lies on a cycle is left out.
-/

namespace BalanceSheet

/-- What a name in an expression refers to. -/
inductive Reference where
  /-- A column of a common table expression. -/
  | column (source name : String)
  /-- An output column of the statement itself. -/
  | output (name : String)
  deriving DecidableEq

def Reference.text : Reference → String
  | column source name => source ++ "." ++ name
  | output name => name

/-- Name of the expression with the current-period aggregates of a table. -/
def currentSource (table : String) : String := table ++ "_current"

/-- Name of the expression with the previous-period aggregates of a table. -/
def previousSource (table : String) : String := table ++ "_previous"

/-- References by name, in the order of names. -/
abbrev Aliases := List (String × Reference)

namespace Aliases

/-- The references for the value of a metric and for its value last year. A table that is left out of
the statement has its metrics as output columns of their own. -/
def ofMetric (skipped : List String) (m : BaseMetric) : Aliases :=
  if skipped.contains m.table then
    [(m.name, .output m.name), (m.lastYearField, .output m.previousColumn)]
  else
    [(m.name, .column (currentSource m.table) m.name),
      (m.lastYearField, .column (previousSource m.table) m.previousColumn)]

def ofMetrics (skipped : List String) (groups : TableMetrics) : Aliases :=
  Sorted.ofList (groups.metrics.flatMap (ofMetric skipped))

def has (aliases : Aliases) (name : String) : Bool := (Sorted.get? aliases name).isSome

/-- What a dependency stands for: the reference of a name, else an output column. -/
def reference (aliases : Aliases) (name : String) : Reference :=
  (Sorted.get? aliases name).getD (.output name)

end Aliases

structure ResolvedMetric where
  name : String
  expr : String
  deriving DecidableEq

namespace CalculatedMetric

/-- The name in braces, as it stands in a formula. -/
def placeholder (name : String) : String := "\x7b" ++ name ++ "\x7d"

/-- The formula with the dependencies replaced, one after the other. -/
def substitute (aliases : Aliases) (dependencies : List String) (formula : String) : String :=
  dependencies.foldl
    (fun text name => Text.replace (placeholder name) (aliases.reference name).text text) formula

def resolve (aliases : Aliases) (m : CalculatedMetric) : ResolvedMetric :=
  ⟨m.name, substitute aliases m.dependencies m.formula⟩

/-- Whether every dependency is a name with a reference or among the metrics resolved before. -/
def satisfied (aliases : Aliases) (known : List String) (m : CalculatedMetric) : Bool :=
  m.dependencies.all fun name => aliases.has name || known.contains name

/-- One round: resolves what `known` satisfies, each name once. -/
def resolveRound (aliases : Aliases) (known : List String) :
    List String → List CalculatedMetric → List ResolvedMetric
  | _, [] => []
  | added, m :: ms =>
    if added.contains m.name || !m.satisfied aliases known then resolveRound aliases known added ms
    else m.resolve aliases :: resolveRound aliases known (m.name :: added) ms

/-- Rounds until one resolves nothing, at most `rounds` of them. -/
def resolveRounds (aliases : Aliases) (metrics : List CalculatedMetric) :
    Nat → List ResolvedMetric → List ResolvedMetric
  | 0, done => done
  | rounds + 1, done =>
    let known := done.map ResolvedMetric.name
    match resolveRound aliases known known metrics with
    | [] => done
    | found => resolveRounds aliases metrics rounds (done ++ found)

/-- The metrics that can be resolved, by round and then in the order of declaration. Every round but the
last resolves one, so as many rounds as metrics are enough. -/
def resolveAll (aliases : Aliases) (metrics : List CalculatedMetric) : List ResolvedMetric :=
  resolveRounds aliases metrics metrics.length []

end CalculatedMetric
end BalanceSheet
