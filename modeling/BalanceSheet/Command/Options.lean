import BalanceSheet.Command.Arguments

/-!
The commands of the program and their options. Options that all commands share may stand before the
command or after it, where the latter count.
-/

namespace BalanceSheet

namespace Command

structure SharedOptions where
  configPath : Option String := none
  logLevel : Option String := none
  deriving DecidableEq

namespace SharedOptions

def switches : List (Switch SharedOptions) :=
  [.once "config" (some 'c') path? configPath fun o path => { o with configPath := path },
    .once "log-level" (some 'l') some logLevel fun o level => { o with logLevel := level }]

/-- The options where those of `later` count first. -/
def updated (o later : SharedOptions) : SharedOptions :=
  ⟨later.configPath.or o.configPath, later.logLevel.or o.logLevel⟩

end SharedOptions

structure ServeOptions where
  host : Option String := none
  port : Option Nat := none
  deriving DecidableEq

def ServeOptions.switches : List (Switch ServeOptions) :=
  [.once "host" none some host fun o host => { o with host },
    .once "port" (some 'p') (number? Decimal.maxUInt16) port fun o port => { o with port }]

structure QueryOptions where
  startDate : Option String := none
  endDate : Option String := none
  metrics : Option String := none
  groupBy : Option String := none
  limit : Option Nat := none
  offset : Option Nat := none
  orderBy : Option String := none
  orderDirection : Option String := none
  filters : List String := []
  /-- Whether the statement is shown instead of asked. -/
  dryRun : Bool := false
  deriving DecidableEq

namespace QueryOptions

def switches : List (Switch QueryOptions) :=
  [.once "start-date" none some startDate fun o date => { o with startDate := date },
    .once "end-date" none some endDate fun o date => { o with endDate := date },
    .once "metrics" (some 'm') some metrics fun o metrics => { o with metrics },
    .once "group-by" (some 'g') some groupBy fun o name => { o with groupBy := name },
    .once "limit" none (number? Decimal.maxUInt32) limit fun o limit => { o with limit },
    .once "offset" none (number? Decimal.maxUInt32) offset fun o offset => { o with offset },
    .once "order-by" none some orderBy fun o field => { o with orderBy := field },
    .once "order-direction" none some orderDirection fun o word => { o with orderDirection := word },
    ⟨"filter", some 'f', .value fun o filter => some { o with filters := o.filters ++ [filter] }⟩,
    ⟨"dry-run", none, .flag fun o => if o.dryRun then none else some { o with dryRun := true }⟩]

/-- The options of a query alone. -/
def read (arguments : List String) : Except Halt QueryOptions :=
  readAll (switches ++ [.help]) {} arguments

end QueryOptions

/-- The options of the server alone. -/
def ServeOptions.read (arguments : List String) : Except Halt ServeOptions :=
  readAll (switches ++ [.help]) {} arguments

end Command

inductive Command where
  | serve (options : Command.ServeOptions)
  | query (options : Command.QueryOptions)
  | check
  deriving DecidableEq

namespace Command

structure Invocation where
  shared : SharedOptions
  command : Command
  deriving DecidableEq

/-- What is printed where there is nothing to do. -/
def Halt.text : Halt → String
  | .version => "tally 0.1.0\n"
  | .usage | .help =>
    "Usage: tally [--config <PATH>] [--log-level <LEVEL>] [COMMAND]\n\n" ++
      "Commands:\n  serve  Run the server\n  query  Run one query and print the result\n" ++
      "  check  Check the configuration and the metric registry\n"

namespace Invocation

/-- Reads the arguments after the name of a command: its own options, and those that all share. -/
def readCommand {σ : Type} (shared : SharedOptions) (switches : List (Switch σ)) (own : σ)
    (make : σ → Command) (arguments : List String) : Except Halt Invocation := do
  let all := switches.map (Switch.within Prod.fst fun pair own => (own, pair.2)) ++
    SharedOptions.switches.map (Switch.within Prod.snd fun pair shared => (pair.1, shared)) ++ [.help]
  let (own, later) ← readAll all (own, {}) arguments
  return ⟨shared.updated later, make own⟩

/-- Reads all arguments of the program. Without a command it serves. -/
def read (arguments : List String) : Except Halt Invocation := do
  match ← readOptions (SharedOptions.switches ++ [.help, .version]) (.ready {}) arguments with
  | (shared, []) => return ⟨shared, .serve {}⟩
  | (shared, "serve" :: rest) => readCommand shared ServeOptions.switches {} .serve rest
  | (shared, "query" :: rest) => readCommand shared QueryOptions.switches {} .query rest
  | (shared, "check" :: rest) => readCommand shared [] () (fun _ => .check) rest
  | (_, ["help"]) => .error .help
  | (_, ["help", name]) => .error (if ["serve", "query", "check", "help"].contains name then .help else .usage)
  | (_, _ :: _) => .error .usage

end Invocation
end Command
end BalanceSheet
