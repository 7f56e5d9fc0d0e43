import BalanceSheet.Command.Work
import BalanceSheet.Proofs.Engine.Session
import BalanceSheet.Proofs.Registry.Acceptance

/-!
Dry runs. What a query shows instead of asking is found on a path of its own, which checks in another order than
the engine does. Both rest on the call that the query stands for and on the statement that is built for it, so a
dry run shows the statement that the store would be asked, and none or an error where it would not be asked.
-/

namespace BalanceSheet

open Engine (Call Answer)

/-- What is printed of a statement that is only shown: its text and its parameters, each with name, type and value,
the tables that it skips and the calculated metrics that it has. -/
def Statement.printed (s : Statement) : Json :=
  let params := s.params.toList.map fun p =>
    Json.members [("name", .string p.name), ("type", .string p.type.storeName), ("value", .string p.value)]
  .members [("calculated", .array (s.calculated.map Json.string)), ("params", .array params),
    ("skipped_tables", .array (s.skipped.map Json.string)), ("sql", .string s.sql)]

/-- What is printed instead of a statement where none is needed. -/
def Statement.notNeeded : Json :=
  .members [("reason", .string "no requested table has the grouping dimension"), ("sql", .null)]

/-- An answer as a command prints it. -/
def Engine.Answer.toJson : Answer → Json
  | .values metrics => .members [("data", metrics.toJson)]
  | .page result => result.toJson
  | .texts items => .strings items

namespace Api

/-- A statement was shown if and only if it is asked for, no statement if and only if the answer is a page without
rows that needs no store, and an error if and only if the errand fails without the store. -/
structure Foretells (shown : Except Fault (Option Statement)) (errand : Errand Answer) : Prop where
  sends : ∀ s, shown = .ok (some s) ↔ errand.question? = some (.rows s)
  needless : shown = .ok none ↔
    ∃ result : GroupedResult, result.rows = [] ∧ errand = .settled (.ok (.page result))
  fails : (∃ fault, shown = .error fault) ↔ ∃ fault, errand = .settled (.error fault)

namespace Foretells

theorem of_error {fault : Fault} {errand : Errand Answer} (h : ∃ fault, errand = .settled (.error fault)) :
    Foretells (.error fault) errand := by
  obtain ⟨fault', rfl⟩ := h
  constructor
  case sends => simp [Exchange.question?]
  case needless => simp
  case fails => simp

theorem of_none {errand : Errand Answer}
    (h : ∃ result : GroupedResult, result.rows = [] ∧ errand = .settled (.ok (.page result))) :
    Foretells (.ok none) errand := by
  obtain ⟨result, hrows, rfl⟩ := h
  constructor
  case sends => simp [Exchange.question?]
  case needless => simpa using hrows
  case fails => simp

theorem of_some {s : Statement} {errand : Errand Answer} (h : errand.question? = some (.rows s)) :
    Foretells (.ok (some s)) errand := by
  have hasks (outcome : Except Fault Answer) : errand ≠ .settled outcome := by
    rintro rfl
    cases h
  constructor
  case sends => simp [h]
  case needless => simp [hasks]
  case fails => simp [hasks]

end Foretells

/-- The work asks nothing. It comes to the statement in print if the errand would ask for its rows, to the reason why
there is none if the errand is a page without rows that needs no store, and to a fault if the errand fails without
the store. -/
structure PrintedInstead (work : Command.Work Json) (errand : Errand Answer) : Prop where
  statement : ∀ s, errand.question? = some (.rows s) → work = .settled (.ok s.printed)
  needless : ∀ answer, errand = .settled (.ok answer) → work = .settled (.ok Statement.notNeeded)
  fault : ∀ fault, errand = .settled (.error fault) → ∃ fault, work = .settled (.error (.request fault))

/-- What was shown is printed. -/
theorem Foretells.printedInstead {shown : Except Fault (Option Statement)} {errand : Errand Answer}
    (h : Foretells shown errand) :
    PrintedInstead (.settled ((shown.map Command.QueryOptions.shown).mapError .request)) errand := by
  constructor
  case statement =>
    intro s hs
    rw [(h.sends s).mpr hs]
    rfl
  case needless =>
    rintro answer rfl
    cases shown with
    | error fault =>
        obtain ⟨_, hfault⟩ := h.fails.mp ⟨fault, rfl⟩
        cases hfault
    | ok o =>
        cases o with
        | none => rfl
        | some s => cases (h.sends s).mp rfl
  case fault =>
    intro fault hfault
    obtain ⟨fault', rfl⟩ := h.fails.mpr ⟨fault, hfault⟩
    exact ⟨fault', rfl⟩

namespace BalanceQuery

/-- The call that a query stands for, by group if a dimension is named. -/
def call (q : BalanceQuery) (r : Registry) : Except Fault Call :=
  match q.groupBy with
  | some _ => (q.groupedRequest r).map .grouped
  | none => (q.yoyRequest r).map .yoy

/-- The call made, unless the query is at fault. -/
def errand (q : BalanceQuery) (r : Registry) (today : Date) : Errand Answer :=
  .ofRequest (q.call r) (Call.inquiry r today)

variable (q : BalanceQuery) (r : Registry) (today : Date)

theorem statement?_eq :
    q.statement? r today = q.call r >>= fun call => (call.built r today).mapError .failure := by
  rw [statement?, call]
  cases q.groupBy with
  | some name =>
      cases hrequest : q.groupedRequest r with
      | error fault => rfl
      | ok request => rfl
  | none =>
      cases hrequest : q.yoyRequest r with
      | error fault => rfl
      | ok request =>
          change ((Yoy.statement r request today).mapError Fault.failure >>= fun s => pure (some s)) =
            ((Yoy.statement r request today).map some).mapError Fault.failure
          cases Yoy.statement r request today <;> rfl

theorem foretells : Foretells (q.statement? r today) (q.errand r today) := by
  rw [statement?_eq, errand]
  cases q.call r with
  | error fault => exact .of_error ⟨fault, rfl⟩
  | ok call =>
      have herrand : Errand.ofRequest (.ok call) (Call.inquiry r today) =
          (call.inquiry r today).map fun answer => answer.mapError .failure := rfl
      have hshown : ((.ok call : Except Fault Call) >>= fun call => (call.built r today).mapError .failure) =
          (call.built r today).mapError .failure := rfl
      rw [herrand, hshown]
      cases hbuilt : call.built r today with
      | error failure =>
          obtain ⟨failure', hinquiry⟩ := Call.inquiry_of_built_error hbuilt
          exact .of_error ⟨.failure failure', by rw [hinquiry]; rfl⟩
      | ok o =>
          cases o with
          | none =>
              obtain ⟨result, hrows, hinquiry⟩ := Call.inquiry_of_built_none hbuilt
              exact .of_none ⟨result, hrows, by rw [hinquiry]; rfl⟩
          | some s =>
              obtain ⟨resume, hinquiry⟩ := Call.inquiry_of_built_some hbuilt
              exact .of_some (by rw [Exchange.question?_map, hinquiry]; rfl)

/-- An answer is printed as what it is made from. -/
theorem map_toJson {α : Type} (wrap : α → Answer) (inquiry : Inquiry α) :
    ((inquiry.map (Except.map wrap)).map (Except.mapError Fault.failure)).map (Except.map Answer.toJson) =
      (inquiry.map (Except.mapError Fault.failure)).map (Except.map fun a => (wrap a).toJson) := by
  have hprint (outcome : Except Failure α) :
      ((outcome.map wrap).mapError Fault.failure).map Answer.toJson =
        (outcome.mapError Fault.failure).map fun a => (wrap a).toJson := by
    cases outcome <;> rfl
  cases inquiry with
  | settled outcome => exact congrArg Exchange.settled (hprint outcome)
  | asks question resume => exact congrArg (Exchange.asks question) (funext fun reply => hprint (resume reply))

/-- A command makes the call of its query. -/
theorem answer_eq :
    Command.QueryOptions.answer q r today = (q.errand r today).map (Except.map Answer.toJson) := by
  rw [Command.QueryOptions.answer, errand, call]
  cases q.groupBy with
  | some name =>
      rw [grouped]
      cases q.groupedRequest r with
      | error fault => rfl
      | ok request => exact (map_toJson .page (Engine.grouped r today request)).symm
  | none =>
      rw [yoy]
      cases q.yoyRequest r with
      | error fault => rfl
      | ok request => exact (map_toJson .values (Engine.yoy r today request)).symm

end BalanceQuery
end Api

open Engine (Store Event session)

/-- In every session a call sends the one statement that is built for it or none, the store is asked for nothing
else, and calls with the same replies come to the same in any two sessions; and a dry run of a query foretells
what its call does, and prints the statement with its parameters. -/
theorem Engine.one_statement_per_call [Url.DomainRule] (r : Registry) (today : Date) :
    (∀ (σ : Type) (store : Store σ) (state : σ) (calls : List Call),
      (session r today store state calls).1.map Event.call = calls ∧
      (∀ e ∈ (session r today store state calls).1, e.SendsBuilt r today) ∧
      (session r today store state calls).2 = store.after state
        ((calls.filterMap fun call => (call.built r today).toOption.join).map .rows)) ∧
    (∀ (σ σ' : Type) (store : Store σ) (store' : Store σ') (state : σ) (state' : σ') (calls calls' : List Call),
      ∀ e ∈ (session r today store state calls).1, ∀ e' ∈ (session r today store' state' calls').1,
        e.call = e'.call → e.replies = e'.replies → e.result = e'.result) ∧
    ∀ q : Api.BalanceQuery,
      Api.Foretells (q.statement? r today) (q.errand r today) ∧
      Command.QueryOptions.answer q r today = (q.errand r today).map (Except.map Answer.toJson) ∧
      ∀ (o : Command.QueryOptions) (c : Config), o.query = .ok q → o.dryRun = true →
        Api.PrintedInstead (o.work c r today) (q.errand r today) ∧
        ∀ fault, q.statement? r today = .error fault → o.work c r today = .settled (.error (.request fault)) := by
  refine ⟨?_, ?_, ?_⟩
  · intro σ store state calls
    obtain ⟨hcalls, hfollow, hstate⟩ := Engine.session_follows r today store state calls
    refine ⟨hcalls, fun e he => (hfollow e he).sendsBuilt, ?_⟩
    rw [hstate, Engine.session_questions]
  · intro σ σ' store store' state state' calls calls' e he e' he'
    obtain ⟨-, hfollow, -⟩ := Engine.session_follows r today store state calls
    obtain ⟨-, hfollow', -⟩ := Engine.session_follows r today store' state' calls'
    exact (hfollow e he).result_eq (hfollow' e' he')
  · intro q
    refine ⟨q.foretells r today, q.answer_eq r today, ?_⟩
    intro o c hq hdry
    have hwork : o.work c r today =
        .settled (((q.statement? r today).map Command.QueryOptions.shown).mapError .request) := by
      rw [Command.QueryOptions.work, hq]
      exact if_pos hdry
    rw [hwork]
    refine ⟨(q.foretells r today).printedInstead, ?_⟩
    intro fault hfault
    rw [hfault]
    rfl

section

open Registry.Builtin

/-- Calls of every kind; the second has a metric that is not there, the fourth no groups, and the fifth no rows
to return. -/
def Engine.mixedCalls : List Call :=
  [.yoy ⟨["sales"], []⟩, .yoy ⟨["returns"], []⟩, .grouped (bySeller plainFilters "sales"),
    .grouped { bySeller plainFilters "sales" with metrics := ["stock_value"] },
    .grouped { bySeller plainFilters "sales" with page := ⟨0, 0⟩ },
    .distinct ⟨"transactions", "brand", [], .ofValues⟩]

/-- A store that fails and keeps what it was asked. -/
def Engine.failingStore : Store (List StoreQuestion) := fun asked question =>
  (.error ⟨.connection, "refused"⟩, asked ++ [question])

/-- The text of the first of these calls. -/
def Engine.salesText : String :=
  "WITH transactions_current AS (SELECT sumOrDefault(sales_price) AS sales FROM transactions), " ++
  "transactions_previous AS (SELECT sumOrDefault(sales_price) AS sales_ly FROM transactions WHERE date <= " ++
  "\x7bp0:Date\x7d) SELECT transactions_current.sales AS sales, " ++
  "transactions_previous.sales_ly AS sales_last_year, " ++
  "if(sales_last_year != 0, ((sales - sales_last_year) / sales_last_year) * 100, 0) AS sales_vs_last_year " ++
  "FROM transactions_current CROSS JOIN transactions_previous"

/-- The text of the last of them. -/
def Engine.brandsText : String :=
  "SELECT DISTINCT toString(brand) AS value FROM transactions WHERE brand IS NOT NULL " ++
  "ORDER BY value ASC LIMIT 100 OFFSET 0"

/-- Three of these calls get as far as the store, though it fails them all, and a dry run prints what the first of
them sends. -/
theorem Engine.one_statement_per_call_builtin : ∃ sales sellers brands : Statement,
    sales.sql = salesText ∧ sales.params = ⟨[⟨"p0", .date, "2023-03-15"⟩]⟩ ∧
    Grouped.statement .builtin (bySeller plainFilters "sales") spring = .ok (some sellers) ∧
    brands.sql = brandsText ∧
    (session .builtin spring failingStore [] mixedCalls).2 = [.rows sales, .rows sellers, .rows brands] ∧
    Command.QueryOptions.work { metrics := some "sales", dryRun := true } .standard .builtin spring =
      .settled (.ok sales.printed) := by
  obtain ⟨hsession, -, hdry⟩ := one_statement_per_call .builtin spring
  obtain ⟨sales, hsales, htext⟩ := Except.exists_of_map (e := Yoy.statement .builtin ⟨["sales"], []⟩ spring)
    (f := fun s => (s.sql, s.params)) (b := (salesText, ⟨[⟨"p0", .date, "2023-03-15"⟩]⟩)) (by decide +kernel)
  obtain ⟨sellers, hsellers, -⟩ := Except.exists_some_of_map (f := fun s => s.calculated)
    (e := Grouped.statement .builtin (bySeller plainFilters "sales") spring) (b := ["stock_turnover"])
    (by decide +kernel)
  obtain ⟨brands, hbrands, hvalues⟩ := Except.exists_of_map
    (e := Distinct.statement .builtin ⟨"transactions", "brand", [], .ofValues⟩) (f := Statement.sql) (b := brandsText)
    (by decide +kernel)
  obtain ⟨hsql, hparams⟩ := Prod.mk.inj htext
  have hbuilt : mixedCalls.filterMap (fun call => (call.built .builtin spring).toOption.join) =
      [sales, sellers, brands] := by
    -- the second, the fourth and the fifth call get nowhere
    have hnowhere : ∀ i ∈ [1, 3, 4], ∀ call ∈ mixedCalls[i]?,
        (call.built .builtin spring).toOption.join.isNone = true := by decide +kernel
    have hnone (i : Nat) (hi : i ∈ [1, 3, 4]) (call : Call) (hcall : call ∈ mixedCalls[i]?) :
        (call.built .builtin spring).toOption.join = none := Option.isNone_iff_eq_none.mp (hnowhere i hi call hcall)
    rw [mixedCalls]
    simp only [List.filterMap_cons, List.filterMap_nil, hnone 1 (by decide) _ rfl, hnone 3 (by decide) _ rfl,
      hnone 4 (by decide) _ rfl]
    rw [Call.built, hsales, Call.built, hsellers, Call.built, hbrands]
    rfl
  refine ⟨sales, sellers, brands, hsql, hparams, hsellers, hvalues, ?_, ?_⟩
  · rw [(hsession _ failingStore [] mixedCalls).2.2, hbuilt]
    rfl
  · obtain ⟨q, hq, hcall⟩ := Except.exists_of_map
      (e := Command.QueryOptions.query { metrics := some "sales", dryRun := true }) (f := id)
      (b := ⟨⟨none, none⟩, none, none, none, none, none, none, ["sales"], []⟩) (by decide +kernel)
    obtain ⟨hforetells, -, hprinted⟩ := hdry q
    refine (hprinted _ .standard hq rfl).1.statement sales ((hforetells.sends sales).mp ?_)
    have hmade : q.call .builtin = .ok (.yoy ⟨["sales"], []⟩) := by
      rw [show q = _ from hcall]
      rfl
    rw [q.statement?_eq, hmade]
    change ((Yoy.statement .builtin ⟨["sales"], []⟩ spring).map some).mapError Api.Fault.failure = _
    rw [hsales]
    rfl

end
end BalanceSheet
