import BalanceSheet.Api.Server
import BalanceSheet.Proofs.Query.Plans
import BalanceSheet.Proofs.Query.Refusals
import BalanceSheet.Proofs.Registry.Acceptance

/-!
What a client of the server learns of the store. A request is refused before the store is asked only where the
request itself is at fault, and a fault of the store reaches the response without its kind and its detail; so
responses are the same for any two faults, and whether the store would fail makes no difference to a request that
does not reach it.
-/

namespace BalanceSheet

/-- Without the store the exchange comes to an error with `P` or an answer with `Q`; where it asks the store, a
fault of the store is handed on, wrapped. -/
def Exchange.HandsOn {E α : Type} (P : E → Prop) (Q : α → Prop) (wrap : StoreFault → E) :
    Exchange StoreQuestion StoreReply (Except E α) → Prop
  | .settled (.error e) => P e
  | .settled (.ok a) => Q a
  | .asks _ resume => ∀ fault, resume (.error fault) = .error (wrap fault)

theorem Exchange.HandsOn.mapError {E E' α : Type} {P : E → Prop} {P' : E' → Prop} {Q : α → Prop}
    {wrap : StoreFault → E} {exchange : Exchange StoreQuestion StoreReply (Except E α)}
    (h : exchange.HandsOn P Q wrap) {f : E → E'} (hf : ∀ e, P e → P' (f e)) :
    (exchange.map (Except.mapError f)).HandsOn P' Q (f ∘ wrap) := by
  cases exchange with
  | settled outcome =>
      cases outcome with
      | error e => exact hf e h
      | ok a => exact h
  | asks question resume =>
      intro fault
      exact congrArg (Except.mapError f) (h fault)

/-! ### Inquiries -/

/-- Nothing is answered without the store. -/
def Unanswered {α : Type} (_ : α) : Prop := False

namespace Engine

theorem handsOn_yoy (r : Registry) (today : Date) (request : YoyRequest) :
    (yoy r today request).HandsOn Failure.OfRequest Unanswered .store := by
  have hstatement := Yoy.refuses_statement r today request
  rw [yoy]
  split
  case h_1 failure hs => exact hstatement failure hs
  case h_2 => exact fun _ => rfl

/-- Where there are no groups, the page without rows is answered without the store. -/
theorem handsOn_grouped (r : Registry) (today : Date) (request : GroupedRequest) :
    (grouped r today request).HandsOn Failure.OfRequest (fun result => result.rows = []) .store := by
  have hlimit := request.page.refuses_effectiveLimit
  have hstatement := Grouped.refuses_statement r today request
  rw [grouped]
  split
  case h_1 failure hfails => exact hlimit failure hfails
  case h_2 limit _ =>
    split
    case h_1 failure hs => exact hstatement failure hs
    case h_2 => rfl
    case h_3 => exact fun _ => rfl

theorem handsOn_distinct (r : Registry) (request : DistinctRequest) :
    (distinct r request).HandsOn Failure.OfRequest Unanswered .store := by
  have hstatement := Distinct.refuses_statement r request
  rw [distinct]
  split
  case h_1 failure hs => exact hstatement failure hs
  case h_2 => exact fun _ => rfl

end Engine

namespace Api

open BalanceSheet.Except (failsWith_ok failsWith_error)

/-! ### Queries -/

/-- The one who asked is told what is wrong with the request. -/
def Fault.OfRequest (f : Fault) : Prop := f.status = 400

theorem Fault.ofRequest_failure {cause : Failure} (h : cause.OfRequest) : (failure cause).OfRequest := by
  have hrequest : cause.isRequestFault = true := h
  rw [OfRequest, status, if_pos hrequest]

/-- A query is at fault by its own. -/
abbrev Refuses {α : Type} (x : Except Fault α) : Prop := Except.FailsWith Fault.OfRequest x

theorem RawQuery.refuses_number? (raw : RawQuery) (key : String) : Refuses (raw.number? key) := by
  rw [number?]
  split
  · exact failsWith_ok none
  · split
    · exact failsWith_ok _
    · exact failsWith_error rfl

theorem refuses_periodConditions (r : Registry) (bounds : DateBounds) (filters : RawQuery) :
    Refuses (periodConditions r bounds filters) := by
  have hbounds := bounds.refuses_conditions
  have hfilters := Filter.refuses_conditions r.filterableColumns filters
  rw [periodConditions]
  split
  case h_1 failure hfails => exact failsWith_error (Fault.ofRequest_failure (hbounds failure hfails))
  case h_2 =>
    split
    case h_1 failure hfails => exact failsWith_error (Fault.ofRequest_failure (hfilters failure hfails))
    case h_2 => exact failsWith_ok _

namespace BalanceQuery

theorem refuses_ofRaw (raw : RawQuery) : Refuses (ofRaw raw) :=
  (raw.refuses_number? "page").bind fun _ => (raw.refuses_number? "limit").bind fun _ =>
    (raw.refuses_number? "offset").bind fun _ => failsWith_ok _

variable (q : BalanceQuery) (r : Registry)

theorem refuses_yoyRequest : Refuses (q.yoyRequest r) :=
  (refuses_periodConditions r q.bounds q.filters).bind fun _ => failsWith_ok _

theorem refuses_groupedRequest : Refuses (q.groupedRequest r) := by
  have hskip (limit : Nat) : Refuses (q.rowsToSkip limit) := by
    rw [rowsToSkip]
    split
    · exact failsWith_ok _
    · exact failsWith_ok 0
    · exact failsWith_error rfl
    · exact failsWith_ok _
  have hdirection : Refuses q.direction := by
    rw [direction]
    split
    · exact failsWith_ok _
    · exact (Direction.refuses_read _).mapError fun _ => Fault.ofRequest_failure
  have hdimension (name : String) := r.refuses_dimension name
  rw [groupedRequest]
  split
  case h_1 => exact failsWith_error rfl
  case h_2 groupBy _ =>
    split
    case h_1 failure hfails => exact failsWith_error (Fault.ofRequest_failure (hdimension groupBy failure hfails))
    case h_2 =>
      exact (hskip _).bind fun _ => (refuses_periodConditions r q.bounds q.filters).bind fun _ =>
        hdirection.bind fun _ => failsWith_ok _

end BalanceQuery

namespace ValuesQuery

theorem refuses_ofRaw (raw : RawQuery) : Refuses (ofRaw raw) := by
  rw [ofRaw]
  split
  · exact failsWith_error rfl
  · exact (raw.refuses_number? "limit").bind fun _ => (raw.refuses_number? "offset").bind fun _ => failsWith_ok _

theorem refuses_request (q : ValuesQuery) (column : String) (r : Registry) : Refuses (q.request column r) :=
  (refuses_periodConditions r q.bounds q.filters).bind fun _ => failsWith_ok _

end ValuesQuery

/-! ### Errands -/

/-- The errand fails by the request's fault, answers what needs no store, or hands on the store's fault. -/
abbrev Errand.HandsOn {α : Type} (Q : α → Prop) (errand : Errand α) : Prop :=
  Exchange.HandsOn Fault.OfRequest Q (fun fault => .failure (.store fault)) errand

theorem Errand.handsOn_ofQuery {query α : Type} {Q : α → Prop} {read : Except Fault query}
    {run : query → Errand α} (hread : Refuses read) (hrun : ∀ q, (run q).HandsOn Q) : (ofQuery read run).HandsOn Q := by
  cases read with
  | error fault => exact hread fault rfl
  | ok q => exact hrun q

theorem Errand.handsOn_ofRequest {request α : Type} {Q : α → Prop} {read : Except Fault request}
    {inquire : request → Inquiry α} (hread : Refuses read)
    (hinquire : ∀ request, (inquire request).HandsOn Failure.OfRequest Q .store) :
    (ofRequest read inquire).HandsOn Q :=
  handsOn_ofQuery hread fun request => (hinquire request).mapError fun _ => Fault.ofRequest_failure

/-! ### Responses -/

/-- What is told of a fault of the store. -/
def Response.storeFailed : Response :=
  .json 500 (.members [("error", .string "QUERY_FAILED"), ("message", .string "internal error")])

theorem Response.ofFault_store (fault : StoreFault) : ofFault (.failure (.store fault)) = storeFailed := by
  have hstatus : (Fault.failure (.store fault)).status = 500 := rfl
  rw [ofFault, Fault.publicMessage, if_pos hstatus, hstatus]
  rfl

/-- Where the store is not asked, the request is refused or has a response that the store has no part in; where it
is asked and fails, that is all that is told. -/
def Handling.Conceals (storeless : Response → Prop) : Handling → Prop
  | .settled response => response.status = 400 ∨ storeless response
  | .asks _ resume => ∀ fault, resume (.error fault) = .storeFailed

theorem Errand.HandsOn.conceals {α : Type} {Q : α → Prop} {errand : Errand α} (h : errand.HandsOn Q)
    (respond : α → Response) :
    Handling.Conceals (fun response => ∃ a, Q a ∧ response = respond a)
      (errand.map (Response.ofOutcome respond)) := by
  cases errand with
  | settled outcome =>
      cases outcome with
      | error fault => exact .inl h
      | ok a => exact .inr ⟨a, h, rfl⟩
  | asks question resume =>
      intro fault
      have hoffault := congrArg (Response.ofOutcome respond) (h fault)
      exact hoffault.trans (Response.ofFault_store fault)

/-- The routes to the store's data. -/
def Route.HasData : Route → Prop
  | .metrics | .groups | .values _ => True
  | .health | .schema => False

/-- The response of a route that needs no store: a page without rows, where the route has pages. -/
def Route.Storeless (route : Route) (response : Response) : Prop :=
  route = .groups ∧ ∃ result : GroupedResult, result.rows = [] ∧ response = .ofGroups result

theorem Handling.Conceals.mono {handling : Handling} {storeless storeless' : Response → Prop}
    (h : handling.Conceals storeless) (himp : ∀ response, storeless response → storeless' response) :
    handling.Conceals storeless' := by
  cases handling with
  | settled response => exact Or.imp_right (himp response) h
  | asks question resume => exact h

/-- Two faults of the store make the same response. -/
def Handling.Indistinct (handling : Handling) : Prop :=
  ∀ fault fault' : StoreFault, handling.result (.error fault) = handling.result (.error fault')

theorem Handling.Indistinct.map {handling : Handling} (h : handling.Indistinct) (f : Response → Response) :
    Handling.Indistinct (handling.map f) := by
  intro fault fault'
  rw [Exchange.result_map, Exchange.result_map, h fault fault']

theorem Handling.Conceals.indistinct {handling : Handling} {storeless : Response → Prop}
    (h : handling.Conceals storeless) : handling.Indistinct := by
  cases handling with
  | settled response => exact fun _ _ => rfl
  | asks question resume => exact fun fault fault' => (h fault).trans (h fault').symm

namespace Server

variable (s : Server)

theorem conceals_read (route : Route) (hroute : route.HasData) (raw : RawQuery) :
    (s.read route raw).Conceals route.Storeless := by
  cases route with
  | health => exact hroute.elim
  | schema => exact hroute.elim
  | metrics =>
      have herrand := Errand.handsOn_ofQuery (BalanceQuery.refuses_ofRaw raw) fun q =>
        Errand.handsOn_ofRequest (q.refuses_yoyRequest s.registry) (Engine.handsOn_yoy s.registry s.today)
      exact (herrand.conceals _).mono fun _ ⟨_, hanswered, _⟩ => hanswered.elim
  | groups =>
      have herrand := Errand.handsOn_ofQuery (BalanceQuery.refuses_ofRaw raw) fun q =>
        Errand.handsOn_ofRequest (q.refuses_groupedRequest s.registry) (Engine.handsOn_grouped s.registry s.today)
      exact (herrand.conceals _).mono fun _ hresult => ⟨rfl, hresult⟩
  | values column =>
      rw [read, values]
      split
      case h_1 => exact .inl rfl
      case h_2 name _ =>
        have herrand := Errand.handsOn_ofQuery (ValuesQuery.refuses_ofRaw raw) fun q =>
          Errand.handsOn_ofRequest (q.refuses_request (String.ofList name) s.registry)
            (Engine.handsOn_distinct s.registry)
        exact (herrand.conceals _).mono fun _ ⟨_, hanswered, _⟩ => hanswered.elim

/-- The health of the store is told without the reason why it does not answer. -/
theorem indistinct_read (route : Route) (raw : RawQuery) : (s.read route raw).Indistinct := by
  cases route with
  | health => exact fun _ _ => rfl
  | schema => exact fun _ _ => rfl
  | metrics => exact (s.conceals_read .metrics trivial raw).indistinct
  | groups => exact (s.conceals_read .groups trivial raw).indistinct
  | values column => exact (s.conceals_read (.values column) trivial raw).indistinct

theorem indistinct_handle (request : Request) : (s.handle request).Indistinct := by
  have hrespond : (s.respond request).Indistinct := by
    rw [respond]
    split
    · exact fun _ _ => rfl
    · exact s.indistinct_read _ _
    · exact (s.indistinct_read _ _).map _
    · exact fun _ _ => rfl
    · exact fun _ _ => rfl
  rw [handle]
  split
  · exact hrespond
  · split
    · exact fun _ _ => rfl
    · exact hrespond.map _

/-- A route is read as it is, but for headers. -/
theorem exists_headers {request : Request} {route : Route} (hroute : Route.ofPath? request.path = some route)
    (hget : request.method = .get) :
    ∃ headers, s.handle request =
      (s.read route request.raw).map fun response => response.withHeaders headers := by
  have hrespond : s.respond request = s.read route request.raw := by rw [respond, hroute, hget]
  rw [handle, hrespond]
  cases s.origins with
  | none =>
      refine ⟨[], ?_⟩
      cases s.read route request.raw <;> simp [Exchange.map, Response.withHeaders]
  | some rule =>
      have hmethod : request.method ≠ .options := by rw [hget]; decide
      exact ⟨rule.headers request.origin, if_neg hmethod⟩

/-- No response tells faults of the store apart. A request for data that reaches the store is answered with an
internal error when the store fails; one that does not is refused, or asks for groups where there are none, and
its response is the same whatever the store would do. -/
theorem store_faults_concealed (request : Request) :
    (∀ fault fault' : StoreFault,
      (s.handle request).result (.error fault) = (s.handle request).result (.error fault')) ∧
    ∀ route : Route, route.HasData → Route.ofPath? request.path = some route → request.method = .get →
      ((s.handle request).question?.isSome = true → ∀ fault : StoreFault,
        ((s.handle request).result (.error fault)).status = 500 ∧
        ((s.handle request).result (.error fault)).body =
          (Json.members [("error", .string "QUERY_FAILED"), ("message", .string "internal error")]).compact) ∧
      ((s.handle request).question? = none → ∃ response : Response,
        (∀ reply, (s.handle request).result reply = response) ∧
        (response.status = 400 ∨
          route = .groups ∧ ∃ result : GroupedResult, result.rows = [] ∧ response.status = 200 ∧
            response.body = result.toJson.compact)) := by
  refine ⟨s.indistinct_handle request, ?_⟩
  intro route hdata hroute hget
  obtain ⟨headers, hhandle⟩ := s.exists_headers hroute hget
  have hconceals := s.conceals_read route hdata request.raw
  rw [hhandle]
  cases hread : s.read route request.raw with
  | settled response =>
      rw [hread] at hconceals
      refine ⟨nofun, fun _ => ⟨response.withHeaders headers, fun _ => rfl, ?_⟩⟩
      rcases hconceals with hrefused | ⟨hgroups, result, hrows, rfl⟩
      · exact .inl hrefused
      · exact .inr ⟨hgroups, result, hrows, rfl, rfl⟩
  | asks question resume =>
      rw [hread] at hconceals
      refine ⟨fun _ fault => ?_, nofun⟩
      rw [Exchange.result_map]
      have hfailed : (Exchange.asks question resume).result (.error fault) = Response.storeFailed :=
        hconceals fault
      rw [hfailed]
      exact ⟨rfl, rfl⟩

end Server

/-- The balance sheet of a day, open to all pages. -/
def Server.builtin : Server := ⟨.builtin, Registry.Builtin.spring, "clickhouse", some .any⟩

/-- Sales by seller are asked of the store, and if it fails the page hears no more than that; for a metric that
is not there, and for a limit of no rows, the page is told so without the store. -/
theorem Server.store_faults_concealed_builtin :
    (∀ fault : StoreFault, ((Server.builtin.handle (.ofTarget "GET"
      "/api/v1/balance-sheet/grouped?group_by=seller_id&metrics=sales" none)).result (.error fault)).body =
        "\x7b\"error\":\"QUERY_FAILED\",\"message\":\"internal error\"\x7d") ∧
    (∃ response : Response, response.status = 400 ∧ ∀ reply, (Server.builtin.handle (.ofTarget "GET"
      "/api/v1/balance-sheet?metrics=returns" none)).result reply = response) := by
  constructor
  · obtain ⟨-, hdata⟩ := store_faults_concealed Server.builtin (.ofTarget "GET"
      "/api/v1/balance-sheet/grouped?group_by=seller_id&metrics=sales" none)
    obtain ⟨hasked, -⟩ := hdata .groups trivial (by decide +kernel) (by decide +kernel)
    intro fault
    rw [(hasked (by decide +kernel) fault).2]
    decide +kernel
  · obtain ⟨-, hdata⟩ := store_faults_concealed Server.builtin (.ofTarget "GET"
      "/api/v1/balance-sheet?metrics=returns" none)
    obtain ⟨-, hsettled⟩ := hdata .metrics trivial (by decide +kernel) (by decide +kernel)
    obtain ⟨response, hresponse, hrefused⟩ := hsettled (Option.isNone_iff_eq_none.mp (by decide +kernel))
    refine ⟨response, hrefused.resolve_right ?_, hresponse⟩
    rintro ⟨hroute, -⟩
    cases hroute

end Api
end BalanceSheet
