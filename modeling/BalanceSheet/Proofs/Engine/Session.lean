import BalanceSheet.Engine
import BalanceSheet.Proofs.Query.Plans

/-!
Sessions with the engine: calls one after another to a store that may reply as it likes and change with every
question. A call asks for the rows of the statement that is built for it, and for nothing where none is built,
whichever check fails first; so a session asks for the statements of its calls in their order. What comes of a
call is settled by the call and the reply to it.
-/

namespace BalanceSheet

/-- A grouped statement is built, or found to have no groups, only where the limit is in range. -/
theorem Grouped.exists_limit {r : Registry} {request : GroupedRequest} {today : Date} {o : Option Statement}
    (h : statement r request today = .ok o) : ∃ limit, request.page.effectiveLimit = .ok limit := by
  have hplan : ∃ plan params, (Plan.ofRequest r request today).run .empty = (.ok plan, params) := by
    rw [statement] at h
    split at h
    case h_1 => cases h
    case h_2 params hrun => exact ⟨none, params, hrun⟩
    case h_3 plan params hrun => exact ⟨some plan, params, hrun⟩
  obtain ⟨plan, params, hrun⟩ := hplan
  obtain ⟨d, _, -, hrun⟩ := Binding.run_bind_ok hrun
  obtain ⟨groups, _, -, hrun⟩ := Binding.run_bind_ok hrun
  obtain ⟨limit, _, hlimit, -⟩ := Binding.run_bind_ok hrun
  exact ⟨limit, (Binding.run_ofExcept_ok hlimit).1⟩

namespace Engine

/-- What can be asked of the engine. -/
inductive Call where
  | yoy (request : YoyRequest)
  | grouped (request : GroupedRequest)
  | distinct (request : DistinctRequest)

/-- What a call comes to. -/
inductive Answer where
  | values (values : MetricValues)
  | page (result : GroupedResult)
  | texts (values : List String)

namespace Call

/-- The call on its way to an answer. -/
def inquiry (r : Registry) (today : Date) : Call → Inquiry Answer
  | yoy request => (Engine.yoy r today request).map (Except.map .values)
  | grouped request => (Engine.grouped r today request).map (Except.map .page)
  | distinct request => (Engine.distinct r request).map (Except.map .texts)

/-- The statement that is built for the call, or none where there are no groups. -/
def built (r : Registry) (today : Date) : Call → Except Failure (Option Statement)
  | yoy request => (Yoy.statement r request today).map some
  | grouped request => Grouped.statement r request today
  | distinct request => (Distinct.statement r request).map some

/-- The page that is asked for, if the call has pages. -/
def page? : Call → Option Page
  | yoy _ => none
  | grouped request => some request.page
  | distinct request => some request.page

variable {r : Registry} {today : Date} {call : Call}

/-- Where the limit is out of range no statement is built, whatever else is wrong. -/
theorem built_error_of_limit {page : Page} (hpage : page ∈ call.page?) {failure : Failure}
    (h : page.effectiveLimit = .error failure) : ∃ failure, call.built r today = .error failure := by
  cases hbuilt : call.built r today with
  | error failure => exact ⟨failure, rfl⟩
  | ok o =>
      have hlimit : ∃ limit, page.effectiveLimit = .ok limit := by
        cases call with
        | yoy request => cases hpage
        | grouped request =>
            cases hpage
            exact Grouped.exists_limit hbuilt
        | distinct request =>
            cases hpage
            obtain ⟨s, hs, -⟩ := Except.map_eq_ok_iff.mp hbuilt
            obtain ⟨t, c, limit, cls, hrenders⟩ := Distinct.statement_ok hs
            exact ⟨limit, hrenders.page⟩
      obtain ⟨limit, hlimit⟩ := hlimit
      rw [hlimit] at h
      cases h

theorem inquiry_of_built_error {failure : Failure} (h : call.built r today = .error failure) :
    ∃ failure, call.inquiry r today = .settled (.error failure) := by
  cases call with
  | yoy request =>
      have hs : Yoy.statement r request today = .error failure := Except.map_eq_error_iff.mp h
      exact ⟨failure, by rw [inquiry, Engine.yoy, hs]; rfl⟩
  | grouped request =>
      have hs : Grouped.statement r request today = .error failure := h
      cases hlimit : request.page.effectiveLimit with
      | error failure => exact ⟨failure, by rw [inquiry, Engine.grouped, hlimit]; rfl⟩
      | ok limit => exact ⟨failure, by rw [inquiry, Engine.grouped, hlimit, hs]; rfl⟩
  | distinct request =>
      have hs : Distinct.statement r request = .error failure := Except.map_eq_error_iff.mp h
      exact ⟨failure, by rw [inquiry, Engine.distinct, hs]; rfl⟩

/-- Only calls for groups can have no statement. -/
theorem inquiry_of_built_none (h : call.built r today = .ok none) :
    ∃ result : GroupedResult, result.rows = [] ∧ call.inquiry r today = .settled (.ok (.page result)) := by
  cases call with
  | yoy request =>
      obtain ⟨s, -, hs⟩ := Except.map_eq_ok_iff.mp h
      cases hs
  | grouped request =>
      have hs : Grouped.statement r request today = .ok none := h
      obtain ⟨limit, hlimit⟩ := Grouped.exists_limit hs
      exact ⟨_, rfl, by rw [inquiry, Engine.grouped, hlimit, hs]; rfl⟩
  | distinct request =>
      obtain ⟨s, -, hs⟩ := Except.map_eq_ok_iff.mp h
      cases hs

theorem inquiry_of_built_some {s : Statement} (h : call.built r today = .ok (some s)) :
    ∃ resume, call.inquiry r today = .asks (.rows s) resume := by
  cases call with
  | yoy request =>
      obtain ⟨_, hs, heq⟩ := Except.map_eq_ok_iff.mp h
      cases heq
      exact ⟨_, by rw [inquiry, Engine.yoy, hs]; rfl⟩
  | grouped request =>
      have hs : Grouped.statement r request today = .ok (some s) := h
      obtain ⟨limit, hlimit⟩ := Grouped.exists_limit hs
      exact ⟨_, by rw [inquiry, Engine.grouped, hlimit, hs]; rfl⟩
  | distinct request =>
      obtain ⟨_, hs, heq⟩ := Except.map_eq_ok_iff.mp h
      cases heq
      exact ⟨_, by rw [inquiry, Engine.distinct, hs]; rfl⟩

end Call

/-! ### Calls one after another -/

/-- A store that may change with every question. -/
abbrev Store (σ : Type) := σ → StoreQuestion → StoreReply × σ

/-- The state of a store after some questions. -/
def Store.after {σ : Type} (store : Store σ) (state : σ) (questions : List StoreQuestion) : σ :=
  questions.foldl (fun state question => (store state question).2) state

/-- A call, what the store was asked for it and replied, and what came of the call. -/
structure Event where
  call : Call
  sent : List (StoreQuestion × StoreReply)
  result : Except Failure Answer

section

variable {σ : Type} (r : Registry) (today : Date) (store : Store σ)

/-- Makes a call. -/
def perform (state : σ) (call : Call) : Event × σ :=
  match call.inquiry r today with
  | .settled result => (⟨call, [], result⟩, state)
  | .asks question resume =>
    let (reply, state) := store state question
    (⟨call, [(question, reply)], resume reply⟩, state)

/-- Makes calls one after another. -/
def session (state : σ) : List Call → List Event × σ
  | [] => ([], state)
  | call :: calls =>
    let (event, state) := perform r today store state call
    let (events, state) := session state calls
    (event :: events, state)

end

namespace Event

/-- The questions that the store was asked. -/
def questions (e : Event) : List StoreQuestion := e.sent.map Prod.fst

/-- The replies that it gave. -/
def replies (e : Event) : List StoreReply := e.sent.map Prod.snd

/-- What happened is what the call leads to, given the reply to its question if it has one. -/
def Follows (r : Registry) (today : Date) (e : Event) : Prop :=
  match e.call.inquiry r today with
  | .settled result => e.sent = [] ∧ e.result = result
  | .asks question resume => ∃ reply, e.sent = [(question, reply)] ∧ e.result = resume reply

/-- One statement was sent if one was built, and none if there was none to build; then the answer is a page
without rows. Where building it failed, or the limit was out of range, none was sent either. -/
structure SendsBuilt (r : Registry) (today : Date) (e : Event) : Prop where
  one : ∀ s, e.call.built r today = .ok (some s) → ∃ reply, e.sent = [(.rows s, reply)]
  needless : e.call.built r today = .ok none →
    e.sent = [] ∧ ∃ result : GroupedResult, result.rows = [] ∧ e.result = .ok (.page result)
  refused : (∃ failure, e.call.built r today = .error failure) ∨
      (∃ page ∈ e.call.page?, ∃ failure, page.effectiveLimit = .error failure) →
    e.sent = [] ∧ ∃ failure, e.result = .error failure

variable {r : Registry} {today : Date} {e e' : Event}

theorem Follows.of_settled {result : Except Failure Answer} (h : e.Follows r today)
    (hcall : e.call.inquiry r today = .settled result) : e.sent = [] ∧ e.result = result := by
  rwa [Follows, hcall] at h

theorem Follows.of_asks {question : StoreQuestion} {resume : StoreReply → Except Failure Answer}
    (h : e.Follows r today) (hcall : e.call.inquiry r today = .asks question resume) :
    ∃ reply, e.sent = [(question, reply)] ∧ e.result = resume reply := by
  rwa [Follows, hcall] at h

theorem Follows.sendsBuilt (h : e.Follows r today) : e.SendsBuilt r today := by
  constructor
  case one =>
    intro s hs
    obtain ⟨resume, hinquiry⟩ := Call.inquiry_of_built_some hs
    obtain ⟨reply, hsent, -⟩ := h.of_asks hinquiry
    exact ⟨reply, hsent⟩
  case needless =>
    intro hnone
    obtain ⟨result, hrows, hinquiry⟩ := Call.inquiry_of_built_none hnone
    obtain ⟨hsent, hresult⟩ := h.of_settled hinquiry
    exact ⟨hsent, result, hrows, hresult⟩
  case refused =>
    intro hfails
    have hbuilt : ∃ failure, e.call.built r today = .error failure :=
      hfails.elim id fun ⟨_, hpage, _, hlimit⟩ => Call.built_error_of_limit hpage hlimit
    obtain ⟨_, hbuilt⟩ := hbuilt
    obtain ⟨failure, hinquiry⟩ := Call.inquiry_of_built_error hbuilt
    obtain ⟨hsent, hresult⟩ := h.of_settled hinquiry
    exact ⟨hsent, failure, hresult⟩

theorem Follows.questions_eq (h : e.Follows r today) :
    e.questions = (e.call.built r today).toOption.join.toList.map .rows := by
  have hsends := h.sendsBuilt
  cases hbuilt : e.call.built r today with
  | error failure =>
      obtain ⟨hsent, -⟩ := hsends.refused (.inl ⟨failure, hbuilt⟩)
      rw [questions, hsent]
      rfl
  | ok o =>
      cases o with
      | none =>
          obtain ⟨hsent, -⟩ := hsends.needless hbuilt
          rw [questions, hsent]
          rfl
      | some s =>
          obtain ⟨reply, hsent⟩ := hsends.one s hbuilt
          rw [questions, hsent]
          rfl

/-- Nothing but the call and the reply to it makes a difference. -/
theorem Follows.result_eq (h : e.Follows r today) (h' : e'.Follows r today) (hcall : e.call = e'.call)
    (hreplies : e.replies = e'.replies) : e.result = e'.result := by
  cases hinquiry : e.call.inquiry r today with
  | settled result =>
      obtain ⟨-, hresult⟩ := h.of_settled hinquiry
      obtain ⟨-, hresult'⟩ := h'.of_settled (hcall ▸ hinquiry)
      rw [hresult, hresult']
  | asks question resume =>
      obtain ⟨reply, hsent, hresult⟩ := h.of_asks hinquiry
      obtain ⟨reply', hsent', hresult'⟩ := h'.of_asks (hcall ▸ hinquiry)
      rw [replies, replies, hsent, hsent'] at hreplies
      cases hreplies
      rw [hresult, hresult']

end Event

section

variable {σ : Type} (r : Registry) (today : Date) (store : Store σ)

/-- One call: what happens follows from it, and the store sees nothing but the questions of the call. -/
theorem perform_follows (state : σ) (call : Call) :
    (perform r today store state call).1.call = call ∧
      (perform r today store state call).1.Follows r today ∧
      (perform r today store state call).2 =
        store.after state (perform r today store state call).1.questions := by
  cases hinquiry : call.inquiry r today with
  | settled result =>
      have hperform : perform r today store state call = (⟨call, [], result⟩, state) := by
        rw [perform, hinquiry]
      rw [hperform]
      refine ⟨rfl, ?_, rfl⟩
      simp only [Event.Follows, hinquiry, and_self]
  | asks question resume =>
      have hperform : perform r today store state call =
          (⟨call, [(question, (store state question).1)], resume (store state question).1⟩,
            (store state question).2) := by
        rw [perform, hinquiry]
      rw [hperform]
      refine ⟨rfl, ?_, rfl⟩
      simp only [Event.Follows, hinquiry]
      exact ⟨_, rfl, rfl⟩

theorem session_follows (state : σ) (calls : List Call) :
    (session r today store state calls).1.map Event.call = calls ∧
      (∀ e ∈ (session r today store state calls).1, e.Follows r today) ∧
      (session r today store state calls).2 =
        store.after state ((session r today store state calls).1.flatMap Event.questions) := by
  induction calls generalizing state with
  | nil => exact ⟨rfl, by simp [session], rfl⟩
  | cons call calls ih =>
      obtain ⟨hcall, hfollows, hstate⟩ := perform_follows r today store state call
      obtain ⟨hcalls, hfollow, hstates⟩ := ih (perform r today store state call).2
      rw [session]
      refine ⟨by rw [List.map_cons, hcall, hcalls], ?_, ?_⟩
      · intro e he
        rcases List.mem_cons.mp he with rfl | he
        · exact hfollows
        · exact hfollow e he
      · rw [hstates, List.flatMap_cons, Store.after, Store.after, List.foldl_append]
        rw [hstate, Store.after]

/-- A session asks for the statements that are built for its calls, in their order, and for nothing else. -/
theorem session_questions (state : σ) (calls : List Call) :
    (session r today store state calls).1.flatMap Event.questions =
      (calls.filterMap fun call => (call.built r today).toOption.join).map .rows := by
  obtain ⟨hcalls, hfollow, -⟩ := session_follows r today store state calls
  have hquestions : (session r today store state calls).1.flatMap Event.questions =
      (session r today store state calls).1.flatMap fun e =>
        (e.call.built r today).toOption.join.toList.map .rows :=
    List.flatMap_congr fun e he => (hfollow e he).questions_eq
  rw [hquestions]
  conv_rhs => rw [← hcalls]
  rw [List.filterMap_map, List.filterMap_eq_flatMap_toList, List.map_flatMap]
  rfl

end
end Engine
end BalanceSheet
