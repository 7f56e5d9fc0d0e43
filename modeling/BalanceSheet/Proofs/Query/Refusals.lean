import BalanceSheet.Proofs.Binding.Run
import BalanceSheet.Proofs.Condition.Outline
import BalanceSheet.Proofs.Except
import BalanceSheet.Query.Statement

/-!
What reading conditions and making statements can fail with. Each step is refused for a few reasons of its own, so a
property of these is one of every failure. Every check on the way names something that the request asks for: whatever
the registry is, nothing of this fails with a fault of the registry or of the store.
-/

namespace BalanceSheet

/-- The request is at fault. -/
def Failure.OfRequest (f : Failure) : Prop := f.isRequestFault = true

/-- It fails with nothing but faults of the request. -/
abbrev Refuses {α : Type} (x : Except Failure α) : Prop := Except.FailsWith Failure.OfRequest x

/-- The step fails with nothing but faults of the request, whatever was bound before. -/
abbrev Binding.Refuses {α : Type} (b : Binding α) : Prop := b.FailsWith Failure.OfRequest

open BalanceSheet.Except (failsWith_ok failsWith_error)

/-! ### Conditions -/

namespace Condition

theorem refuses_bindValue (field : String) (type : ValueType) (value : String) :
    (bindValue field type value).Refuses :=
  failsWith_bindValue fun _ => by cases type <;> rfl

theorem refuses_clause (table : Table) (c : Condition) : (clause table c).Refuses := by
  rw [clause]
  split
  case h_1 column hcolumn =>
    rw [clauseOn_eq]
    split
    case h_1 o _ => exact Clause.failsWith_mapM fun v _ => refuses_bindValue c.field v.1 v.2
    case h_2 =>
      refine Binding.failsWith_fail ?_
      rw [refusal]
      split <;> rfl
  case h_2 => exact Binding.failsWith_fail rfl

end Condition

section

variable {P : Failure → Prop}

theorem Date.failsWith_read {s : String} (h : P (.date (.unreadable s))) : Except.FailsWith P (Date.read s) := by
  rw [Date.read]
  split
  · exact failsWith_ok _
  · exact failsWith_error h

namespace Condition

theorem failsWith_yearEarlier {value : String} (h : P (.date (.unreadable value))) :
    Except.FailsWith P (yearEarlier value) :=
  (Date.failsWith_read h).bind fun _ => failsWith_ok _

theorem failsWith_shifted {c : Condition} (h : ∀ v ∈ c.operand.values, P (.date (.unreadable v))) :
    Except.FailsWith P c.shifted := by
  have hoperand : Except.FailsWith P (operandYearEarlier c.operand) := by
    cases hc : c.operand with
    | none => exact failsWith_ok _
    | single v =>
        rw [hc] at h
        exact (failsWith_yearEarlier (h v (List.mem_singleton_self v))).bind fun _ => failsWith_ok _
    | multiple vs =>
        rw [hc] at h
        exact (Except.FailsWith.mapM fun v hv => failsWith_yearEarlier (h v hv)).bind fun _ => failsWith_ok _
  rw [shifted]
  split
  · exact hoperand.bind fun _ => failsWith_ok _
  · exact failsWith_ok c

end Condition

/-- The previous window fails with a date that cannot be read. -/
theorem Windows.failsWith_ofFilters {filters : List Condition} {today : Date}
    (h : ∀ c ∈ filters, ∀ v ∈ c.operand.values, P (.date (.unreadable v))) :
    Except.FailsWith P (ofFilters filters today) := by
  have hmoved : Except.FailsWith P (filters.mapM Condition.shifted) :=
    .mapM fun c hc => Condition.failsWith_shifted (h c hc)
  have hprevious : Except.FailsWith P (Condition.previousPeriod filters today) := hmoved.bind fun _ => failsWith_ok _
  exact hprevious.bind fun _ => failsWith_ok _

end

/-! ### Conditions as they are given -/

theorem DateBounds.refuses_conditions (bounds : DateBounds) : Refuses bounds.conditions := by
  rw [DateBounds.conditions]
  have hread (s : String) : Refuses (Date.read s) := Date.failsWith_read rfl
  refine (Except.FailsWith.option_mapM hread bounds.first).bind fun first => ?_
  refine (Except.FailsWith.option_mapM hread bounds.last).bind fun last => ?_
  cases first with
  | none => cases last <;> exact failsWith_ok _
  | some a =>
      cases last with
      | none => exact failsWith_ok _
      | some b =>
          simp only
          split
          · exact failsWith_ok _
          · exact failsWith_error rfl

namespace Filter

theorem refuses_splitKey (key : String) : Refuses (splitKey key) := by
  have hnamed (field : String) (operator : Option Operator) :
      Refuses (if field.isEmpty then .error (.filter (.noField (Text.trim key))) else .ok (field, operator)) := by
    split
    · exact failsWith_error rfl
    · exact failsWith_ok _
  rw [splitKey]
  split
  · simp only [pure_bind]
    exact hnamed (Text.trim key) none
  · split
    · exact failsWith_error rfl
    · simp only
      split
      · exact failsWith_error rfl
      · simp only [pure_bind]
        exact hnamed _ _

/-- A value is refused only where it is missing. -/
theorem refuses_operand (field : String) (operator : Option Operator) (value : String) :
    Refuses (operand field operator value) := by
  have hmissing (a : Except Failure Condition) (h : Refuses a) (missing : Prop) [Decidable missing] :
      Refuses (if missing then .error (.filter (.noValue field)) else a) := by
    split
    · exact failsWith_error rfl
    · exact h
  simp only [operand]
  split
  case h_1 => split <;> first | exact failsWith_ok _ | exact failsWith_error rfl
  case h_2 => split <;> first | exact failsWith_ok _ | exact failsWith_error rfl
  case h_5 => exact failsWith_ok _
  case h_6 => exact failsWith_ok _
  all_goals exact hmissing _ (failsWith_ok _) _

theorem refuses_conditions (allowed : List String) (entries : List (String × String)) :
    Refuses (conditions allowed entries) := by
  refine Except.FailsWith.mapM ?_
  rintro ⟨key, value⟩ -
  refine (refuses_splitKey key).bind ?_
  rintro ⟨field, operator⟩
  simp only
  split
  · exact refuses_operand field operator value
  · exact failsWith_error rfl

end Filter

theorem Direction.refuses_read (word : String) : Refuses (Direction.read word) := by
  rw [Direction.read]
  split
  · exact failsWith_ok _
  · exact failsWith_error rfl

/-! ### Names and numbers -/

section

variable {P : Failure → Prop}

theorem Page.failsWith_effectiveLimit {p : Page} (h : p.limit = 0 → P (.outOfRange .zeroLimit)) :
    Except.FailsWith P p.effectiveLimit := by
  rw [effectiveLimit]
  split
  case isTrue hzero => exact failsWith_error (h hzero)
  case isFalse => exact failsWith_ok _

theorem Page.refuses_effectiveLimit (p : Page) : Refuses p.effectiveLimit := failsWith_effectiveLimit fun _ => rfl

namespace Registry

variable {r : Registry}

theorem failsWith_dimension {name : String}
    (h : name ∉ r.dimensionNames → P (.groupBy (.notAllowed name r.dimensionNames))) :
    Except.FailsWith P (r.dimension name) := by
  rw [dimension]
  split
  case h_1 => exact failsWith_ok _
  case h_2 hnone =>
    refine failsWith_error (h fun hmem => ?_)
    obtain ⟨d, hd, rfl⟩ := List.mem_map.mp hmem
    simpa using List.find?_eq_none.mp hnone d hd

theorem refuses_dimension (r : Registry) (name : String) : Refuses (r.dimension name) :=
  failsWith_dimension fun _ => rfl

theorem failsWith_metricsByTable {names : List String}
    (h : ∀ name ∈ names, r.baseMetric? name = none → P (.unknownMetric name)) :
    Except.FailsWith P (r.metricsByTable names) := by
  have hmetric : ∀ name ∈ names.eraseDups, Except.FailsWith P (r.metric name) := by
    intro name hname
    rw [metric]
    split
    case h_1 => exact failsWith_ok _
    case h_2 hnone => exact failsWith_error (h name (List.mem_eraseDups.mp hname) hnone)
  have hselect : Except.FailsWith P (r.selectMetrics names) := by
    rw [selectMetrics]
    split
    · exact failsWith_ok r.base
    · exact Except.FailsWith.mapM hmetric
  exact hselect.map _

end Registry

end

/-! ### Statements -/

section

variable {P : Failure → Prop} {r : Registry} {today : Date}

theorem Source.failsWith_ofTable {t : Table} {metrics : List BaseMetric} {cs : List Condition}
    {dimension : Option Dimension} {period : Period} (hkey : (keyOf t dimension period).FailsWith P)
    (hclauses : ∀ c ∈ cs, (Condition.clause t c).FailsWith P) :
    (ofTable t metrics cs dimension period).FailsWith P :=
  hkey.bind fun _ => (Binding.FailsWith.mapM hclauses).bind fun _ => Binding.failsWith_pure _

theorem Sources.failsWith_ofMetrics {w : Windows} {dimension : Option Dimension} {groups : TableMetrics}
    (h : ∀ group ∈ groups, (joinTable r w dimension group.1 group.2).FailsWith P) :
    (ofMetrics r w dimension groups).FailsWith P := by
  induction groups with
  | nil => exact Binding.failsWith_pure _
  | cons group groups ih =>
      rw [List.forall_mem_cons] at h
      exact h.1.bind fun _ => (ih h.2).bind fun _ => Binding.failsWith_pure _

theorem Grouped.Plan.failsWith_nameSource {d : Dimension} {conditions : List Condition}
    (h : ∀ t, Condition.supported (conditions.filter fun c => !c.isDate) t = true →
      ∀ c ∈ conditions.filter fun c => !c.isDate, (Condition.clause t c).FailsWith P) :
    (nameSource r d conditions).FailsWith P := by
  simp only [nameSource]
  split
  case h_1 => exact Binding.failsWith_pure none
  case h_2 =>
    split
    case h_1 => exact Binding.failsWith_pure none
    case h_2 t _ =>
      split
      case h_1 => exact Binding.failsWith_pure none
      case h_2 =>
        split
        case isTrue hsupported =>
          exact (Binding.FailsWith.mapM (h t hsupported)).bind fun _ => Binding.failsWith_pure _
        case isFalse => exact Binding.failsWith_pure none

/-- A statement for one row fails in its metrics, in its dates, or in a source. -/
theorem Yoy.failsWith_statement {request : YoyRequest}
    (hmetrics : Except.FailsWith P (r.metricsByTable request.metrics))
    (hwindows : Except.FailsWith P (Windows.ofFilters request.filters today))
    (hsources : ∀ groups w, r.metricsByTable request.metrics = .ok groups →
      Windows.ofFilters request.filters today = .ok w → (Sources.ofMetrics r w none groups).FailsWith P) :
    Except.FailsWith P (statement r request today) := by
  have hplan : (Plan.ofRequest r request today).FailsWith P :=
    Binding.failsWith_ofExcept_bind hmetrics fun groups hgroups =>
      Binding.failsWith_ofExcept_bind hwindows fun w hw =>
        (hsources groups w hgroups hw).bind fun _ => Binding.failsWith_pure _
  have hrun := hplan .empty
  rw [statement]
  split
  case h_1 f ps hfails => exact failsWith_error (hrun f (by rw [hfails]))
  case h_2 => exact failsWith_ok _

/-- A statement for groups can also fail in its dimension, in its page, or in the names for the keys. -/
theorem Grouped.failsWith_statement {request : GroupedRequest}
    (hdimension : Except.FailsWith P (r.dimension request.groupBy))
    (hmetrics : Except.FailsWith P (r.metricsByTable request.metrics))
    (hlimit : Except.FailsWith P request.page.effectiveLimit)
    (hwindows : Except.FailsWith P (Windows.ofFilters request.filters today))
    (hsources : ∀ d groups w, r.metricsByTable request.metrics = .ok groups →
      Windows.ofFilters request.filters today = .ok w → (Sources.ofMetrics r w (some d) groups).FailsWith P)
    (hnames : ∀ d w, Windows.ofFilters request.filters today = .ok w →
      (Plan.nameSource r d w.current).FailsWith P) :
    Except.FailsWith P (statement r request today) := by
  have hplan : (Plan.ofRequest r request today).FailsWith P := by
    refine Binding.failsWith_ofExcept_bind hdimension fun d _ => ?_
    refine Binding.failsWith_ofExcept_bind hmetrics fun groups hgroups => ?_
    refine Binding.failsWith_ofExcept_bind hlimit fun limit _ => ?_
    refine Binding.failsWith_ofExcept_bind hwindows fun w hw => ?_
    refine (hsources d groups w hgroups hw).bind fun sources => ?_
    split
    · exact Binding.failsWith_pure none
    · exact (hnames d w hw).bind fun _ => Binding.failsWith_pure _
  have hrun := hplan .empty
  rw [statement]
  split
  case h_1 f ps hfails => exact failsWith_error (hrun f (by rw [hfails]))
  case h_2 => exact failsWith_ok _
  case h_3 => exact failsWith_ok _

end

section

variable (r : Registry) (today : Date)

theorem Source.refuses_ofTable (t : Table) (metrics : List BaseMetric) (cs : List Condition)
    (dimension : Option Dimension) (period : Period) : (ofTable t metrics cs dimension period).Refuses := by
  have hkey : (keyOf t dimension period).Refuses := by
    cases dimension with
    | none => exact Binding.failsWith_pure none
    | some d =>
        simp only [keyOf]
        split
        · exact Binding.failsWith_pure _
        · exact Binding.failsWith_fail rfl
  exact failsWith_ofTable hkey fun c _ => Condition.refuses_clause t c

theorem Sources.refuses_ofMetrics (w : Windows) (dimension : Option Dimension) (groups : TableMetrics) :
    (ofMetrics r w dimension groups).Refuses := by
  refine failsWith_ofMetrics fun group _ => ?_
  rw [joinTable]
  split
  · exact Binding.failsWith_fail rfl
  · split
    · refine (Source.refuses_ofTable _ group.2 w.current dimension .current).bind fun current => ?_
      refine (Source.refuses_ofTable _ group.2 w.previous dimension .previous).bind fun previous => ?_
      exact Binding.failsWith_pure _
    · exact Binding.failsWith_pure none

theorem Yoy.refuses_statement (request : YoyRequest) : Refuses (statement r request today) :=
  failsWith_statement (Registry.failsWith_metricsByTable fun _ _ _ => rfl)
    (Windows.failsWith_ofFilters fun _ _ _ _ => rfl) fun groups w _ _ => Sources.refuses_ofMetrics r w none groups

theorem Grouped.refuses_statement (request : GroupedRequest) : Refuses (statement r request today) :=
  failsWith_statement (r.refuses_dimension request.groupBy) (Registry.failsWith_metricsByTable fun _ _ _ => rfl)
    request.page.refuses_effectiveLimit (Windows.failsWith_ofFilters fun _ _ _ _ => rfl)
    (fun d groups w _ _ => Sources.refuses_ofMetrics r w (some d) groups)
    fun _ _ _ => Plan.failsWith_nameSource fun t _ c _ => Condition.refuses_clause t c

theorem Distinct.refuses_statement (request : DistinctRequest) : Refuses (statement r request) := by
  rw [statement]
  split
  case h_1 => exact failsWith_error rfl
  case h_2 table htable =>
    split
    case h_1 => exact failsWith_error rfl
    case h_2 column hcolumn =>
      refine (Page.refuses_effectiveLimit request.page).bind fun limit => ?_
      have hclauses : (request.filters.mapM (Condition.clause table)).Refuses :=
        Binding.FailsWith.mapM fun c _ => Condition.refuses_clause table c
      exact Except.FailsWith.bind (hclauses .empty) fun _ => failsWith_ok _

end
end BalanceSheet
