import BalanceSheet.Proofs.Query.Columns
import BalanceSheet.Response

/-!
What a response reports. A row that has the columns of its statement gives each field of a requested metric
and each calculated metric the number in the column of that name, and every other field of the registry zero:
last year's value is only looked for under its name inside a statement where the row has it under its own
name as well. A number is a finite number or a text that writes one, and anything else counts as zero.
-/

namespace BalanceSheet

/-! ### Numbers -/

/-- A value stands for a finite number, as a number or as a text that writes it, with or without blanks around. -/
inductive Json.Denotes : Json → Float → Prop where
  | natural {n : Nat} (hfinite : (Float.ofNat n).isFinite = true) : Denotes (.number (.natural n)) (Float.ofNat n)
  | negative {n : Int} (hfinite : (Float.ofInt n).isFinite = true) : Denotes (.number (.negative n)) (Float.ofInt n)
  | float {x : Float} (hfinite : x.isFinite = true) : Denotes (.number (.float x)) x
  | text {s : String} {x : Float} (hwritten : Decimal.float? (Text.trim s) = some x) (hfinite : x.isFinite = true) :
      Denotes (.string s) x

/-- The number is the one that the value stands for, or zero where there is none. -/
def Json.ReportedAs (value : Json) (x : Float) : Prop := value.Denotes x ∨ (∀ y, ¬ value.Denotes y) ∧ x = 0.0

theorem getD_filter_isFinite {x : Float} (h : x.isFinite = true) : ((some x).filter Float.isFinite).getD 0.0 = x := by
  rw [Option.filter_some_pos h]
  rfl

/-- A value is read as the number that it stands for. -/
theorem numberOf_of_denotes {value : Json} {x : Float} (h : value.Denotes x) : numberOf (some value) = x := by
  cases h with
  | natural hfinite => exact getD_filter_isFinite hfinite
  | negative hfinite => exact getD_filter_isFinite hfinite
  | float hfinite => exact getD_filter_isFinite hfinite
  | text hwritten hfinite =>
      rw [numberOf, hwritten]
      exact getD_filter_isFinite hfinite

/-- A value that stands for no number is read as zero. -/
theorem numberOf_of_not_denotes {value : Json} (h : ∀ x, ¬ value.Denotes x) : numberOf (some value) = 0.0 := by
  have hinfinite {x : Float} (hdenotes : x.isFinite = true → value.Denotes x) :
      ((some x).filter Float.isFinite).getD 0.0 = 0.0 := by
    rw [Option.filter_some_neg (Bool.eq_false_iff.mpr fun hfinite => h x (hdenotes hfinite))]
    rfl
  cases value with
  | number n =>
      cases n with
      | natural n => exact hinfinite .natural
      | negative n => exact hinfinite .negative
      | float x => exact hinfinite .float
  | string s =>
      rw [numberOf]
      cases hwritten : Decimal.float? (Text.trim s) with
      | none => rfl
      | some x => exact hinfinite (.text hwritten)
  | null => rfl
  | bool b => rfl
  | array items => rfl
  | members entries => rfl

theorem numberOf_reportedAs (value : Json) : value.ReportedAs (numberOf (some value)) := by
  by_cases hdenotes : ∃ x, value.Denotes x
  · obtain ⟨x, hx⟩ := hdenotes
    exact .inl (numberOf_of_denotes hx ▸ hx)
  · have hnone : ∀ x, ¬ value.Denotes x := fun x hx => hdenotes ⟨x, hx⟩
    exact .inr ⟨hnone, numberOf_of_not_denotes hnone⟩

namespace MetricValues

/-- Values read off a row field by field. -/
def readOff (raw : Record) (fields : List String) : MetricValues :=
  fields.map fun field => (field, numberOf (Sorted.get? raw field))

variable {r : Registry} {raw : Record}

/-- Where a row has the previous column of a metric only beside last year's value, the metric is read off
field by field. -/
theorem ofMetric_eq_readOff {m : BaseMetric}
    (h : m.previousColumn ∈ raw.map Prod.fst → m.lastYearField ∈ raw.map Prod.fst) :
    ofMetric raw m = readOff raw m.fields := by
  have hlastYear : (Sorted.get? raw m.lastYearField).or (Sorted.get? raw m.previousColumn) =
      Sorted.get? raw m.lastYearField := by
    cases hown : Sorted.get? raw m.lastYearField with
    | some value => rfl
    | none =>
        cases hprevious : Sorted.get? raw m.previousColumn with
        | none => rfl
        | some value =>
            have hmem := h (Sorted.isSome_get?.mp (by rw [hprevious]; rfl))
            rw [← Sorted.isSome_get?, hown] at hmem
            cases hmem
  rw [ofMetric, hlastYear]
  rfl

theorem ofRecord_eq_readOff
    (h : ∀ m ∈ r.base, m.previousColumn ∈ raw.map Prod.fst → m.lastYearField ∈ raw.map Prod.fst) :
    ofRecord r raw = readOff raw r.responseFields := by
  have hbase : r.base.flatMap (ofMetric raw) = r.base.flatMap fun m => readOff raw m.fields :=
    List.flatMap_congr fun m hm => ofMetric_eq_readOff (h m hm)
  rw [ofRecord, hbase, readOff, Registry.responseFields, List.map_append, List.map_flatMap, List.map_map]
  rfl

theorem get?_readOff {fields : List String} {field : String} (h : field ∈ fields) :
    (readOff raw fields).get? field = some (numberOf (Sorted.get? raw field)) := by
  have hfound : fields.find? (fun other => other == field) = some field := by
    have hsome : (fields.find? fun other => other == field).isSome = true :=
      List.find?_isSome.mpr ⟨field, h, beq_self_eq_true field⟩
    obtain ⟨other, hother⟩ := Option.isSome_iff_exists.mp hsome
    have heq : other = field := by simpa using List.find?_some hother
    rw [hother, heq]
  rw [get?, readOff, List.find?_map]
  simp only [Function.comp_def, hfound, Option.map_some]

end MetricValues

/-- The values are those of a row whose columns answer for these metrics: a number from the column of its
name for each of their fields and each calculated metric of the statement, and zero for the other fields. -/
structure Statement.Reports (r : Registry) (metrics : List BaseMetric) (s : Statement) (raw : Record)
    (values : MetricValues) : Prop where
  fields : values.map Prod.fst = r.responseFields
  nodup : r.responseFields.Nodup
  reported : ∀ field, (∃ m ∈ metrics, field ∈ m.fields) ∨ field ∈ s.calculated →
    ∃ value x, Sorted.get? raw field = some value ∧ values.get? field = some x ∧ value.ReportedAs x
  zero : ∀ field ∈ r.responseFields, (∀ m ∈ metrics, field ∉ m.fields) → field ∉ s.calculated →
    values.get? field = some 0.0

/-- A statement has no calculated metrics but those of the registry. -/
theorem Statement.calculated_subset {r : Registry} {s : Statement} {resolved : List ResolvedMetric} {aliases : Aliases}
    (hresolved : resolved = CalculatedMetric.resolveAll aliases r.calculated)
    (hcalculated : s.calculated = resolved.map ResolvedMetric.name) :
    s.calculated ⊆ r.calculated.map CalculatedMetric.name := by
  rw [hcalculated, hresolved]
  exact CalculatedMetric.names_resolveAll_subset aliases r.calculated

namespace Statement.HasColumns

variable {r : Registry} {metrics : List BaseMetric} {s : Statement} {fixed columns : List String}

/-- No column but those of its own metric is a previous column, and then last year's value is beside it. -/
theorem lastYearField_mem (hr : r.WellFormed) (hbase : ∀ m ∈ metrics, m ∈ r.base)
    (hfixed : fixed ⊆ Registry.reservedFields) (hcalculated : s.calculated ⊆ r.calculated.map CalculatedMetric.name)
    (h : s.HasColumns metrics fixed columns) {m : BaseMetric} (hm : m ∈ r.base)
    (hprevious : m.previousColumn ∈ columns) : m.lastYearField ∈ columns := by
  have hfield := hr.previousColumn_ne_responseField hm
  rw [Registry.mem_responseFields, not_or] at hfield
  rcases (h.mem_iff _).mp hprevious with ⟨m', hm', hmem⟩ | ⟨m', hm', -, heq⟩ | hmem | hmem
  · exact absurd ⟨m', hbase m' hm', hmem⟩ hfield.1
  · have hsame : m = m' := hr.eq_of_taken hm (hbase m' hm') m.previousColumn_mem_taken
      (heq ▸ m'.previousColumn_mem_taken)
    exact (h.mem_iff _).mpr (.inl ⟨m', hm', by simp [hsame, BaseMetric.fields]⟩)
  · exact absurd (hcalculated hmem) hfield.2
  · have htaken : m.previousColumn ∈ r.takenFields := List.mem_flatMap.mpr ⟨m, hm, m.previousColumn_mem_taken⟩
    exact absurd (hfixed hmem) (hr.unreserved _ htaken)

/-- A row with these columns, and no others, is reported as the statement has them. -/
theorem reports (hr : r.WellFormed) (hbase : ∀ m ∈ metrics, m ∈ r.base)
    (hfixed : fixed ⊆ Registry.reservedFields) (hcalculated : s.calculated ⊆ r.calculated.map CalculatedMetric.name)
    (h : s.HasColumns metrics fixed columns) {raw : Record}
    (hraw : ∀ name, name ∈ raw.map Prod.fst ↔ name ∈ columns) :
    s.Reports r metrics raw (MetricValues.ofRecord r raw) := by
  have hread : MetricValues.ofRecord r raw = MetricValues.readOff raw r.responseFields := by
    apply MetricValues.ofRecord_eq_readOff
    intro m hm hprevious
    rw [hraw] at hprevious ⊢
    exact h.lastYearField_mem hr hbase hfixed hcalculated hm hprevious
  rw [hread]
  refine ⟨?_, hr.nodup_responseFields, ?_, ?_⟩
  · rw [MetricValues.readOff, List.map_map]
    exact List.map_id _
  · intro field hfield
    have hcolumn : field ∈ columns := (h.mem_iff field).mpr (hfield.imp_right fun hmem => .inr (.inl hmem))
    have hresponse : field ∈ r.responseFields := by
      rw [Registry.mem_responseFields]
      exact hfield.imp (fun ⟨m, hm, hmem⟩ => ⟨m, hbase m hm, hmem⟩) (hcalculated ·)
    obtain ⟨value, hvalue⟩ := Option.isSome_iff_exists.mp (Sorted.isSome_get?.mpr ((hraw field).mpr hcolumn))
    refine ⟨value, numberOf (some value), hvalue, ?_, numberOf_reportedAs value⟩
    rw [MetricValues.get?_readOff hresponse, hvalue]
  · intro field hfield hmetrics hresolved
    have habsent : Sorted.get? raw field = none := by
      rw [← Option.not_isSome_iff_eq_none, Sorted.isSome_get?, hraw, h.mem_iff]
      rintro (⟨m, hm, hmem⟩ | ⟨m, hm, -, rfl⟩ | hmem | hmem)
      · exact hmetrics m hm hmem
      · exact hr.previousColumn_ne_responseField (hbase m hm) hfield
      · exact hresolved hmem
      · exact hr.responseField_unreserved hfield (hfixed hmem)
    rw [MetricValues.get?_readOff hfield, habsent]
    rfl

end Statement.HasColumns

/-- The columns of a statement have names of their own, and a row with these columns is reported under
them. -/
theorem Statement.reported_of_build {tables : List Table} {base : List BaseMetric}
    {calculated : List CalculatedMetric} {dimensions : List Dimension} {r : Registry}
    (hr : Registry.build tables base calculated dimensions = .ok r) :
    (∀ (request : YoyRequest) (today : Date) (s : Statement), Yoy.statement r request today = .ok s →
      ∃ metrics plan, r.selectMetrics request.metrics = .ok metrics ∧
        Yoy.plan r request today = .ok plan ∧ s.sql = plan.toSelect.text ∧
        plan.toSelect.Selects (plan.outputs.map Output.name) ∧
        s.HasColumns metrics [] (plan.outputs.map Output.name) ∧
        ∀ raw : Record, (∀ name, name ∈ raw.map Prod.fst ↔ name ∈ plan.outputs.map Output.name) →
          s.Reports r metrics raw (MetricValues.ofRecord r raw)) ∧
    ∀ (request : GroupedRequest) (today : Date) (s : Statement),
      Grouped.statement r request today = .ok (some s) →
      ∃ metrics plan, r.selectMetrics request.metrics = .ok metrics ∧
        Grouped.plan r request today = .ok (some plan) ∧ s.sql = plan.toSelect.text ∧
        plan.toSelect.Selects (plan.outputs.map Output.name) ∧
        s.HasColumns metrics ["id", "name", "_total_count"] (plan.outputs.map Output.name) ∧
        ∀ raw : Record, (∀ name, name ∈ raw.map Prod.fst ↔ name ∈ plan.outputs.map Output.name) →
          s.Reports r metrics raw (MetricValues.ofRecord r raw) := by
  have hwell : r.WellFormed := Registry.wellFormed_of_build hr
  constructor
  · intro request today s h
    obtain ⟨p, groups, w, hplan, hanswers, hrenders⟩ := Yoy.statement_ok h
    obtain ⟨metrics, hmetrics, rfl⟩ := Registry.metricsByTable_ok hanswers.metrics
    have hcolumns := hanswers.hasColumns hwell hmetrics hrenders
    have hcalculated := calculated_subset hanswers.resolved hrenders.calculated
    refine ⟨metrics, p, hmetrics, hplan, hrenders.sql, Output.selects p.outputs rfl, hcolumns, ?_⟩
    intro raw hraw
    exact hcolumns.reports hwell (Registry.mem_base_of_selectMetrics hmetrics) (List.nil_subset _) hcalculated hraw
  · intro request today s h
    obtain ⟨p, d, groups, w, hplan, hanswers, hrenders⟩ := Grouped.statement_some_ok h
    obtain ⟨metrics, hmetrics, rfl⟩ := Registry.metricsByTable_ok hanswers.metrics
    have hcolumns := hanswers.hasColumns hwell hmetrics hrenders
    have hcalculated := calculated_subset hanswers.resolved hrenders.calculated
    refine ⟨metrics, p, hmetrics, hplan, hrenders.sql, Output.selects p.outputs rfl, hcolumns, ?_⟩
    intro raw hraw
    exact hcolumns.reports hwell (Registry.mem_base_of_selectMetrics hmetrics) (by decide) hcalculated hraw

section

open Registry Registry.Builtin

/-- A row of the stock turnover and the metrics that it rests on, of which those of the inventory are zero. -/
def Registry.Builtin.row : Record :=
  [("sales", .natural 1200), ("sales_last_year", .natural 1000), ("sales_vs_last_year", .string "20.0"),
    ("stock_turnover", .natural 0), ("stock_value", .natural 0), ("stock_value_last_year", .natural 0),
    ("stock_value_ly", .natural 0), ("stock_value_vs_last_year", .natural 0)]

/-- The same row by seller. -/
def Registry.Builtin.sellerRow : Record :=
  row ++ [("id", .string "17"), ("name", .string "Ann"), ("_total_count", .natural 1)]

/-- The numbers that are reported of both rows. -/
def Registry.Builtin.rowNumbers : List (String × Float) :=
  [("sales", 1200.0), ("sales_last_year", 1000.0), ("sales_vs_last_year", 20.0), ("stock_turnover", 0.0),
    ("purchases", 0.0)]

/-- The sales of both years are reported and the change, which the store sent as a text; and of the purchases, which
were not asked for, zero. -/
theorem Statement.reported_builtin :
    Registry.build Builtin.tables Builtin.base Builtin.calculated Builtin.dimensions = .ok .builtin ∧
    (∃ s, Yoy.statement .builtin (totals plainFilters) spring = .ok s ∧
      (s.skipped, s.calculated) = (["inventory"], ["stock_turnover"]) ∧
      (∃ metrics, Registry.builtin.selectMetrics ["sales", "stock_value"] = .ok metrics ∧
        s.Reports .builtin metrics row (MetricValues.ofRecord .builtin row)) ∧
      ∀ entry ∈ rowNumbers, (MetricValues.ofRecord .builtin row).get? entry.1 = some entry.2) ∧
    ∃ s, Grouped.statement .builtin (bySeller plainFilters "sales") spring = .ok (some s) ∧
      (s.skipped, s.calculated) = (["inventory"], ["stock_turnover"]) ∧
      (∃ metrics, Registry.builtin.selectMetrics ["sales", "stock_value"] = .ok metrics ∧
        s.Reports .builtin metrics sellerRow (MetricValues.ofRecord .builtin sellerRow)) ∧
      ∀ entry ∈ rowNumbers, (MetricValues.ofRecord .builtin sellerRow).get? entry.1 = some entry.2 := by
  obtain ⟨hyoy, hgrouped⟩ := reported_of_build build_builtin
  refine ⟨build_builtin, ?_, ?_⟩
  · obtain ⟨s, hs, hshape⟩ := Except.exists_of_map (f := fun s => (s.skipped, s.calculated))
      (e := Yoy.statement .builtin (totals plainFilters) spring)
      (b := (["inventory"], ["stock_turnover"])) (by decide +kernel)
    obtain ⟨metrics, plan, hmetrics, hplan, -, -, -, hreports⟩ := hyoy _ _ s hs
    obtain ⟨plan', hplan', hnames⟩ := Except.exists_of_map (f := fun p => p.outputs.map Output.name)
      (e := Yoy.plan .builtin (totals plainFilters) spring)
      (b := ["sales", "sales_last_year", "sales_vs_last_year", "stock_value", "stock_value_ly",
        "stock_value_last_year", "stock_value_vs_last_year", "stock_turnover"]) (by decide +kernel)
    have hsame : plan = plan' := Except.ok.inj (hplan.symm.trans hplan')
    subst hsame
    refine ⟨s, hs, hshape, ⟨metrics, hmetrics, hreports row ?_⟩, by decide +kernel⟩
    rw [hnames]
    intro name
    exact List.Perm.mem_iff (by decide)
  · obtain ⟨s, hs, hshape⟩ := Except.exists_some_of_map (f := fun s => (s.skipped, s.calculated))
      (e := Grouped.statement .builtin (bySeller plainFilters "sales") spring)
      (b := (["inventory"], ["stock_turnover"])) (by decide +kernel)
    obtain ⟨metrics, plan, hmetrics, hplan, -, -, -, hreports⟩ := hgrouped _ _ s hs
    obtain ⟨plan', hplan', hnames⟩ := Except.exists_some_of_map (f := fun p => p.outputs.map Output.name)
      (e := Grouped.plan .builtin (bySeller plainFilters "sales") spring)
      (b := ["id", "name", "sales", "sales_last_year", "sales_vs_last_year", "stock_value", "stock_value_ly",
        "stock_value_last_year", "stock_value_vs_last_year", "stock_turnover", "_total_count"])
      (by decide +kernel)
    have hsame : plan = plan' := Option.some.inj (Except.ok.inj (hplan.symm.trans hplan'))
    subst hsame
    refine ⟨s, hs, hshape, ⟨metrics, hmetrics, hreports sellerRow ?_⟩, by decide +kernel⟩
    rw [hnames]
    intro name
    exact List.Perm.mem_iff (by decide)

end
end BalanceSheet
