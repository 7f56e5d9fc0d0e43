import BalanceSheet.Proofs.Except
import BalanceSheet.Registry.Builtin
import Mathlib.Data.List.Nodup

/-!
Which registries are accepted, as a property of the registry. Each check goes through its list from front
to back and remembers the names it has seen; it succeeds exactly if every item is well formed on its own
and no name comes twice. So the order of declaration decides which fault is reported, but not whether
there is one.
-/

namespace BalanceSheet

/-- Its name and its columns are identifiers, and its date column exists. -/
structure Table.WellFormed (t : Table) : Prop where
  name : isIdentifier t.name = true
  columns : ∀ c ∈ t.columns, isIdentifier c.name = true
  dateColumn : t.hasColumn t.dateColumn = true

/-- It aggregates a column of a table of the registry under an identifier. -/
structure BaseMetric.WellFormed (r : Registry) (m : BaseMetric) : Prop where
  name : isIdentifier m.name = true
  field : ∃ t, r.table? m.table = some t ∧ t.hasColumn m.field = true

/-- It is an identifier, a bucket or a column of some table, and the names of its keys can be read. -/
structure Dimension.WellFormed (r : Registry) (d : Dimension) : Prop where
  name : isIdentifier d.name = true
  column : d.bucket = none → ∃ t ∈ r.tables, t.hasColumn d.name = true
  nameColumn : ∀ c ∈ d.nameColumn,
    ∃ t, r.table? c.table = some t ∧ t.hasColumn c.column = true ∧ t.hasColumn d.name = true

namespace Registry

/-- The names taken by base metrics. -/
def takenFields (r : Registry) : List String := r.base.flatMap fieldsTaken

/-- Every part is well formed, and names are given once. -/
structure WellFormed (r : Registry) : Prop where
  tables : ∀ t ∈ r.tables, t.WellFormed
  tableNames : (r.tables.map Table.name).Nodup
  base : ∀ m ∈ r.base, m.WellFormed r
  fields : r.takenFields.Nodup
  unreserved : ∀ field ∈ r.takenFields, field ∉ reservedFields
  calculated : ∀ m ∈ r.calculated,
    isIdentifier m.name = true ∧ m.name ∉ r.takenFields ∧ m.name ∉ reservedFields
  calculatedNames : (r.calculated.map CalculatedMetric.name).Nodup
  dimensions : ∀ d ∈ r.dimensions, d.WellFormed r
  dimensionNames : (r.dimensions.map Dimension.name).Nodup

theorem checkIdentifier_ok_iff {name : String} : checkIdentifier name = .ok () ↔ isIdentifier name = true := by
  unfold checkIdentifier
  split <;> simp_all

/-- A check that each name is new succeeds if none was seen before and none comes twice. -/
theorem fresh_cons_iff {α : Type} {name : α → String} {P : α → Prop} {seen : List String} {x : α}
    {xs : List α} :
    (P x ∧ name x ∉ seen ∧ (∀ y ∈ xs, P y ∧ name y ∉ name x :: seen) ∧ (xs.map name).Nodup) ↔
      (∀ y ∈ x :: xs, P y ∧ name y ∉ seen) ∧ ((x :: xs).map name).Nodup := by
  rw [List.map_cons, List.nodup_cons, List.forall_mem_cons]
  constructor
  · rintro ⟨hx, hseen, hxs, hnodup⟩
    refine ⟨⟨⟨hx, hseen⟩, ?_⟩, ?_, hnodup⟩
    · intro y hy
      exact ⟨(hxs y hy).1, fun h => (hxs y hy).2 (List.mem_cons_of_mem _ h)⟩
    · intro hmem
      obtain ⟨y, hy, heq⟩ := List.mem_map.mp hmem
      exact (hxs y hy).2 (heq ▸ List.mem_cons_self)
  · rintro ⟨⟨⟨hx, hseen⟩, hxs⟩, hnew, hnodup⟩
    refine ⟨hx, hseen, ?_, hnodup⟩
    intro y hy
    refine ⟨(hxs y hy).1, ?_⟩
    rw [List.mem_cons, not_or]
    exact ⟨fun heq => hnew (heq ▸ List.mem_map_of_mem hy), (hxs y hy).2⟩

theorem checkColumns_ok_iff {columns : List Column} :
    (columns.forM fun c => checkIdentifier c.name) = .ok () ↔ ∀ c ∈ columns, isIdentifier c.name = true := by
  induction columns with
  | nil => simp [List.forM, pure, Except.pure]
  | cons c columns ih =>
      rw [List.forM, Except.check_then_eq_ok_iff, ih, checkIdentifier_ok_iff, List.forall_mem_cons]

theorem checkTables_ok_iff {seen : List String} {ts : List Table} :
    checkTables seen ts = .ok () ↔
      (∀ t ∈ ts, t.WellFormed ∧ t.name ∉ seen) ∧ (ts.map Table.name).Nodup := by
  induction ts generalizing seen with
  | nil => simp [checkTables]
  | cons t ts ih =>
      rw [← fresh_cons_iff, checkTables, Except.check_then_eq_ok_iff, checkIdentifier_ok_iff,
        Except.refuse_eq_ok_iff, Except.check_then_eq_ok_iff, checkColumns_ok_iff, Except.guard_eq_ok_iff, ih]
      have hseen : ¬ seen.contains t.name = true ↔ t.name ∉ seen := by simp
      constructor
      · rintro ⟨hname, hnew, hcolumns, hdate, hrest⟩
        exact ⟨⟨hname, hcolumns, hdate⟩, hseen.mp hnew, hrest⟩
      · rintro ⟨hwell, hnew, hrest⟩
        exact ⟨hwell.name, hseen.mpr hnew, hwell.columns, hwell.dateColumn, hrest⟩

theorem takeFields_ok_iff {metric : String} {taken taken' fields : List String} :
    takeFields metric taken fields = .ok taken' ↔
      taken' = fields.reverse ++ taken ∧ fields.Nodup ∧
        ∀ field ∈ fields, field ∉ reservedFields ∧ field ∉ taken := by
  induction fields generalizing taken with
  | nil => simp [takeFields, eq_comm]
  | cons field fields ih =>
      rw [takeFields, List.nodup_cons, List.forall_mem_cons, Except.refuse_eq_ok_iff, ih]
      have hfree : ¬ (reservedFields.contains field || taken.contains field) = true ↔
          field ∉ reservedFields ∧ field ∉ taken := by simp
      rw [hfree]
      constructor
      · rintro ⟨hfield, rfl, hnodup, hfresh⟩
        refine ⟨by simp, ⟨?_, hnodup⟩, hfield, ?_⟩
        · intro hmem
          exact (hfresh field hmem).2 List.mem_cons_self
        · intro other hother
          exact ⟨(hfresh other hother).1, fun hmem => (hfresh other hother).2 (List.mem_cons_of_mem _ hmem)⟩
      · rintro ⟨rfl, ⟨hnew, hnodup⟩, hfield, hfresh⟩
        refine ⟨hfield, by simp, hnodup, ?_⟩
        intro other hother
        refine ⟨(hfresh other hother).1, ?_⟩
        rw [List.mem_cons, not_or]
        exact ⟨fun heq => hnew (heq ▸ hother), (hfresh other hother).2⟩

theorem checkBase_ok_iff {r : Registry} {taken fields : List String} {ms : List BaseMetric} :
    checkBase r taken ms = .ok fields ↔
      (∀ m ∈ ms, m.WellFormed r) ∧ fields = (ms.flatMap fieldsTaken).reverse ++ taken ∧
        (ms.flatMap fieldsTaken).Nodup ∧
        ∀ field ∈ ms.flatMap fieldsTaken, field ∉ reservedFields ∧ field ∉ taken := by
  induction ms generalizing taken with
  | nil => simp [checkBase, eq_comm]
  | cons m ms ih =>
      rw [checkBase, Except.check_then_eq_ok_iff, checkIdentifier_ok_iff, List.forall_mem_cons]
      cases htable : r.table? m.table with
      | none =>
          constructor
          · rintro ⟨-, h⟩
            cases h
          · rintro ⟨⟨hwell, -⟩, -⟩
            obtain ⟨t, ht, -⟩ := hwell.field
            simp [htable] at ht
      | some t =>
          simp only [Except.guard_eq_ok_iff, Except.bind_eq_ok_iff, takeFields_ok_iff, ih]
          rw [List.flatMap_cons, List.nodup_append, List.forall_mem_append]
          constructor
          · rintro ⟨hname, hfield, -, ⟨rfl, hnodup, hfresh⟩, hwell, rfl, hnodup', hfresh'⟩
            refine ⟨⟨⟨hname, t, htable, hfield⟩, hwell⟩, by simp, ⟨hnodup, hnodup', ?_⟩, hfresh, ?_⟩
            · intro field hmem other hother heq
              exact (hfresh' other hother).2 (by simp [← heq, hmem])
            · intro field hmem
              exact ⟨(hfresh' field hmem).1, fun h => (hfresh' field hmem).2 (by simp [h])⟩
          · rintro ⟨⟨hwell, hwells⟩, rfl, ⟨hnodup, hnodup', hdisjoint⟩, hfresh, hfresh'⟩
            obtain ⟨t', ht', hfield⟩ := hwell.field
            rw [htable] at ht'
            cases ht'
            refine ⟨hwell.name, hfield, _, ⟨rfl, hnodup, hfresh⟩, hwells, by simp, hnodup', ?_⟩
            intro field hmem
            refine ⟨(hfresh' field hmem).1, ?_⟩
            rw [List.mem_append, List.mem_reverse, not_or]
            exact ⟨fun h => hdisjoint field h field hmem rfl, (hfresh' field hmem).2⟩

theorem checkCalculated_ok_iff {fields seen : List String} {ms : List CalculatedMetric} :
    checkCalculated fields seen ms = .ok () ↔
      (∀ m ∈ ms, (isIdentifier m.name = true ∧ m.name ∉ fields ∧ m.name ∉ reservedFields) ∧ m.name ∉ seen) ∧
        (ms.map CalculatedMetric.name).Nodup := by
  induction ms generalizing seen with
  | nil => simp [checkCalculated]
  | cons m ms ih =>
      rw [← fresh_cons_iff, checkCalculated, Except.check_then_eq_ok_iff, checkIdentifier_ok_iff,
        Except.refuse_eq_ok_iff, Except.refuse_eq_ok_iff, ih]
      simp [and_assoc]

theorem checkNameColumn_ok_iff {r : Registry} {d : Dimension} :
    checkNameColumn r d = .ok () ↔ ∀ c ∈ d.nameColumn,
      ∃ t, r.table? c.table = some t ∧ t.hasColumn c.column = true ∧ t.hasColumn d.name = true := by
  rw [checkNameColumn]
  cases d.nameColumn with
  | none => simp
  | some c => cases htable : r.table? c.table <;> simp [htable]

theorem checkDimensions_ok_iff {r : Registry} {seen : List String} {ds : List Dimension} :
    checkDimensions r seen ds = .ok () ↔
      (∀ d ∈ ds, d.WellFormed r ∧ d.name ∉ seen) ∧ (ds.map Dimension.name).Nodup := by
  induction ds generalizing seen with
  | nil => simp [checkDimensions]
  | cons d ds ih =>
      rw [← fresh_cons_iff, checkDimensions, Except.check_then_eq_ok_iff, checkIdentifier_ok_iff,
        Except.refuse_eq_ok_iff, Except.refuse_eq_ok_iff, Except.check_then_eq_ok_iff, checkNameColumn_ok_iff, ih]
      have hseen : ¬ seen.contains d.name = true ↔ d.name ∉ seen := by simp
      have hcolumn : ¬ (d.bucket.isNone && !r.tables.any d.appliesTo) = true ↔
          (d.bucket = none → ∃ t ∈ r.tables, t.hasColumn d.name = true) := by
        cases hbucket : d.bucket <;> simp [Dimension.appliesTo, hbucket]
      rw [hseen, hcolumn]
      constructor
      · rintro ⟨hname, hnew, hcolumn, hnames, hrest⟩
        exact ⟨⟨hname, hcolumn, hnames⟩, hnew, hrest⟩
      · rintro ⟨hwell, hnew, hrest⟩
        exact ⟨hwell.name, hnew, hwell.column, hwell.nameColumn, hrest⟩

theorem validate_ok_iff {r : Registry} : r.validate = .ok () ↔ r.WellFormed := by
  rw [validate, Except.check_then_eq_ok_iff, checkTables_ok_iff, Except.bind_eq_ok_iff]
  simp only [checkBase_ok_iff, Except.check_then_eq_ok_iff, checkCalculated_ok_iff, checkDimensions_ok_iff]
  constructor
  · rintro ⟨⟨htables, htableNames⟩, fields, ⟨hbase, rfl, hfields, hunreserved⟩, ⟨hcalculated, hnames⟩,
      hdimensions, hdimensionNames⟩
    refine ⟨fun t ht => (htables t ht).1, htableNames, hbase, hfields, fun f hf => (hunreserved f hf).1, ?_,
      hnames, fun d hd => (hdimensions d hd).1, hdimensionNames⟩
    intro m hm
    simpa [takenFields] using (hcalculated m hm).1
  · intro h
    refine ⟨⟨fun t ht => ⟨h.tables t ht, by simp⟩, h.tableNames⟩, _,
      ⟨h.base, rfl, h.fields, fun f hf => ⟨h.unreserved f hf, by simp⟩⟩, ⟨?_, h.calculatedNames⟩,
      fun d hd => ⟨h.dimensions d hd, by simp⟩, h.dimensionNames⟩
    intro m hm
    exact ⟨by simpa [takenFields] using h.calculated m hm, by simp⟩

/-- A registry that was built is well formed. -/
theorem wellFormed_of_build {tables : List Table} {base : List BaseMetric} {calculated : List CalculatedMetric}
    {dimensions : List Dimension} {r : Registry} (h : build tables base calculated dimensions = .ok r) :
    r.WellFormed := by
  rw [build, Except.check_then_eq_ok_iff] at h
  obtain ⟨hvalidate, hr⟩ := h
  cases hr
  exact validate_ok_iff.mp hvalidate

/-- A valid registry is built from its own lists. -/
theorem build_of_validate {r : Registry} (h : r.validate.isOk = true) :
    build r.tables r.base r.calculated r.dimensions = .ok r := by
  obtain ⟨⟨⟩, hok⟩ := Except.exists_of_isOk h
  rw [build, Except.check_then_eq_ok_iff]
  exact ⟨hok, rfl⟩

theorem build_builtin :
    build Builtin.tables Builtin.base Builtin.calculated Builtin.dimensions = .ok .builtin :=
  build_of_validate (r := builtin) (by decide +kernel)

end Registry
end BalanceSheet
