import BalanceSheet.Condition.Json
import BalanceSheet.Proofs.Json.Reading
import BalanceSheet.Registry.Json

/-!
Records as JSON, written and read back. A record is written as an object with all of its fields. It is read from its
own fields only, wherever they stand among others, and a field that may be absent counts as its default; so what is
read of any value, once it is written again, is read unchanged. Constants are written as their names, and the operand
of a condition as null, a string or a list of strings, of which each is read as nothing else.
-/

namespace BalanceSheet

namespace Json

variable {α : Type} {toJson : α → Json} {ofJson? : Json → Option α}

/-- What is written is read back. -/
def Inverse (toJson : α → Json) (ofJson? : Json → Option α) : Prop := ∀ a, ofJson? (toJson a) = some a

theorem inverse_string : Inverse string asString? := fun _ => rfl

theorem asString?_eq_some_iff {json : Json} {s : String} : asString? json = some s ↔ json = string s := by
  cases json <;> simp [asString?]

/-- Only a list of strings is read as one. -/
theorem eq_map_string_of_mapM {items : List Json} {vs : List String} (h : items.mapM asString? = some vs) :
    items = vs.map string := by
  induction items generalizing vs with
  | nil =>
      cases h
      rfl
  | cons item items ih =>
      rw [List.mapM_cons] at h
      obtain ⟨v, hv, h⟩ := Option.bind_eq_some_iff.mp h
      obtain ⟨vs, hvs, ⟨⟩⟩ := Option.bind_eq_some_iff.mp h
      rw [asString?_eq_some_iff.mp hv, ih hvs, List.map_cons]

theorem Inverse.list (h : Inverse toJson ofJson?) : Inverse (fun items => array (items.map toJson)) (asList? ofJson?) := by
  intro items
  have hitem : ofJson? ∘ toJson = pure := funext h
  rw [asList?, List.mapM_map, hitem]
  exact List.mapM_pure.trans (congrArg some (List.map_id items))

/-! ### Fields of an object -/

section

variable {entries : List (String × Json)} {name : String}

/-- A default is what stands for an absent field, in JSON. -/
theorem defaulted?_eq_bind {json : Json} {default : α} (h : ofJson? json = some default) :
    defaulted? entries name ofJson? default = ((Sorted.get? entries name).or (some json)).bind ofJson? := by
  rw [defaulted?]
  cases Sorted.get? entries name with
  | none => exact h.symm
  | some found => rfl

/-- Reads a value, or null. -/
def orNull? (ofJson? : Json → Option α) : Json → Option (Option α)
  | null => some none
  | json => (ofJson? json).map some

theorem optional?_eq_bind :
    optional? entries name ofJson? = ((Sorted.get? entries name).or (some null)).bind (orNull? ofJson?) := by
  rw [optional?]
  cases Sorted.get? entries name with
  | none => rfl
  | some found => cases found <;> rfl

theorem Inverse.option (h : Inverse toJson ofJson?) (hnull : ∀ a, toJson a ≠ null) :
    Inverse (ofOption toJson) (orNull? ofJson?) := by
  intro o
  cases o with
  | none => rfl
  | some a =>
      rw [ofOption, orNull?, h]
      · rfl
      · exact hnull a

end

/-- How values of a type are written and read: `names` are the fields, and `defaults` is what fields that may be absent
then count as. -/
structure WireForm (toJson : α → Json) (ofJson? : Json → Option α) (names : List String)
    (defaults : List (String × Json)) : Prop where
  /-- What is written is read back. -/
  inverse : Inverse toJson ofJson?
  /-- It is also read back from its text, in whatever order the members of objects are. -/
  text {a : α} {written : Json} : Rearranges written (toJson a) → (ofChars? (chars written)).bind ofJson? = some a
  /-- Whatever a value was read from, it is written and read again unchanged. -/
  stable {json : Json} {a : α} : ofJson? json = some a → ofJson? (toJson a) = some a
  /-- Objects that have the same fields, or defaults for them, are read alike. -/
  fields {entries entries' : List (String × Json)} :
    (∀ name ∈ names, (Sorted.get? entries name).or (Sorted.get? defaults name) =
      (Sorted.get? entries' name).or (Sorted.get? defaults name)) →
    ofJson? (.members entries) = ofJson? (.members entries')

theorem WireForm.of_inverse {names : List String} {defaults : List (String × Json)} (h : Inverse toJson ofJson?)
    (hstorable : ∀ a, Storable 127 (toJson a))
    (hfields : ∀ entries entries' : List (String × Json),
      (∀ name ∈ names, (Sorted.get? entries name).or (Sorted.get? defaults name) =
        (Sorted.get? entries' name).or (Sorted.get? defaults name)) →
      ofJson? (.members entries) = ofJson? (.members entries')) :
    WireForm toJson ofJson? names defaults where
  inverse := h
  text {a written} hwritten := by
    have hread := (hstorable a).ofChars?_append hwritten (List.forall_mem_nil _)
    rw [List.append_nil] at hread
    rw [hread]
    exact h a
  stable _ := h _
  fields := hfields _ _

theorem storable_object {depth : Nat} {entries : List (String × Json)}
    (h : ∀ entry ∈ entries, Storable depth entry.2) : Storable (depth + 1) (object entries) :=
  .members Sorted.pairwise_ofList fun entry hentry => h entry (Sorted.mem_of_mem_ofList hentry)

theorem storable_strings {depth : Nat} (items : List String) : Storable (depth + 1) (strings items) := by
  refine .array fun item hitem => ?_
  obtain ⟨s, -, rfl⟩ := List.mem_map.mp hitem
  exact .string s

theorem storable_ofOption {depth : Nat} (h : ∀ a, Storable depth (toJson a)) (o : Option α) :
    Storable depth (ofOption toJson o) := by
  cases o with
  | none => exact .null
  | some a => exact h a

end Json

open Json

/-! ### Constants -/

theorem Operator.inverse_json : Inverse Operator.toJson Operator.ofJson? := by
  intro op
  cases op <;> rfl

theorem ValueType.inverse_json : Inverse ValueType.toJson ValueType.ofJson? := by
  intro type
  cases type <;> rfl

theorem Aggregation.inverse_json : Inverse Aggregation.toJson Aggregation.ofJson? := by
  intro a
  cases a <;> rfl

theorem Granularity.inverse_json : Inverse Granularity.toJson Granularity.ofJson? := by
  intro g
  cases g <;> rfl

/-! ### Operands -/

namespace Operand

/-- An operand is read from its own form and from no other. -/
theorem ofJson?_eq_some_iff {json : Json} {operand : Operand} : ofJson? json = some operand ↔ json = operand.toJson := by
  constructor
  · intro h
    cases json with
    | null =>
        cases h
        rfl
    | string v =>
        cases h
        rfl
    | array items =>
        obtain ⟨vs, hvs, rfl⟩ := Option.map_eq_some_iff.mp h
        exact congrArg array (eq_map_string_of_mapM hvs)
    | bool | number | members => cases h
  · rintro rfl
    cases operand with
    | none => rfl
    | single v => rfl
    | multiple vs => exact congrArg (Option.map multiple) (inverse_string.list vs)

theorem inverse_json : Inverse toJson ofJson? := fun _ => ofJson?_eq_some_iff.mpr rfl

theorem storable_json {depth : Nat} (operand : Operand) : Storable (depth + 1) operand.toJson := by
  cases operand with
  | none => exact .null
  | single v => exact .string v
  | multiple vs => exact storable_strings vs

end Operand

namespace Column

theorem inverse_json : Inverse toJson ofJson? := by
  intro c
  simp [toJson, object, ofJson?, asFields?, required?, Sorted.get?_ofList, Sorted.get?_cons, asString?,
    ValueType.inverse_json c.type]

theorem storable_json {depth : Nat} (c : Column) : Storable (depth + 1) c.toJson :=
  storable_object (by simpa using ⟨.string _, .string _⟩)

end Column

namespace NameColumn

theorem inverse_json : Inverse toJson ofJson? := by
  intro n
  simp [toJson, object, ofJson?, asFields?, required?, Sorted.get?_ofList, Sorted.get?_cons, asString?]

theorem storable_json {depth : Nat} (n : NameColumn) : Storable (depth + 1) n.toJson :=
  storable_object (by simpa using ⟨.string _, .string _⟩)

end NameColumn

namespace Condition

/-- A condition is read from an object as its three fields are. -/
theorem ofJson?_members {entries : List (String × Json)} {c : Condition} : ofJson? (.members entries) = some c ↔
    Sorted.get? entries "field" = some (.string c.field) ∧
      (Sorted.get? entries "operator").bind Operator.ofJson? = some c.operator ∧
      Sorted.get? entries "value" = some c.operand.toJson := by
  obtain ⟨field, operator, operand⟩ := c
  simp [ofJson?, asFields?, required?, Option.bind_eq_some_iff, asString?_eq_some_iff, Operand.ofJson?_eq_some_iff]

theorem wireForm : WireForm toJson ofJson? ["field", "operator", "value"] [] := by
  refine .of_inverse ?_ (fun c => storable_object ?_) ?_
  · intro c
    simp [toJson, object, ofJson?, asFields?, required?, Sorted.get?_ofList, Sorted.get?_cons, asString?,
      Operator.inverse_json c.operator, Operand.inverse_json c.operand]
  · simpa using ⟨.string _, .string _, c.operand.storable_json⟩
  · intro entries entries' h
    simp only [List.forall_mem_cons, Sorted.get?_nil, Option.or_none] at h
    simp [ofJson?, asFields?, required?, h]

end Condition

namespace Table

theorem wireForm : WireForm toJson ofJson? ["name", "date_column", "columns"] [("date_column", .string "date")] := by
  refine .of_inverse ?_ (fun t => storable_object ?_) ?_
  · intro t
    simp [toJson, object, ofJson?, asFields?, required?, defaulted?, Sorted.get?_ofList, Sorted.get?_cons, asString?,
      Column.inverse_json.list t.columns]
  · simpa using ⟨.string _, .string _, .array (by simpa using fun c _ => c.storable_json)⟩
  · intro entries entries' h
    have hdefault : asString? (.string "date") = some "date" := rfl
    have hname : Sorted.get? entries "name" = Sorted.get? entries' "name" := by
      simpa [Sorted.get?_cons] using h "name" (by simp)
    have hdate : (Sorted.get? entries "date_column").or (some (.string "date")) =
        (Sorted.get? entries' "date_column").or (some (.string "date")) := h "date_column" (by simp)
    have hcolumns : Sorted.get? entries "columns" = Sorted.get? entries' "columns" := by
      simpa [Sorted.get?_cons] using h "columns" (by simp)
    simp only [ofJson?, asFields?, required?, Option.bind_eq_bind, Option.bind_some, defaulted?_eq_bind hdefault,
      hname, hdate, hcolumns]

example : ofJson? (.members [("columns", .array []), ("name", .string "sales"), ("note", .null)]) =
    some ⟨"sales", "date", []⟩ := by
  decide +kernel

end Table

namespace BaseMetric

theorem wireForm : WireForm toJson ofJson? ["table", "field", "aggregation", "alias"] [] := by
  refine .of_inverse ?_ (fun m => storable_object ?_) ?_
  · intro m
    simp [toJson, object, ofJson?, asFields?, required?, Sorted.get?_ofList, Sorted.get?_cons, asString?,
      Aggregation.inverse_json m.aggregation]
  · simpa using ⟨.string _, .string _, .string _, .string _⟩
  · intro entries entries' h
    simp only [List.forall_mem_cons, Sorted.get?_nil, Option.or_none] at h
    simp [ofJson?, asFields?, required?, h]

end BaseMetric

namespace CalculatedMetric

theorem wireForm : WireForm toJson ofJson? ["name", "dependencies", "formula"] [] := by
  refine .of_inverse ?_ (fun m => storable_object ?_) ?_
  · intro m
    have hdependencies : asList? asString? (.strings m.dependencies) = some m.dependencies :=
      inverse_string.list m.dependencies
    simp [toJson, object, ofJson?, asFields?, required?, Sorted.get?_ofList, Sorted.get?_cons, asString?, hdependencies]
  · simpa using ⟨.string _, storable_strings m.dependencies, .string _⟩
  · intro entries entries' h
    simp only [List.forall_mem_cons, Sorted.get?_nil, Option.or_none] at h
    simp [ofJson?, asFields?, required?, h]

end CalculatedMetric

namespace Dimension

theorem wireForm :
    WireForm toJson ofJson? ["name", "bucket", "name_field"] [("bucket", .null), ("name_field", .null)] := by
  refine .of_inverse ?_ (fun d => storable_object ?_) ?_
  · intro d
    have hbucket := Granularity.inverse_json.option (fun _ => nofun) d.bucket
    have hname := NameColumn.inverse_json.option (fun _ => nofun) d.nameColumn
    simp [toJson, object, ofJson?, asFields?, required?, optional?_eq_bind, Sorted.get?_ofList, Sorted.get?_cons,
      asString?, hbucket, hname]
  · simpa using ⟨.string _, storable_ofOption (fun _ => .string _) _, storable_ofOption (·.storable_json) _⟩
  · intro entries entries' h
    have hname : Sorted.get? entries "name" = Sorted.get? entries' "name" := by
      simpa [Sorted.get?_cons] using h "name" (by simp)
    have hbucket : (Sorted.get? entries "bucket").or (some .null) = (Sorted.get? entries' "bucket").or (some .null) :=
      h "bucket" (by simp)
    have hcolumn : (Sorted.get? entries "name_field").or (some .null) =
        (Sorted.get? entries' "name_field").or (some .null) := h "name_field" (by simp)
    simp only [ofJson?, asFields?, required?, Option.bind_eq_bind, Option.bind_some, optional?_eq_bind,
      hname, hbucket, hcolumn]

end Dimension

namespace Json

/-- Conditions, tables, metrics and dimensions keep what they are when they are written and read, and so does whatever
is read of any value. A condition is read from an object exactly as its fields are, its operand being told by its form:
null, a string or a list of strings. -/
theorem records_wireForm :
    WireForm Condition.toJson Condition.ofJson? ["field", "operator", "value"] [] ∧
    WireForm Table.toJson Table.ofJson? ["name", "date_column", "columns"] [("date_column", .string "date")] ∧
    WireForm BaseMetric.toJson BaseMetric.ofJson? ["table", "field", "aggregation", "alias"] [] ∧
    WireForm CalculatedMetric.toJson CalculatedMetric.ofJson? ["name", "dependencies", "formula"] [] ∧
    WireForm Dimension.toJson Dimension.ofJson? ["name", "bucket", "name_field"]
      [("bucket", .null), ("name_field", .null)] ∧
    (∀ entries c, Condition.ofJson? (.members entries) = some c ↔
      Sorted.get? entries "field" = some (.string c.field) ∧
        (Sorted.get? entries "operator").bind Operator.ofJson? = some c.operator ∧
        Sorted.get? entries "value" = some c.operand.toJson) ∧
    ∀ json, (Operand.ofJson? json = some .none ↔ json = .null) ∧
      (∀ v, Operand.ofJson? json = some (.single v) ↔ json = .string v) ∧
      ∀ vs, Operand.ofJson? json = some (.multiple vs) ↔ json = .strings vs :=
  ⟨Condition.wireForm, Table.wireForm, BaseMetric.wireForm, CalculatedMetric.wireForm, Dimension.wireForm,
    fun _ _ => Condition.ofJson?_members, fun _ => ⟨Operand.ofJson?_eq_some_iff,
      fun _ => Operand.ofJson?_eq_some_iff, fun _ => Operand.ofJson?_eq_some_iff⟩⟩

end Json
end BalanceSheet
