import BalanceSheet.Api.Server
import BalanceSheet.Json.Basic
import BalanceSheet.Proofs.Registry.Fields
import BalanceSheet.Proofs.Sorted

/-!
Rows and the schemas that are published for them. A schema requires what it lists and allows nothing else, so
a row that it describes has exactly its members. Both are made from the registry, the row field by field and the
schema as a map, in which fields of one name would be one; an accepted registry has no such fields, and none
that a grouped row has besides.
-/

namespace BalanceSheet

/-! ### What a schema says -/

/-- Whether a value has the type of that name. A float that is not finite is written as null. -/
def Json.HasType (type : String) : Json → Prop
  | .null => type = "null"
  | .bool _ => type = "boolean"
  | .number (.float x) => type = "number" ∧ x.isFinite = true
  | .number _ => type = "number" ∨ type = "integer"
  | .string _ => type = "string"
  | .array _ => type = "array"
  | .members _ => type = "object"

namespace Schema

/-- The names that a schema requires, none if it does not say. -/
def required (schema : Json) : List String :=
  ((schema.get? "required").bind (Json.asList? Json.asString?)).getD []

/-- The properties that a schema lists, none if it does not say. -/
def properties (schema : Json) : List (String × Json) :=
  match schema.get? "properties" with
  | some (.members entries) => entries
  | _ => []

/-- The schema describes an object with exactly these members: it lists and requires each of them once, gives
each the type that it has, and allows no other. -/
structure Describes (schema : Json) (entries : List (String × Json)) : Prop where
  object : schema.get? "type" = some (.string "object")
  nodup : (entries.map Prod.fst).Nodup
  properties : ((properties schema).map Prod.fst).Perm (entries.map Prod.fst)
  required : (required schema).Perm (entries.map Prod.fst)
  closed : schema.get? "additionalProperties" = some (.bool false)
  typed : ∀ name property, (name, property) ∈ Schema.properties schema →
    ∃ type value, property.get? "type" = some (.string type) ∧ Sorted.get? entries name = some value ∧
      value.HasType type

/-- A property that was declared and a member of its name and type. -/
def Fits (declared : String × Property) (entry : String × Json) : Prop :=
  declared.1 = entry.1 ∧ entry.2.HasType declared.2.type

end Schema

/-! ### The schemas of documents -/

/-- Where keys are given once, a value is found under its key. -/
theorem Sorted.get?_eq_some_of_mem {α : Type} {entries : List (String × α)} (hnodup : (entries.map Prod.fst).Nodup)
    {key : String} {value : α} (h : (key, value) ∈ entries) : get? entries key = some value := by
  rw [get?, find?_key_eq_some hnodup h]
  rfl

theorem Json.asList?_strings (names : List String) :
    Json.asList? Json.asString? (.strings names) = some names := by
  have hitems : (names.map Json.string).mapM Json.asString? = some names := by
    induction names with
    | nil => rfl
    | cons name names ih => rw [List.map_cons, List.mapM_cons, ih]; rfl
  exact hitems

namespace Schema

variable {d : Document}

theorem get?_type_toJson : d.toJson.get? "type" = some (.string "object") := by
  cases h : d.properties.isEmpty <;> simp [Document.toJson, h, Json.get?, Sorted.get?]

theorem get?_additionalProperties_toJson : d.toJson.get? "additionalProperties" = some (.bool false) := by
  cases h : d.properties.isEmpty <;> simp [Document.toJson, h, Json.get?, Sorted.get?]

/-- All properties are required. -/
theorem required_toJson : required d.toJson = d.properties.map Prod.fst := by
  cases h : d.properties.isEmpty with
  | true => simp_all [required, Document.toJson, Json.get?, Sorted.get?]
  | false => simp [required, Document.toJson, h, Json.get?, Sorted.get?, Json.asList?_strings]

theorem properties_toJson : properties d.toJson = d.properties.map fun (name, p) => (name, p.toJson) := by
  cases h : d.properties.isEmpty with
  | true => simp_all [properties, Document.toJson, Json.get?, Sorted.get?]
  | false => simp [properties, Document.toJson, h, Json.get?, Sorted.get?]

theorem keys_properties_toJson : (properties d.toJson).map Prod.fst = d.properties.map Prod.fst := by
  rw [properties_toJson, List.map_map]
  rfl

/-- A document describes members that stand in step with the properties declared for it, if no two of them have
one name. -/
theorem describes_of_fits {declared : List (String × Property)} {entries : List (String × Json)}
    (hd : d.properties = Sorted.ofList declared) (hfits : List.Forall₂ Fits declared entries)
    (hnodup : (entries.map Prod.fst).Nodup) : Describes d.toJson entries := by
  have hnames : declared.map Prod.fst = entries.map Prod.fst := by
    rw [← List.forall₂_eq_eq_eq, List.forall₂_map_left_iff, List.forall₂_map_right_iff]
    exact hfits.imp fun _ _ h => h.1
  have hkeys : (d.properties.map Prod.fst).Perm (entries.map Prod.fst) := by
    rw [hd, List.perm_ext_iff_of_nodup Sorted.nodup_keys_ofList hnodup]
    intro name
    rw [Sorted.mem_keys_ofList, hnames]
  refine ⟨get?_type_toJson, hnodup, keys_properties_toJson ▸ hkeys, required_toJson ▸ hkeys,
    get?_additionalProperties_toJson, ?_⟩
  intro name property hproperty
  rw [properties_toJson, List.mem_map] at hproperty
  obtain ⟨⟨_, p⟩, hp, heq⟩ := hproperty
  cases heq
  rw [hd] at hp
  obtain ⟨⟨_, value⟩, hvalue, hname, htype⟩ := forall₂_exists_right hfits (Sorted.mem_of_mem_ofList hp)
  cases hname
  exact ⟨p.type, value, rfl, Sorted.get?_eq_some_of_mem hnodup hvalue, htype⟩

end Schema

/-! ### Rows -/

/-- What reads as no finite number is zero. -/
theorem isFinite_numberOf (value : Option Json) : (numberOf value).isFinite = true := by
  have hgetD (x : Option Float) : ((x.filter Float.isFinite).getD 0.0).isFinite = true := by
    cases hx : x.filter Float.isFinite with
    | none => decide
    | some y => exact (Option.filter_eq_some_iff.mp hx).2
  exact hgetD _

namespace MetricValues

variable {r : Registry} {raw : Record}

theorem keys_ofRecord : (ofRecord r raw).map Prod.fst = r.responseFields := by
  rw [ofRecord, Registry.responseFields, List.map_append, List.map_flatMap, List.map_map]
  rfl

theorem keys_entries (values : MetricValues) : values.entries.map Prod.fst = values.map Prod.fst := by
  rw [entries, List.map_map]
  rfl

theorem isFinite_ofRecord {entry : String × Float} (h : entry ∈ ofRecord r raw) : entry.2.isFinite = true := by
  rw [ofRecord, List.mem_append, List.mem_flatMap, List.mem_map] at h
  rcases h with ⟨m, -, h⟩ | ⟨m, -, rfl⟩
  · simp only [ofMetric, List.mem_cons, List.not_mem_nil, or_false] at h
    rcases h with rfl | rfl | rfl <;> exact isFinite_numberOf _
  · exact isFinite_numberOf _

/-- The schema and the row go through the registry in one order. -/
theorem fits_ofRecord : List.Forall₂ Schema.Fits (Schema.metricProperties r) (ofRecord r raw).entries := by
  have hbase (m : BaseMetric) : List.Forall₂ Schema.Fits (Schema.ofMetric m) (entries (ofMetric raw m)) := by
    refine .cons ⟨rfl, rfl, isFinite_numberOf _⟩ (.cons ⟨rfl, rfl, isFinite_numberOf _⟩ ?_)
    exact .cons ⟨rfl, rfl, isFinite_numberOf _⟩ .nil
  have hcalculated : List.Forall₂ Schema.Fits (r.calculated.map Schema.ofCalculated)
      (entries (r.calculated.map fun m => (m.name, numberOf (Sorted.get? raw m.name)))) := by
    rw [entries, List.map_map, List.forall₂_map_left_iff, List.forall₂_map_right_iff]
    exact List.forall₂_same.mpr fun m _ => ⟨rfl, rfl, isFinite_numberOf _⟩
  have hrow : (ofRecord r raw).entries = r.base.flatMap (fun m => entries (ofMetric raw m)) ++
      entries (r.calculated.map fun m => (m.name, numberOf (Sorted.get? raw m.name))) := by
    rw [ofRecord, entries, List.map_append, List.map_flatMap]
    rfl
  rw [hrow, Schema.metricProperties]
  refine List.rel_append (List.rel_flatMap (R := Eq) (List.forall₂_refl r.base) ?_) hcalculated
  rintro m _ rfl
  exact hbase m

end MetricValues

namespace GroupedRow

/-- The members of the object that a row is written as. -/
def entries (row : GroupedRow) : List (String × Json) :=
  [("id", .string row.id), ("name", .string row.name)] ++ row.metrics.entries ++
    [("_total_count", .natural row.totalCount)]

theorem toJson_eq (row : GroupedRow) : row.toJson = .members row.entries := rfl

theorem keys_entries (row : GroupedRow) :
    row.entries.map Prod.fst = ["id", "name"] ++ row.metrics.map Prod.fst ++ ["_total_count"] := by
  rw [entries, List.map_append, List.map_append, MetricValues.keys_entries]
  rfl

theorem fits_ofRecord {r : Registry} {raw : Record} :
    List.Forall₂ Schema.Fits
      ([("id", ⟨"Group key", "string"⟩), ("name", ⟨"Group display name", "string"⟩)] ++
        Schema.metricProperties r ++ [("_total_count", ⟨"Groups matching the request", "integer"⟩)])
      (ofRecord r raw).entries := by
  refine List.rel_append (List.rel_append ?_ MetricValues.fits_ofRecord) ?_
  · exact .cons ⟨rfl, rfl⟩ (.cons ⟨rfl, rfl⟩ .nil)
  · exact .cons ⟨rfl, .inr rfl⟩ .nil

end GroupedRow

namespace Registry.WellFormed

variable {r : Registry}

theorem describes_row (hr : r.WellFormed) (raw : Record) :
    Schema.Describes (Schema.ofRow r).toJson (MetricValues.ofRecord r raw).entries := by
  refine Schema.describes_of_fits rfl MetricValues.fits_ofRecord ?_
  rw [MetricValues.keys_entries, MetricValues.keys_ofRecord]
  exact hr.nodup_responseFields

theorem describes_groupedRow (hr : r.WellFormed) (raw : Record) :
    Schema.Describes (Schema.ofGroupedRow r).toJson (GroupedRow.ofRecord r raw).entries := by
  have hreserved : ["id", "name"] ++ ["_total_count"] ⊆ reservedFields := by decide
  refine Schema.describes_of_fits rfl GroupedRow.fits_ofRecord ?_
  rw [GroupedRow.keys_entries, GroupedRow.ofRecord, MetricValues.keys_ofRecord]
  refine nodup_between hr.nodup_responseFields (by decide) ?_
  intro field hfield hends
  exact hr.responseField_unreserved hfield (hreserved hends)

end Registry.WellFormed

/-! ### Responses -/

namespace Engine

variable {r : Registry} {today : Date} {reply : StoreReply}

theorem yoy_result_ok {request : YoyRequest} {values : MetricValues}
    (h : (yoy r today request).result reply = .ok values) : ∃ raw, values = .ofRecord r raw := by
  rw [yoy] at h
  split at h
  · cases h
  · cases reply with
    | error fault => cases h
    | ok rows =>
        cases h
        exact ⟨_, rfl⟩

theorem grouped_result_ok {request : GroupedRequest} {result : GroupedResult}
    (h : (grouped r today request).result reply = .ok result) :
    ∃ records : List Record, result.rows = records.map (GroupedRow.ofRecord r) := by
  rw [grouped] at h
  split at h
  · cases h
  · split at h
    · cases h
    · cases h
      exact ⟨[], rfl⟩
    · cases reply with
      | error fault => cases h
      | ok rows =>
          cases h
          exact ⟨rows.records, rfl⟩

end Engine

namespace Api

theorem Errand.ofQuery_result_ok {query α : Type} {read : Except Fault query} {run : query → Errand α}
    {reply : StoreReply} {a : α} (h : (ofQuery read run).result reply = .ok a) :
    ∃ q, read = .ok q ∧ (run q).result reply = .ok a := by
  cases read with
  | error fault => cases h
  | ok q => exact ⟨q, rfl, h⟩

theorem Errand.ofRequest_result_ok {request α : Type} {read : Except Fault request} {inquire : request → Inquiry α}
    {reply : StoreReply} {a : α} (h : (ofRequest read inquire).result reply = .ok a) :
    ∃ request, read = .ok request ∧ (inquire request).result reply = .ok a := by
  obtain ⟨request, hrequest, h⟩ := ofQuery_result_ok h
  rw [Exchange.result_map] at h
  exact ⟨request, hrequest, Except.mapError_eq_ok_iff.mp h⟩

/-- A response is that to a fault, or that to what came of the request. -/
theorem Errand.response_cases {α : Type} (errand : Errand α) (respond : α → Response) (reply : StoreReply) :
    (∃ fault, (errand.map (Response.ofOutcome respond)).result reply = .ofFault fault) ∨
      ∃ a, errand.result reply = .ok a ∧
        (errand.map (Response.ofOutcome respond)).result reply = respond a := by
  rw [Exchange.result_map]
  cases errand.result reply with
  | error fault => exact .inl ⟨fault, rfl⟩
  | ok a => exact .inr ⟨a, rfl, rfl⟩

/-- The server publishes a schema for each kind of row, and every row that it returns is as the schema for it
says. -/
structure Server.Conforms (s : Server) : Prop where
  published : ∀ raw reply, (s.read .schema raw).result reply =
    .data (.members [("row", (Schema.ofRow s.registry).toJson),
      ("grouped_row", (Schema.ofGroupedRow s.registry).toJson)])
  row : ∀ raw reply, (∃ fault, (s.read .metrics raw).result reply = .ofFault fault) ∨
    ∃ entries, (s.read .metrics raw).result reply = .data (.members entries) ∧
      Schema.Describes (Schema.ofRow s.registry).toJson entries
  groupedRows : ∀ raw reply, (∃ fault, (s.read .groups raw).result reply = .ofFault fault) ∨
    ∃ (rows : List (List (String × Json))) (page : Json), (s.read .groups raw).result reply =
        .json 200 (.members [("data", .array (rows.map Json.members)), ("meta", page)]) ∧
      ∀ entries ∈ rows, Schema.Describes (Schema.ofGroupedRow s.registry).toJson entries

theorem Server.conforms_of_wellFormed {s : Server} (hs : s.registry.WellFormed) : s.Conforms := by
  constructor
  case published =>
    intro raw reply
    rfl
  case row =>
    intro raw reply
    refine (Errand.response_cases _ _ reply).imp_right ?_
    rintro ⟨values, hvalues, hresponse⟩
    obtain ⟨q, -, hvalues⟩ := Errand.ofQuery_result_ok hvalues
    obtain ⟨request, -, hvalues⟩ := Errand.ofRequest_result_ok hvalues
    obtain ⟨record, rfl⟩ := Engine.yoy_result_ok hvalues
    exact ⟨_, hresponse, hs.describes_row record⟩
  case groupedRows =>
    intro raw reply
    refine (Errand.response_cases _ _ reply).imp_right ?_
    rintro ⟨result, hresult, hresponse⟩
    obtain ⟨q, -, hresult⟩ := Errand.ofQuery_result_ok hresult
    obtain ⟨request, -, hresult⟩ := Errand.ofRequest_result_ok hresult
    obtain ⟨records, hrows⟩ := Engine.grouped_result_ok hresult
    refine ⟨result.rows.map GroupedRow.entries, result.page.toJson, ?_, ?_⟩
    · rw [List.map_map]
      exact hresponse
    · intro entries hentries
      rw [hrows, List.map_map, List.mem_map] at hentries
      obtain ⟨record, -, rfl⟩ := hentries
      exact hs.describes_groupedRow record

end Api

/-- Fields have names of their own, a row has them in order with finite values, a grouped row has them between
its identity and the count, and rows are described by the schemas that a server publishes for them. -/
theorem Registry.rows_conform {tables : List Table} {base : List BaseMetric} {calculated : List CalculatedMetric}
    {dimensions : List Dimension} {r : Registry} (hr : build tables base calculated dimensions = .ok r) :
    r.responseFields.Nodup ∧
    (∀ raw : Record, (MetricValues.ofRecord r raw).map Prod.fst = r.responseFields ∧
      (∀ entry ∈ MetricValues.ofRecord r raw, entry.2.isFinite = true) ∧
      ∃ entries, (MetricValues.ofRecord r raw).toJson = .members entries ∧
        Schema.Describes (Schema.ofRow r).toJson entries) ∧
    (∀ records : List Record, ∀ row ∈ records.map (GroupedRow.ofRecord r),
      ∃ entries, row.toJson = .members entries ∧
        entries.map Prod.fst = ["id", "name"] ++ r.responseFields ++ ["_total_count"] ∧
        Schema.Describes (Schema.ofGroupedRow r).toJson entries) ∧
    ∀ s : Api.Server, s.registry = r → s.Conforms := by
  have hwell : r.WellFormed := wellFormed_of_build hr
  refine ⟨hwell.nodup_responseFields, ?_, ?_, ?_⟩
  · intro raw
    exact ⟨MetricValues.keys_ofRecord, fun _ => MetricValues.isFinite_ofRecord, _, rfl, hwell.describes_row raw⟩
  · intro records row hrow
    obtain ⟨raw, -, rfl⟩ := List.mem_map.mp hrow
    refine ⟨_, GroupedRow.toJson_eq _, ?_, hwell.describes_groupedRow raw⟩
    rw [GroupedRow.keys_entries, GroupedRow.ofRecord, MetricValues.keys_ofRecord]
  · rintro s rfl
    exact Api.Server.conforms_of_wellFormed hwell

/-- The balance sheet has a schema for its rows, which requires the stock turnover although no store has sent
it. -/
theorem Registry.rows_conform_builtin :
    build Builtin.tables Builtin.base Builtin.calculated Builtin.dimensions = .ok .builtin ∧
    (MetricValues.ofRecord .builtin []).map Prod.fst = Registry.builtin.responseFields ∧
    "stock_turnover" ∈ Schema.required (Schema.ofRow .builtin).toJson := by
  obtain ⟨-, hrow, -, -⟩ := rows_conform build_builtin
  obtain ⟨hkeys, -, entries, hentries, hdescribes⟩ := hrow []
  cases hentries
  refine ⟨build_builtin, hkeys, hdescribes.required.mem_iff.mpr ?_⟩
  rw [MetricValues.keys_entries, hkeys]
  decide +kernel

end BalanceSheet
