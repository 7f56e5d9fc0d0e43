import BalanceSheet.Proofs.Command.Filters
import BalanceSheet.Proofs.Sorted

/-!
Filters that are given one after another on a command line. Their keys and values are put into a map before any
condition is made of them, so that of those with one key, blanks around it aside, the last counts and the others
are lost without a word. Those that count make the conditions that they make alone, and nothing else is added to
the bounds of the period.
-/

namespace BalanceSheet

/-- A condition comes of an entry that makes it. -/
theorem Filter.mem_of_conditions {allowed : List String} {entries : List (String × String)}
    {cs : List Condition} (h : conditions allowed entries = .ok cs) {c : Condition} :
    c ∈ cs ↔ ∃ entry ∈ entries, condition allowed entry.1 entry.2 = .ok c := by
  have hstep := Except.mapM_ok h
  constructor
  · intro hc
    exact forall₂_exists_left hstep hc
  · rintro ⟨entry, hentry, hcondition⟩
    obtain ⟨c', hc', hcondition'⟩ := forall₂_exists_right hstep hentry
    cases hcondition.symm.trans hcondition'
    exact hc'

/-- Every entry makes one of the conditions. -/
theorem Filter.exists_of_conditions {allowed : List String} {entries : List (String × String)}
    {cs : List Condition} (h : conditions allowed entries = .ok cs) {entry : String × String}
    (hentry : entry ∈ entries) : ∃ c ∈ cs, condition allowed entry.1 entry.2 = .ok c :=
  forall₂_exists_right (Except.mapM_ok h) hentry

namespace Api.BalanceQuery

/-- A query is read entry by entry; only numbers can be misread. -/
theorem ofRaw_ok {raw : RawQuery} {q : BalanceQuery} (h : ofRaw raw = .ok q) :
    ∃ page limit offset, raw.number? "page" = .ok page ∧ raw.number? "limit" = .ok limit ∧
      raw.number? "offset" = .ok offset ∧
      q = { bounds := ⟨raw.value? "start_date", raw.value? "end_date"⟩
            groupBy := raw.value? "group_by"
            page, limit, offset
            orderBy := raw.value? "order_by"
            orderDirection := raw.value? "order_direction"
            metrics := ((raw.value? "metrics").map Filter.members).getD []
            filters := raw.others reservedKeys } := by
  obtain ⟨page, hpage, h⟩ := Except.bind_eq_ok_iff.mp h
  obtain ⟨limit, hlimit, h⟩ := Except.bind_eq_ok_iff.mp h
  obtain ⟨offset, hoffset, h⟩ := Except.bind_eq_ok_iff.mp h
  cases h
  exact ⟨page, limit, offset, hpage, hlimit, hoffset, rfl⟩

theorem bounds_of_ofRaw {raw : RawQuery} {q : BalanceQuery} (h : ofRaw raw = .ok q) :
    q.bounds = ⟨raw.value? "start_date", raw.value? "end_date"⟩ := by
  obtain ⟨page, limit, offset, -, -, -, rfl⟩ := ofRaw_ok h
  rfl

theorem filters_of_ofRaw {raw : RawQuery} {q : BalanceQuery} (h : ofRaw raw = .ok q) :
    q.filters = raw.others reservedKeys := by
  obtain ⟨page, limit, offset, -, -, -, rfl⟩ := ofRaw_ok h
  rfl

/-- The conditions of a query are the bounds of its period and those of its filters. -/
theorem conditions_eq_ok {q : BalanceQuery} {r : Registry} {cs : List Condition} (h : q.conditions r = .ok cs) :
    ∃ dates others, q.bounds.conditions = .ok dates ∧
      Filter.conditions r.filterableColumns q.filters = .ok others ∧ cs = dates ++ others := by
  rw [conditions, periodConditions] at h
  split at h
  case h_1 => cases h
  case h_2 dates hdates =>
    split at h
    case h_1 => cases h
    case h_2 others hothers =>
      cases h
      exact ⟨dates, others, hdates, hothers, rfl⟩

/-- A request for groups has the page, the conditions and the direction that the query comes to. -/
theorem groupedRequest_ok {q : BalanceQuery} {r : Registry} {request : GroupedRequest}
    (h : q.groupedRequest r = .ok request) :
    ∃ groupBy offset filters direction, q.groupBy = some groupBy ∧
      q.rowsToSkip (q.limit.getD Page.ofGroups.limit) = .ok offset ∧ q.conditions r = .ok filters ∧
      q.direction = .ok direction ∧
      request = { metrics := q.metrics, filters, groupBy, page := ⟨q.limit.getD Page.ofGroups.limit, offset⟩
                  orderBy := q.orderBy, direction } := by
  rw [groupedRequest] at h
  split at h
  case h_1 => cases h
  case h_2 groupBy hgroupBy =>
    split at h
    case h_1 => cases h
    case h_2 =>
      obtain ⟨offset, hoffset, h⟩ := Except.bind_eq_ok_iff.mp h
      obtain ⟨filters, hfilters, h⟩ := Except.bind_eq_ok_iff.mp h
      obtain ⟨direction, hdirection, h⟩ := Except.bind_eq_ok_iff.mp h
      cases h
      exact ⟨groupBy, offset, filters, direction, hgroupBy, hoffset, hfilters, hdirection, rfl⟩

/-- The query is for metrics, by group or not, under these conditions. -/
def AsksUnder (q : BalanceQuery) (r : Registry) (cs : List Condition) : Prop :=
  (∃ request, q.yoyRequest r = .ok request ∧ request.filters = cs) ∨
    ∃ request, q.groupedRequest r = .ok request ∧ request.filters = cs

theorem AsksUnder.conditions {q : BalanceQuery} {r : Registry} {cs : List Condition} (h : q.AsksUnder r cs) :
    q.conditions r = .ok cs := by
  rcases h with ⟨request, h, rfl⟩ | ⟨request, h, rfl⟩
  · obtain ⟨cs, hcs, h⟩ := Except.bind_eq_ok_iff.mp h
    cases h
    exact hcs
  · obtain ⟨groupBy, offset, cs, direction, -, -, hcs, -, rfl⟩ := groupedRequest_ok h
    exact hcs

end Api.BalanceQuery

namespace Command.QueryOptions

/-- The key of a filter, if it has one. -/
def filterKey? (filter : String) : Option String := (filterEntry filter).toOption.map Prod.fst

/-- The filter is given, and none after it has its key. -/
def Counts (filters : List String) (filter : String) : Prop :=
  ∃ before after, filters = before ++ filter :: after ∧ ∀ later ∈ after, filterKey? later ≠ filterKey? filter

/-- The condition is what the filter makes alone. -/
def Makes (r : Registry) (filter : String) (c : Condition) : Prop :=
  ({ filters := [filter] } : QueryOptions).conditions r = .ok [c]

theorem Counts.mem {filters : List String} {filter : String} (h : Counts filters filter) : filter ∈ filters := by
  obtain ⟨before, after, rfl, -⟩ := h
  simp

/-- Where no key is given twice, every filter counts. -/
theorem counts_of_nodup {filters : List String} (h : (filters.map filterKey?).Nodup) {filter : String}
    (hmem : filter ∈ filters) : Counts filters filter := by
  obtain ⟨before, after, rfl⟩ := List.append_of_mem hmem
  refine ⟨before, after, rfl, fun later hlater heq => ?_⟩
  rw [List.map_append, List.map_cons, List.nodup_append, List.nodup_cons] at h
  exact h.2.1.1 (heq ▸ List.mem_map_of_mem hlater)

theorem filterKey?_of_entry {filter : String} {entry : String × String} (h : filterEntry filter = .ok entry) :
    filterKey? filter = some entry.1 := by
  rw [filterKey?, h]
  rfl

theorem makes_iff {r : Registry} {filter key value : String} {c : Condition}
    (h : filterEntry filter = .ok (key, value)) (hkey : key ∉ Api.BalanceQuery.reservedKeys) :
    Makes r filter c ↔ Filter.condition r.filterableColumns key value = .ok c := by
  have hraw : ({ filters := [filter] } : QueryOptions).raw = .ok [(key, value)] := by
    rw [raw_singleton, h]
    rfl
  rw [Makes, conditions_of_raw hraw, Api.BalanceQuery.conditions_of_filters (by simpa using hkey),
    Filter.conditions_singleton]
  cases Filter.condition r.filterableColumns key value <;> simp [Except.map, Except.mapError]

/-- The filters that count have the entries that no later one has the key of. -/
theorem exists_counts_iff {filters : List String} {entries : List (String × String)}
    (h : filters.mapM filterEntry = .ok entries) {entry : String × String} :
    (∃ filter, Counts filters filter ∧ filterEntry filter = .ok entry) ↔
      ∃ before after, entries = before ++ entry :: after ∧ ∀ later ∈ after, later.1 ≠ entry.1 := by
  have hstep := Except.mapM_ok h
  constructor
  · rintro ⟨filter, ⟨before, after, rfl, hlater⟩, hentry⟩
    obtain ⟨before', entry', after', rfl, hentry', hafter⟩ := forall₂_split hstep
    cases hentry.symm.trans hentry'
    refine ⟨before', after', rfl, ?_⟩
    intro later hmem heq
    obtain ⟨filter', hfilter', hlater'⟩ := forall₂_exists_left hafter hmem
    exact hlater filter' hfilter' (by rw [filterKey?_of_entry hlater', filterKey?_of_entry hentry, heq])
  · rintro ⟨before, after, rfl, hlater⟩
    obtain ⟨before', filter, after', rfl, hentry, hafter⟩ := forall₂_split hstep.flip
    refine ⟨filter, ⟨before', after', rfl, ?_⟩, hentry⟩
    intro later hmem heq
    obtain ⟨entry', hentry', hlater'⟩ := forall₂_exists_left hafter hmem
    rw [filterKey?_of_entry hlater', filterKey?_of_entry hentry] at heq
    exact hlater entry' hentry' (Option.some.inj heq)

/-- The names that have options of their own are reserved. -/
theorem reserved_subset (o : QueryOptions) : ∀ entry ∈ o.reserved, entry.1 ∈ Api.BalanceQuery.reservedKeys := by
  simp [reserved, Api.BalanceQuery.reservedKeys]

/-- The map of a query holds the entries of its filters, and after them others with names that are reserved. -/
theorem exists_of_raw {o : QueryOptions} {raw : Api.RawQuery} (h : o.raw = .ok raw) : ∃ entries own,
    o.filters.mapM filterEntry = .ok entries ∧ raw = Sorted.ofList (entries ++ own) ∧
      ∀ entry ∈ own, entry.1 ∈ Api.BalanceQuery.reservedKeys := by
  obtain ⟨entries, hentries, h⟩ := Except.bind_eq_ok_iff.mp h
  cases h
  refine ⟨entries, _, hentries, rfl, fun entry hmem => ?_⟩
  obtain ⟨named, hnamed, hvalue⟩ := List.mem_filterMap.mp hmem
  obtain ⟨value, -, rfl⟩ := Option.map_eq_some_iff.mp hvalue
  exact reserved_subset o named hnamed

/-- What goes into the map of a query under a name that is not reserved is the entry of a filter that counts. -/
theorem mem_raw_iff {o : QueryOptions} {raw : Api.RawQuery} (h : o.raw = .ok raw) {entry : String × String}
    (hkey : entry.1 ∉ Api.BalanceQuery.reservedKeys) :
    entry ∈ raw ↔ ∃ filter, Counts o.filters filter ∧ filterEntry filter = .ok entry := by
  obtain ⟨entries, own, hentries, rfl, hreserved⟩ := exists_of_raw h
  have hown : ∀ named ∈ own, named.1 ≠ entry.1 := fun named hmem heq =>
    hkey (heq ▸ hreserved named hmem)
  rw [exists_counts_iff hentries, Sorted.mem_ofList_iff]
  constructor
  · rintro ⟨before, after, heq, hlater⟩
    rcases split_append heq with ⟨rest, rfl⟩ | ⟨-, hmem⟩
    · rw [List.append_assoc, List.append_cancel_left_eq, List.cons_append, List.cons.injEq] at heq
      refine ⟨before, rest, rfl, fun later hmem => hlater later ?_⟩
      exact heq.2 ▸ List.mem_append_left _ hmem
    · exact absurd rfl (hown entry hmem)
  · rintro ⟨before, after, rfl, hlater⟩
    refine ⟨before, after ++ own, by rw [List.append_assoc, List.cons_append], ?_⟩
    intro later hmem
    rcases List.mem_append.mp hmem with hmem | hmem
    · exact hlater later hmem
    · exact hown later hmem

theorem exists_entry {o : QueryOptions} {q : Api.BalanceQuery} (h : o.query = .ok q) {filter : String}
    (hfilter : filter ∈ o.filters) : ∃ entry, filterEntry filter = .ok entry := by
  obtain ⟨raw, hraw, -⟩ := Except.bind_eq_ok_iff.mp h
  obtain ⟨entries, hentries, -⟩ := Except.bind_eq_ok_iff.mp hraw
  obtain ⟨entry, -, hentry⟩ := forall₂_exists_right (Except.mapM_ok hentries) hfilter
  exact ⟨entry, hentry⟩

section

variable {o : QueryOptions} {q : Api.BalanceQuery} {r : Registry}
  (hkeys : ∀ filter ∈ o.filters, ∀ key ∈ filterKey? filter, key ∉ Api.BalanceQuery.reservedKeys)

include hkeys

/-- The filters of a query are the entries of those that count. -/
theorem mem_filters_iff (hq : o.query = .ok q) {entry : String × String} :
    entry ∈ q.filters ↔ ∃ filter, Counts o.filters filter ∧ filterEntry filter = .ok entry := by
  obtain ⟨raw, hraw, h⟩ := Except.bind_eq_ok_iff.mp hq
  have hofRaw : Api.BalanceQuery.ofRaw raw = .ok q := Except.mapError_eq_ok_iff.mp h
  rw [Api.BalanceQuery.filters_of_ofRaw hofRaw, Api.RawQuery.others, List.mem_filter]
  constructor
  · rintro ⟨hmem, hkey⟩
    exact (mem_raw_iff hraw (by simpa using hkey)).mp hmem
  · rintro ⟨filter, hcounts, hentry⟩
    have hkey : entry.1 ∉ Api.BalanceQuery.reservedKeys :=
      hkeys filter hcounts.mem _ (filterKey?_of_entry hentry)
    exact ⟨(mem_raw_iff hraw hkey).mpr ⟨filter, hcounts, hentry⟩, by simpa using hkey⟩

/-- Every condition of a request comes from a bound of its period or is what a filter makes alone, and the filters
are those that no later one has the key of. So none is lost where no key is given twice. -/
theorem kept_iff_counts {cs : List Condition} (hq : o.query = .ok q) (hcs : q.AsksUnder r cs) :
    (∃ dates, q.bounds.conditions = .ok dates ∧
        ∀ c, c ∈ cs ↔ c ∈ dates ∨ ∃ filter, Counts o.filters filter ∧ Makes r filter c) ∧
      (∀ filter, Counts o.filters filter → ∃ c ∈ cs, Makes r filter c) ∧
      ((o.filters.map filterKey?).Nodup → ∀ filter ∈ o.filters, ∃ c ∈ cs, Makes r filter c) := by
  obtain ⟨dates, others, hdates, hothers, rfl⟩ := Api.BalanceQuery.conditions_eq_ok hcs.conditions
  have hmakes {filter : String} {entry : String × String} {c : Condition} (hcounts : Counts o.filters filter)
      (hentry : filterEntry filter = .ok entry) :
      Makes r filter c ↔ Filter.condition r.filterableColumns entry.1 entry.2 = .ok c :=
    makes_iff hentry (hkeys filter hcounts.mem _ (filterKey?_of_entry hentry))
  have hmem (c : Condition) : c ∈ others ↔ ∃ filter, Counts o.filters filter ∧ Makes r filter c := by
    rw [Filter.mem_of_conditions hothers]
    constructor
    · rintro ⟨entry, hentry, hcondition⟩
      obtain ⟨filter, hcounts, hfilter⟩ := (mem_filters_iff hkeys hq).mp hentry
      exact ⟨filter, hcounts, (hmakes hcounts hfilter).mpr hcondition⟩
    · rintro ⟨filter, hcounts, hc⟩
      obtain ⟨entry, hfilter⟩ := exists_entry hq hcounts.mem
      exact ⟨entry, (mem_filters_iff hkeys hq).mpr ⟨filter, hcounts, hfilter⟩, (hmakes hcounts hfilter).mp hc⟩
  have hkept (filter : String) (hcounts : Counts o.filters filter) : ∃ c ∈ dates ++ others, Makes r filter c := by
    obtain ⟨entry, hfilter⟩ := exists_entry hq hcounts.mem
    have hentry : entry ∈ q.filters := (mem_filters_iff hkeys hq).mpr ⟨filter, hcounts, hfilter⟩
    obtain ⟨c, hc, hcondition⟩ := Filter.exists_of_conditions hothers hentry
    exact ⟨c, List.mem_append_right _ hc, (hmakes hcounts hfilter).mpr hcondition⟩
  refine ⟨⟨dates, hdates, fun c => ?_⟩, hkept, fun hnodup filter hfilter => ?_⟩
  · rw [List.mem_append, hmem]
  · exact hkept filter (counts_of_nodup hnodup hfilter)

end

/-- Two filters on one column with keys of their own. -/
theorem kept_brand_twice : let o : QueryOptions := { filters := ["brand=acme", "brand[eq]=zenith"] }
    ∃ q request, o.query = .ok q ∧ q.yoyRequest Registry.builtin = .ok request ∧
      ∀ filter ∈ o.filters, ∃ c ∈ request.filters, Makes Registry.builtin filter c := by
  intro o
  have hkeys : ∀ filter ∈ o.filters, ∀ key ∈ filterKey? filter, key ∉ Api.BalanceQuery.reservedKeys := by
    have hbrand : filterKey? "brand=acme" = some "brand" := by decide +kernel
    have hequal : filterKey? "brand[eq]=zenith" = some "brand[eq]" := by decide +kernel
    simp [o, hbrand, hequal, Api.BalanceQuery.reservedKeys]
  obtain ⟨q, hq, hyoy⟩ := Except.exists_of_map (e := o.query) (f := fun q => (q.yoyRequest Registry.builtin).isOk)
    (b := true) (by decide +kernel)
  obtain ⟨request, hrequest⟩ := Except.exists_of_isOk hyoy
  have hkept := kept_iff_counts hkeys hq (.inl ⟨request, hrequest, rfl⟩)
  exact ⟨q, request, hq, hrequest, hkept.2.2 (by decide +kernel)⟩

/-- Two filters with one key, of which the first is lost. -/
theorem lost_brand : let o : QueryOptions := { filters := ["brand=acme", "brand=zenith"] }
    (∃ q request, o.query = .ok q ∧ q.yoyRequest Registry.builtin = .ok request ∧
        request.filters = [.eq "brand" "zenith"] ∧ .eq "brand" "acme" ∉ request.filters) ∧
      Makes Registry.builtin "brand=acme" (.eq "brand" "acme") := by
  intro o
  obtain ⟨q, hq, hyoy⟩ := Except.exists_of_map (e := o.query)
    (f := fun q => (q.yoyRequest Registry.builtin).toOption.map (·.filters)) (b := some [.eq "brand" "zenith"])
    (by decide +kernel)
  obtain ⟨request, hrequest, hfilters⟩ := Except.exists_of_map hyoy
  obtain ⟨cs, hcs, hc⟩ := Except.exists_of_map
    (e := ({ filters := ["brand=acme"] } : QueryOptions).conditions Registry.builtin) (f := id)
    (b := [.eq "brand" "acme"]) (by decide +kernel)
  have hlost : .eq "brand" "acme" ∉ request.filters := by
    rw [hfilters]
    decide
  exact ⟨⟨q, request, hq, hrequest, hfilters, hlost⟩, hcs.trans (congrArg Except.ok hc)⟩

end Command.QueryOptions
end BalanceSheet
