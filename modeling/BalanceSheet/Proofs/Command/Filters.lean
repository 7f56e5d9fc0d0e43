import BalanceSheet.Command.Work
import BalanceSheet.Proofs.Condition.Key
import BalanceSheet.Proofs.Except
import BalanceSheet.Proofs.Url.Form

/-!
Filters on a command line and in the query of a request. A command line gives the key and the value as one text,
which is parted at its first equals sign; a request gives them apart. So both read a filter alike, unless the
operator in the key is called by a name with an equals sign in it: then the command line parts the key itself,
finds a bracket that is not closed, and fails whatever the registry is.
-/

namespace BalanceSheet

namespace Filter

/-- A key whose bracket is not closed is none. -/
theorem splitKey_unclosed {field rest : List Char} (hopen : '[' ∉ field) (hclose : ']' ∉ rest)
    (hblank : ∀ c ∈ field ++ '[' :: rest, Text.isBlank c = false) :
    splitKey (.ofList (field ++ '[' :: rest)) =
      .error (.filter (.malformedKey (.ofList (field ++ '[' :: rest)))) := by
  rw [splitKey, Text.trim_eq_self (by simpa using hblank)]
  simp only [String.toList_ofList, Text.cut_append hopen, Text.dropEnding?_eq_none hclose]
  rfl

/-- What a condition lacks, if its field and its operator are clear, is a value. -/
theorem failsWith_operand {field value : String} {operator : Option Operator} :
    Except.FailsWith (· = .filter (.noValue field)) (operand field operator value) := by
  unfold operand
  dsimp only
  split
  all_goals try split
  all_goals first | exact Except.failsWith_ok _ | exact Except.failsWith_error rfl

/-- A key that is read as its parts does not fail as a key. -/
theorem failsWith_condition {k : Key} (hk : k.Spelled) {allowed : List String} {value : String} :
    Except.FailsWith (fun fault => ∀ key, fault ≠ .filter (.malformedKey key))
      (condition allowed k.text value) := by
  rw [condition, Key.splitKey_text hk]
  show Except.FailsWith _ (if allowed.contains k.field then operand k.field _ value else _)
  split
  · intro fault hfault key heq
    cases heq ▸ failsWith_operand fault hfault
  · exact Except.failsWith_error nofun

theorem conditions_singleton (allowed : List String) (key value : String) :
    conditions allowed [(key, value)] = (condition allowed key value).map fun c => [c] :=
  Except.mapM_singleton _ (key, value)

end Filter

namespace Api

variable {raw : RawQuery} (h : ∀ entry ∈ raw, entry.1 ∉ BalanceQuery.reservedKeys)

include h

theorem RawQuery.value?_eq_none {key : String} (hkey : key ∈ BalanceQuery.reservedKeys) :
    raw.value? key = none := by
  have hget : Sorted.get? raw key = none := by
    rw [Sorted.get?, Option.map_eq_none_iff, List.find?_eq_none]
    intro entry hentry heq
    have : entry.1 = key := by simpa using heq
    exact h entry hentry (this ▸ hkey)
  rw [value?, hget]
  rfl

/-- Names that are not reserved say nothing but filters. -/
theorem BalanceQuery.ofRaw_of_filters : ofRaw raw = .ok
    { bounds := ⟨none, none⟩, groupBy := none, page := none, limit := none, offset := none, orderBy := none,
      orderDirection := none, metrics := [], filters := raw } := by
  have hnone (key : String) (hkey : key ∈ reservedKeys) : raw.value? key = none :=
    RawQuery.value?_eq_none h hkey
  have hnumber {key : String} (hkey : key ∈ reservedKeys) : raw.number? key = .ok none := by
    rw [RawQuery.number?, hnone key hkey]
  have hothers : raw.others reservedKeys = raw := List.filter_eq_self.mpr (by simpa using h)
  rw [ofRaw, hnumber (by decide), hnumber (by decide), hnumber (by decide), hothers]
  simp only [hnone "start_date" (by decide), hnone "end_date" (by decide), hnone "group_by" (by decide),
    hnone "order_by" (by decide), hnone "order_direction" (by decide), hnone "metrics" (by decide)]
  rfl

/-- The conditions of a query that names nothing but filters are those of the filters. -/
theorem BalanceQuery.conditions_of_filters (r : Registry) : (ofRaw raw >>= fun q => q.conditions r) =
    (Filter.conditions r.filterableColumns raw).mapError .failure := by
  rw [ofRaw_of_filters h]
  show periodConditions r ⟨none, none⟩ raw = _
  rw [periodConditions]
  cases Filter.conditions r.filterableColumns raw <;> rfl

end Api

namespace Api

/-- No name with a bracket in it is reserved. -/
theorem not_reserved_of_bracket {key value : String} (h : '[' ∈ key.toList) :
    ∀ entry ∈ [(key, value)], entry.1 ∉ BalanceQuery.reservedKeys := by
  have hplain : ∀ name ∈ BalanceQuery.reservedKeys, '[' ∉ name.toList := by decide
  rintro _ hentry hreserved
  cases List.mem_singleton.mp hentry
  exact hplain key hreserved h

/-- The conditions of a request to the server, or what is amiss with it. -/
def Request.conditions (request : Request) (r : Registry) : Except Fault (List Condition) := do
  (← BalanceQuery.ofRaw request.raw).conditions r

/-- A request with a key that names an operator does not fail for its key. -/
theorem Request.conditions_ne_malformedKey {k : Filter.Key} (hk : k.Spelled)
    (hoperator : k.spelling.isSome = true) {value : String} {request : Request}
    (h : request.raw = [(k.text, value)]) (r : Registry) (key : String) :
    request.conditions r ≠ .error (.failure (.filter (.malformedKey key))) := by
  have hbracket : '[' ∈ k.text.toList := by
    obtain ⟨word, hspelling⟩ := Option.isSome_iff_exists.mp hoperator
    simp [Filter.Key.text, hspelling]
  rw [conditions, h, BalanceQuery.conditions_of_filters (not_reserved_of_bracket hbracket),
    Filter.conditions_singleton]
  cases hcondition : Filter.condition r.filterableColumns k.text value with
  | ok c => simp [Except.map, Except.mapError]
  | error fault =>
      have hfault := Filter.failsWith_condition hk fault hcondition key
      simpa [Except.map, Except.mapError] using hfault

end Api

namespace Command

/-- An argument of several characters is plain unless it starts with a dash. -/
theorem Argument.isPlain_ofText_iff {text : String} {first second : Char} {rest : List Char}
    (h : text.toList = first :: second :: rest) : (ofText text).isPlain = true ↔ first ≠ '-' := by
  unfold ofText
  rw [h]
  split
  case h_2 => split <;> simp_all [isPlain]
  all_goals simp_all [isPlain]

/-- An option, and the argument that is its value unless it looks like an option. -/
theorem readAll_awaited {σ : Type} {switches : List (Switch σ)} {s s' : σ} {name : List Char}
    {option text : String} {set : String → Option σ} (hoption : Argument.ofText option = .long name none)
    (hread : readLong switches s name none = .ok (.awaits set)) (hset : set text = some s') :
    readAll switches s [option, text] = if (Argument.ofText text).isPlain then .ok s' else .error .usage := by
  rw [readAll, readOptions, hoption]
  cases hplain : (Argument.ofText text).isPlain <;> simp [hread, readOptions, hplain, hset]

namespace QueryOptions

/-- The conditions of a query, or what is amiss with it. -/
def conditions (o : QueryOptions) (r : Registry) : Except Fault (List Condition) := do
  ((← o.query).conditions r).mapError .request

theorem raw_singleton (filter : String) :
    ({ filters := [filter] } : QueryOptions).raw = (filterEntry filter).map fun entry => [entry] := by
  rw [raw, Except.mapM_singleton]
  cases filterEntry filter <;> rfl

theorem conditions_of_raw {o : QueryOptions} {raw : Api.RawQuery} (h : o.raw = .ok raw) (r : Registry) :
    o.conditions r = (Api.BalanceQuery.ofRaw raw >>= fun q => q.conditions r).mapError .request := by
  rw [conditions, query, h]
  show ((Api.BalanceQuery.ofRaw raw).mapError Fault.request >>= fun q =>
    (q.conditions r).mapError Fault.request) = _
  cases Api.BalanceQuery.ofRaw raw <;> rfl

section

variable {k : Filter.Key} (hk : k.Spelled) (value : String)

include hk

theorem filterEntry_of_not_hasEquals (h : ¬ k.HasEquals) :
    filterEntry (k.text ++ "=" ++ value) = .ok (k.text, value) := by
  have hsign : '=' ∉ k.text.toList := fun hmem => h ((Filter.Key.equals_mem_text_iff hk).mp hmem)
  have hcut : Text.cut '=' (k.text ++ "=" ++ value).toList = some (k.text.toList, value.toList) := by
    simp only [String.toList_append, List.append_assoc]
    exact Text.cut_append hsign value.toList
  have htrim : Text.trim k.text = k.text := Text.trim_eq_self (Filter.Key.not_isBlank_text hk)
  rw [filterEntry, hcut]
  simp only [String.ofList_toList, htrim]

/-- A key with an equals sign in it is parted there, and its bracket is left open. -/
theorem filterEntry_of_hasEquals (h : k.HasEquals) : ∃ key rest,
    filterEntry (k.text ++ "=" ++ value) = .ok (key, rest) ∧ '[' ∈ key.toList ∧
      Filter.splitKey key = .error (.filter (.malformedKey key)) := by
  obtain ⟨before, after, htext, hsign, hclose⟩ := Filter.Key.exists_equals hk h
  have hblank : ∀ c ∈ k.field.toList ++ '[' :: before, Text.isBlank c = false := fun c hc =>
    Filter.Key.not_isBlank_text hk c (htext ▸ List.mem_append_left _ hc)
  have hopen : '[' ∉ k.field.toList := fun hmem => (hk.field_plain _ hmem).2.1 rfl
  have hfilter : (k.text ++ "=" ++ value).toList =
      (k.field.toList ++ '[' :: before) ++ '=' :: (after ++ '=' :: value.toList) := by simp [htext]
  have htrim : Text.trim (.ofList (k.field.toList ++ '[' :: before)) = .ofList (k.field.toList ++ '[' :: before) :=
    Text.trim_eq_self (by simpa using hblank)
  refine ⟨.ofList (k.field.toList ++ '[' :: before), .ofList (after ++ '=' :: value.toList), ?_, by simp, ?_⟩
  · rw [filterEntry, hfilter, Text.cut_append hsign]
    simp only [htrim]
  · exact Filter.splitKey_unclosed hopen hclose hblank

/-- Such a key is not the one that is written, and fails as a key under every registry. -/
theorem malformed_of_hasEquals (h : k.HasEquals) : ∃ key rest,
    let o : QueryOptions := { filters := [k.text ++ "=" ++ value] }
    key ≠ k.text ∧ o.raw = .ok [(key, rest)] ∧
      ∀ r, o.conditions r = .error (.request (.failure (.filter (.malformedKey key)))) := by
  obtain ⟨key, rest, hentry, hopen, hkey⟩ := filterEntry_of_hasEquals hk value h
  have hraw : ({ filters := [k.text ++ "=" ++ value] } : QueryOptions).raw = .ok [(key, rest)] := by
    rw [raw_singleton, hentry]
    rfl
  refine ⟨key, rest, ?_, hraw, fun r => ?_⟩
  · rintro rfl
    rw [Filter.Key.splitKey_text hk] at hkey
    cases hkey
  · have hfails : Filter.condition r.filterableColumns key rest = .error (.filter (.malformedKey key)) := by
      rw [Filter.condition, hkey]
      rfl
    rw [conditions_of_raw hraw, Api.BalanceQuery.conditions_of_filters (Api.not_reserved_of_bracket hopen),
      Filter.conditions_singleton, hfails]
    rfl

end

/-- A filter that follows the name of its option and an equals sign is taken whole. -/
theorem read_joined (filter : String) :
    Invocation.read ["query", "--filter=" ++ filter] = .ok ⟨{}, .query { filters := [filter] }⟩ := by
  have hargument : Argument.ofText ("--filter=" ++ filter) = .long "filter".toList (some filter.toList) := by
    rw [Argument.ofText, String.toList_append]
    simp [Text.cut]
  show Invocation.readCommand {} switches {} Command.query ["--filter=" ++ filter] = _
  rw [Invocation.readCommand, readAll, readOptions, hargument]
  exact congrArg (fun text => (Except.ok ⟨{}, .query { filters := [text] }⟩ : Except Halt Invocation))
    String.ofList_toList

/-- A filter is taken as the argument after its option too, unless it looks like an option. -/
theorem read_apart (filter : String) : Invocation.read ["query", "--filter", filter] =
    if (Argument.ofText filter).isPlain then .ok ⟨{}, .query { filters := [filter] }⟩ else .error .usage := by
  show Invocation.readCommand {} switches {} Command.query ["--filter", filter] = _
  rw [Invocation.readCommand, readAll_awaited ?option ?read ?set]
  case option => rfl
  case read => rfl
  case set => rfl
  split <;> rfl

/-- A filter looks like an option exactly if its field starts like one. -/
theorem isPlain_filter_iff {k : Filter.Key} (hk : k.Spelled) (value : String) :
    (Argument.ofText (k.text ++ "=" ++ value)).isPlain = true ↔ k.field.toList.head? ≠ some '-' := by
  cases hfield : k.field.toList with
  | nil => exact absurd (String.toList_eq_nil_iff.mp hfield) hk.field_ne
  | cons first field =>
      have hlong : ∃ second rest, (k.text ++ "=" ++ value).toList = first :: second :: rest := by
        obtain ⟨name, _ | word⟩ := k <;> cases field <;> simp_all [Filter.Key.text]
      obtain ⟨second, rest, hfilter⟩ := hlong
      rw [Argument.isPlain_ofText_iff hfilter]
      simp

/-- A filter of a command line is the one that a request makes of the same key and value, with the same conditions
or the same fault, unless the operator is called by a name with an equals sign in it; then it fails as a key. -/
theorem alike_iff_not_hasEquals {k : Filter.Key} (hk : k.Spelled) (value : String) :
    let filter := k.text ++ "=" ++ value
    let o : QueryOptions := { filters := [filter] }
    Invocation.read ["query", "--filter=" ++ filter] = .ok ⟨{}, .query o⟩ ∧
      (Invocation.read ["query", "--filter", filter] = .ok ⟨{}, .query o⟩ ↔ k.field.toList.head? ≠ some '-') ∧
      (∃ request : Api.Request, Form.decodePairs request.query.toList = [(k.text, value)]) ∧
      ∀ request : Api.Request, Form.decodePairs request.query.toList = [(k.text, value)] →
        request.raw = [(k.text, value)] ∧ (o.raw = .ok request.raw ↔ ¬ k.HasEquals) ∧
          ∀ r, (o.conditions r = (request.conditions r).mapError .request ↔ ¬ k.HasEquals) ∧
            (k.HasEquals → ∃ key, o.conditions r = .error (.request (.failure (.filter (.malformedKey key))))) := by
  refine ⟨read_joined _, ?_, ?_, ?_⟩
  · rw [read_apart, ← isPlain_filter_iff hk value]
    split <;> simp_all
  · refine ⟨⟨.get, "/api/v1/balance-sheet", .ofList (Form.encodePairs [(k.text, value)]), none⟩, ?_⟩
    rw [String.toList_ofList, Form.decodePairs_encodePairs]
  intro request hrequest
  have hraw : request.raw = [(k.text, value)] := by
    rw [Api.Request.raw, hrequest]
    rfl
  refine ⟨hraw, ?_⟩
  by_cases hequals : k.HasEquals
  · obtain ⟨key, rest, hne, hparted, hfails⟩ := malformed_of_hasEquals hk value hequals
    have hoperator : k.spelling.isSome = true := by
      obtain ⟨word, hword, -⟩ := hequals
      exact Option.isSome_of_mem hword
    refine ⟨iff_of_false ?_ (not_not_intro hequals), fun r => ⟨iff_of_false ?_ (not_not_intro hequals), ?_⟩⟩
    · rw [hparted, hraw]
      rintro ⟨⟩
      exact hne rfl
    · rw [hfails]
      cases hconditions : request.conditions r with
      | ok cs => nofun
      | error fault =>
          rintro ⟨⟩
          exact Api.Request.conditions_ne_malformedKey hk hoperator hraw r key hconditions
    · exact fun _ => ⟨key, hfails r⟩
  · have hsame : ({ filters := [k.text ++ "=" ++ value] } : QueryOptions).raw = .ok request.raw := by
      rw [raw_singleton, filterEntry_of_not_hasEquals hk value hequals, hraw]
      rfl
    refine ⟨iff_of_true hsame hequals, fun r => ⟨iff_of_true (conditions_of_raw hsame r) hequals, ?_⟩⟩
    exact fun h => absurd h hequals

/-- A filter with an operator that is called by a word, on a command line and in an address. -/
theorem alike_brand_ne : let k : Filter.Key := ⟨"brand", some "ne"⟩
    let request : Api.Request := ⟨.get, "/api/v1/balance-sheet", "brand%5Bne%5D=Apple%2CBanana", none⟩
    let o : QueryOptions := { filters := ["brand[ne]=Apple,Banana"] }
    k.Spelled ∧ Form.decodePairs request.query.toList = [(k.text, "Apple,Banana")] ∧ o.raw = .ok request.raw ∧
      ∀ r, o.conditions r = (request.conditions r).mapError .request := by
  intro k request o
  have hk : k.Spelled := ⟨by decide, by decide, by decide⟩
  have hrequest : Form.decodePairs request.query.toList = [(k.text, "Apple,Banana")] := by decide +kernel
  have hword : ¬ k.HasEquals := by
    rintro ⟨_, ⟨⟩, hsign⟩
    revert hsign
    decide
  obtain ⟨-, -, -, halike⟩ := alike_iff_not_hasEquals hk "Apple,Banana"
  obtain ⟨-, hraw, hconditions⟩ := halike request hrequest
  exact ⟨hk, hrequest, hraw.mpr hword, fun r => (hconditions r).1.mpr hword⟩

/-- An operator that is called by a sign, of which a command line makes a part of the value. -/
theorem torn_quantity_sign : let k : Filter.Key := ⟨"quantity", some ">="⟩
    let request : Api.Request := ⟨.get, "/api/v1/balance-sheet", "quantity%5B%3E%3D%5D=10", none⟩
    let o : QueryOptions := { filters := ["quantity[>=]=10"] }
    k.Spelled ∧ o.filters = [k.text ++ "=10"] ∧
      request.raw = [(k.text, "10")] ∧ o.raw.toOption = some [("quantity[>", "]=10")] ∧
      (request.conditions Registry.builtin).toOption = some [.gte "quantity" "10"] ∧
      (o.conditions Registry.builtin).toOption = none := by
  intro k request o
  refine ⟨⟨by decide, by decide, by decide⟩, by decide, ?_⟩
  decide +kernel

end QueryOptions
end Command
end BalanceSheet
