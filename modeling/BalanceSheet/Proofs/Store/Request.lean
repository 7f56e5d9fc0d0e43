import BalanceSheet.Proofs.Except
import BalanceSheet.Proofs.Params.Names
import BalanceSheet.Proofs.Url.Form
import BalanceSheet.Store.Client

/-!
What the query of a request carries to the store. Each sign between names and values stands for itself alone, so
that wherever the query is split, its parts are the settings and the parameters, in order and with their values
unchanged. No parameter has the name of a setting, nor that of another parameter.
-/

namespace BalanceSheet

namespace Form

/-- The parts between ampersands, each split at every equals sign and decoded. -/
def fields (cs : List Char) : List (List String) :=
  (cs.splitOn '&').map fun part => (part.splitOn '=').map decode

theorem splitOn_encodePair (pair : String × String) :
    (encodePair pair).splitOn '=' = [encode pair.1, encode pair.2] := by
  have hsign : ∀ cs ∈ [encode pair.1, encode pair.2], '=' ∉ cs := by simp [not_mem_encode]
  have hpair : encodePair pair = ['='].intercalate [encode pair.1, encode pair.2] := by simp [encodePair]
  rw [hpair, List.splitOn_intercalate '=' hsign (by simp)]

/-- Written pairs are split at their own signs and at no other. -/
theorem fields_encodePairs {pairs : List (String × String)} (hne : pairs ≠ []) :
    fields (encodePairs pairs) = pairs.map fun (name, value) => [name, value] := by
  have hsign : ∀ cs ∈ pairs.map encodePair, '&' ∉ cs := by
    intro cs hcs
    obtain ⟨pair, -, rfl⟩ := List.mem_map.mp hcs
    simp [encodePair, not_mem_encode]
  rw [fields, encodePairs, List.splitOn_intercalate '&' hsign (by simpa using hne), List.map_map]
  refine List.map_congr_left fun pair _ => ?_
  simp only [Function.comp_apply, splitOn_encodePair, List.map_cons, List.map_nil, decode_encode]

/-- The query carries these pairs, in their order and under different names, however it is split. -/
structure Carries (query : String) (pairs : List (String × String)) : Prop where
  split : fields query.toList = pairs.map fun (name, value) => [name, value]
  read : decodePairs query.toList = pairs
  distinct : (pairs.map Prod.fst).Nodup

theorem carries_encodePairs {pairs : List (String × String)} (hne : pairs ≠ []) (hnodup : (pairs.map Prod.fst).Nodup) :
    Carries (String.ofList (encodePairs pairs)) pairs := by
  constructor
  · rw [String.toList_ofList, fields_encodePairs hne]
  · rw [String.toList_ofList, decodePairs_encodePairs]
  · exact hnodup

end Form

/-- An address without a query gets one that holds just what is added. -/
theorem Url.query_addPairs {u : Url} (h : ∀ query ∈ u.query, query = "") (pairs : List (String × String)) :
    (u.addPairs pairs).query = some (String.ofList (Form.encodePairs pairs)) := by
  rw [addPairs]
  cases hquery : u.query with
  | none => rfl
  | some query =>
      obtain rfl : query = "" := h query hquery
      rfl

namespace StoreClient

/-- The names of the settings in a request. -/
def settingNames : List String :=
  ["database", "max_execution_time", "output_format_json_quote_64bit_integers", "prefer_column_name_to_alias"]

/-- No setting has a name that a parameter could have. -/
theorem not_mem_settingNames (name : String) : "param_" ++ name ∉ settingNames := by
  have hstart : ("param_" ++ name).toList.take 6 = "param_".toList := by
    rw [String.toList_append]
    exact List.take_left' rfl
  have hother : ∀ setting ∈ settingNames, setting.toList.take 6 ≠ "param_".toList := by decide
  exact fun h => hother _ h hstart

theorem keys_pairs (c : StoreClient) (params : Params) : (c.pairs params).map Prod.fst =
    settingNames ++ (params.toList.map Param.name).map fun name => "param_" ++ name := by
  simp [pairs, settingNames, Function.comp_def]

theorem nodup_keys_pairs (c : StoreClient) {params : Params} (h : params.WellNamed) :
    ((c.pairs params).map Prod.fst).Nodup := by
  rw [keys_pairs, List.nodup_append]
  refine ⟨by decide, h.nodup.map fun _ _ heq => String.append_right_inj _ |>.mp heq, ?_⟩
  rintro setting hsetting _ hname rfl
  obtain ⟨name, -, rfl⟩ := List.mem_map.mp hname
  exact not_mem_settingNames name hsetting

theorem settings_of_ofSettings [Url.DomainRule] {s : StoreSettings} {c : StoreClient} (h : ofSettings s = .ok c) :
    c.settings = s := by
  unfold ofSettings at h
  split at h
  case h_1 => cases h
  case h_2 =>
    obtain ⟨-, h⟩ := Except.refuse_eq_ok_iff.mp h
    obtain ⟨-, h⟩ := Except.refuse_eq_ok_iff.mp h
    cases h
    rfl

/-- The query of a request carries the settings and then the parameters in the order of binding, with whatever
values they have, if the address of the store has no query of its own. -/
theorem request_carries [Url.DomainRule] {s : StoreSettings} {c : StoreClient} (hclient : ofSettings s = .ok c)
    (hquery : ∀ query ∈ c.url.query, query = "") (calls : List Params.Call) (text : String) :
    ∃ query, (c.request text (.afterAll calls)).url.query = some query ∧
      Form.Carries query
        ([("database", s.database), ("max_execution_time", toString s.maxExecutionTime),
            ("output_format_json_quote_64bit_integers", "0"), ("prefer_column_name_to_alias", "1")] ++
          (Params.afterAll calls).toList.map fun p => ("param_" ++ p.name, p.value)) := by
  obtain rfl : c.settings = s := settings_of_ofSettings hclient
  have hwell : (Params.afterAll calls).WellNamed := Params.wellNamed_empty.foldl calls
  exact ⟨_, Url.query_addPairs hquery _, Form.carries_encodePairs (by simp [pairs]) (c.nodup_keys_pairs hwell)⟩

/-- A database and a parameter with the signs of a query in them. -/
theorem request_carries_signs : ∃ c query,
    ofSettings { StoreSettings.standard with url := "https://ch.example.com:8443/a?", database := "b&c=d" } = .ok c ∧
      (c.request "SELECT 1" (.afterAll [.insert "p1" .string "é+%41&param_p2=x", .bind .date "2024-01-01"])).url.query =
        some query ∧
      Form.Carries query
        [("database", "b&c=d"), ("max_execution_time", "60"), ("output_format_json_quote_64bit_integers", "0"),
          ("prefer_column_name_to_alias", "1"), ("param_p1", "é+%41&param_p2=x"), ("param_p2", "2024-01-01")] := by
  obtain ⟨c, hclient, hquery⟩ := Except.exists_of_map
    (e := ofSettings { StoreSettings.standard with url := "https://ch.example.com:8443/a?", database := "b&c=d" })
    (f := fun c => c.url.query) (b := some "") (by decide +kernel)
  obtain ⟨query, hsent, hcarries⟩ := request_carries hclient (fun _ h => Option.some.inj (h.symm.trans hquery))
    [.insert "p1" .string "é+%41&param_p2=x", .bind .date "2024-01-01"] "SELECT 1"
  exact ⟨c, query, hclient, hsent, hcarries⟩

end StoreClient
end BalanceSheet
