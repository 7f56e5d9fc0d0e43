import BalanceSheet.Query.Statement
import Mathlib.Data.List.Induction
import Mathlib.Data.List.Nodup

/-!
Lists ordered by key, seen as maps. An entry of the built list was among the entries it was built from,
their keys are the same, and the built list has no key twice.
-/

namespace BalanceSheet.Sorted

variable {α : Type}

theorem mem_of_mem_insert {key : String} {value : α} {entries : List (String × α)} {entry : String × α}
    (h : entry ∈ insert key value entries) : entry = (key, value) ∨ entry ∈ entries := by
  induction entries with
  | nil => simpa [insert] using h
  | cons head rest ih =>
      obtain ⟨k, v⟩ := head
      rw [insert] at h
      split at h
      · simpa using h
      · split at h
        · rcases List.mem_cons.mp h with h | h
          · exact .inl h
          · exact .inr (List.mem_cons_of_mem _ h)
        · rcases List.mem_cons.mp h with h | h
          · exact .inr (h ▸ List.mem_cons_self)
          · exact (ih h).imp_right (List.mem_cons_of_mem _)

/-- A new entry takes the place of one with its key, and of no other. -/
theorem mem_insert_iff {key : String} {value : α} {entries : List (String × α)} {entry : String × α}
    (h : entries.Pairwise fun a b => a.1 < b.1) :
    entry ∈ insert key value entries ↔ entry = (key, value) ∨ entry ∈ entries ∧ entry.1 ≠ key := by
  induction entries with
  | nil => simp [insert]
  | cons head rest ih =>
      obtain ⟨k, v⟩ := head
      obtain ⟨hhead, hrest⟩ := List.pairwise_cons.mp h
      rw [insert]
      split
      case isTrue hlt =>
        have hne : entry ∈ (k, v) :: rest → entry.1 ≠ key := by
          intro hentry
          rcases List.mem_cons.mp hentry with rfl | hentry
          · exact (String.ne_of_lt hlt).symm
          · exact (String.ne_of_lt (String.lt_trans hlt (hhead entry hentry))).symm
        rw [List.mem_cons, and_iff_left_of_imp hne]
      case isFalse =>
        split
        case isTrue heq =>
          subst heq
          have hne : entry ∈ rest → entry.1 ≠ key := fun hentry => (String.ne_of_lt (hhead entry hentry)).symm
          rw [List.mem_cons, List.mem_cons, or_and_right, and_iff_left_of_imp hne]
          have hself : ¬ (entry = (key, v) ∧ entry.1 ≠ key) := by
            rintro ⟨rfl, hne⟩
            exact hne rfl
          simp only [hself, false_or]
        case isFalse hne =>
          have hself : entry = (k, v) → entry.1 ≠ key := by
            rintro rfl
            exact Ne.symm hne
          rw [List.mem_cons, ih hrest, List.mem_cons, or_and_right, and_iff_left_of_imp hself, or_left_comm]

theorem mem_keys_insert {key k : String} {value : α} {entries : List (String × α)} :
    k ∈ (insert key value entries).map Prod.fst ↔ k = key ∨ k ∈ entries.map Prod.fst := by
  induction entries with
  | nil => simp [insert]
  | cons head rest ih =>
      obtain ⟨k', v⟩ := head
      rw [insert]
      split
      · simp
      · split
        case isTrue heq => simp [heq]
        case isFalse => rw [List.map_cons, List.mem_cons, ih, List.map_cons, List.mem_cons, or_left_comm]

/-- Entries stay in the order of keys. -/
theorem pairwise_insert {key : String} {value : α} {entries : List (String × α)}
    (h : entries.Pairwise fun a b => a.1 < b.1) : (insert key value entries).Pairwise fun a b => a.1 < b.1 := by
  induction entries with
  | nil => exact List.pairwise_singleton _ _
  | cons head rest ih =>
      obtain ⟨k, v⟩ := head
      obtain ⟨hhead, hrest⟩ := List.pairwise_cons.mp h
      rw [insert]
      split
      case isTrue hlt =>
        refine List.pairwise_cons.mpr ⟨?_, h⟩
        intro entry hentry
        rcases List.mem_cons.mp hentry with rfl | hentry
        · exact hlt
        · exact String.lt_trans hlt (hhead entry hentry)
      case isFalse hnot =>
        split
        case isTrue heq =>
          subst heq
          exact List.pairwise_cons.mpr ⟨hhead, hrest⟩
        case isFalse hne =>
          have hle : k ≤ key := String.not_lt.mp hnot
          refine List.pairwise_cons.mpr ⟨?_, ih hrest⟩
          intro entry hentry
          rcases mem_of_mem_insert hentry with rfl | hentry
          · exact String.not_le.mp fun hge => hne (String.le_antisymm hge hle)
          · exact hhead entry hentry

private theorem mem_of_mem_foldl {entry : String × α} (entries sorted : List (String × α))
    (h : entry ∈ entries.foldl (fun sorted (k, v) => insert k v sorted) sorted) :
    entry ∈ entries ∨ entry ∈ sorted := by
  induction entries generalizing sorted with
  | nil => exact .inr h
  | cons head rest ih =>
      rcases ih _ h with h | h
      · exact .inl (List.mem_cons_of_mem _ h)
      · rcases mem_of_mem_insert h with rfl | h
        · exact .inl List.mem_cons_self
        · exact .inr h

private theorem mem_keys_foldl {key : String} (entries sorted : List (String × α)) :
    key ∈ (entries.foldl (fun sorted (k, v) => insert k v sorted) sorted).map Prod.fst ↔
      key ∈ entries.map Prod.fst ∨ key ∈ sorted.map Prod.fst := by
  induction entries generalizing sorted with
  | nil => simp
  | cons head rest ih =>
      rw [List.foldl_cons, ih, mem_keys_insert, List.map_cons, List.mem_cons, or_left_comm, or_assoc]

private theorem pairwise_foldl (entries sorted : List (String × α)) (h : sorted.Pairwise fun a b => a.1 < b.1) :
    (entries.foldl (fun sorted (k, v) => insert k v sorted) sorted).Pairwise fun a b => a.1 < b.1 := by
  induction entries generalizing sorted with
  | nil => exact h
  | cons head rest ih => exact ih _ (pairwise_insert h)

theorem pairwise_ofList {entries : List (String × α)} : (ofList entries).Pairwise fun a b => a.1 < b.1 :=
  pairwise_foldl entries [] .nil

theorem mem_of_mem_ofList {entries : List (String × α)} {entry : String × α} (h : entry ∈ ofList entries) :
    entry ∈ entries :=
  (mem_of_mem_foldl entries [] h).resolve_right (by simp)

/-- The entries that are kept are those that no later entry has the key of. -/
theorem mem_ofList_iff {entries : List (String × α)} {entry : String × α} : entry ∈ ofList entries ↔
    ∃ before after, entries = before ++ entry :: after ∧ ∀ later ∈ after, later.1 ≠ entry.1 := by
  induction entries using List.reverseRecOn with
  | nil => simp [ofList]
  | append_singleton front last ih =>
      have hinsert : ofList (front ++ [last]) = insert last.1 last.2 (ofList front) := by
        rw [ofList, List.foldl_append]
        rfl
      rw [hinsert, mem_insert_iff pairwise_ofList, ih]
      constructor
      · rintro (rfl | ⟨⟨before, after, rfl, hlater⟩, hne⟩)
        · exact ⟨front, [], rfl, by simp⟩
        · refine ⟨before, after ++ [last], by simp, ?_⟩
          intro later hmem
          rcases List.mem_append.mp hmem with hmem | hmem
          · exact hlater later hmem
          · exact List.mem_singleton.mp hmem ▸ hne.symm
      · rintro ⟨before, after, heq, hlater⟩
        rcases List.eq_nil_or_concat after with rfl | ⟨rest, final, rfl⟩
        · exact .inl (List.singleton_inj.mp (List.append_inj_right' heq rfl)).symm
        · rw [List.concat_eq_append, ← List.cons_append, ← List.append_assoc] at heq
          obtain ⟨rfl, hfinal⟩ := List.append_inj' heq rfl
          cases hfinal
          refine .inr ⟨⟨before, rest, rfl, fun later hmem => hlater later (by simp [hmem])⟩, ?_⟩
          exact (hlater last (by simp)).symm

theorem mem_keys_ofList {entries : List (String × α)} {key : String} :
    key ∈ (ofList entries).map Prod.fst ↔ key ∈ entries.map Prod.fst := by
  simp [ofList, mem_keys_foldl]

theorem nodup_keys_ofList {entries : List (String × α)} : ((ofList entries).map Prod.fst).Nodup :=
  List.pairwise_map.mpr (pairwise_ofList.imp String.ne_of_lt)

/-- Entries with no key twice are put in order. -/
theorem ofList_eq_of_perm {arranged entries : List (String × α)} (hperm : arranged.Perm entries)
    (h : entries.Pairwise fun a b => a.1 < b.1) : ofList arranged = entries := by
  have hkeys : arranged.Pairwise fun a b => a.1 ≠ b.1 :=
    (h.imp String.ne_of_lt).perm hperm.symm Ne.symm
  have hmem (entry : String × α) : entry ∈ ofList arranged ↔ entry ∈ entries := by
    rw [← hperm.mem_iff, mem_ofList_iff]
    constructor
    · rintro ⟨before, after, rfl, -⟩
      simp
    · intro hentry
      obtain ⟨before, after, rfl⟩ := List.append_of_mem hentry
      have hafter := (List.pairwise_cons.mp (List.pairwise_append.mp hkeys).2.1).1
      exact ⟨before, after, rfl, fun later hlater => (hafter later hlater).symm⟩
  have hdistinct {entries : List (String × α)} (h : entries.Pairwise fun a b => a.1 < b.1) : entries.Nodup :=
    h.imp fun hlt heq => String.ne_of_lt hlt (congrArg Prod.fst heq)
  have hordered : (ofList arranged).Perm entries :=
    (List.perm_ext_iff_of_nodup (hdistinct pairwise_ofList) (hdistinct h)).mpr hmem
  exact hordered.eq_of_pairwise (fun a b _ _ hab hba => absurd hba (String.lt_asymm hab)) pairwise_ofList h

@[simp] theorem get?_nil {key : String} : get? ([] : List (String × α)) key = none := rfl

theorem get?_cons {key k : String} {v : α} {rest : List (String × α)} :
    get? ((k, v) :: rest) key = if k = key then some v else get? rest key := by
  by_cases h : k = key <;> simp [get?, h]

theorem mem_of_get? {entries : List (String × α)} {key : String} {value : α}
    (h : get? entries key = some value) : (key, value) ∈ entries := by
  obtain ⟨⟨k, v⟩, hfind, rfl⟩ := Option.map_eq_some_iff.mp h
  have hkey : k = key := by simpa using List.find?_some hfind
  exact hkey ▸ List.mem_of_find?_eq_some hfind

theorem isSome_get? {entries : List (String × α)} {key : String} :
    (get? entries key).isSome ↔ key ∈ entries.map Prod.fst := by
  simp [get?, List.find?_isSome]

theorem get?_eq_none_iff {entries : List (String × α)} {key : String} :
    get? entries key = none ↔ key ∉ entries.map Prod.fst := by
  rw [← isSome_get?, Option.not_isSome_iff_eq_none]

/-- A key that is given one value only has that value, however often it is given. -/
theorem get?_ofList_eq_some {entries : List (String × α)} {key : String} {value : α}
    (hkey : key ∈ entries.map Prod.fst) (h : ∀ entry ∈ entries, entry.1 = key → entry.2 = value) :
    get? (ofList entries) key = some value := by
  obtain ⟨found, hfound⟩ := Option.isSome_iff_exists.mp (isSome_get?.mpr (mem_keys_ofList.mpr hkey))
  rw [hfound, ← h _ (mem_of_mem_ofList (mem_of_get? hfound)) rfl]

/-- Where no key is given twice, putting the entries in order changes nothing of what is found. -/
theorem get?_ofList {entries : List (String × α)} {key : String} (h : (entries.map Prod.fst).Nodup) :
    get? (ofList entries) key = get? entries key := by
  cases hget : get? entries key with
  | none =>
      rw [get?_eq_none_iff, mem_keys_ofList]
      exact get?_eq_none_iff.mp hget
  | some value =>
      have hmem : (key, value) ∈ entries := mem_of_get? hget
      refine get?_ofList_eq_some (List.mem_map_of_mem hmem) ?_
      rintro entry hentry hkey
      exact congrArg Prod.snd (List.inj_on_of_nodup_map h hentry hmem hkey)

theorem mem_names {names : List String} {name : String} : name ∈ Sorted.names names ↔ name ∈ names := by
  rw [Sorted.names, mem_keys_ofList]
  simp

/-- The names in order are decided by which names there are. -/
theorem names_eq_of_mem_iff {names names' : List String} (h : ∀ name, name ∈ names ↔ name ∈ names') :
    Sorted.names names = Sorted.names names' := by
  have hordered (names : List String) : (Sorted.names names).Pairwise (· < ·) :=
    List.pairwise_map.mpr pairwise_ofList
  have hmem (name : String) : name ∈ Sorted.names names ↔ name ∈ Sorted.names names' := by
    rw [mem_names, mem_names, h]
  have hperm : (Sorted.names names).Perm (Sorted.names names') :=
    (List.perm_ext_iff_of_nodup nodup_keys_ofList nodup_keys_ofList).mpr hmem
  exact hperm.eq_of_pairwise (fun a b _ _ hab hba => absurd hba (String.lt_asymm hab)) (hordered names)
    (hordered names')

end BalanceSheet.Sorted
