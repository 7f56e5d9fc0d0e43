import BalanceSheet.Proofs.Lists
import BalanceSheet.Proofs.Params.Placeholder
import Mathlib.Data.List.Perm.Subperm

/-!
The names of parameters, however they are bound. Binding goes up from the number of parameters to the first
index whose name is free, and comes to one, since fewer names are taken than it may try; binding under a given
name fails where that is no name or taken. Each call therefore leaves what is bound as it is and at most puts
one parameter behind it, under a name of its own, so that after any calls the names are valid and distinct.
-/

namespace BalanceSheet

/-- A placeholder tells the name of its parameter. -/
theorem Param.name_eq_of_placeholder {p q : Param} (hp : Params.isName p.name.toList = true)
    (hq : Params.isName q.name.toList = true) (h : p.placeholder = q.placeholder) : p.name = q.name := by
  have hinside : p.inside = q.inside := by
    have hlist := congrArg String.toList h
    rw [toList_placeholder, toList_placeholder] at hlist
    exact List.append_cancel_right (List.cons.inj hlist).2
  have hname : Guard.placeholderName? p.inside = Guard.placeholderName? q.inside := congrArg _ hinside
  rw [placeholderName?_inside hp, placeholderName?_inside hq] at hname
  exact Option.some.inj hname

namespace Params

variable {ps qs : Params} {name : String}

theorem isSome_get?_iff : (ps.get? name).isSome = true ↔ name ∈ ps.toList.map Param.name := by
  simp [get?]

theorem get?_eq_none_iff : ps.get? name = none ↔ name ∉ ps.toList.map Param.name := by
  simp [get?]

/-! ### The search for an index -/

/-- Going up from an index without a bound, one after the other, `n` is the first whose name is free. -/
inductive Search (ps : Params) : Nat → Nat → Prop
  | free {k : Nat} (h : ps.get? (indexName k) = none) : Search ps k k
  | taken {k n : Nat} (h : (ps.get? (indexName k)).isSome = true) (rest : Search ps (k + 1) n) : Search ps k n

/-- A bound on the tries is no bound if a name is free within it. -/
theorem search_freeIndex {tries k : Nat} (h : ∃ i ≤ tries, ps.get? (indexName (k + i)) = none) :
    ps.Search k (ps.freeIndex tries k) := by
  obtain ⟨i, hi, hfree⟩ := h
  induction tries generalizing k i with
  | zero =>
      obtain rfl : i = 0 := by omega
      exact .free hfree
  | succ tries ih =>
      rw [freeIndex]
      split
      case isTrue htaken =>
          cases i with
          | zero => rw [Nat.add_zero] at hfree; simp [hfree] at htaken
          | succ i =>
              refine .taken htaken (ih i (by omega) ?_)
              rwa [Nat.add_right_comm, Nat.add_assoc]
      case isFalse hfree => exact .free (by simpa using hfree)

/-- One more index than there are parameters cannot all be taken. -/
theorem exists_free (ps : Params) (k : Nat) : ∃ i ≤ ps.size, ps.get? (indexName (k + i)) = none := by
  by_contra hall
  simp only [not_exists, not_and, get?_eq_none_iff, not_not] at hall
  have hnodup : ((List.range (ps.size + 1)).map fun i => indexName (k + i)).Nodup :=
    List.nodup_range.map fun i j h => Nat.add_left_cancel (indexName_injective h)
  have hsubset : ((List.range (ps.size + 1)).map fun i => indexName (k + i)) ⊆ ps.toList.map Param.name := by
    intro name hname
    obtain ⟨i, hi, rfl⟩ := List.mem_map.mp hname
    exact hall i (by simpa [Nat.lt_succ_iff] using hi)
  have hlength := (List.subperm_of_subset hnodup hsubset).length_le
  simp only [List.length_map, List.length_range, size] at hlength
  omega

theorem search_bind (ps : Params) : ps.Search ps.size (ps.freeIndex ps.size ps.size) :=
  search_freeIndex (ps.exists_free ps.size)

theorem Search.free_last {k n : Nat} (h : ps.Search k n) : ps.get? (indexName n) = none := by
  induction h with
  | free h => exact h
  | taken _ _ ih => exact ih

/-! ### One call -/

/-- A binding, under a name of its own or under a given one. -/
inductive Call where
  | bind (type : ValueType) (value : String)
  | insert (name : String) (type : ValueType) (value : String)

namespace Call

/-- The type and the value to be bound. -/
def content : Call → ValueType × String
  | bind type value => (type, value)
  | insert _ type value => (type, value)

/-- The new parameter and the parameters with it. -/
def perform (ps : Params) : Call → Except Fault (Param × Params)
  | bind type value => .ok (ps.bind type value)
  | insert name type value => ps.insert name type value

/-- The parameters after the call, which are those before it if it fails. -/
def after (ps : Params) (c : Call) : Params :=
  match c.perform ps with
  | .ok (_, qs) => qs
  | .error _ => ps

end Call

/-- Binding under a given name fails exactly if that is no name, or taken. -/
theorem insert_fails_iff {type : ValueType} {value : String} :
    (∃ fault, ps.insert name type value = .error fault) ↔
      isName name.toList = false ∨ name ∈ ps.toList.map Param.name := by
  rw [insert, ← isSome_get?_iff]
  by_cases hname : isName name.toList = true <;> by_cases htaken : (ps.get? name).isSome = true <;>
    simp [hname, htaken]

theorem insert_eq_ok_iff {type : ValueType} {value : String} {p : Param} :
    ps.insert name type value = .ok (p, qs) ↔ isName name.toList = true ∧ name ∉ ps.toList.map Param.name ∧
      ⟨name, type, value⟩ = p ∧ ps.add ⟨name, type, value⟩ = qs := by
  rw [insert, ← isSome_get?_iff]
  by_cases hname : isName name.toList = true <;> by_cases htaken : (ps.get? name).isSome = true <;>
    simp [hname, htaken]

/-- A call that succeeds puts the parameter with its content behind the others, under a valid name that is free. -/
theorem perform_ok {c : Call} {p : Param} (h : c.perform ps = .ok (p, qs)) :
    qs = ps.add p ∧ p.content = c.content ∧ isName p.name.toList = true ∧ p.name ∉ ps.toList.map Param.name := by
  cases c with
  | bind type value =>
      obtain ⟨rfl, rfl⟩ := Prod.mk.inj (Except.ok.inj h)
      exact ⟨rfl, rfl, isName_indexName _, get?_eq_none_iff.mp ps.search_bind.free_last⟩
  | insert name type value =>
      obtain ⟨hname, hfree, rfl, rfl⟩ := insert_eq_ok_iff.mp h
      exact ⟨rfl, rfl, hname, hfree⟩

/-- No call touches what is bound. -/
theorem prefix_after (ps : Params) (c : Call) : ps.toList <+: (c.after ps).toList := by
  unfold Call.after
  split
  case h_1 p qs hperform =>
      obtain ⟨rfl, -⟩ := perform_ok hperform
      exact List.prefix_append _ _
  case h_2 => exact List.prefix_refl _

/-- Valid names, each given once. -/
structure WellNamed (ps : Params) : Prop where
  nodup : (ps.toList.map Param.name).Nodup
  isName : ∀ p ∈ ps.toList, Params.isName p.name.toList = true

theorem wellNamed_empty : empty.WellNamed := ⟨List.nodup_nil, nofun⟩

theorem WellNamed.add (h : ps.WellNamed) {p : Param} (hname : Params.isName p.name.toList = true)
    (hfree : p.name ∉ ps.toList.map Param.name) : (ps.add p).WellNamed := by
  constructor
  · rw [Params.add, List.map_append, List.map_singleton, ← List.concat_eq_append]
    exact h.nodup.concat hfree
  · exact List.forall_mem_append.mpr ⟨h.isName, by simpa using hname⟩

theorem WellNamed.after (h : ps.WellNamed) (c : Call) : (c.after ps).WellNamed := by
  unfold Call.after
  split
  case h_1 p qs hperform =>
      obtain ⟨rfl, -, hname, hfree⟩ := perform_ok hperform
      exact h.add hname hfree
  case h_2 => exact h

/-- In well-named parameters, a placeholder is that of one parameter. -/
theorem WellNamed.eq_of_placeholder (h : ps.WellNamed) {p q : Param} (hp : p ∈ ps.toList) (hq : q ∈ ps.toList)
    (heq : q.placeholder = p.placeholder) : q = p :=
  List.inj_on_of_nodup_map h.nodup hq hp (Param.name_eq_of_placeholder (h.isName q hq) (h.isName p hp) heq)

/-- What a call comes to, and what it leaves bound. -/
structure Serves (ps : Params) (c : Call) : Prop where
  bound : ∀ type value, c = .bind type value →
    ∃ n, ps.Search ps.size n ∧ (c.perform ps).map Prod.fst = .ok ⟨indexName n, type, value⟩
  refused : ∀ name type value, c = .insert name type value →
    ((∃ fault, c.perform ps = .error fault) ↔ isName name.toList = false ∨ name ∈ ps.toList.map Param.name)
  named : ∀ name type value, c = .insert name type value → ∀ p qs, c.perform ps = .ok (p, qs) → p.name = name
  unchanged : ∀ fault, c.perform ps = .error fault → c.after ps = ps
  added : ∀ p qs, c.perform ps = .ok (p, qs) → c.after ps = qs ∧ qs.toList = ps.toList ++ [p] ∧
    p.content = c.content ∧ qs.get? p.name = some p ∧ ∀ q ∈ qs.toList, q.placeholder = p.placeholder → q = p

theorem WellNamed.serves (h : ps.WellNamed) (c : Call) : ps.Serves c := by
  refine ⟨?_, ?_, ?_, ?_, ?_⟩
  · rintro type value rfl
    exact ⟨_, ps.search_bind, rfl⟩
  · rintro name type value rfl
    exact insert_fails_iff
  · rintro name type value rfl p qs hperform
    obtain ⟨-, -, rfl, -⟩ := insert_eq_ok_iff.mp hperform
    rfl
  · intro fault hperform
    rw [Call.after, hperform]
  · intro p qs hperform
    have hafter : c.after ps = qs := by rw [Call.after, hperform]
    have hwell : qs.WellNamed := hafter ▸ h.after c
    obtain ⟨rfl, hcontent, -, -⟩ := perform_ok hperform
    have hmem : p ∈ (ps.add p).toList := List.mem_append_right _ (List.mem_singleton_self p)
    exact ⟨hafter, rfl, hcontent, find?_key_eq_some hwell.nodup hmem, fun q hq => hwell.eq_of_placeholder hmem hq⟩

/-! ### Calls one after another -/

/-- The parameters after these calls, none being bound before. -/
def afterAll (calls : List Call) : Params := calls.foldl Call.after empty

theorem WellNamed.foldl (h : ps.WellNamed) (calls : List Call) : (calls.foldl Call.after ps).WellNamed := by
  induction calls generalizing ps with
  | nil => exact h
  | cons c calls ih => exact ih (h.after c)

theorem prefix_foldl (ps : Params) (calls : List Call) : ps.toList <+: (calls.foldl Call.after ps).toList := by
  induction calls generalizing ps with
  | nil => exact List.prefix_refl _
  | cons c calls ih => exact (ps.prefix_after c).trans (ih (c.after ps))

/-- Bindings alone go on with the numbers. -/
theorem Numbered.foldl (h : ps.Numbered) {calls : List Call}
    (hcalls : ∀ c ∈ calls, ∃ type value, c = .bind type value) :
    (calls.foldl Call.after ps).Numbered ∧ (calls.foldl Call.after ps).size = ps.size + calls.length := by
  induction calls generalizing ps with
  | nil => exact ⟨h, rfl⟩
  | cons c calls ih =>
      rw [List.forall_mem_cons] at hcalls
      obtain ⟨⟨type, value, rfl⟩, hrest⟩ := hcalls
      obtain ⟨hnumbered, hsize⟩ := ih (h.bind type value) hrest
      refine ⟨hnumbered, hsize.trans ?_⟩
      rw [size_bind, List.length_cons]
      omega

/-- After any calls, the names are valid and given once. Any further call comes to a free index, or is refused
for its name; it adds one parameter that its placeholder and its name tell from the others, and what is bound
stays through all calls to come. Bindings alone are numbered from zero. -/
theorem wellNamed_of_calls (calls : List Call) :
    (afterAll calls).WellNamed ∧ (∀ c, (afterAll calls).Serves c) ∧
    (∀ more, (afterAll calls).toList <+: (afterAll (calls ++ more)).toList) ∧
    ((∀ c ∈ calls, ∃ type value, c = .bind type value) →
      (afterAll calls).toList.map Param.name = (List.range calls.length).map indexName) := by
  have hwell : (afterAll calls).WellNamed := wellNamed_empty.foldl calls
  refine ⟨hwell, hwell.serves, ?_, ?_⟩
  · intro more
    rw [afterAll, afterAll, List.foldl_append]
    exact prefix_foldl _ more
  · intro hcalls
    obtain ⟨hnumbered, hsize⟩ := numbered_empty.foldl hcalls
    have hlength : (afterAll calls).size = calls.length := hsize.trans (Nat.zero_add _)
    rw [← hlength]
    exact hnumbered

/-- Where the name of the next number is given to another, bindings pass over it. -/
example :
    (afterAll [.insert "p1" .string "acme", .bind .date "2024-01-01", .insert "p1" .date "", .bind .int64 "7"]
      ).toList.map Param.name = ["p1", "p2", "p3"] := by
  decide +kernel

end Params
end BalanceSheet
