import BalanceSheet.Param
import Std.Data.String.ToNat

/-!
How parameters grow. Binding puts one parameter behind the others, and as long as nothing else adds to
them the names are the numbers from zero on. So a run of bindings is known by the list of parameters
that it added.
-/

namespace BalanceSheet

namespace Param

/-- What a statement shows of a parameter: all but its value. -/
def label (p : Param) : String × ValueType := (p.name, p.type)

/-- What a parameter holds: all but its name. -/
def content (p : Param) : ValueType × String := (p.type, p.value)

/-- The placeholder with that label. -/
def labelText (label : String × ValueType) : String := "\x7b" ++ label.1 ++ ":" ++ label.2.storeName ++ "\x7d"

theorem placeholder_eq : placeholder = labelText ∘ label := rfl

end Param

namespace Params

theorem indexName_injective {i j : Nat} (h : indexName i = indexName j) : i = j := by
  have hdigits : toString i = toString j := by
    simpa [indexName, String.toList_append, ← String.toList_inj] using h
  exact Nat.repr_injective hdigits

/-- The names are `p0`, `p1` and so on, in the order of binding. -/
def Numbered (ps : Params) : Prop := ps.toList.map Param.name = (List.range ps.size).map indexName

theorem numbered_empty : empty.Numbered := rfl

/-- The number behind the last one is free. -/
theorem Numbered.get?_size {ps : Params} (h : ps.Numbered) : ps.get? (indexName ps.size) = none := by
  rw [get?, List.find?_eq_none]
  intro p hp
  have hname : p.name ∈ (List.range ps.size).map indexName := h ▸ List.mem_map_of_mem hp
  obtain ⟨i, hi, heq⟩ := List.mem_map.mp hname
  rw [List.mem_range] at hi
  simp only [beq_iff_eq]
  intro hsame
  have := indexName_injective (heq.trans hsame)
  omega

theorem Numbered.freeIndex {ps : Params} (h : ps.Numbered) : ps.freeIndex ps.size ps.size = ps.size := by
  cases hsize : ps.size with
  | zero => rfl
  | succ k =>
      rw [Params.freeIndex, ← hsize, h.get?_size]
      rfl

theorem size_bind (ps : Params) (type : ValueType) (value : String) :
    (ps.bind type value).2.size = ps.size + 1 := by
  simp [Params.bind, add, size]

theorem Numbered.name_bind {ps : Params} (h : ps.Numbered) (type : ValueType) (value : String) :
    (ps.bind type value).1.name = indexName ps.size := by
  simp only [Params.bind, h.freeIndex]

theorem Numbered.bind {ps : Params} (h : ps.Numbered) (type : ValueType) (value : String) :
    (ps.bind type value).2.Numbered := by
  have hlist : (ps.bind type value).2.toList = ps.toList ++ [(ps.bind type value).1] := rfl
  rw [Numbered, size_bind, hlist, List.range_succ, List.map_append, List.map_append, h]
  simp [h.name_bind]

/-- `qs` holds the parameters of `ps` and behind them those of `added`, numbered on. -/
structure Grows (ps qs : Params) (added : List Param) : Prop where
  toList : qs.toList = ps.toList ++ added
  numbered : ps.Numbered → qs.Numbered

namespace Grows

theorem refl (ps : Params) : ps.Grows ps [] := ⟨by simp, id⟩

theorem trans {ps qs rs : Params} {first second : List Param} (h : ps.Grows qs first)
    (h' : qs.Grows rs second) : ps.Grows rs (first ++ second) :=
  ⟨by rw [h'.toList, h.toList, List.append_assoc], fun hps => h'.numbered (h.numbered hps)⟩

theorem bind (ps : Params) (type : ValueType) (value : String) :
    ps.Grows (ps.bind type value).2 [(ps.bind type value).1] :=
  ⟨rfl, fun h => h.bind type value⟩

theorem of_empty {qs : Params} {added : List Param} (h : empty.Grows qs added) :
    qs.toList = added ∧ qs.Numbered :=
  ⟨h.toList, h.numbered numbered_empty⟩

end Grows

/-- Numbered parameters of the same types show the same labels. -/
theorem Numbered.labels {ps qs : Params} (hps : ps.Numbered) (hqs : qs.Numbered)
    (htypes : ps.toList.map Param.type = qs.toList.map Param.type) :
    ps.toList.map Param.label = qs.toList.map Param.label := by
  have hsize : ps.size = qs.size := by simpa [size] using congrArg List.length htypes
  have hnames : ps.toList.map Param.name = qs.toList.map Param.name := by rw [hps, hqs, hsize]
  have hzip (l : List Param) : l.map Param.label = (l.map Param.name).zip (l.map Param.type) := by
    rw [List.zip_map']
    rfl
  rw [hzip, hzip, hnames, htypes]

end Params
end BalanceSheet
