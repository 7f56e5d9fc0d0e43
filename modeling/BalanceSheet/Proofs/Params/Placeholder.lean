import BalanceSheet.Guard
import BalanceSheet.Proofs.Params.Growth
import BalanceSheet.Proofs.Text.Basic
import BalanceSheet.Proofs.Text.Shows
import BalanceSheet.Query.Statement
import Mathlib.Data.List.Nodup

/-!
Placeholders in the text and parameters beside it. The name of a numbered parameter has no brace and no
colon, so that its placeholder is one part of the text, from which a reader takes the name back. A text
that shows the placeholders of all parameters in order therefore passes the guard.
-/

namespace BalanceSheet

open Text

/-- What the placeholder has between its braces. -/
def Param.inside (p : Param) : List Char := p.name.toList ++ ':' :: p.type.storeName.toList

theorem ValueType.unbraced_storeName (type : ValueType) : Unbraced type.storeName.toList := by
  cases type <;> decide

theorem Param.toList_placeholder (p : Param) : p.placeholder.toList = '{' :: (p.inside ++ ['}']) := by
  simp [placeholder, inside, String.toList_append]

theorem Params.isPart_of_isName {name : List Char} (h : isName name = true) :
    ∀ c ∈ name, Identifier.isPart c = true := by
  rw [isName, Bool.and_eq_true] at h
  exact List.all_eq_true.mp h.2

theorem Params.isName_indexName (k : Nat) : isName (indexName k).toList = true := by
  have hlist : (indexName k).toList = 'p' :: (toString k).toList := by simp [indexName, String.toList_append]
  rw [hlist, isName, Bool.and_eq_true]
  refine ⟨rfl, ?_⟩
  rw [List.all_eq_true, List.forall_mem_cons]
  exact ⟨by decide, fun _ => isPart_of_mem_toString⟩

/-- Numbered parameters have names that a placeholder can carry. -/
theorem Params.Numbered.isName {ps : Params} (h : ps.Numbered) :
    ∀ p ∈ ps.toList, Params.isName p.name.toList = true := by
  intro p hp
  have hmem : p.name ∈ (List.range ps.size).map indexName := h ▸ List.mem_map_of_mem hp
  obtain ⟨k, -, hk⟩ := List.mem_map.mp hmem
  rw [← hk]
  exact isName_indexName k

theorem Params.Numbered.nodup {ps : Params} (h : ps.Numbered) : (ps.toList.map Param.name).Nodup := by
  rw [h]
  exact List.Nodup.map (fun _ _ => indexName_injective) List.nodup_range

namespace Param

variable {p : Param}

theorem unbraced_inside (h : Params.isName p.name.toList = true) : Unbraced p.inside := by
  have hname := unbraced_of_isPart (Params.isPart_of_isName h)
  have htype := p.type.unbraced_storeName
  constructor
  · simp [inside, hname.1, htype.1]
  · simp [inside, hname.2, htype.2]

theorem shows_placeholder (h : Params.isName p.name.toList = true) : Shows p.placeholder [p.inside] := by
  rw [Shows, toList_placeholder]
  exact Spells.braces (unbraced_inside h)

theorem cut_inside (h : Params.isName p.name.toList = true) :
    cut ':' p.inside = some (p.name.toList, p.type.storeName.toList) := by
  have hcolon : ':' ∉ p.name.toList := by
    intro hmem
    exact absurd (Params.isPart_of_isName h _ hmem) (by decide)
  exact cut_append hcolon _

/-- A reader takes the name of the parameter from its placeholder. -/
theorem placeholderName?_inside (h : Params.isName p.name.toList = true) :
    Guard.placeholderName? p.inside = some p.name := by
  simp [Guard.placeholderName?, cut_inside h, h]

end Param

/-- The placeholders in the text, from left to right, are those of the parameters in the order of binding,
no other brace is opened, the names count from zero, and the guard finds every placeholder bound. -/
structure Statement.PlaceholdersMatch (s : Statement) : Prop where
  placeholders : (braced s.sql.toList).map (fun inside => '{' :: (inside ++ ['}'])) =
    s.params.toList.map fun p => p.placeholder.toList
  openings : s.sql.toList.count '{' = s.params.size
  names : s.params.toList.map Param.name = (List.range s.params.size).map Params.indexName
  nodup : (s.params.toList.map Param.name).Nodup
  referred : Guard.placeholderNames s.sql = s.params.toList.map Param.name
  admitted : Guard.checkParams s.sql s.params = .ok ()

theorem Statement.placeholdersMatch_of_shows {s : Statement} (hnumbered : s.params.Numbered)
    (hshows : Shows s.sql (s.params.toList.map Param.inside)) : s.PlaceholdersMatch := by
  have hbraced : braced s.sql.toList = s.params.toList.map Param.inside := Spells.braced_eq hshows
  have hreferred : Guard.placeholderNames s.sql = s.params.toList.map Param.name := by
    rw [Guard.placeholderNames, hbraced, List.filterMap_map, ← List.filterMap_eq_map]
    apply List.filterMap_congr
    intro p hp
    exact Param.placeholderName?_inside (hnumbered.isName p hp)
  refine ⟨?_, ?_, hnumbered, hnumbered.nodup, hreferred, ?_⟩
  · rw [hbraced, List.map_map]
    exact List.map_congr_left fun p _ => p.toList_placeholder.symm
  · rw [Spells.count_eq hshows, List.length_map]
    rfl
  · have hbound : ((s.params.toList.map Param.name).find? fun name => (s.params.get? name).isNone) = none := by
      rw [List.find?_eq_none]
      intro name hname
      obtain ⟨p, hp, rfl⟩ := List.mem_map.mp hname
      rw [Bool.not_eq_true, Option.isNone_eq_false_iff, Params.get?, List.find?_isSome]
      exact ⟨p, hp, by simp⟩
    rw [Guard.checkParams, hreferred, hbound]

end BalanceSheet
