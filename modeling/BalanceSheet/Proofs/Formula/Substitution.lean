import BalanceSheet.Formula
import BalanceSheet.Proofs.Text.Shows

/-!
Formulas after substitution. In a formula whose braces all belong to the dependencies, each opening brace
opens one of them; every replacement removes one dependency from those left, and its reference has no
brace, so that in the end none is open.
-/

namespace BalanceSheet.CalculatedMetric

open Text

/-- Every brace of the formula stands inside the placeholder of a declared dependency. -/
def BracesDeclared (m : CalculatedMetric) : Prop :=
  ∀ i < m.formula.toList.length, m.formula.toList[i]? = some '{' ∨ m.formula.toList[i]? = some '}' →
    ∃ name ∈ m.dependencies, ∃ start ≤ i, i < start + (placeholder name).toList.length ∧
      (placeholder name).toList <+: m.formula.toList.drop start

instance (m : CalculatedMetric) : Decidable m.BracesDeclared := by
  unfold BracesDeclared
  infer_instance

theorem toList_placeholder (name : String) : (placeholder name).toList = '{' :: (name.toList ++ ['}']) := by
  simp [placeholder, String.toList_append]

theorem toList_replace (name replacement text : String) : (replace (placeholder name) replacement text).toList =
    replaceFrom ('{' :: (name.toList ++ ['}'])) replacement.toList 0 text.toList := by
  rw [replace, String.toList_ofList, toList_placeholder]

/-- Only the first character of a placeholder is an opening brace. -/
theorem eq_zero_of_placeholder {name : String} (hname : Unbraced name.toList) {k : Nat}
    (h : (placeholder name).toList[k]? = some '{') : k = 0 := by
  rw [toList_placeholder] at h
  cases k with
  | zero => rfl
  | succ k =>
      rw [List.getElem?_cons_succ] at h
      have hmem := List.mem_of_getElem? h
      rw [List.mem_append] at hmem
      rcases hmem with hmem | hmem
      · exact absurd hmem hname.1
      · exact absurd hmem (by decide)

/-- The formula is spelled in its dependencies. -/
theorem BracesDeclared.shows {m : CalculatedMetric} (h : m.BracesDeclared)
    (hnames : ∀ name ∈ m.dependencies, Unbraced name.toList) :
    ∃ parts, Shows m.formula parts ∧ ∀ part ∈ parts, part ∈ m.dependencies.map String.toList := by
  apply Spells.exists_of_openings
  intro before after hsplit
  have hbrace : m.formula.toList[before.length]? = some '{' := by simp [hsplit]
  have hlength : before.length < m.formula.toList.length := by simp [hsplit]
  obtain ⟨name, hname, start, hstart, hstop, tail, htail⟩ := h before.length hlength (.inl hbrace)
  have hinside : (placeholder name).toList[before.length - start]? = some '{' := by
    have hdrop : (m.formula.toList.drop start)[before.length - start]? = some '{' := by
      rw [List.getElem?_drop, Nat.add_sub_cancel' hstart, hbrace]
    rwa [← htail, List.getElem?_append_left (by omega)] at hdrop
  have hfirst := eq_zero_of_placeholder (hnames name hname) hinside
  have heq : start = before.length := by omega
  rw [heq, hsplit, List.drop_left, toList_placeholder] at htail
  obtain ⟨-, hafter⟩ := List.cons.inj htail
  refine ⟨name.toList, tail, hnames name hname, List.mem_map_of_mem hname, ?_⟩
  simp [← hafter]

/-- Substitution removes the dependencies from the parts. -/
theorem shows_substitute {aliases : Aliases} {names : List String}
    (hnames : ∀ name ∈ names, Unbraced name.toList ∧ Plain (aliases.reference name).text) {text : String}
    {parts : List (List Char)} (h : Shows text parts) :
    Shows (substitute aliases names text) (parts.filter fun part => part ∉ names.map String.toList) := by
  induction names generalizing text parts with
  | nil => simpa [substitute] using h
  | cons name names ih =>
      rw [List.forall_mem_cons] at hnames
      obtain ⟨⟨hname, hreference⟩, hrest⟩ := hnames
      have hstep : Shows (replace (placeholder name) (aliases.reference name).text text)
          (parts.filter fun part => part ≠ name.toList) := by
        rw [Shows, toList_replace]
        exact Spells.replace hname hreference h
      have hall := ih hrest hstep
      rw [List.filter_filter] at hall
      have hfilter : (parts.filter fun part => part ∉ (name :: names).map String.toList) =
          parts.filter fun part => decide (part ∉ names.map String.toList) && decide (part ≠ name.toList) := by
        apply List.filter_congr
        intro part _
        rw [← Bool.decide_and]
        apply decide_eq_decide.mpr
        rw [List.map_cons, List.mem_cons, not_or]
        exact and_comm
      rw [hfilter]
      exact hall

/-- No brace is opened in a formula whose braces are declared, once its dependencies are replaced. -/
theorem plain_resolve {aliases : Aliases} {m : CalculatedMetric} (h : m.BracesDeclared)
    (hnames : ∀ name ∈ m.dependencies, Unbraced name.toList ∧ Plain (aliases.reference name).text) :
    Plain (m.resolve aliases).expr := by
  obtain ⟨parts, hshows, hparts⟩ := h.shows fun name hname => (hnames name hname).1
  have hsubstitute := shows_substitute hnames hshows
  have hnone : (parts.filter fun part => part ∉ m.dependencies.map String.toList) = [] := by
    rw [List.filter_eq_nil_iff]
    intro part hpart
    simpa using hparts part hpart
  rw [hnone, shows_nil_iff] at hsubstitute
  exact hsubstitute

end BalanceSheet.CalculatedMetric
