import BalanceSheet.Proofs.Formula.Substitution
import BalanceSheet.Proofs.Text.Braces

/-!
Placeholders that substitution leaves. Each dependency in turn is replaced in a text that the ones before it have
changed. What its replacement changes in braces is that the dependency is gone, unless it stood in a brace that
an identifier can still close: then another name has come together. Without such nests, the identifiers left in
braces are those of the formula that are no dependencies.
-/

namespace BalanceSheet.CalculatedMetric

open Text

/-- Letters, digits and underscores. -/
def IsWord (cs : List Char) : Prop := ∀ c ∈ cs, Identifier.isPart c = true

instance (cs : List Char) : Decidable (IsWord cs) := inferInstanceAs (Decidable (∀ c ∈ cs, _))

/-- Nothing but letters, digits, underscores and opening braces. -/
def StaysOpen (cs : List Char) : Prop := ∀ c ∈ cs, Identifier.isPart c = true ∨ c = '{'

/-- A placeholder stands in the text: an identifier in braces. -/
def HoldsPlaceholder (text : String) : Prop :=
  ∃ name, isIdentifier name = true ∧ Encloses text.toList name.toList

/-- The formula has a placeholder for something that is no dependency. -/
def HasUndeclared (m : CalculatedMetric) : Prop :=
  ∃ name, isIdentifier name = true ∧ Encloses m.formula.toList name.toList ∧ name ∉ m.dependencies

/-- The placeholder of the name stands behind a brace that is open in a word. -/
def Nested (name text : String) : Prop :=
  ∃ start, StaysOpen start ∧ Encloses text.toList (start ++ '{' :: name.toList)

/-- The name is a word, and what it refers to has no brace. -/
structure Spliceable (aliases : Aliases) (name : String) : Prop where
  isWord : IsWord name.toList
  unbraced : Unbraced (aliases.reference name).text.toList

variable {aliases : Aliases} {names : List String} {text name d : String}

@[simp] theorem isWord_append_iff {cs cs' : List Char} : IsWord (cs ++ cs') ↔ IsWord cs ∧ IsWord cs' :=
  List.forall_mem_append

theorem IsWord.staysOpen {cs : List Char} (h : IsWord cs) : StaysOpen cs := fun c hc => .inl (h c hc)

/-- Where the name is not nested, replacing it puts nothing new in braces that are open in a word. -/
theorem encloses_of_replace (hd : Spliceable aliases d)
    (hapart : IsWord (aliases.reference d).text.toList → ¬ Nested d text) {inside : List Char}
    (hinside : StaysOpen inside)
    (h : Encloses (replace (placeholder d) (aliases.reference d).text text).toList inside) :
    Encloses text.toList inside ∧ inside ≠ d.toList := by
  rw [toList_replace] at h
  refine (h.of_replaceFrom hd.unbraced).resolve_right ?_
  rintro ⟨start, hplaceholder, hstart⟩
  -- otherwise the reference stands within the inside, and as it has no brace it is a word
  have hword : IsWord (aliases.reference d).text.toList := by
    intro c hc
    refine (hinside c (hstart.subset (List.mem_append_right _ hc))).resolve_right ?_
    rintro rfl
    exact hd.unbraced.1 hc
  refine hapart hword ⟨start, fun c hc => hinside c (hstart.subset (List.mem_append_left _ hc)), ?_⟩
  simpa [Encloses] using hplaceholder

/-- Nothing comes to be nested by a replacement either. -/
theorem not_nested_replace (hd : Spliceable aliases d)
    (hapart : IsWord (aliases.reference d).text.toList → ¬ Nested d text) (hname : IsWord name.toList)
    (h : ¬ Nested name text) : ¬ Nested name (replace (placeholder d) (aliases.reference d).text text) := by
  rintro ⟨start, hstart, hencloses⟩
  have hinside : StaysOpen (start ++ '{' :: name.toList) := by
    rw [StaysOpen, List.forall_mem_append, List.forall_mem_cons]
    exact ⟨hstart, .inr rfl, hname.staysOpen⟩
  exact h ⟨start, hstart, (encloses_of_replace hd hapart hinside hencloses).1⟩

/-- What stands in braces and is no dependency is left. -/
theorem encloses_substitute (hnames : ∀ d ∈ names, IsWord d.toList) (hname : IsWord name.toList)
    (hfree : name ∉ names) (h : Encloses text.toList name.toList) :
    Encloses (substitute aliases names text).toList name.toList := by
  induction names generalizing text with
  | nil => exact h
  | cons d names ih =>
      rw [List.forall_mem_cons] at hnames
      rw [List.mem_cons, not_or] at hfree
      have hne : name.toList ≠ d.toList := fun heq => hfree.1 (String.toList_injective heq)
      have hbefore : Encloses (text.toList.drop 0) name.toList := h
      refine ih hnames.2 hfree.2 ?_
      rw [toList_replace]
      exact hbefore.replaceFrom (unbraced_of_isPart hnames.1) (unbraced_of_isPart hname) hne

/-- Where no dependency is nested that is replaced by a word, nothing else is left. -/
theorem encloses_substitute_iff (hnames : ∀ d ∈ names, Spliceable aliases d)
    (hapart : ∀ d ∈ names, IsWord (aliases.reference d).text.toList → ¬ Nested d text)
    (hname : IsWord name.toList) : Encloses (substitute aliases names text).toList name.toList ↔
      Encloses text.toList name.toList ∧ name ∉ names := by
  refine ⟨fun h => ?_, fun h => encloses_substitute (fun d hd => (hnames d hd).isWord) hname h.2 h.1⟩
  induction names generalizing text with
  | nil => exact ⟨h, List.not_mem_nil⟩
  | cons d names ih =>
      rw [List.forall_mem_cons] at hnames hapart
      have hrest : ∀ d' ∈ names, IsWord (aliases.reference d').text.toList →
          ¬ Nested d' (replace (placeholder d) (aliases.reference d).text text) := fun d' hd' hword =>
        not_nested_replace hnames.1 hapart.1 (hnames.2 d' hd').isWord (hapart.2 d' hd' hword)
      obtain ⟨hencloses, hfree⟩ := ih hnames.2 hrest h
      obtain ⟨hbefore, hne⟩ := encloses_of_replace hnames.1 hapart.1 hname.staysOpen hencloses
      refine ⟨hbefore, ?_⟩
      rw [List.mem_cons, not_or]
      exact ⟨fun heq => hne (congrArg _ heq), hfree⟩

theorem not_nested_of_unnested (h : Unnested text.toList) : ¬ Nested name text := by
  rintro ⟨start, hstart, before, after, htext⟩
  have hclosing : '}' ∈ start := h start ⟨before, name.toList ++ '}' :: after, by simp [← htext]⟩
  rcases hstart _ hclosing with hpart | heq
  · exact absurd hpart (by decide)
  · exact absurd heq (by decide)

end BalanceSheet.CalculatedMetric
