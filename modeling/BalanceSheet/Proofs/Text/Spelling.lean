import BalanceSheet.Text.Basic
import Mathlib.Data.List.Basic

/-!
Texts in which every opening brace opens a part. Such a text is spelled as stretches without opening
braces and, between them, parts in braces that hold no brace themselves. The parts are those that a
reader finds, texts put together have their parts in that order, and replacing one part by a text without
opening braces removes it and leaves the others.
-/

namespace BalanceSheet.Text

/-- No brace at all. -/
def Unbraced (cs : List Char) : Prop := '{' ∉ cs ∧ '}' ∉ cs

instance (cs : List Char) : Decidable (Unbraced cs) := inferInstanceAs (Decidable (_ ∧ _))

/-- The opening braces of the text open the parts, from left to right. -/
inductive Spells : List Char → List (List Char) → Prop
  | plain {cs : List Char} (h : '{' ∉ cs) : Spells cs []
  | part {front inside rest : List Char} {parts : List (List Char)} (hfront : '{' ∉ front)
      (hinside : Unbraced inside) (hrest : Spells rest parts) :
      Spells (front ++ '{' :: (inside ++ '}' :: rest)) (inside :: parts)

namespace Spells

theorem nil_iff {cs : List Char} : Spells cs [] ↔ '{' ∉ cs := by
  constructor
  · intro h
    cases h with
    | plain h => exact h
  · exact .plain

theorem append_left {front cs : List Char} {parts : List (List Char)} (hfront : '{' ∉ front)
    (h : Spells cs parts) : Spells (front ++ cs) parts := by
  cases h with
  | plain h =>
      apply plain
      simp [hfront, h]
  | @part front' inside rest parts hfront' hinside hrest =>
      rw [← List.append_assoc]
      apply part _ hinside hrest
      simp [hfront, hfront']

theorem append {cs cs' : List Char} {parts parts' : List (List Char)} (h : Spells cs parts)
    (h' : Spells cs' parts') : Spells (cs ++ cs') (parts ++ parts') := by
  induction h with
  | plain h => exact h'.append_left h
  | @part front inside rest parts hfront hinside _ ih =>
      have heq : front ++ '{' :: (inside ++ '}' :: rest) ++ cs' =
          front ++ '{' :: (inside ++ '}' :: (rest ++ cs')) := by simp
      rw [heq]
      exact part hfront hinside ih

theorem braces {inside : List Char} (h : Unbraced inside) : Spells ('{' :: (inside ++ ['}'])) [inside] :=
  @part [] inside [] [] (by simp) h (plain (by simp))

/-- A text is spelled if what stands behind each opening brace is a part with its closing brace. -/
theorem exists_of_openings {P : List Char → Prop} {cs : List Char}
    (h : ∀ before after, cs = before ++ '{' :: after →
      ∃ inside rest, Unbraced inside ∧ P inside ∧ after = inside ++ '}' :: rest) :
    ∃ parts, Spells cs parts ∧ ∀ part ∈ parts, P part := by
  induction hlength : cs.length using Nat.strongRecOn generalizing cs with
  | _ n ih =>
      by_cases hmem : '{' ∈ cs
      · obtain ⟨front, after, hcs, hfront⟩ := List.eq_append_cons_of_mem hmem
        obtain ⟨inside, rest, hinside, hP, rfl⟩ := h front after hcs
        have hshorter : rest.length < n := by
          have := congrArg List.length hcs
          simp only [List.length_append, List.length_cons] at this
          omega
        have hrest : ∀ before after, rest = before ++ '{' :: after →
            ∃ inside rest, Unbraced inside ∧ P inside ∧ after = inside ++ '}' :: rest := by
          intro before after heq
          apply h (front ++ '{' :: (inside ++ '}' :: before))
          simp [hcs, heq]
        obtain ⟨parts, hspells, hparts⟩ := ih rest.length hshorter hrest rfl
        refine ⟨inside :: parts, hcs ▸ part hfront hinside hspells, ?_⟩
        intro p hp
        rcases List.mem_cons.mp hp with rfl | hp
        · exact hP
        · exact hparts p hp
      · exact ⟨[], plain hmem, by simp⟩

/-! ### Reading -/

theorem bracedFrom_plain {front : List Char} (hfront : '{' ∉ front) (rest : List Char) :
    bracedFrom none (front ++ rest) = bracedFrom none rest := by
  induction front with
  | nil => rfl
  | cons c front ih =>
      rw [List.mem_cons, not_or] at hfront
      rw [List.cons_append, bracedFrom, if_neg (Ne.symm hfront.1), ih hfront.2]

theorem bracedFrom_inside {inside : List Char} (hinside : '}' ∉ inside) (seen rest : List Char) :
    bracedFrom (some seen) (inside ++ '}' :: rest) = (seen.reverse ++ inside) :: bracedFrom none rest := by
  induction inside generalizing seen with
  | nil => simp [bracedFrom]
  | cons c inside ih =>
      rw [List.mem_cons, not_or] at hinside
      rw [List.cons_append, bracedFrom, if_neg (Ne.symm hinside.1), ih hinside.2]
      simp

/-- A reader finds the parts. -/
theorem braced_eq {cs : List Char} {parts : List (List Char)} (h : Spells cs parts) : braced cs = parts := by
  unfold braced
  induction h with
  | plain h => simpa [bracedFrom] using bracedFrom_plain h []
  | @part front inside rest parts hfront hinside _ ih =>
      rw [bracedFrom_plain hfront, bracedFrom, if_pos rfl, bracedFrom_inside hinside.2, ih]
      rfl

/-- There are as many opening braces as parts. -/
theorem count_eq {cs : List Char} {parts : List (List Char)} (h : Spells cs parts) :
    cs.count '{' = parts.length := by
  induction h with
  | plain h => exact List.count_eq_zero.mpr h
  | @part front inside rest parts hfront hinside _ ih =>
      have hfront' : front.count '{' = 0 := List.count_eq_zero.mpr hfront
      have hinside' : inside.count '{' = 0 := List.count_eq_zero.mpr hinside.1
      simp only [List.count_append, List.count_cons, hfront', hinside', ih, List.length_cons]
      simp

/-! ### Replacing -/

variable {name replacement : List Char}

/-- Nothing is replaced before the first opening brace. -/
theorem replaceFrom_plain {front : List Char} (hfront : '{' ∉ front) (rest : List Char) :
    replaceFrom ('{' :: (name ++ ['}'])) replacement 0 (front ++ rest) =
      front ++ replaceFrom ('{' :: (name ++ ['}'])) replacement 0 rest := by
  induction front with
  | nil => rfl
  | cons c front ih =>
      rw [List.mem_cons, not_or] at hfront
      have hfree : ('{' :: (name ++ ['}'])).isPrefixOf (c :: (front ++ rest)) = false := by
        simp [List.isPrefixOf, hfront.1]
      rw [List.cons_append, replaceFrom, hfree]
      simp only [Bool.false_eq_true, if_false]
      rw [ih hfront.2, List.cons_append]

theorem replaceFrom_of_not_mem {cs : List Char} (h : '{' ∉ cs) :
    replaceFrom ('{' :: (name ++ ['}'])) replacement 0 cs = cs := by
  have hcopy : replaceFrom ('{' :: (name ++ ['}'])) replacement 0 (cs ++ []) = cs ++ [] := replaceFrom_plain h []
  rwa [List.append_nil] at hcopy

theorem replaceFrom_skip (part : List Char) (skipped rest : List Char) :
    replaceFrom part replacement skipped.length (skipped ++ rest) = replaceFrom part replacement 0 rest := by
  induction skipped with
  | nil => rfl
  | cons c skipped ih => exact ih

/-- A name in braces starts a part only if it is the part. -/
theorem eq_of_prefix_part {inside rest : List Char} (hname : Unbraced name) (hinside : Unbraced inside)
    (h : name ++ ['}'] <+: inside ++ '}' :: rest) : name = inside := by
  induction name generalizing inside with
  | nil =>
      cases inside with
      | nil => rfl
      | cons c inside =>
          obtain ⟨tail, htail⟩ := h
          have hc : '}' = c := (List.cons.inj htail).1
          exact absurd (hc ▸ List.mem_cons_self) hinside.2
  | cons d name ih =>
      obtain ⟨tail, htail⟩ := h
      cases inside with
      | nil =>
          have hd : d = '}' := (List.cons.inj htail).1
          exact absurd (hd ▸ List.mem_cons_self) hname.2
      | cons c inside =>
          obtain ⟨hc, hrest⟩ := List.cons.inj htail
          have hname' : Unbraced name := ⟨fun h => hname.1 (.tail _ h), fun h => hname.2 (.tail _ h)⟩
          have hinside' : Unbraced inside := ⟨fun h => hinside.1 (.tail _ h), fun h => hinside.2 (.tail _ h)⟩
          rw [hc, ih hname' hinside' ⟨tail, hrest⟩]

/-- The part of the name is replaced, and then what is behind it. -/
theorem replaceFrom_part (rest : List Char) :
    replaceFrom ('{' :: (name ++ ['}'])) replacement 0 ('{' :: (name ++ '}' :: rest)) =
      replacement ++ replaceFrom ('{' :: (name ++ ['}'])) replacement 0 rest := by
  have hfound : ('{' :: (name ++ ['}'])).isPrefixOf ('{' :: (name ++ '}' :: rest)) = true := by
    rw [List.isPrefixOf_iff_prefix]
    exact ⟨rest, by simp⟩
  have hskip : ('{' :: (name ++ ['}'])).length - 1 = (name ++ ['}']).length := by simp
  have hsplit : name ++ '}' :: rest = (name ++ ['}']) ++ rest := by simp
  rw [replaceFrom, if_pos hfound, hskip, hsplit, replaceFrom_skip]

/-- The part of another name is kept. -/
theorem replaceFrom_other {inside : List Char} (hname : Unbraced name) (hinside : Unbraced inside)
    (hne : inside ≠ name) (rest : List Char) :
    replaceFrom ('{' :: (name ++ ['}'])) replacement 0 ('{' :: (inside ++ '}' :: rest)) =
      '{' :: (inside ++ '}' :: replaceFrom ('{' :: (name ++ ['}'])) replacement 0 rest) := by
  have hother : ('{' :: (name ++ ['}'])).isPrefixOf ('{' :: (inside ++ '}' :: rest)) ≠ true := by
    rw [ne_eq, List.isPrefixOf_iff_prefix, List.cons_prefix_cons]
    rintro ⟨-, hprefix⟩
    exact hne (eq_of_prefix_part hname hinside hprefix).symm
  have hclose : '{' ∉ inside ++ ['}'] := by simp [hinside.1]
  have hsplit : inside ++ '}' :: rest = (inside ++ ['}']) ++ rest := by simp
  rw [replaceFrom, if_neg hother, hsplit, replaceFrom_plain hclose, List.append_assoc, List.singleton_append]

/-- A brace that is not closed is kept with all that is behind it. -/
theorem replaceFrom_unclosed {tail : List Char} (htail : Unbraced tail) :
    replaceFrom ('{' :: (name ++ ['}'])) replacement 0 ('{' :: tail) = '{' :: tail := by
  have hnone : ('{' :: (name ++ ['}'])).isPrefixOf ('{' :: tail) ≠ true := by
    rw [ne_eq, List.isPrefixOf_iff_prefix, List.cons_prefix_cons]
    rintro ⟨-, hstart⟩
    exact htail.2 (hstart.subset (by simp))
  rw [replaceFrom, if_neg hnone, replaceFrom_of_not_mem htail.1]

/-- Replacing a part removes it wherever it stands and leaves the others. -/
theorem replace {cs : List Char} {parts : List (List Char)} (hname : Unbraced name)
    (hreplacement : '{' ∉ replacement) (h : Spells cs parts) :
    Spells (replaceFrom ('{' :: (name ++ ['}'])) replacement 0 cs) (parts.filter fun part => part ≠ name) := by
  induction h with
  | plain h =>
      rw [replaceFrom_of_not_mem h]
      exact plain h
  | @part front inside rest parts hfront hinside _ ih =>
      rw [replaceFrom_plain hfront]
      by_cases heq : inside = name
      · subst heq
        rw [replaceFrom_part, List.filter_cons_of_neg (by simp), ← List.append_assoc]
        exact ih.append_left (by simp [hfront, hreplacement])
      · rw [replaceFrom_other hname hinside heq, List.filter_cons_of_pos (by simpa using heq)]
        exact part hfront hinside ih

end Spells
end BalanceSheet.Text
