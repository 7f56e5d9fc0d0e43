import BalanceSheet.Formula
import BalanceSheet.Proofs.Formula.Substitution
import BalanceSheet.Proofs.Lists
import BalanceSheet.Proofs.Text.Quiet

/-!
Formulas as they are read, with the names of the dependencies in place of their placeholders. In a statement
other texts stand for some of the names, but these have a dot or an underscore in them, and so has every
stretch of the formula that they change; so what is resolved has no word that the reading does not have.
-/

namespace BalanceSheet

namespace Text

variable {part replacement replacement' cs front rest : List Char}

theorem mem_replaceFrom {skip : Nat} {c : Char} (h : c ∈ replaceFrom part replacement skip cs) :
    c ∈ cs ∨ c ∈ replacement := by
  induction cs generalizing skip with
  | nil => simp [replaceFrom] at h
  | cons d cs ih =>
      rw [List.mem_cons]
      cases skip with
      | succ skip => exact (ih h).imp_left .inr
      | zero =>
          rw [replaceFrom] at h
          split at h
          · rcases List.mem_append.mp h with hmem | hmem
            · exact .inr hmem
            · exact (ih hmem).imp_left .inr
          · rcases List.mem_cons.mp h with rfl | hmem
            · exact .inl (.inl rfl)
            · exact (ih hmem).imp_left .inr

/-- A part without spaces does not reach across a space. -/
theorem prefix_append_space_iff (hpart : ' ' ∉ part) : part <+: front ++ ' ' :: rest ↔ part <+: front := by
  constructor
  · intro h
    have hspace : front ++ [' '] <+: front ++ ' ' :: rest := ⟨rest, by simp⟩
    rcases Nat.lt_or_ge front.length part.length with hlonger | hshorter
    · have hinside : front ++ [' '] <+: part :=
        List.prefix_of_prefix_length_le hspace h (by simpa using Nat.succ_le_of_lt hlonger)
      exact absurd (hinside.subset (by simp)) hpart
    · exact List.prefix_of_prefix_length_le h (List.prefix_append _ _) hshorter
  · intro h
    exact h.trans (List.prefix_append _ _)

theorem replaceFrom_append_space (hpart : ' ' ∉ part) (hne : part ≠ []) {skip : Nat}
    (hskip : skip ≤ front.length) :
    replaceFrom part replacement skip (front ++ ' ' :: rest) =
      replaceFrom part replacement skip front ++ ' ' :: replaceFrom part replacement 0 rest := by
  induction front generalizing skip with
  | nil =>
      obtain rfl : skip = 0 := by simpa using hskip
      have hother : ¬ part.isPrefixOf (' ' :: rest) = true := by
        rw [List.isPrefixOf_iff_prefix, ← List.nil_append (' ' :: rest), prefix_append_space_iff hpart,
          List.prefix_nil]
        exact hne
      simp [replaceFrom, hother]
  | cons c front ih =>
      cases skip with
      | succ skip => exact ih (by simpa using hskip)
      | zero =>
          have hiff : part.isPrefixOf (c :: (front ++ ' ' :: rest)) = part.isPrefixOf (c :: front) := by
            rw [Bool.eq_iff_iff, List.isPrefixOf_iff_prefix, List.isPrefixOf_iff_prefix, ← List.cons_append,
              prefix_append_space_iff hpart]
          rw [List.cons_append, replaceFrom, replaceFrom, hiff]
          split
          case isTrue hfound =>
              have hlength := (List.isPrefixOf_iff_prefix.mp hfound).length_le
              rw [ih (by simpa using hlength), List.append_assoc]
          case isFalse => rw [ih (Nat.zero_le _), List.cons_append]

/-- A part without spaces is replaced stretch by stretch. -/
theorem splitOn_replaceFrom (hpart : ' ' ∉ part) (hne : part ≠ []) (hreplacement : ' ' ∉ replacement)
    (cs : List Char) :
    (replaceFrom part replacement 0 cs).splitOn ' ' = (cs.splitOn ' ').map (replaceFrom part replacement 0) := by
  induction hlength : cs.length using Nat.strongRecOn generalizing cs with
  | _ n ih =>
      by_cases hspace : ' ' ∈ cs
      · obtain ⟨front, rest, rfl, hfront⟩ := List.eq_append_cons_of_mem hspace
        have hshorter : rest.length < n := by
          simp only [← hlength, List.length_append, List.length_cons]
          omega
        have hsplit (front rest : List Char) :
            (front ++ ' ' :: rest).splitOn ' ' = front.splitOn ' ' ++ rest.splitOn ' ' :=
          List.splitOnP_append_cons front rest (by decide)
        have hreplaced : ' ' ∉ replaceFrom part replacement 0 front := fun hmem =>
          (mem_replaceFrom hmem).elim hfront hreplacement
        rw [replaceFrom_append_space hpart hne (Nat.zero_le _), hsplit, hsplit, ih _ hshorter rest rfl,
          splitOn_space_of_not_mem hreplaced, splitOn_space_of_not_mem hfront]
        rfl
      · have hreplaced : ' ' ∉ replaceFrom part replacement 0 cs := fun hmem =>
          (mem_replaceFrom hmem).elim hspace hreplacement
        rw [splitOn_space_of_not_mem hreplaced, splitOn_space_of_not_mem hspace]
        rfl

variable {P : Char → Prop}

/-- What is replaced takes no mark away, if the replacement has one wherever the part does. -/
theorem exists_mem_replaceFrom (hne : part ≠ []) (hkeep : (∃ c ∈ part, P c) → ∃ c ∈ replacement, P c)
    {skip : Nat} (h : ∃ c ∈ cs.drop skip, P c) : ∃ c ∈ replaceFrom part replacement skip cs, P c := by
  induction cs generalizing skip with
  | nil => simp at h
  | cons d cs ih =>
      cases skip with
      | succ skip => exact ih h
      | zero =>
          obtain ⟨c, hc, hP⟩ := h
          rw [List.drop_zero] at hc
          rw [replaceFrom]
          split
          case isTrue hfound =>
              obtain ⟨tail, htail⟩ := List.isPrefixOf_iff_prefix.mp hfound
              rw [← htail, List.mem_append] at hc
              rcases hc with hc | hc
              · obtain ⟨c', hc', hP'⟩ := hkeep ⟨c, hc, hP⟩
                exact ⟨c', List.mem_append_left _ hc', hP'⟩
              · have hdrop : cs.drop (part.length - 1) = tail := by
                  obtain ⟨first, others, rfl⟩ := List.exists_cons_of_ne_nil hne
                  obtain ⟨-, rfl⟩ := List.cons.inj htail
                  simp
                obtain ⟨c', hc', hP'⟩ := @ih (part.length - 1) ⟨c, hdrop ▸ hc, hP⟩
                exact ⟨c', List.mem_append_right _ hc', hP'⟩
          case isFalse =>
              rcases List.mem_cons.mp hc with rfl | hc
              · exact ⟨c, List.mem_cons_self, hP⟩
              · obtain ⟨c', hc', hP'⟩ := @ih 0 ⟨c, hc, hP⟩
                exact ⟨c', List.mem_cons_of_mem _ hc', hP'⟩

/-- Texts with different replacements are equal, or the replacement has come in. -/
theorem replaceFrom_eq_or_exists (h : ∃ c ∈ replacement', P c) (skip : Nat) (cs : List Char) :
    replaceFrom part replacement' skip cs = replaceFrom part replacement skip cs ∨
      ∃ c ∈ replaceFrom part replacement' skip cs, P c := by
  induction cs generalizing skip with
  | nil => exact .inl rfl
  | cons d cs ih =>
      cases skip with
      | succ skip => exact ih skip
      | zero =>
          rw [replaceFrom, replaceFrom]
          split
          · obtain ⟨c, hc, hP⟩ := h
            exact .inr ⟨c, List.mem_append_left _ hc, hP⟩
          · rcases ih 0 with heq | ⟨c, hc, hP⟩
            · exact .inl (congrArg _ heq)
            · exact .inr ⟨c, List.mem_cons_of_mem _ hc, hP⟩

end Text

namespace CalculatedMetric

open Text

/-- The formula with the names of the dependencies in place of their placeholders. -/
def reading (m : CalculatedMetric) : String := substitute [] m.dependencies m.formula

/-- A stretch with a dot or an underscore in it, which no word INTO has. -/
def Marked (word : List Char) : Prop := ∃ c ∈ word, c = '.' ∨ c = '_'

theorem Marked.not_isInto {word : List Char} (h : Marked word) : ¬ IsInto word := by
  intro hinto
  obtain ⟨c, hc, rfl | rfl⟩ := h
  · exact hinto.not_mem (by decide) hc
  · exact hinto.not_mem (by decide) hc

theorem marked_placeholder_iff {name : String} : Marked (placeholder name).toList ↔ Marked name.toList := by
  simp [Marked, toList_placeholder, or_and_right, exists_or]

/-- A text that can stand for a name: it is the name, or has a mark. -/
structure StandsFor (text name : String) : Prop where
  eq_or_marked : text = name ∨ Marked text.toList
  text : Solid text
  name : Solid name

/-- What a stretch of the reading becomes: the same, or something with a mark. -/
def Becomes (word word' : List Char) : Prop := word' = word ∨ Marked word'

theorem Becomes.replace {text name : String} (h : StandsFor text name) {word word' : List Char}
    (hword : Becomes word word') :
    Becomes (replaceFrom (placeholder name).toList name.toList 0 word)
      (replaceFrom (placeholder name).toList text.toList 0 word') := by
  rcases hword with rfl | hmarked
  · rcases h.eq_or_marked with rfl | hmarked
    · exact .inl rfl
    · exact replaceFrom_eq_or_exists hmarked 0 word'
  · refine .inr (exists_mem_replaceFrom ?_ ?_ hmarked)
    · simp [toList_placeholder]
    · rcases h.eq_or_marked with rfl | hmarked
      · exact marked_placeholder_iff.mp
      · exact fun _ => hmarked

theorem becomes_substitute {aliases : Aliases} {names : List String}
    (h : ∀ name ∈ names, StandsFor (aliases.reference name).text name) {text text' : String}
    (htext : List.Forall₂ Becomes (text.toList.splitOn ' ') (text'.toList.splitOn ' ')) :
    List.Forall₂ Becomes ((substitute [] names text).toList.splitOn ' ')
      ((substitute aliases names text').toList.splitOn ' ') := by
  induction names generalizing text text' with
  | nil => exact htext
  | cons name names ih =>
      rw [List.forall_mem_cons] at h
      apply ih h.2
      have hplaceholder : ' ' ∉ (placeholder name).toList := by simp [toList_placeholder, h.1.name.1]
      have hne : (placeholder name).toList ≠ [] := by simp [toList_placeholder]
      simp only [replace, String.toList_ofList]
      rw [splitOn_replaceFrom hplaceholder hne h.1.text.1, List.forall₂_map_right_iff]
      have hname : ' ' ∉ (Aliases.reference [] name).text.toList := h.1.name.1
      rw [splitOn_replaceFrom hplaceholder hne hname, List.forall₂_map_left_iff]
      exact htext.imp fun _ _ hword => hword.replace h.1

theorem mem_substitute {aliases : Aliases} {names : List String} {text : String} {c : Char}
    (h : c ∈ (substitute aliases names text).toList) :
    c ∈ text.toList ∨ ∃ name ∈ names, c ∈ (aliases.reference name).text.toList := by
  induction names generalizing text with
  | nil => exact .inl h
  | cons name names ih =>
      rcases ih h with hmem | ⟨name', hname', hmem⟩
      · simp only [replace, String.toList_ofList] at hmem
        rcases mem_replaceFrom hmem with hmem | hmem
        · exact .inl hmem
        · exact .inr ⟨name, List.mem_cons_self, hmem⟩
      · exact .inr ⟨name', List.mem_cons_of_mem _ hname', hmem⟩

/-- A formula that reads without the word INTO is resolved without it. -/
theorem quiet_resolve {aliases : Aliases} {m : CalculatedMetric}
    (hnames : ∀ name ∈ m.dependencies, StandsFor (aliases.reference name).text name)
    (hwords : ∀ word ∈ m.reading.toList.splitOn ' ', ¬ IsInto word) (hsemicolon : ';' ∉ m.formula.toList) :
    Quiet (m.resolve aliases).expr := by
  constructor
  · intro word' hword' hinto
    have hsame : List.Forall₂ Becomes (m.formula.toList.splitOn ' ') (m.formula.toList.splitOn ' ') :=
      List.forall₂_same.mpr fun word _ => .inl rfl
    have hsteps := becomes_substitute hnames hsame
    obtain ⟨word, hword, rfl | hmarked⟩ := forall₂_exists_left hsteps hword'
    · exact hwords _ hword hinto
    · exact hmarked.not_isInto hinto
  · intro hmem
    rcases mem_substitute hmem with hmem | ⟨name, hname, hmem⟩
    · exact hsemicolon hmem
    · exact (hnames name hname).text.2 hmem

end CalculatedMetric
end BalanceSheet
