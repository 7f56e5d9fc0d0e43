import BalanceSheet.Proofs.Text.Spelling
import Mathlib.Data.List.Infix

/-!
What stands in braces anywhere in a text, beside what a reader finds in it from left to right. A part is read
only where nothing is open before it; where between any two opening braces one is closed, what is read is all
that stands in braces without a brace of its own. And replacing a name in braces removes that name and keeps
all others, except where the name stood inside of another pair of braces, which may then hold something new.
-/

namespace BalanceSheet.Text

/-- The inside stands in the text between an opening and a closing brace. -/
def Encloses (cs inside : List Char) : Prop := '{' :: (inside ++ ['}']) <:+: cs

instance (cs inside : List Char) : Decidable (Encloses cs inside) := inferInstanceAs (Decidable (_ <:+: _))

/-- Behind every opening brace stands a closing one. -/
def Closed (cs : List Char) : Prop := ∀ gap, '{' :: gap <:+ cs → '}' ∈ gap

/-- A reader opens the part: no brace is open before it, and it goes on to the next closing brace. -/
def OpensPart (cs inside : List Char) : Prop :=
  ∃ before after, cs = before ++ '{' :: (inside ++ '}' :: after) ∧ '}' ∉ inside ∧ Closed before

/-- Between any two opening braces stands a closing one. -/
def Unnested (cs : List Char) : Prop := ∀ gap, '{' :: (gap ++ ['{']) <:+: cs → '}' ∈ gap

/-- Before the first opening brace stands a closing one. -/
def ClosesFirst (cs : List Char) : Prop := ∀ gap, gap ++ ['{'] <+: cs → '}' ∈ gap

variable {cs front inside rest : List Char} {c : Char}

theorem closesFirst_cons_iff : ClosesFirst (c :: cs) ↔ c = '}' ∨ c ≠ '{' ∧ ClosesFirst cs := by
  constructor
  · intro h
    by_cases hclosing : c = '}'
    · exact .inl hclosing
    · refine .inr ⟨?_, fun gap hgap => ?_⟩
      · rintro rfl
        exact absurd (h [] (List.cons_prefix_cons.mpr ⟨rfl, List.nil_prefix⟩)) List.not_mem_nil
      · have hmem := h (c :: gap) (List.cons_prefix_cons.mpr ⟨rfl, hgap⟩)
        exact (List.mem_cons.mp hmem).resolve_left (Ne.symm hclosing)
  · rintro hcs gap hgap
    cases gap with
    | nil =>
        obtain ⟨rfl, -⟩ := List.cons_prefix_cons.mp hgap
        rcases hcs with hclosing | ⟨hopening, -⟩
        · exact absurd hclosing (by decide)
        · exact absurd rfl hopening
    | cons d gap =>
        obtain ⟨rfl, hrest⟩ := List.cons_prefix_cons.mp hgap
        rcases hcs with rfl | ⟨-, hcs⟩
        · exact List.mem_cons_self
        · exact List.mem_cons_of_mem _ (hcs gap hrest)

theorem unnested_cons_iff : Unnested (c :: cs) ↔ (c = '{' → ClosesFirst cs) ∧ Unnested cs := by
  simp only [Unnested, ClosesFirst, List.infix_cons_iff, List.cons_prefix_cons, or_imp, forall_and, and_imp,
    eq_comm (a := '{')]
  exact and_congr_left fun _ => forall_comm

instance decidableClosesFirst : (cs : List Char) → Decidable (ClosesFirst cs)
  | [] => isTrue fun gap h => by simp at h
  | _ :: cs =>
    have := decidableClosesFirst cs
    decidable_of_iff _ closesFirst_cons_iff.symm

instance decidableUnnested : (cs : List Char) → Decidable (Unnested cs)
  | [] => isTrue fun gap h => by simp at h
  | _ :: cs =>
    have := decidableUnnested cs
    decidable_of_iff _ unnested_cons_iff.symm

/-! ### Texts by their parts -/

/-- A text has no opening brace, or one that is not closed, or a part with the rest of the text behind it. -/
@[elab_as_elim]
theorem parts_induction {motive : List Char → Prop} (plain : ∀ cs, '{' ∉ cs → motive cs)
    (unclosed : ∀ front tail, '{' ∉ front → '}' ∉ tail → motive (front ++ '{' :: tail))
    (part : ∀ front inside rest, '{' ∉ front → '}' ∉ inside → motive rest →
      motive (front ++ '{' :: (inside ++ '}' :: rest)))
    (cs : List Char) : motive cs := by
  induction hlength : cs.length using Nat.strongRecOn generalizing cs with
  | _ n ih =>
      by_cases hopening : '{' ∈ cs
      · obtain ⟨front, tail, rfl, hfront⟩ := List.eq_append_cons_of_mem hopening
        by_cases hclosing : '}' ∈ tail
        · obtain ⟨inside, rest, rfl, hinside⟩ := List.eq_append_cons_of_mem hclosing
          have hshorter : rest.length < n := by
            simp only [← hlength, List.length_append, List.length_cons]
            omega
          exact part front inside rest hfront hinside (ih rest.length hshorter rest rfl)
        · exact unclosed front tail hfront hclosing
      · exact plain cs hopening

theorem closed_of_not_mem (h : '{' ∉ cs) : Closed cs :=
  fun _ hgap => absurd (hgap.subset List.mem_cons_self) h

theorem not_closed_of_unclosed {tail : List Char} (htail : '}' ∉ tail) : ¬ Closed (front ++ '{' :: tail) :=
  fun h => htail (h tail (List.suffix_append front _))

/-- Whether a text is closed depends on what follows any of its closing braces. -/
theorem closed_append_iff : Closed (front ++ '}' :: rest) ↔ Closed rest := by
  constructor
  · intro h gap hgap
    exact h gap (hgap.trans ((List.suffix_cons _ _).trans (List.suffix_append _ _)))
  · intro h gap hgap
    -- an opening brace of the rest is closed there, and one of the front by the closing brace between them
    rcases List.suffix_or_suffix_of_suffix hgap (List.suffix_append front ('}' :: rest)) with hwithin | hover
    · rcases List.suffix_cons_iff.mp hwithin with heq | hrest
      · exact absurd (List.cons.inj heq).1 (by decide)
      · exact h gap hrest
    · rcases List.suffix_cons_iff.mp hover with heq | hgap
      · exact absurd (List.cons.inj heq).1 (by decide)
      · exact hgap.subset List.mem_cons_self

/-! ### Reading -/

theorem bracedFrom_unclosed (hinside : '}' ∉ inside) (seen : List Char) : bracedFrom (some seen) inside = [] := by
  induction inside generalizing seen with
  | nil => rfl
  | cons c inside ih =>
      rw [List.mem_cons, not_or] at hinside
      rw [bracedFrom, if_neg (Ne.symm hinside.1), ih hinside.2]

theorem braced_of_not_mem (h : '{' ∉ cs) : braced cs = [] := Spells.braced_eq (.plain h)

theorem braced_unclosed {tail : List Char} (hfront : '{' ∉ front) (htail : '}' ∉ tail) :
    braced (front ++ '{' :: tail) = [] := by
  rw [braced, Spells.bracedFrom_plain hfront, bracedFrom, if_pos rfl, bracedFrom_unclosed htail]

theorem braced_part (hfront : '{' ∉ front) (hinside : '}' ∉ inside) (rest : List Char) :
    braced (front ++ '{' :: (inside ++ '}' :: rest)) = inside :: braced rest := by
  rw [braced, Spells.bracedFrom_plain hfront, bracedFrom, if_pos rfl, Spells.bracedFrom_inside hinside]
  rfl

theorem opensPart_of_mem_braced (h : inside ∈ braced cs) : OpensPart cs inside := by
  induction cs using parts_induction with
  | plain cs hplain =>
      rw [braced_of_not_mem hplain] at h
      cases h
  | unclosed front tail hfront htail =>
      rw [braced_unclosed hfront htail] at h
      cases h
  | part front first rest hfront hfirst ih =>
      rw [braced_part hfront hfirst] at h
      rcases List.mem_cons.mp h with rfl | hrest
      · exact ⟨front, rest, rfl, hfirst, closed_of_not_mem hfront⟩
      · obtain ⟨before, after, rfl, hinside, hclosed⟩ := ih hrest
        refine ⟨front ++ '{' :: (first ++ '}' :: before), after, by simp, hinside, ?_⟩
        rwa [← List.cons_append, ← List.append_assoc, closed_append_iff]

theorem mem_braced_of_closed {before after : List Char} (hinside : '}' ∉ inside) (h : Closed before) :
    inside ∈ braced (before ++ '{' :: (inside ++ '}' :: after)) := by
  induction before using parts_induction with
  | plain before hplain =>
      rw [braced_part hplain hinside]
      exact List.mem_cons_self
  | unclosed front tail _ htail => exact absurd h (not_closed_of_unclosed htail)
  | part front first rest hfront hfirst ih =>
      have hrest : Closed rest := by rwa [← List.cons_append, ← List.append_assoc, closed_append_iff] at h
      simp only [List.append_assoc, List.cons_append]
      rw [braced_part hfront hfirst]
      exact List.mem_cons_of_mem _ (ih hrest)

/-- The parts that a reader finds are those that it opens. -/
theorem mem_braced_iff : inside ∈ braced cs ↔ OpensPart cs inside := by
  constructor
  · exact opensPart_of_mem_braced
  · rintro ⟨before, after, rfl, hinside, hclosed⟩
    exact mem_braced_of_closed hinside hclosed

theorem OpensPart.encloses (h : OpensPart cs inside) : Encloses cs inside := by
  obtain ⟨before, after, rfl, -, -⟩ := h
  exact ⟨before, after, by simp⟩

theorem Unnested.mono (h : Unnested cs) (hrest : rest <:+: cs) : Unnested rest :=
  fun gap hgap => h gap (hgap.trans hrest)

/-- In an unnested text, no brace stands behind an opening one before the closing one. -/
theorem Unnested.unbraced (h : Unnested (front ++ '{' :: (inside ++ rest))) (hinside : '}' ∉ inside) :
    Unbraced inside := by
  refine ⟨fun hmem => ?_, hinside⟩
  obtain ⟨gap, after, rfl, -⟩ := List.eq_append_cons_of_mem hmem
  exact hinside (List.mem_append_left _ (h gap ⟨front, after ++ rest, by simp⟩))

/-- In an unnested text, what is read is what stands in braces and has none. -/
theorem Unnested.opensPart_iff (h : Unnested cs) : OpensPart cs inside ↔ Encloses cs inside ∧ Unbraced inside := by
  constructor
  · intro hopens
    refine ⟨hopens.encloses, ?_⟩
    obtain ⟨before, after, rfl, hinside, -⟩ := hopens
    exact h.unbraced hinside
  · rintro ⟨⟨before, after, rfl⟩, hinside⟩
    refine ⟨before, after, by simp, hinside.2, ?_⟩
    rintro gap ⟨front, rfl⟩
    exact h gap ⟨front, inside ++ '}' :: after, by simp⟩

/-! ### Replacing -/

variable {name part replacement : List Char}

/-- Nothing stands in braces that opens before the first opening brace. -/
theorem encloses_append_iff (hfront : '{' ∉ front) : Encloses (front ++ rest) inside ↔ Encloses rest inside := by
  induction front with
  | nil => rfl
  | cons c front ih =>
      rw [List.mem_cons, not_or] at hfront
      rw [← ih hfront.2, Encloses, List.cons_append, List.infix_cons_iff, List.cons_prefix_cons]
      exact or_iff_right fun h => hfront.1 h.1

/-- What ends with a closing brace in the replaced text stood there before, or has a replacement in it. -/
theorem prefix_of_replaceFrom (hreplacement : '}' ∉ replacement)
    (h : inside ++ ['}'] <+: replaceFrom part replacement 0 cs) :
    inside ++ ['}'] <+: cs ∨ ∃ start, start ++ part <+: cs ∧ start ++ replacement <+: inside := by
  induction cs generalizing inside with
  | nil => exact .inl h
  | cons c cs ih =>
      rw [replaceFrom] at h
      split at h
      case isTrue hpart =>
          -- the replacement has no closing brace, so the inside ends behind it
          refine .inr ⟨[], List.isPrefixOf_iff_prefix.mp hpart, ?_⟩
          rcases List.prefix_or_prefix_of_prefix h (List.prefix_append _ _) with hwithin | hover
          · exact absurd (hwithin.subset (by simp)) hreplacement
          · rcases List.prefix_concat_iff.mp hover with rfl | hinside
            · exact absurd (by simp) hreplacement
            · exact hinside
      case isFalse =>
          cases inside with
          | nil =>
              obtain ⟨rfl, -⟩ := List.cons_prefix_cons.mp h
              exact .inl (List.cons_prefix_cons.mpr ⟨rfl, List.nil_prefix⟩)
          | cons d inside =>
              obtain ⟨rfl, htail⟩ := List.cons_prefix_cons.mp h
              rcases ih htail with hcs | ⟨start, hpart, hstart⟩
              · exact .inl (List.cons_prefix_cons.mpr ⟨rfl, hcs⟩)
              · exact .inr ⟨d :: start, List.cons_prefix_cons.mpr ⟨rfl, hpart⟩,
                  List.cons_prefix_cons.mpr ⟨rfl, hstart⟩⟩

/-- What stands in braces in the replaced text stood there before and is not the name, or else the name stood
in braces behind the opening one. -/
theorem Encloses.of_replaceFrom (hreplacement : Unbraced replacement) {skip : Nat}
    (h : Encloses (replaceFrom ('{' :: (name ++ ['}'])) replacement skip cs) inside) :
    Encloses (cs.drop skip) inside ∧ inside ≠ name ∨
      ∃ start, '{' :: (start ++ '{' :: (name ++ ['}'])) <:+: cs.drop skip ∧ start ++ replacement <+: inside := by
  induction cs generalizing skip with
  | nil =>
      have hnil : '{' :: (inside ++ ['}']) = [] := List.eq_nil_of_infix_nil h
      cases hnil
  | cons c cs ih =>
      cases skip with
      | succ skip => exact ih h
      | zero =>
          -- what is found in the rest is found in the text
          have hback {skip : Nat} (h : Encloses (replaceFrom ('{' :: (name ++ ['}'])) replacement skip cs) inside) :
              Encloses (c :: cs) inside ∧ inside ≠ name ∨ ∃ start,
                '{' :: (start ++ '{' :: (name ++ ['}'])) <:+: c :: cs ∧ start ++ replacement <+: inside := by
            have hdrop : cs.drop skip <:+: c :: cs := List.infix_cons (List.drop_suffix skip cs).isInfix
            refine (ih h).imp (And.imp_left fun hcs => hcs.trans hdrop) ?_
            exact Exists.imp fun start => And.imp_left fun hpart => hpart.trans hdrop
          rw [replaceFrom] at h
          split at h
          case isTrue => exact hback ((encloses_append_iff hreplacement.1).mp h)
          case isFalse hpart =>
              rcases List.infix_cons_iff.mp h with hstart | hinfix
              · obtain ⟨rfl, hinside⟩ := List.cons_prefix_cons.mp hstart
                rcases prefix_of_replaceFrom hreplacement.2 hinside with hcs | ⟨start, hname, hstart⟩
                · have hstarts : '{' :: (inside ++ ['}']) <+: '{' :: cs := List.cons_prefix_cons.mpr ⟨rfl, hcs⟩
                  refine .inl ⟨hstarts.isInfix, ?_⟩
                  rintro rfl
                  exact hpart (List.isPrefixOf_iff_prefix.mpr hstarts)
                · exact .inr ⟨start, (List.cons_prefix_cons.mpr ⟨rfl, hname⟩).isInfix, hstart⟩
              · exact hback hinfix

/-- What stands in braces and is not the name stays there when the name is replaced. -/
theorem Encloses.replaceFrom (hname : Unbraced name) (hinside : Unbraced inside) (hne : inside ≠ name)
    {skip : Nat} (h : Encloses (cs.drop skip) inside) :
    Encloses (replaceFrom ('{' :: (name ++ ['}'])) replacement skip cs) inside := by
  induction cs generalizing skip with
  | nil =>
      rw [List.drop_nil] at h
      exact h
  | cons c cs ih =>
      cases skip with
      | succ skip => exact ih h
      | zero =>
          rw [Text.replaceFrom]
          split
          case isTrue hpart =>
              obtain ⟨rest, hrest⟩ := List.isPrefixOf_iff_prefix.mp hpart
              obtain ⟨rfl, hcs⟩ := List.cons.inj hrest
              rw [List.append_eq] at hcs
              have hclose : '{' ∉ name ++ ['}'] := by simp [hname.1]
              have hdrop : cs.drop (('{' :: (name ++ ['}'])).length - 1) = rest := by simp [← hcs]
              refine List.infix_append_of_infix_right ?_
              refine ih ?_
              rw [hdrop, ← encloses_append_iff hclose, hcs]
              -- the part that is replaced here is the name's, so the inside stands behind it
              rcases List.infix_cons_iff.mp h with hstart | hinfix
              · rw [List.cons_prefix_cons, ← hcs, List.append_assoc] at hstart
                exact absurd (Spells.eq_of_prefix_part hinside hname hstart.2) hne
              · exact hinfix
          case isFalse =>
              rcases List.infix_cons_iff.mp h with hstart | hinfix
              · obtain ⟨rfl, rest, rfl⟩ := List.cons_prefix_cons.mp hstart
                have hclose : '{' ∉ inside ++ ['}'] := by simp [hinside.1]
                rw [Spells.replaceFrom_plain hclose]
                exact ⟨[], _, rfl⟩
              · have hrest : Encloses (cs.drop 0) inside := hinfix
                exact (ih hrest).trans (List.infix_cons (List.infix_refl _))

end BalanceSheet.Text
