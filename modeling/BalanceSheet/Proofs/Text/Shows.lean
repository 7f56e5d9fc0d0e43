import BalanceSheet.Proofs.Text.Basic
import BalanceSheet.Proofs.Text.Spelling
import BalanceSheet.Query.Source
import BalanceSheet.Registry.Parts
import Mathlib.Data.List.Forall2

/-!
The parts that strings show in braces, as they are put together: strings joined by a plain separator show
the parts of each in order, and a statement shows those of its expressions and then those of its own
conditions, if all else in it is plain.
-/

namespace BalanceSheet

namespace Text

/-- Without an opening brace. -/
def Plain (s : String) : Prop := '{' ∉ s.toList

instance (s : String) : Decidable (Plain s) := inferInstanceAs (Decidable (_ ∉ _))

/-- The opening braces of the string open the parts, from left to right. -/
def Shows (s : String) (parts : List (List Char)) : Prop := Spells s.toList parts

@[simp] theorem shows_nil_iff {s : String} : Shows s [] ↔ Plain s := Spells.nil_iff

@[simp] theorem plain_append_iff {s s' : String} : Plain (s ++ s') ↔ Plain s ∧ Plain s' := by
  simp [Plain, String.toList_append]

@[simp] theorem plain_toString_iff {s : String} : Plain (toString s) ↔ Plain s := Iff.rfl

/-- Characters of identifiers are no braces. -/
theorem unbraced_of_isPart {cs : List Char} (h : ∀ c ∈ cs, Identifier.isPart c = true) : Unbraced cs := by
  constructor
  · intro hmem
    exact absurd (h _ hmem) (by decide)
  · intro hmem
    exact absurd (h _ hmem) (by decide)

theorem isPart_of_isStart {c : Char} (h : Identifier.isStart c = true) : Identifier.isPart c = true := by
  simp only [Identifier.isStart, Identifier.isPart, Char.isAlphanum, Bool.or_eq_true] at h ⊢
  exact h.imp_left .inl

theorem isPart_of_mem_toString {n : Nat} {c : Char} (h : c ∈ (toString n).toList) :
    Identifier.isPart c = true := by
  rw [Nat.toString_eq_repr, Nat.toList_repr] at h
  have hdigit : c.isDigit = true := isDigit_of_mem_toDigits h
  simp [Identifier.isPart, Char.isAlphanum, hdigit]

theorem plain_toString (n : Nat) : Plain (toString n) :=
  (unbraced_of_isPart fun _ => isPart_of_mem_toString).1

theorem isPart_of_isIdentifier {s : String} (h : isIdentifier s = true) :
    ∀ c ∈ s.toList, Identifier.isPart c = true := by
  rw [isIdentifier] at h
  cases hs : s.toList with
  | nil => simp
  | cons start rest =>
      rw [hs, Identifier.isValid, Bool.and_eq_true] at h
      rw [List.forall_mem_cons]
      exact ⟨isPart_of_isStart h.1, List.all_eq_true.mp h.2⟩

theorem unbraced_of_isIdentifier {s : String} (h : isIdentifier s = true) : Unbraced s.toList :=
  unbraced_of_isPart (isPart_of_isIdentifier h)

theorem plain_of_isIdentifier {s : String} (h : isIdentifier s = true) : Plain s :=
  (unbraced_of_isIdentifier h).1

namespace Shows

theorem append {s s' : String} {parts parts' : List (List Char)} (h : Shows s parts) (h' : Shows s' parts') :
    Shows (s ++ s') (parts ++ parts') := by
  rw [Shows, String.toList_append]
  exact Spells.append h h'

theorem append_left {s s' : String} {parts : List (List Char)} (h : Plain s) (h' : Shows s' parts) :
    Shows (s ++ s') parts :=
  append (shows_nil_iff.mpr h) h'

theorem append_right {s s' : String} {parts : List (List Char)} (h : Shows s parts) (h' : Plain s') :
    Shows (s ++ s') parts := by
  have happend := append h (shows_nil_iff.mpr h')
  rwa [List.append_nil] at happend

theorem intercalate {separator : String} (hseparator : Plain separator) {texts : List String}
    {parts : List (List (List Char))} (h : List.Forall₂ Shows texts parts) :
    Shows (separator.intercalate texts) parts.flatten := by
  induction h with
  | nil =>
      rw [String.intercalate_nil]
      exact shows_nil_iff.mpr (by decide)
  | @cons text part texts parts htext hrest ih =>
      cases hrest with
      | nil => simpa [String.intercalate_singleton] using htext
      | cons htext' hrest =>
          rw [String.intercalate_cons_cons, List.flatten_cons]
          exact (htext.append_right hseparator).append ih

end Shows

theorem plain_intercalate {separator : String} (hseparator : Plain separator) {texts : List String}
    (h : ∀ text ∈ texts, Plain text) : Plain (separator.intercalate texts) := by
  induction texts with
  | nil =>
      rw [String.intercalate_nil]
      decide
  | cons text texts ih =>
      rw [List.forall_mem_cons] at h
      cases texts with
      | nil => simpa [String.intercalate_singleton] using h.1
      | cons text' texts =>
          rw [String.intercalate_cons_cons, plain_append_iff, plain_append_iff]
          exact ⟨⟨h.1, hseparator⟩, ih h.2⟩

theorem plain_join {texts : List String} (h : ∀ text ∈ texts, Plain text) : Plain (String.join texts) := by
  rw [Plain, String.toList_join, List.mem_flatMap]
  rintro ⟨text, htext, hmem⟩
  exact h text htext hmem

end Text

namespace Select

open Text

theorem plain_clause {word separator : String} (hword : Plain word) (hseparator : Plain separator)
    {items : List String} (h : ∀ item ∈ items, Plain item) : Plain (clause word separator items) := by
  unfold clause
  split
  · decide
  · exact plain_append_iff.mpr ⟨hword, plain_intercalate hseparator h⟩

theorem shows_clause {word separator : String} (hword : Plain word) (hseparator : Plain separator)
    {items : List String} {parts : List (List (List Char))} (h : List.Forall₂ Shows items parts) :
    Shows (clause word separator items) parts.flatten := by
  unfold clause
  cases h with
  | nil =>
      rw [List.isEmpty_nil, if_pos rfl]
      exact shows_nil_iff.mpr (by decide)
  | cons hitem hrest =>
      rw [List.isEmpty_cons, if_neg (by decide)]
      exact .append_left hword (.intercalate hseparator (.cons hitem hrest))

/-- An expression shows what its body shows. -/
theorem shows_bodies {ctes : List (String × String)} {parts : List (List (List Char))}
    (h : List.Forall₂ (fun cte part => Plain cte.1 ∧ Shows cte.2 part) ctes parts) :
    List.Forall₂ Shows (ctes.map fun (name, body) => name ++ " AS (" ++ body ++ ")") parts := by
  rw [List.forall₂_map_left_iff]
  refine h.imp ?_
  rintro ⟨name, body⟩ part ⟨hname, hbody⟩
  have hopen : Plain (name ++ " AS (") := plain_append_iff.mpr ⟨hname, by decide⟩
  exact (hbody.append_left hopen).append_right (by decide)

theorem shows_withText {ctes : List (String × String)} {parts : List (List (List Char))}
    (h : List.Forall₂ (fun cte part => Plain cte.1 ∧ Shows cte.2 part) ctes parts) :
    Shows (withText ctes) parts.flatten := by
  unfold withText
  have hbodies := shows_bodies h
  cases h with
  | nil => exact shows_nil_iff.mpr (by decide)
  | cons =>
      rw [List.isEmpty_cons, if_neg (by decide)]
      exact ((Shows.intercalate (by decide) hbodies).append_left (by decide)).append_right (by decide)

theorem plain_source (source : Option String) :
    (∀ name ∈ source, Plain name) →
      Plain (match source with | some source => " FROM " ++ source | none => "") := by
  intro h
  cases source with
  | none => decide
  | some name => exact plain_append_iff.mpr ⟨by decide, h name rfl⟩

theorem plain_limit (limit : Option Nat) :
    Plain (match limit with | some n => " LIMIT " ++ toString n | none => "") := by
  cases limit with
  | none => decide
  | some n => exact plain_append_iff.mpr ⟨by decide, plain_toString n⟩

theorem plain_offset (offset : Option Nat) :
    Plain (match offset with | some n => " OFFSET " ++ toString n | none => "") := by
  cases offset with
  | none => decide
  | some n => exact plain_append_iff.mpr ⟨by decide, plain_toString n⟩

/-- A statement shows the parts of its expressions and then those of its conditions. -/
theorem shows_text {s : Select} {inCtes inConjuncts : List (List (List Char))}
    (hctes : List.Forall₂ (fun cte part => Plain cte.1 ∧ Shows cte.2 part) s.ctes inCtes)
    (hcolumns : ∀ column ∈ s.columns, Plain column) (hsource : ∀ source ∈ s.source, Plain source)
    (hjoins : ∀ join ∈ s.joins, Plain join) (hconjuncts : List.Forall₂ Shows s.conjuncts inConjuncts)
    (hgroupBy : ∀ item ∈ s.groupBy, Plain item) (horderBy : ∀ item ∈ s.orderBy, Plain item) :
    Shows s.text (inCtes.flatten ++ inConjuncts.flatten) := by
  have hwith : Shows (withText s.ctes) inCtes.flatten := shows_withText hctes
  have hselected : Plain (if s.columns.isEmpty then "*" else ", ".intercalate s.columns) := by
    split
    · decide
    · exact plain_intercalate (by decide) hcolumns
  have hjoined : Plain (String.join (s.joins.map fun join => " " ++ join)) := by
    apply plain_join
    intro text htext
    obtain ⟨join, hjoin, rfl⟩ := List.mem_map.mp htext
    exact plain_append_iff.mpr ⟨by decide, hjoins join hjoin⟩
  have hwhere : Shows (clause " WHERE " " AND " s.conjuncts) inConjuncts.flatten :=
    shows_clause (by decide) (by decide) hconjuncts
  have hgroup : Plain (clause " GROUP BY " ", " s.groupBy) := plain_clause (by decide) (by decide) hgroupBy
  have horder : Plain (clause " ORDER BY " ", " s.orderBy) := plain_clause (by decide) (by decide) horderBy
  unfold text
  have hselect : Plain "SELECT " := by decide
  have hhead := (((hwith.append_right hselect).append_right hselected).append_right
    (plain_source s.source hsource)).append_right hjoined
  exact ((((hhead.append hwhere).append_right hgroup).append_right horder).append_right
    (plain_limit s.limit)).append_right (plain_offset s.offset)

/-- A statement without expressions of its own shows the parts of its conditions. -/
theorem shows_text_of_ctes_nil {s : Select} {parts : List (List (List Char))} (hctes : s.ctes = [])
    (hcolumns : ∀ column ∈ s.columns, Plain column) (hsource : ∀ source ∈ s.source, Plain source)
    (hjoins : ∀ join ∈ s.joins, Plain join) (hconjuncts : List.Forall₂ Shows s.conjuncts parts)
    (hgroupBy : ∀ item ∈ s.groupBy, Plain item) (horderBy : ∀ item ∈ s.orderBy, Plain item) :
    Shows s.text parts.flatten := by
  have hnone : List.Forall₂ (fun cte part => Plain cte.1 ∧ Shows cte.2 part) s.ctes [] := by
    rw [hctes]
    exact .nil
  exact shows_text hnone hcolumns hsource hjoins hconjuncts hgroupBy horderBy

/-- A statement without conditions shows the parts of its expressions. -/
theorem shows_text_of_conjuncts_nil {s : Select} {parts : List (List (List Char))}
    (hctes : List.Forall₂ (fun cte part => Plain cte.1 ∧ Shows cte.2 part) s.ctes parts)
    (hcolumns : ∀ column ∈ s.columns, Plain column) (hsource : ∀ source ∈ s.source, Plain source)
    (hjoins : ∀ join ∈ s.joins, Plain join) (hconjuncts : s.conjuncts = [])
    (hgroupBy : ∀ item ∈ s.groupBy, Plain item) (horderBy : ∀ item ∈ s.orderBy, Plain item) :
    Shows s.text parts.flatten := by
  have hnone : List.Forall₂ Shows s.conjuncts [] := by
    rw [hconjuncts]
    exact .nil
  have hshows := shows_text hctes hcolumns hsource hjoins hnone hgroupBy horderBy
  rwa [List.flatten_nil, List.append_nil] at hshows

end Select
end BalanceSheet
