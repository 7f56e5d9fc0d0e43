import BalanceSheet.Proofs.Text.Shows
import BalanceSheet.Proofs.Text.Words

/-!
Texts that the guard has nothing against: no stretch between spaces is the word INTO, and there is no
semicolon. Two such texts side by side could glue the word together, so one of them must have another
character than the letters of INTO where they meet. The fixed words of a statement have such characters on
both sides, and what stands between them can be any name but INTO.
-/

namespace BalanceSheet

namespace Text

/-- Nothing between two spaces or the ends is the word INTO, and nothing is a semicolon. -/
def Quiet (s : String) : Prop := (∀ word ∈ s.toList.splitOn ' ', ¬ IsInto word) ∧ ';' ∉ s.toList

instance (s : String) : Decidable (Quiet s) := inferInstanceAs (Decidable (_ ∧ _))

/-- The text does not begin with a letter of INTO. -/
def StartsApart (s : String) : Prop := ∀ c ∈ s.toList.head?, c ∉ intoLetters

instance (s : String) : Decidable (StartsApart s) := inferInstanceAs (Decidable (∀ c ∈ _, _))

/-- The text does not end with a letter of INTO. -/
def EndsApart (s : String) : Prop := ∀ c ∈ s.toList.getLast?, c ∉ intoLetters

instance (s : String) : Decidable (EndsApart s) := inferInstanceAs (Decidable (∀ c ∈ _, _))

theorem mem_splitOn_space_iff {cs word : List Char} : word ∈ cs.splitOn ' ' ↔
    ∃ before after, cs = before ++ word ++ after ∧ Stretch (· == ' ') before word after :=
  mem_splitOnP_iff

theorem IsInto.not_mem {word : List Char} (h : IsInto word) {c : Char} (hc : c ∉ intoLetters) : c ∉ word :=
  fun hmem => hc (h.mem_letters c hmem)

/-- A stretch of two texts together is one of either, or reaches across the seam. -/
theorem mem_splitOn_append {cs cs' word : List Char} (h : word ∈ (cs ++ cs').splitOn ' ') :
    word ∈ cs.splitOn ' ' ∨ word ∈ cs'.splitOn ' ' ∨
      ∃ c ∈ cs.getLast?, ∃ c' ∈ cs'.head?, c ∈ word ∧ c' ∈ word := by
  simp only [mem_splitOn_space_iff] at h ⊢
  obtain ⟨before, after, heq, hfree, hleft, hright⟩ := h
  rw [List.append_assoc, List.append_eq_append_iff] at heq
  rcases heq with ⟨middle, rfl, hcs'⟩ | ⟨middle, rfl, hrest⟩
  · refine .inr (.inl ⟨middle, after, by simp [hcs'], hfree, ?_, hright⟩)
    intro c hc
    exact hleft c (by simp [List.getLast?_append, Option.mem_def.mp hc])
  · rw [List.append_eq_append_iff] at hrest
    rcases hrest with ⟨rest, rfl, rfl⟩ | ⟨rest, rfl, rfl⟩
    · refine .inl ⟨before, rest, by simp, hfree, hleft, ?_⟩
      intro c hc
      exact hright c (by simp [List.head?_append, Option.mem_def.mp hc])
    · rcases List.eq_nil_or_concat' middle with rfl | ⟨front, c, rfl⟩
      · exact .inr (.inl ⟨[], after, by simp, by simpa using hfree, by simp, hright⟩)
      · cases rest with
        | nil => exact .inl ⟨before, [], by simp, by simpa using hfree, hleft, by simp⟩
        | cons c' rest =>
            refine .inr (.inr ⟨c, ?_, c', by simp, by simp, by simp⟩)
            rw [← List.append_assoc, List.getLast?_concat]
            rfl

theorem Quiet.append {s s' : String} (h : Quiet s) (h' : Quiet s') (hseam : EndsApart s ∨ StartsApart s') :
    Quiet (s ++ s') := by
  rw [Quiet, String.toList_append]
  constructor
  · intro word hword hinto
    rcases mem_splitOn_append hword with hmem | hmem | ⟨c, hc, c', hc', hmem, hmem'⟩
    · exact h.1 word hmem hinto
    · exact h'.1 word hmem hinto
    · rcases hseam with hends | hstarts
      · exact hinto.not_mem (hends c hc) hmem
      · exact hinto.not_mem (hstarts c' hc') hmem'
  · simp [h.2, h'.2]

theorem EndsApart.append {s s' : String} (h : EndsApart s) (h' : EndsApart s') : EndsApart (s ++ s') := by
  intro c hc
  rw [String.toList_append, List.getLast?_append, Option.mem_def, Option.or_eq_some_iff] at hc
  rcases hc with hc | ⟨-, hc⟩
  · exact h' c hc
  · exact h c hc

theorem StartsApart.append {s s' : String} (h : StartsApart s) (h' : StartsApart s') :
    StartsApart (s ++ s') := by
  intro c hc
  rw [String.toList_append, List.head?_append, Option.mem_def, Option.or_eq_some_iff] at hc
  rcases hc with hc | ⟨-, hc⟩
  · exact h c hc
  · exact h' c hc

/-! ### Fixed words around names -/

/-- A text that can stand before any quiet one. -/
def Opens (s : String) : Prop := Quiet s ∧ EndsApart s

instance (s : String) : Decidable (Opens s) := inferInstanceAs (Decidable (_ ∧ _))

/-- A text that can stand behind any quiet one. -/
def Closes (s : String) : Prop := Quiet s ∧ StartsApart s

instance (s : String) : Decidable (Closes s) := inferInstanceAs (Decidable (_ ∧ _))

/-- A text that can stand between any two quiet ones. -/
def Joins (s : String) : Prop := s ≠ "" ∧ Closes s ∧ Opens s

instance (s : String) : Decidable (Joins s) := inferInstanceAs (Decidable (_ ∧ _))

theorem Opens.append {s s' : String} (h : Opens s) (h' : Opens s') : Opens (s ++ s') :=
  ⟨h.1.append h'.1 (.inl h.2), h.2.append h'.2⟩

theorem Closes.append {s s' : String} (h : Closes s) (h' : Closes s') : Closes (s ++ s') :=
  ⟨h.1.append h'.1 (.inr h'.2), h.2.append h'.2⟩

namespace Quiet

theorem behind {front s : String} (h : Quiet s) (hfront : Opens front) : Quiet (front ++ s) :=
  hfront.1.append h (.inl hfront.2)

theorem before {s back : String} (h : Quiet s) (hback : Closes back) : Quiet (s ++ back) :=
  h.append hback.1 (.inr hback.2)

/-- What is followed by a joint can stand before anything quiet. -/
theorem opens {s joint : String} (h : Quiet s) (hjoint : Joins joint) : Opens (s ++ joint) := by
  obtain ⟨hne, hcloses, hopens⟩ := hjoint
  refine ⟨h.before hcloses, ?_⟩
  intro c hc
  obtain ⟨front, last, hjoint⟩ :=
    (List.eq_nil_or_concat' joint.toList).resolve_left (mt String.toList_eq_nil_iff.mp hne)
  apply hopens.2 c
  rw [String.toList_append, hjoint, ← List.append_assoc, List.getLast?_concat] at hc
  rw [hjoint, List.getLast?_concat]
  exact hc

/-- What a joint stands before can follow anything quiet. -/
theorem closes {joint s : String} (hjoint : Joins joint) (h : Quiet s) : Closes (joint ++ s) := by
  obtain ⟨hne, hcloses, hopens⟩ := hjoint
  refine ⟨h.behind hopens, ?_⟩
  intro c hc
  obtain ⟨first, rest, hjoint⟩ := List.exists_cons_of_ne_nil (mt String.toList_eq_nil_iff.mp hne)
  apply hcloses.2 c
  rw [String.toList_append, hjoint] at hc
  rw [hjoint]
  exact hc

theorem joined {s joint s' : String} (h : Quiet s) (hjoint : Joins joint) (h' : Quiet s') :
    Quiet (s ++ joint ++ s') :=
  h'.behind (h.opens hjoint)

theorem intercalate {joint : String} (hjoint : Joins joint) {texts : List String}
    (h : ∀ text ∈ texts, Quiet text) : Quiet (joint.intercalate texts) := by
  induction texts with
  | nil =>
      rw [String.intercalate_nil]
      decide
  | cons text texts ih =>
      rw [List.forall_mem_cons] at h
      cases texts with
      | nil => simpa [String.intercalate_singleton] using h.1
      | cons text' texts =>
          rw [String.intercalate_cons_cons]
          exact h.1.joined hjoint (ih h.2)

end Quiet

/-- In a list only the last text is not followed by a comma, but by what follows the list. -/
theorem quiet_list {texts : List String} {back : String} (hcomma : ∀ text ∈ texts, Quiet (text ++ ","))
    (hlast : ∀ text ∈ texts.getLast?, Quiet (text ++ back)) (hback : Quiet back) :
    Quiet (", ".intercalate texts ++ back) := by
  induction texts with
  | nil => simpa using hback
  | cons text texts ih =>
      rw [List.forall_mem_cons] at hcomma
      cases texts with
      | nil =>
          rw [String.intercalate_singleton]
          exact hlast text rfl
      | cons text' texts =>
          have hcut : text ++ ", " = text ++ "," ++ " " := by
            rw [String.append_assoc]
            rfl
          rw [String.intercalate_cons_cons, hcut, String.append_assoc]
          exact hcomma.1.joined (by decide) (ih hcomma.2 hlast)

/-- Texts that are quiet in a list: each with the comma behind it, and the last one alone. -/
structure Listed (texts : List String) : Prop where
  comma : ∀ text ∈ texts, Quiet (text ++ ",")
  last : ∀ text ∈ texts.getLast?, Quiet text

theorem Listed.of_quiet {texts : List String} (h : ∀ text ∈ texts, Quiet text) : Listed texts :=
  ⟨fun text htext => (h text htext).before (by decide), fun text htext => h text (List.mem_of_getLast? htext)⟩

theorem Listed.append {texts texts' : List String} (h : Listed texts) (h' : Listed texts') :
    Listed (texts ++ texts') := by
  constructor
  · intro text htext
    exact (List.mem_append.mp htext).elim (h.comma text) (h'.comma text)
  · intro text htext
    rw [List.getLast?_append, Option.mem_def, Option.or_eq_some_iff] at htext
    exact htext.elim (h'.last text) fun hnone => h.last text hnone.2

theorem Listed.quiet {texts : List String} (h : Listed texts) : Quiet (", ".intercalate texts) := by
  have hlast : ∀ text ∈ texts.getLast?, Quiet (text ++ "") := by simpa using h.last
  simpa using quiet_list h.comma hlast (by decide)

/-! ### Names -/

theorem IsInto.ne_nil {word : List Char} (h : IsInto word) : word ≠ [] := by
  rintro rfl
  cases h

/-- In one stretch and without a semicolon. -/
def Solid (s : String) : Prop := ' ' ∉ s.toList ∧ ';' ∉ s.toList

instance (s : String) : Decidable (Solid s) := inferInstanceAs (Decidable (_ ∧ _))

theorem Solid.append {s s' : String} (h : Solid s) (h' : Solid s') : Solid (s ++ s') := by
  simp [Solid, String.toList_append, h.1, h.2, h'.1, h'.2]

theorem solid_of_isPart {s : String} (h : ∀ c ∈ s.toList, Identifier.isPart c = true) : Solid s :=
  ⟨fun hmem => absurd (h _ hmem) (by decide), fun hmem => absurd (h _ hmem) (by decide)⟩

theorem splitOn_space_of_not_mem {cs : List Char} (h : ' ' ∉ cs) : cs.splitOn ' ' = [cs] :=
  List.splitOnP_eq_singleton fun _ hc => beq_eq_false_iff_ne.mpr fun heq => h (heq ▸ hc)

theorem Solid.quiet {s : String} (h : Solid s) (hinto : ¬ IsInto s.toList) : Quiet s := by
  refine ⟨?_, h.2⟩
  simpa [splitOn_space_of_not_mem h.1] using hinto

theorem solid_of_isIdentifier {s : String} (h : isIdentifier s = true) : Solid s :=
  solid_of_isPart (isPart_of_isIdentifier h)

theorem quiet_of_isIdentifier {s : String} (h : isIdentifier s = true) (hinto : ¬ IsInto s.toList) : Quiet s :=
  (solid_of_isIdentifier h).quiet hinto

/-- A number is no word. -/
theorem quiet_toString (n : Nat) : Quiet (toString n) := by
  apply (solid_of_isPart fun _ => isPart_of_mem_toString).quiet
  intro hinto
  obtain ⟨c, hc⟩ := List.exists_mem_of_ne_nil _ hinto.ne_nil
  have hletter := hinto.mem_letters c hc
  rw [Nat.toString_eq_repr, Nat.toList_repr] at hc
  have hdigit : c.isDigit = true := isDigit_of_mem_toDigits hc
  have hletters : ∀ c ∈ intoLetters, c.isDigit = false := by decide
  rw [hletters c hletter] at hdigit
  cases hdigit

end Text

namespace Select

open Text

theorem quiet_named {expr name : String} (hexpr : Quiet expr) (hname : Quiet name) : Quiet (named expr name) :=
  hexpr.joined (by decide) hname

theorem closes_clause {word separator : String} (hword : Joins word) (hseparator : Joins separator)
    {items : List String} (h : ∀ item ∈ items, Quiet item) : Closes (clause word separator items) := by
  unfold clause
  split
  · decide
  · exact Quiet.closes hword (.intercalate hseparator h)

theorem opens_withText {ctes : List (String × String)} (h : ∀ cte ∈ ctes, Quiet cte.1 ∧ Quiet cte.2) :
    Opens (withText ctes) := by
  unfold withText
  split
  · decide
  · have hbodies : ∀ text ∈ ctes.map fun cte => cte.1 ++ " AS (" ++ cte.2 ++ ")", Quiet text := by
      intro text htext
      obtain ⟨⟨name, body⟩, hcte, rfl⟩ := List.mem_map.mp htext
      obtain ⟨hname, hbody⟩ := h _ hcte
      exact (hname.joined (by decide) hbody).before (by decide)
    exact ((Quiet.intercalate (by decide) hbodies).behind (by decide)).opens (by decide)

theorem closes_source (source : Option String) :
    (∀ name ∈ source, Quiet name) →
      Closes (match source with | some source => " FROM " ++ source | none => "") := by
  intro h
  cases source with
  | none => decide
  | some name => exact Quiet.closes (by decide) (h name rfl)

theorem closes_joins {joins : List String} (h : ∀ join ∈ joins, Quiet join) :
    Closes (String.join (joins.map fun join => " " ++ join)) := by
  induction joins with
  | nil => decide
  | cons join joins ih =>
      rw [List.forall_mem_cons] at h
      have hcons : String.join ((join :: joins).map fun join => " " ++ join) =
          (" " ++ join) ++ String.join (joins.map fun join => " " ++ join) := by
        apply String.toList_inj.mp
        simp [String.toList_join]
      rw [hcons]
      exact (Quiet.closes (by decide) h.1).append (ih h.2)

theorem closes_limit (limit : Option Nat) :
    Closes (match limit with | some n => " LIMIT " ++ toString n | none => "") := by
  cases limit with
  | none => decide
  | some n => exact Quiet.closes (by decide) (quiet_toString n)

theorem closes_offset (offset : Option Nat) :
    Closes (match offset with | some n => " OFFSET " ++ toString n | none => "") := by
  cases offset with
  | none => decide
  | some n => exact Quiet.closes (by decide) (quiet_toString n)

/-- A statement of quiet parts is quiet. -/
theorem quiet_text {s : Select} (hctes : ∀ cte ∈ s.ctes, Quiet cte.1 ∧ Quiet cte.2)
    (hcolumns : Listed s.columns) (hsource : ∀ source ∈ s.source, Quiet source)
    (hjoins : ∀ join ∈ s.joins, Quiet join) (hconjuncts : ∀ conjunct ∈ s.conjuncts, Quiet conjunct)
    (hgroupBy : ∀ item ∈ s.groupBy, Quiet item) (horderBy : ∀ item ∈ s.orderBy, Quiet item) :
    Quiet s.text := by
  have hselected : Quiet (if s.columns.isEmpty then "*" else ", ".intercalate s.columns) := by
    split
    · decide
    · exact hcolumns.quiet
  have hselect : Opens (withText s.ctes ++ "SELECT ") := (opens_withText hctes).append (by decide)
  have hwhere : Closes (clause " WHERE " " AND " s.conjuncts) :=
    closes_clause (by decide) (by decide) hconjuncts
  have hgroup : Closes (clause " GROUP BY " ", " s.groupBy) := closes_clause (by decide) (by decide) hgroupBy
  have horder : Closes (clause " ORDER BY " ", " s.orderBy) := closes_clause (by decide) (by decide) horderBy
  have hhead := ((hselected.behind hselect).before (closes_source s.source hsource)).before
    (closes_joins hjoins)
  exact ((((hhead.before hwhere).before hgroup).before horder).before (closes_limit s.limit)).before
    (closes_offset s.offset)

/-- A statement of columns alone, with a comma behind it. -/
theorem quiet_text_comma {columns : List String} (h : ∀ column ∈ columns, Quiet (column ++ ",")) :
    Quiet (({ columns } : Select).text ++ ",") := by
  have htext : ({ columns } : Select).text =
      "SELECT " ++ if columns.isEmpty then "*" else ", ".intercalate columns := by
    simp [text, withText, clause, String.join]
  rw [htext, String.append_assoc]
  apply Quiet.behind _ (by decide)
  split
  · decide
  · exact quiet_list h (fun column hcolumn => h column (List.mem_of_getLast? hcolumn)) (by decide)

/-- A statement selects behind its expressions. -/
theorem exists_text_eq (s : Select) : ∃ rest, s.text = withText s.ctes ++ "SELECT " ++ rest :=
  ⟨_, by simp only [text, String.append_assoc]; rfl⟩

/-- A statement begins with its first keyword. -/
theorem prefix_text (s : Select) : "SELECT".toList <+: s.text.toList ∨ "WITH".toList <+: s.text.toList := by
  obtain ⟨rest, hrest⟩ := s.exists_text_eq
  rw [hrest, String.toList_append, String.toList_append]
  unfold withText
  split
  · exact .inl ⟨' ' :: rest.toList, by simp⟩
  · rw [String.toList_append, String.toList_append]
    exact .inr ⟨_, by simp only [List.append_assoc]; rfl⟩

end Select
end BalanceSheet
